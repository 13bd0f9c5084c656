import Mathlib.Logic.Function.Basic
import GpuI2c.Chip.Fields
import GpuI2c.Proofs.Device.Window
import GpuI2c.Proofs.Register.Batch

/-!
# Devices that remember

What registers hold follows from what they held at first and from the writes since. A device
remembers what it is told (`Device.Remembers`) if its reads give what is held; only the bit that
starts a transaction may read as zero, for the hardware clears it when it likes.

On such a device the acts of a run are consistent with each other (`ReadsBack`), and the run ends in
the contents that its writes leave (`Program.readsBack_run`). A register file without queued replies
is such a device (`RegisterFile.remembers`).
-/

namespace GpuI2c

open Register (Field)

/-- What registers hold, by dword index. -/
abbrev Contents := UInt32 → UInt32

namespace Contents

/-- The contents after an act. -/
def afterAct (held : Contents) : Act → Contents
  | .write register value => Function.update held register value
  | .read .. | .pause _ => held

/-- The contents after some acts. -/
def after (held : Contents) (acts : List Act) : Contents :=
  acts.foldl afterAct held

/-- `P` holds of every act and of the contents that it finds. -/
def Always (P : Contents → Act → Prop) (held : Contents) (acts : List Act) : Prop :=
  ∀ earlier act later, acts = earlier ++ act :: later → P (held.after earlier) act

variable {held : Contents} {P Q : Contents → Act → Prop}

@[simp] theorem after_nil (held : Contents) : held.after [] = held := rfl

@[simp] theorem after_read (held : Contents) (register value : UInt32) (acts : List Act) :
    held.after (.read register value :: acts) = held.after acts := rfl

@[simp] theorem after_write (held : Contents) (register value : UInt32) (acts : List Act) :
    held.after (.write register value :: acts) =
      Contents.after (Function.update held register value) acts := rfl

@[simp] theorem after_append (held : Contents) (first second : List Act) :
    held.after (first ++ second) = (held.after first).after second :=
  List.foldl_append ..

@[simp] theorem always_nil : held.Always P [] := by
  intro earlier act later h
  exact absurd h.symm (List.append_ne_nil_of_right_ne_nil _ (List.cons_ne_nil _ _))

@[simp] theorem always_cons {act : Act} {rest : List Act} :
    held.Always P (act :: rest) ↔ P held act ∧ (held.afterAct act).Always P rest := by
  constructor
  · intro h
    refine ⟨h [] act rest rfl, fun earlier other later hrest => ?_⟩
    exact h (act :: earlier) other later (by rw [hrest, List.cons_append])
  · rintro ⟨hact, hrest⟩ (_ | ⟨first, earlier⟩) other later h
    · obtain ⟨rfl, rfl⟩ := List.cons.inj h
      exact hact
    · obtain ⟨rfl, htail⟩ := List.cons.inj h
      exact hrest earlier other later htail

theorem always_append {first second : List Act} :
    held.Always P (first ++ second) ↔ held.Always P first ∧ (held.after first).Always P second := by
  induction first generalizing held with
  | nil => simp
  | cons act first ih =>
    rw [List.cons_append, always_cons, always_cons, ih, and_assoc]
    rfl

theorem Always.mono (h : ∀ held act, P held act → Q held act) {acts : List Act}
    (hacts : held.Always P acts) : held.Always Q acts :=
  fun earlier act later hsplit => h _ _ (hacts earlier act later hsplit)

/-- A register that no act writes keeps its value. -/
theorem after_of_not_written {register : UInt32} {acts : List Act}
    (h : ∀ write ∈ writesOf acts, write.1 ≠ register) :
    held.after acts register = held register := by
  induction acts generalizing held with
  | nil => rfl
  | cons act acts ih =>
    cases act with
    | read other value => exact ih h
    | pause length => exact ih h
    | write other value =>
      obtain ⟨hother, hrest⟩ := List.forall_mem_cons.mp h
      rw [after_write, ih hrest, Function.update_of_ne (Ne.symm hother)]

end Contents

/-! ## Reading back -/

/-- A value that a register may read as: what it holds, but the bit that starts a transaction in the
control register may read as zero. -/
def MayRead (control : UInt32) (held : Contents) (register value : UInt32) : Prop :=
  value = held register ∨
    register = control ∧ value = (Chip.go.holding 0).insert (held register)

/-- Every other field reads as it is held. -/
theorem MayRead.extract_eq {control register value : UInt32} {held : Contents} {field : Field}
    (hfield : field.Apart Chip.go) (h : MayRead control held register value) :
    field.extract value = field.extract (held register) := by
  obtain rfl | ⟨-, rfl⟩ := h
  · rfl
  · exact Field.extract_insert_of_apart hfield 0 _

/-- A transaction that reads as started has been started. -/
theorem MayRead.go_eq_one {control register value : UInt32} {held : Contents}
    (h : MayRead control held register value) (hgo : Chip.go.extract value = 1) :
    Chip.go.extract (held register) = 1 := by
  obtain rfl | ⟨-, rfl⟩ := h
  · exact hgo
  · rw [Field.extract_insert_self] at hgo
    exact absurd hgo (by decide)

/-- Reads give what the writes before them left. -/
def ReadsBack (control : UInt32) : Contents → List Act → Prop :=
  Contents.Always fun held act =>
    match act with
    | .read register value => MayRead control held register value
    | .write .. | .pause _ => True

/-- A device that remembers what it is told; `Shows state held` says that in `state` its registers
hold `held`. -/
structure Device.Remembers {σ : Type} (device : Device σ) (control : UInt32)
    (Shows : σ → Contents → Prop) : Prop where
  mayRead_load : ∀ {state : σ} {held : Contents} {register : UInt32}, Shows state held →
    Plain register → MayRead control held register (device.load register state).1
  shows_load : ∀ {state : σ} {held : Contents} {register : UInt32}, Shows state held →
    Plain register → Shows (device.load register state).2.1 held
  shows_store : ∀ {state : σ} {held : Contents} {register : UInt32} (value : UInt32),
    Shows state held → Plain register →
    Shows (device.store register value state).1 (Function.update held register value)

namespace Device.Remembers

variable {σ : Type} {device : Device σ} {control : UInt32} {Shows : σ → Contents → Prop}

theorem shows_command (hdevice : device.Remembers control Shows) {what : Command}
    (h : ∀ act ∈ what.acts, act.IsPlain) {world : World σ} {held : Contents}
    (hshows : Shows world.device held) :
    ReadsBack control held what.acts ∧
      Shows (what.run device world).1.device (held.after what.acts) := by
  cases what with
  | write register value =>
    have hplain : Plain register := h (.write register value) List.mem_cons_self
    exact ⟨Contents.always_cons.mpr ⟨trivial, Contents.always_nil⟩,
      hdevice.shows_store value hshows hplain⟩
  | pause length => exact ⟨Contents.always_cons.mpr ⟨trivial, Contents.always_nil⟩, hshows⟩
  | log line | lock | unlock => exact ⟨Contents.always_nil, hshows⟩

/-- **Runs read back what they write**, and leave the contents that their writes leave. -/
theorem readsBack_run {α : Type} (hdevice : device.Remembers control Shows) {p : Program α}
    (h : p.Keeps Act.IsPlain) (world : World σ) {held : Contents} (selected : UInt32)
    (hshows : Shows world.device held) :
    ReadsBack control held (actsFrom selected (p.run device world).events) ∧
      Shows (p.run device world).world.device
        (held.after (actsFrom selected (p.run device world).events)) := by
  induction p generalizing world held selected with
  | done value => exact ⟨Contents.always_nil, hshows⟩
  | read register next ih =>
    have hplain : Plain register := (h 0).1
    obtain ⟨selected', hacts⟩ := actsFrom_load device hplain world.device selected
    obtain ⟨hrest, hend⟩ := ih (device.load register world.device).1 (h _).2
      { world with device := (device.load register world.device).2.1 } selected'
      (hdevice.shows_load hshows hplain)
    simp only [Program.run, hacts]
    exact ⟨Contents.always_cons.mpr ⟨hdevice.mayRead_load hshows hplain, hrest⟩, hend⟩
  | command what next ih =>
    obtain ⟨selected', hacts⟩ := actsFrom_command device h.1 world selected
    obtain ⟨hcommand, hshown⟩ := hdevice.shows_command h.1 hshows
    obtain ⟨hrest, hend⟩ := ih h.2 (what.run device world).1 selected' hshown
    simp only [Program.run, hacts, Contents.after_append]
    exact ⟨Contents.always_append.mpr ⟨hcommand, hrest⟩, hend⟩

end Device.Remembers

/-! ## Register files -/

namespace RegisterFile

/-- A file whose registers hold `held`, with no reply queued at any of them. -/
structure Shows (file : RegisterFile) (held : Contents) : Prop where
  value_eq : ∀ {register : UInt32}, Plain register → file.value (place register) = held register
  queue_eq : ∀ {register : UInt32}, Plain register → file.queue (place register) = []

theorem Shows.of_alike {file file' : RegisterFile} {held : Contents} (h : file.Shows held)
    (halike : Alike file file') : file'.Shows held :=
  ⟨fun hplain => (halike.value_eq _ (place_ne_zero hplain)).symm.trans (h.value_eq hplain),
    fun hplain => (halike.queue_eq _).symm.trans (h.queue_eq hplain)⟩

theorem place_injective {register other : UInt32} (h : place register = place other) :
    register = other :=
  UInt32.toNat_inj.mp (Nat.eq_of_mul_eq_mul_right (by decide) h)

/-- A register file with indirect access remembers, whatever its window. -/
theorem remembers (window : Nat) (control : UInt32) :
    (device window true).Remembers control Shows where
  mayRead_load {file held register} hshows hplain := by
    obtain ⟨file', halike, hvalue, -⟩ := exists_load window hplain file
    obtain ⟨hvalues, hqueues⟩ := hshows.of_alike halike
    rw [hvalue, fst_read, hqueues hplain]
    exact .inl (hvalues hplain)
  shows_load {file held register} hshows hplain := by
    obtain ⟨file', halike, -, hfile⟩ := exists_load window hplain file
    obtain ⟨hvalues, hqueues⟩ := hshows.of_alike halike
    rw [hfile]
    refine ⟨fun hother => ?_, fun hother => ?_⟩
    · rw [value_read, hvalues hother]
    · rw [queue_read, hqueues hplain, hqueues hother]
      split <;> rfl
  shows_store {file held register} value hshows hplain := by
    obtain ⟨file', halike, hfile⟩ := exists_store window hplain value file
    obtain ⟨hvalues, hqueues⟩ := hshows.of_alike halike
    rw [hfile]
    refine ⟨fun {other} hother => ?_, fun hother => hqueues hother⟩
    rw [value_write, Function.update_apply, hvalues hother]
    by_cases hsame : other = register
    · rw [if_pos hsame, hsame]
      exact if_pos rfl
    · rw [if_neg hsame]
      exact if_neg fun hplace => hsame (place_injective hplace)

end RegisterFile

end GpuI2c
