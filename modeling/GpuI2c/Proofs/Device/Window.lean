import GpuI2c.Device.RegisterFile
import GpuI2c.Proofs.Program.Acts

/-!
# The size of the window

On a register file with indirect access, a register other than the index and data registers is
reached at its own byte offset whether it lies inside the window or not. An access outside the
window also stores the byte offset at offset 0, and nothing else tells the two apart.

So two files that are `Alike`, which is to hold the same values but for offset 0 and the same
queues, stay alike under one access with two windows (`load_alike`, `store_alike`), and by induction
on the program under a whole run (`Program.run_alike`).
-/

namespace GpuI2c

/-! ## What else a run shows -/

/-- Whether an event is an access, and not a pause or a log line. -/
def Event.isAccess : Event → Bool
  | .read .. | .write .. => true
  | .pause _ | .log _ => false

/-- The pauses and log lines of a run, in order. -/
def besideAccesses (events : List Event) : List Event :=
  events.filter fun event => !event.isAccess

theorem besideAccesses_append (first second : List Event) :
    besideAccesses (first ++ second) = besideAccesses first ++ besideAccesses second :=
  List.filter_append ..

theorem besideAccesses_load {σ : Type} (device : Device σ) (register : UInt32) (state : σ) :
    besideAccesses (device.load register state).2.2 = [] := by
  unfold Device.load
  split <;> rfl

theorem besideAccesses_store {σ : Type} (device : Device σ) (register value : UInt32) (state : σ) :
    besideAccesses (device.store register value state).2 = [] := by
  unfold Device.store
  split <;> rfl

/-- What a command shows beside accesses depends on the command alone. -/
theorem besideAccesses_command {σ τ : Type} (first : Device σ) (second : Device τ) (x : World σ)
    (y : World τ) (what : Command) :
    besideAccesses (what.run first x).2 = besideAccesses (what.run second y).2 := by
  cases what with
  | write register value =>
    show besideAccesses (first.store register value x.device).2 =
      besideAccesses (second.store register value y.device).2
    rw [besideAccesses_store, besideAccesses_store]
  | pause length | log line | lock | unlock => rfl

namespace RegisterFile

variable {file s t : RegisterFile} {offset : Nat}

/-! ## One access in place -/

/-- An access does in a file what one at the offset that it reaches does. -/
theorem read_eq_of_target {indirect : Bool} {reached : Nat}
    (h : file.target indirect offset = reached) :
    file.read indirect offset = file.read false reached := by
  simp only [read, h]
  rfl

theorem write_eq_of_target {indirect : Bool} {reached : Nat}
    (h : file.target indirect offset = reached) (value : UInt32) :
    file.write indirect offset value = file.write false reached value := by
  simp only [write, h]
  rfl

theorem fst_read (file : RegisterFile) (offset : Nat) :
    (file.read false offset).1 = (file.queue offset).headD (file.value offset) := by
  have htarget : file.target false offset = offset := rfl
  simp only [read, htarget]
  cases file.queue offset <;> rfl

/-- A read takes the first reply off the queue that it reaches. -/
theorem queue_read (file : RegisterFile) (offset other : Nat) :
    (file.read false offset).2.queue other =
      if other = offset then (file.queue offset).tail else file.queue other := by
  have htarget : file.target false offset = offset := rfl
  simp only [read, htarget]
  cases hqueue : file.queue offset with
  | nil =>
    by_cases h : other = offset
    · rw [if_pos h, h]
      exact hqueue
    · rw [if_neg h]
  | cons reply rest =>
    by_cases h : other = offset <;> simp [queue, h]

/-! ## Files that are alike -/

/-- Two register files that differ in the value at offset 0 at most. -/
structure Alike (s t : RegisterFile) : Prop where
  value_eq : ∀ offset, offset ≠ 0 → s.value offset = t.value offset
  queue_eq : ∀ offset, s.queue offset = t.queue offset

namespace Alike

theorem refl (file : RegisterFile) : Alike file file :=
  ⟨fun _ _ => rfl, fun _ => rfl⟩

theorem symm (h : Alike s t) : Alike t s :=
  ⟨fun offset hoffset => (h.value_eq offset hoffset).symm, fun offset => (h.queue_eq offset).symm⟩

theorem trans {u : RegisterFile} (hst : Alike s t) (htu : Alike t u) : Alike s u :=
  ⟨fun offset hoffset => (hst.value_eq offset hoffset).trans (htu.value_eq offset hoffset),
    fun offset => (hst.queue_eq offset).trans (htu.queue_eq offset)⟩

theorem fst_read (h : Alike s t) (hoffset : offset ≠ 0) :
    (s.read false offset).1 = (t.read false offset).1 := by
  rw [RegisterFile.fst_read, RegisterFile.fst_read, h.queue_eq, h.value_eq offset hoffset]

theorem snd_read (h : Alike s t) (offset : Nat) :
    Alike (s.read false offset).2 (t.read false offset).2 := by
  refine ⟨fun other hother => ?_, fun other => ?_⟩
  · rw [value_read, value_read, h.value_eq other hother]
  · rw [queue_read, queue_read, h.queue_eq, h.queue_eq]

theorem write (h : Alike s t) (offset : Nat) (value : UInt32) :
    Alike (s.write false offset value) (t.write false offset value) := by
  refine ⟨fun other hother => ?_, h.queue_eq⟩
  rw [value_write, value_write, h.value_eq other hother]
  rfl

end Alike

/-! ## One access through a window -/

/-- The byte offset of a register. -/
def place (register : UInt32) : Nat :=
  register.toNat * 4

theorem place_ne_zero {register : UInt32} (h : Plain register) : place register ≠ 0 := by
  have := h.1
  unfold place
  omega

/-- Selecting a register changes the index register only. -/
theorem alike_select (window : Nat) (register : UInt32) (file : RegisterFile) :
    Alike file ((device window true).select register file).1 := by
  refine ⟨fun offset hoffset => ?_, fun _ => rfl⟩
  show file.value offset = (file.write true 0 (register * 4)).value offset
  rw [value_write]
  exact (if_neg hoffset).symm

/-- Once a register is selected, the data register stands for it. -/
theorem target_select (window : Nat) {register : UInt32} (h : Plain register)
    (file : RegisterFile) :
    ((device window true).select register file).1.target true (Device.dataRegister.toNat * 4) =
      place register := by
  obtain ⟨-, hhigh⟩ := h
  show ((file.write true 0 (register * 4)).value 0).toNat = register.toNat * 4
  rw [value_write]
  show (register * 4).toNat = register.toNat * 4
  rw [UInt32.toNat_mul]
  show register.toNat * 4 % 2 ^ 32 = register.toNat * 4
  exact Nat.mod_eq_of_lt (by omega)

/-- A register inside the window is reached where it is. -/
theorem target_place {register : UInt32} (h : Plain register) (file : RegisterFile) :
    file.target true (place register) = place register := by
  have hdata : place register ≠ 4 := by
    have := h.1
    unfold place
    omega
  simp [target, hdata]

/-- A read of a register is one at its own offset, in a file that is alike. -/
theorem exists_load (window : Nat) {register : UInt32} (h : Plain register)
    (file : RegisterFile) : ∃ file', Alike file file' ∧
      ((device window true).load register file).1 = (file'.read false (place register)).1 ∧
      ((device window true).load register file).2.1 = (file'.read false (place register)).2 := by
  unfold Device.load Device.offset?
  by_cases hin : register.toNat * 4 < window
  · refine ⟨file, .refl file, ?_⟩
    rw [if_pos (show register.toNat * 4 < (device window true).window from hin)]
    show (file.read true (place register)).1 = _ ∧ (file.read true (place register)).2 = _
    rw [read_eq_of_target (target_place h file)]
    exact ⟨rfl, rfl⟩
  · refine ⟨_, alike_select window register file, ?_⟩
    rw [if_neg (show ¬ register.toNat * 4 < (device window true).window from hin),
      ← read_eq_of_target (target_select window h file)]
    exact ⟨rfl, rfl⟩

/-- So is a write. -/
theorem exists_store (window : Nat) {register : UInt32} (h : Plain register) (value : UInt32)
    (file : RegisterFile) : ∃ file', Alike file file' ∧
      ((device window true).store register value file).1 =
        file'.write false (place register) value := by
  unfold Device.store Device.offset?
  by_cases hin : register.toNat * 4 < window
  · refine ⟨file, .refl file, ?_⟩
    rw [if_pos (show register.toNat * 4 < (device window true).window from hin)]
    exact write_eq_of_target (target_place h file) value
  · refine ⟨_, alike_select window register file, ?_⟩
    rw [if_neg (show ¬ register.toNat * 4 < (device window true).window from hin),
      ← write_eq_of_target (target_select window h file)]
    rfl

/-- Reads of one register through two windows give the same value and leave files alike. -/
theorem load_alike (v w : Nat) {register : UInt32} (h : Plain register) (hst : Alike s t) :
    ((device v true).load register s).1 = ((device w true).load register t).1 ∧
      Alike ((device v true).load register s).2.1 ((device w true).load register t).2.1 := by
  obtain ⟨s', hs, hsvalue, hsfile⟩ := exists_load v h s
  obtain ⟨t', ht, htvalue, htfile⟩ := exists_load w h t
  have halike : Alike s' t' := hs.symm.trans (hst.trans ht)
  rw [hsvalue, hsfile, htvalue, htfile]
  exact ⟨halike.fst_read (place_ne_zero h), halike.snd_read _⟩

/-- Writes of one register through two windows leave files alike. -/
theorem store_alike (v w : Nat) {register : UInt32} (h : Plain register) (value : UInt32)
    (hst : Alike s t) :
    Alike ((device v true).store register value s).1
      ((device w true).store register value t).1 := by
  obtain ⟨s', hs, hsfile⟩ := exists_store v h value s
  obtain ⟨t', ht, htfile⟩ := exists_store w h value t
  rw [hsfile, htfile]
  exact (hs.symm.trans (hst.trans ht)).write _ _

end RegisterFile

/-! ## Runs -/

open RegisterFile (Alike)

/-- Two runs that nothing tells apart but where they access registers: the same value, the same
pauses and log lines, and register files that are alike. -/
structure SameRun {α : Type} (a b : Outcome RegisterFile α) : Prop where
  value_eq : a.value = b.value
  beside_eq : besideAccesses a.events = besideAccesses b.events
  alike : Alike a.world.device b.world.device
  locked_eq : a.world.locked = b.world.locked

/-- A command leaves files alike that were. -/
theorem Command.run_alike (v w : Nat) {what : Command} (h : ∀ act ∈ what.acts, act.IsPlain)
    {x y : World RegisterFile} (hfiles : Alike x.device y.device) (hlocked : x.locked = y.locked) :
    Alike (what.run (RegisterFile.device v true) x).1.device
        (what.run (RegisterFile.device w true) y).1.device ∧
      (what.run (RegisterFile.device v true) x).1.locked =
        (what.run (RegisterFile.device w true) y).1.locked := by
  cases what with
  | write register value =>
    have hplain : Plain register := h (.write register value) List.mem_cons_self
    exact ⟨RegisterFile.store_alike v w hplain value hfiles, hlocked⟩
  | pause length => exact ⟨hfiles, hlocked⟩
  | log line => exact ⟨hfiles, hlocked⟩
  | lock => exact ⟨hfiles, rfl⟩
  | unlock => exact ⟨hfiles, rfl⟩

/-- **The window does not matter.** A program that keeps to plain registers runs the same with two
windows on files that are alike. -/
theorem Program.run_alike {α : Type} (v w : Nat) {p : Program α} (h : p.Keeps Act.IsPlain)
    {x y : World RegisterFile} (hfiles : Alike x.device y.device) (hlocked : x.locked = y.locked) :
    SameRun (p.run (RegisterFile.device v true) x) (p.run (RegisterFile.device w true) y) := by
  induction p generalizing x y with
  | done value => exact ⟨rfl, rfl, hfiles, hlocked⟩
  | read register next ih =>
    have hplain : Plain register := (h 0).1
    obtain ⟨hvalue, halike⟩ := RegisterFile.load_alike v w hplain hfiles
    have hbeside : besideAccesses ((RegisterFile.device v true).load register x.device).2.2 =
        besideAccesses ((RegisterFile.device w true).load register y.device).2.2 :=
      (besideAccesses_load _ _ _).trans (besideAccesses_load _ _ _).symm
    simp only [Program.run]
    generalize (RegisterFile.device v true).load register x.device = first at *
    generalize (RegisterFile.device w true).load register y.device = second at *
    obtain ⟨value, s, seen⟩ := first
    obtain ⟨value', t, seen'⟩ := second
    obtain rfl : value = value' := hvalue
    have hrest := ih value (h value).2 (x := { x with device := s }) (y := { y with device := t })
      halike hlocked
    refine ⟨hrest.value_eq, ?_, hrest.alike, hrest.locked_eq⟩
    rw [besideAccesses_append, besideAccesses_append, hrest.beside_eq]
    exact congrArg (· ++ _) hbeside
  | command what next ih =>
    obtain ⟨halike, hlocked⟩ := Command.run_alike v w h.1 hfiles hlocked
    have hrest := ih h.2 halike hlocked
    refine ⟨hrest.value_eq, ?_, hrest.alike, hrest.locked_eq⟩
    simp only [Program.run]
    rw [besideAccesses_append, besideAccesses_append, hrest.beside_eq]
    exact congrArg (· ++ _) (besideAccesses_command _ _ x y what)

end GpuI2c
