import GpuI2c.Proofs.Device.Window

/-!
# The points of a run

What a register file is after some of the events of a run follows from these events
(`RegisterFile.replay`), and after all of them it is the file that the run ends with (`replay_run`).
So a point of a run is a beginning of its events, and what holds of the file at every point
(`RegisterFile.Throughout`) holds after every single access, also between the two accesses by which
a register outside the window is reached.

A program maintains a property of the file if the property then holds at every point of its runs
(`Program.Maintains`); this is closed under sequencing.
-/

namespace GpuI2c

namespace RegisterFile

variable {indirect : Bool} {window : Nat} {file : RegisterFile} {P : RegisterFile → Prop}

/-! ## Replaying events -/

/-- The file after an event. -/
def afterEvent (indirect : Bool) (file : RegisterFile) : Event → RegisterFile
  | .read offset _ => (file.read indirect offset).2
  | .write offset value => file.write indirect offset value
  | .pause _ | .log _ => file

/-- The file after some events. -/
def replay (indirect : Bool) (file : RegisterFile) (events : List Event) : RegisterFile :=
  events.foldl (afterEvent indirect) file

@[simp] theorem replay_nil : file.replay indirect [] = file := rfl

@[simp] theorem replay_cons (event : Event) (rest : List Event) :
    file.replay indirect (event :: rest) = (file.afterEvent indirect event).replay indirect rest :=
  rfl

@[simp] theorem replay_append (first second : List Event) :
    file.replay indirect (first ++ second) =
      (file.replay indirect first).replay indirect second :=
  List.foldl_append ..

theorem replay_load (register : UInt32) (file : RegisterFile) :
    file.replay indirect ((device window indirect).load register file).2.2 =
      ((device window indirect).load register file).2.1 := by
  unfold Device.load
  split <;> rfl

theorem replay_store (register value : UInt32) (file : RegisterFile) :
    file.replay indirect ((device window indirect).store register value file).2 =
      ((device window indirect).store register value file).1 := by
  unfold Device.store
  split <;> rfl

theorem replay_command (what : Command) (world : World RegisterFile) :
    world.device.replay indirect (what.run (device window indirect) world).2 =
      (what.run (device window indirect) world).1.device := by
  cases what with
  | write register value => exact replay_store register value world.device
  | pause length | log line | lock | unlock => rfl

/-- The events of a run lead to the file that it ends with. -/
theorem replay_run {α : Type} (p : Program α) (world : World RegisterFile) :
    world.device.replay indirect (p.run (device window indirect) world).events =
      (p.run (device window indirect) world).world.device := by
  induction p generalizing world with
  | done value => rfl
  | read register next ih =>
    simp only [Program.run, replay_append, replay_load]
    exact ih ((device window indirect).load register world.device).1
      { world with device := ((device window indirect).load register world.device).2.1 }
  | command what next ih =>
    simp only [Program.run, replay_append, replay_command]
    exact ih _

/-! ## At every point -/

/-- `P` holds at every point of some events: before the first, between any two, and after the
last. -/
def Throughout (indirect : Bool) (P : RegisterFile → Prop) (file : RegisterFile)
    (events : List Event) : Prop :=
  ∀ earlier, earlier <+: events → P (file.replay indirect earlier)

theorem throughout_nil : file.Throughout indirect P [] ↔ P file := by
  simp [Throughout]

theorem throughout_cons {event : Event} {rest : List Event} :
    file.Throughout indirect P (event :: rest) ↔
      P file ∧ (file.afterEvent indirect event).Throughout indirect P rest := by
  constructor
  · intro h
    exact ⟨h [] List.nil_prefix, fun earlier hearlier =>
      h (event :: earlier) ((List.prefix_cons_inj event).mpr hearlier)⟩
  · rintro ⟨hfirst, hrest⟩ earlier hearlier
    obtain rfl | ⟨later, rfl, hlater⟩ := List.prefix_cons_iff.mp hearlier
    · exact hfirst
    · exact hrest later hlater

theorem Throughout.first {events : List Event} (h : file.Throughout indirect P events) : P file :=
  h [] List.nil_prefix

theorem Throughout.last {events : List Event} (h : file.Throughout indirect P events) :
    P (file.replay indirect events) :=
  h events (List.prefix_refl events)

theorem Throughout.append {first second : List Event} (hfirst : file.Throughout indirect P first)
    (hsecond : (file.replay indirect first).Throughout indirect P second) :
    file.Throughout indirect P (first ++ second) := by
  induction first generalizing file with
  | nil => exact hsecond
  | cons event first ih =>
    obtain ⟨hhere, hrest⟩ := throughout_cons.mp hfirst
    exact throughout_cons.mpr ⟨hhere, ih hrest hsecond⟩

/-! ## The way to a register -/

/-- What happens before a register is accessed: outside the window, it is selected. -/
def approach (window : Nat) (register : UInt32) : List Event :=
  if place register < window then [] else [.write 0 (register * 4)]

/-- The byte offset through which a register is accessed. -/
def doorway (window : Nat) (register : UInt32) : Nat :=
  if place register < window then place register else 4

/-- The byte offset that an access to a register arrives at. Without indirect access, a register
outside the window is not reached. -/
def arrival (window : Nat) (indirect : Bool) (register : UInt32) : Nat :=
  if place register < window ∨ indirect = true then place register else 4

theorem offset?_device (register : UInt32) :
    (device window indirect).offset? register =
      if place register < window then some (place register) else none := rfl

theorem load_eq (register : UInt32) (file : RegisterFile) :
    (device window indirect).load register file =
      let near := file.replay indirect (approach window register)
      let found := near.read indirect (doorway window register)
      (found.1, found.2,
        approach window register ++ [.read (doorway window register) found.1]) := by
  rw [Device.load, offset?_device, approach, doorway]
  by_cases hin : place register < window
  · simp only [if_pos hin]
    rfl
  · simp only [if_neg hin]
    rfl

theorem store_eq (register value : UInt32) (file : RegisterFile) :
    (device window indirect).store register value file =
      let near := file.replay indirect (approach window register)
      (near.write indirect (doorway window register) value,
        approach window register ++ [.write (doorway window register) value]) := by
  rw [Device.store, offset?_device, approach, doorway]
  by_cases hin : place register < window
  · simp only [if_pos hin]
    rfl
  · simp only [if_neg hin]
    rfl

/-- The index register is reached at its own offset. -/
@[simp] theorem target_zero (indirect : Bool) (file : RegisterFile) :
    file.target indirect 0 = 0 := by
  simp [target]

/-- After the approach, an access through the doorway arrives. -/
theorem target_approach {register : UInt32} (h : Plain register) (file : RegisterFile) :
    (file.replay indirect (approach window register)).target indirect (doorway window register) =
      arrival window indirect register := by
  cases indirect with
  | false =>
    rw [arrival, doorway]
    by_cases hin : place register < window
    · rw [if_pos hin, if_pos (.inl hin)]
      rfl
    · rw [if_neg hin, if_neg (by simpa using hin)]
      rfl
  | true =>
    rw [arrival, if_pos (.inr rfl), approach, doorway]
    by_cases hin : place register < window
    · rw [if_pos hin, if_pos hin]
      exact target_place h _
    · rw [if_neg hin, if_neg hin]
      exact target_select window h file

end RegisterFile

/-! ## Programs that maintain a property -/

/-- Wherever `P` holds of the file, it holds at every point of a run of `p`. -/
def Program.Maintains {α : Type} (window : Nat) (indirect : Bool) (P : RegisterFile → Prop)
    (p : Program α) : Prop :=
  ∀ world : World RegisterFile, P world.device →
    world.device.Throughout indirect P (p.run (RegisterFile.device window indirect) world).events

namespace Program.Maintains

variable {α β : Type} {window : Nat} {indirect : Bool} {P : RegisterFile → Prop}

theorem done (value : α) : (Program.done value).Maintains window indirect P :=
  fun _ h => RegisterFile.throughout_nil.mpr h

theorem bind {p : Program α} {f : α → Program β} (hp : p.Maintains window indirect P)
    (hf : ∀ value, (f value).Maintains window indirect P) :
    (p.bind f).Maintains window indirect P := by
  intro world h
  have hfirst := hp world h
  rw [Program.run_bind]
  refine hfirst.append ?_
  rw [RegisterFile.replay_run]
  refine hf _ _ ?_
  have hlast := hfirst.last
  rwa [RegisterFile.replay_run] at hlast

/-- A command other than a write does nothing to the file. -/
theorem give {what : Command} (hwhat : ∀ register value, what ≠ .write register value) :
    (Program.give what).Maintains window indirect P := by
  intro world h
  cases what with
  | write register value => exact (hwhat register value rfl).elim
  | pause length | log line =>
    exact RegisterFile.throughout_cons.mpr ⟨h, RegisterFile.throughout_nil.mpr h⟩
  | lock | unlock => exact RegisterFile.throughout_nil.mpr h

end Program.Maintains

end GpuI2c
