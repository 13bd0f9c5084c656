import Mathlib.Data.List.Nodup
import GpuI2c.Proofs.Device.Contents
import GpuI2c.Proofs.Device.Points
import GpuI2c.Proofs.Engine.Routine

/-!
# The register frame of the engine

A register of the engine that is written is, at its own offset, changed only in the bits that
`Engine.programmed` lists for it. Every other offset keeps its value, but for the index and data
registers where some register lies outside the window. This holds at every point of a run
(`register_frame`), whatever the contents at first: an update writes back what it has just read, and
what it has read is what is stored (`Framed.load_eq`).

Without indirect access, a register outside the window is never reached; then reads and writes of it
stop at the data register.
-/

namespace GpuI2c

open Register (Batch Field SameOutside)
open RegisterFile (approach arrival doorway place place_injective)

theorem Chip.RegisterBlock.Known.ne_of_programs {block : RegisterBlock} (h : block.Known)
    {register : UInt32} (hregister : block.Programs register) :
    register ≠ block.status ∧ register ≠ block.setup := by
  obtain rfl | rfl := h.cases <;>
    obtain rfl | rfl | rfl | rfl | rfl | rfl := hregister <;> decide

namespace Engine

/-- Some register that the engine uses lies outside the window. -/
def ReachesOut (engine : Engine) (window : Nat) : Prop :=
  ∃ register, (register = engine.block.status ∨ engine.block.Programs register) ∧
    window ≤ place register

/-- The byte offsets whose stored value the engine may change: those of the registers that it
programs, and those of the index and data registers if it needs them. -/
def MayChange (engine : Engine) (window offset : Nat) : Prop :=
  (∃ row ∈ engine.programmed, offset = place row.1) ∨
    engine.ReachesOut window ∧ (offset = 0 ∨ offset = 4)

/-- How a register file may differ from an earlier one when only the engine has been at work. -/
structure WithinFrame (engine : Engine) (window : Nat) (before now : RegisterFile) : Prop where
  elsewhere : ∀ offset, now.value offset ≠ before.value offset → engine.MayChange window offset
  control : SameOutside 0xB (now.value (place engine.block.control))
    (before.value (place engine.block.control))
  interruptControl : SameOutside 0x2 (now.value (place engine.block.interruptControl))
    (before.value (place engine.block.interruptControl))
  transaction : SameOutside 0xF3301 (now.value (place engine.block.transaction))
    (before.value (place engine.block.transaction))
  pinSelection : SameOutside 0x7F7F (now.value (place engine.block.pinSelection))
    (before.value (place engine.block.pinSelection))
  speed : SameOutside 0xFFFF0003 (now.value (place engine.block.speed))
    (before.value (place engine.block.speed))

variable {engine : Engine}

/-! ## The registers that are programmed -/

theorem programs_of_mem {row : UInt32 × UInt32} (h : row ∈ engine.programmed) :
    engine.block.Programs row.1 := by
  rw [programmed, List.mem_append] at h
  obtain h | h := h
  · simp only [List.mem_cons, List.not_mem_nil, or_false] at h
    obtain rfl | rfl | rfl | rfl | rfl := h <;> simp [Chip.RegisterBlock.Programs]
  · split at h
    · rw [List.mem_singleton.mp h]
      exact .inr (.inr (.inl rfl))
    · exact (List.not_mem_nil h).elim

/-- A programmed register stands in one row only. -/
theorem eq_of_place_eq (hblock : engine.block.Known) {row other : UInt32 × UInt32}
    (hrow : row ∈ engine.programmed) (hother : other ∈ engine.programmed)
    (h : place row.1 = place other.1) : row = other := by
  have hnodup : (engine.programmed.map Prod.fst).Nodup := by
    unfold programmed
    obtain hname | hname := hblock.cases <;> rw [hname] <;> split <;> decide
  exact List.inj_on_of_nodup_map hnodup hrow hother (place_injective h)

theorem plain_of_programs (hblock : engine.block.Known) {register : UInt32}
    (h : engine.block.Programs register) : Plain register :=
  OnBlock.isPlain hblock (show OnBlock engine.block (.write register 0) from h)

/-- The index and data registers are not among the registers that the engine programs. -/
theorem place_ge_of_programs (hblock : engine.block.Known) {register : UInt32}
    (h : engine.block.Programs register) : 8 ≤ place register := by
  have := (plain_of_programs hblock h).1
  unfold place
  omega

/-! ## The frame of a register file -/

/-- A register file that differs from `initial` only as the engine may change it, and where reads of
the registers that the engine programs give what is stored. -/
structure Framed (engine : Engine) (window : Nat) (initial file : RegisterFile) : Prop where
  unchanged : ∀ offset, ¬ engine.MayChange window offset →
    file.value offset = initial.value offset
  sameOutside : ∀ row ∈ engine.programmed,
    SameOutside row.2 (file.value (place row.1)) (initial.value (place row.1))
  quiet : ∀ row ∈ engine.programmed, file.queue (place row.1) = []

variable {window : Nat} {indirect : Bool} {initial file : RegisterFile}

/-- A value may be written where the engine may change the offset at will, or where it agrees with
the stored value outside the bits that the register allows for. -/
theorem Framed.write (hblock : engine.block.Known) (h : engine.Framed window initial file)
    {offset : Nat} {value : UInt32}
    (hreached : (engine.ReachesOut window ∧
        (file.target indirect offset = 0 ∨ file.target indirect offset = 4)) ∨
      ∃ row ∈ engine.programmed, file.target indirect offset = place row.1 ∧
        SameOutside row.2 value (file.value (place row.1))) :
    engine.Framed window initial (file.write indirect offset value) := by
  refine ⟨fun other hother => ?_, fun row hrow => ?_, h.quiet⟩
  · rw [RegisterFile.value_write, if_neg]
    · exact h.unchanged other hother
    · rintro rfl
      obtain hout | ⟨row, hrow, htarget, -⟩ := hreached
      · exact hother (.inr hout)
      · exact hother (.inl ⟨row, hrow, htarget⟩)
  · rw [RegisterFile.value_write]
    split
    · next heq =>
      obtain ⟨-, hlow⟩ | ⟨other, hother, htarget, hvalue⟩ := hreached
      · have := place_ge_of_programs hblock (programs_of_mem hrow)
        omega
      · obtain rfl := eq_of_place_eq hblock hrow hother (heq.trans htarget)
        exact hvalue.trans (h.sameOutside row hrow)
    · exact h.sameOutside row hrow

theorem Framed.read (h : engine.Framed window initial file) (offset : Nat) :
    engine.Framed window initial (file.read indirect offset).2 := by
  refine ⟨fun other hother => ?_, fun row hrow => ?_, fun row hrow => ?_⟩
  · rw [RegisterFile.value_read]
    exact h.unchanged other hother
  · rw [RegisterFile.value_read]
    exact h.sameOutside row hrow
  · rw [RegisterFile.read_eq_of_target rfl, RegisterFile.queue_read]
    split
    · next heq => rw [← heq, h.quiet row hrow, List.tail_nil]
    · exact h.quiet row hrow

/-! ## One access -/

/-- A register is reached at its own offset, unless it lies outside the window. -/
theorem arrival_cases (window : Nat) (indirect : Bool) (register : UInt32) :
    arrival window indirect register = place register ∨
      arrival window indirect register = 4 ∧ window ≤ place register := by
  unfold arrival
  split
  · exact .inl rfl
  · next h =>
    rw [not_or, Nat.not_lt] at h
    exact .inr ⟨rfl, h.1⟩

theorem throughout_approach (indirect : Bool) (hblock : engine.block.Known)
    (h : engine.Framed window initial file) {register : UInt32}
    (hregister : register = engine.block.status ∨ engine.block.Programs register) :
    file.Throughout indirect (engine.Framed window initial) (approach window register) := by
  unfold approach
  split
  · exact RegisterFile.throughout_nil.mpr h
  · next hout =>
    have hreaches : engine.ReachesOut window := ⟨register, hregister, Nat.not_lt.mp hout⟩
    have hselected : engine.Framed window initial (file.write indirect 0 (register * 4)) :=
      h.write hblock (.inl ⟨hreaches, .inl (RegisterFile.target_zero indirect file)⟩)
    exact RegisterFile.throughout_cons.mpr ⟨h, RegisterFile.throughout_nil.mpr hselected⟩

/-- On the way to a register nothing is stored but at offset 0. -/
theorem value_approach {offset : Nat} (hoffset : offset ≠ 0) (register : UInt32) :
    (file.replay indirect (approach window register)).value offset = file.value offset := by
  unfold approach
  split
  · rfl
  · show (file.write indirect 0 (register * 4)).value offset = file.value offset
    rw [RegisterFile.value_write, RegisterFile.target_zero, if_neg hoffset]

theorem throughout_load (indirect : Bool) (hblock : engine.block.Known)
    (h : engine.Framed window initial file) {register : UInt32}
    (hregister : register = engine.block.status ∨ engine.block.Programs register) :
    file.Throughout indirect (engine.Framed window initial)
      ((RegisterFile.device window indirect).load register file).2.2 := by
  rw [RegisterFile.load_eq]
  have hnear := throughout_approach indirect hblock h hregister
  exact hnear.append (RegisterFile.throughout_cons.mpr
    ⟨hnear.last, RegisterFile.throughout_nil.mpr (hnear.last.read _)⟩)

/-- A read that reaches a programmed register gives what is stored there. -/
theorem Framed.load_eq (hblock : engine.block.Known) (h : engine.Framed window initial file)
    {row : UInt32 × UInt32} (hrow : row ∈ engine.programmed)
    (harrival : arrival window indirect row.1 = place row.1) :
    ((RegisterFile.device window indirect).load row.1 file).1 = file.value (place row.1) := by
  have hplain := plain_of_programs hblock (programs_of_mem hrow)
  have hnear := (throughout_approach indirect hblock h (.inr (programs_of_mem hrow))).last
  have hlow := place_ge_of_programs hblock (programs_of_mem hrow)
  rw [RegisterFile.load_eq]
  show ((file.replay indirect (approach window row.1)).read indirect (doorway window row.1)).1 = _
  rw [RegisterFile.read_eq_of_target ((RegisterFile.target_approach hplain file).trans harrival),
    RegisterFile.fst_read, hnear.quiet row hrow, List.headD_nil, value_approach (by omega)]

/-- A read leaves the values of the programmed registers alone. -/
theorem value_load (hblock : engine.block.Known) {row : UInt32 × UInt32}
    (hrow : row ∈ engine.programmed) (register : UInt32) :
    ((RegisterFile.device window indirect).load register file).2.1.value (place row.1) =
      file.value (place row.1) := by
  have hlow := place_ge_of_programs hblock (programs_of_mem hrow)
  rw [RegisterFile.load_eq]
  show ((file.replay indirect (approach window register)).read indirect
    (doorway window register)).2.value (place row.1) = _
  rw [RegisterFile.value_read, value_approach (by omega)]

/-- A programmed register may be given a value that agrees with the stored one outside the bits that
it allows for. -/
theorem throughout_store (indirect : Bool) (hblock : engine.block.Known)
    (h : engine.Framed window initial file) {row : UInt32 × UInt32}
    (hrow : row ∈ engine.programmed) (value : UInt32)
    (hvalue : arrival window indirect row.1 = place row.1 →
      SameOutside row.2 value (file.value (place row.1))) :
    file.Throughout indirect (engine.Framed window initial)
      ((RegisterFile.device window indirect).store row.1 value file).2 := by
  have hprograms := programs_of_mem hrow
  have hnear := throughout_approach indirect hblock h (.inr hprograms)
  have htarget : (file.replay indirect (approach window row.1)).target indirect
      (doorway window row.1) = arrival window indirect row.1 :=
    RegisterFile.target_approach (plain_of_programs hblock (programs_of_mem hrow)) file
  rw [RegisterFile.store_eq]
  refine hnear.append (RegisterFile.throughout_cons.mpr
    ⟨hnear.last, RegisterFile.throughout_nil.mpr (hnear.last.write hblock ?_)⟩)
  obtain harrival | ⟨harrival, hout⟩ := arrival_cases window indirect row.1
  · have hlow := place_ge_of_programs hblock (programs_of_mem hrow)
    refine .inr ⟨row, hrow, htarget.trans harrival, ?_⟩
    rw [value_approach (by omega)]
    exact hvalue harrival
  · exact .inl ⟨⟨row.1, .inr hprograms, hout⟩, .inr (htarget.trans harrival)⟩

/-! ## Runs -/

theorem maintains_read (hblock : engine.block.Known) {register : UInt32}
    (hregister : register = engine.block.status ∨ engine.block.Programs register) :
    (Register.read register).Maintains window indirect (engine.Framed window initial) := by
  intro world h
  have hload := throughout_load indirect hblock h hregister
  rwa [← List.append_nil (Device.load ..).2.2] at hload

/-- What an update writes differs from what is stored only in the bits that it may change. -/
theorem maintains_update (hblock : engine.block.Known) {register mask : UInt32}
    (hrow : (register, mask) ∈ engine.programmed) {fields : List Field}
    (hfields : ∀ field ∈ fields, field.Within mask) :
    (Register.update register fields).Maintains window indirect
      (engine.Framed window initial) := by
  intro world h
  have hload := throughout_load indirect hblock h (.inr (programs_of_mem hrow))
  have hafter := hload.last
  rw [RegisterFile.replay_load] at hafter
  let found := (RegisterFile.device window indirect).load register world.device
  show world.device.Throughout indirect _ (found.2.2 ++
    (((RegisterFile.device window indirect).store register
      ((Batch.ofFields fields).apply found.1) found.2.1).2 ++ []))
  rw [List.append_nil]
  refine hload.append ?_
  rw [RegisterFile.replay_load]
  refine throughout_store indirect hblock hafter hrow _ fun harrival => ?_
  rw [value_load hblock hrow, ← h.load_eq hblock hrow harrival]
  exact Batch.sameOutside_apply_ofFields hfields found.1

theorem maintains_fill (hblock : engine.block.Known) (fields : List Field) :
    (Register.set engine.block.data 0 fields).Maintains window indirect
      (engine.Framed window initial) := by
  intro world h
  have hrow : (engine.block.data, 0xFFFFFFFF) ∈ engine.programmed := by simp [programmed]
  have hstore := throughout_store indirect hblock h hrow ((Batch.ofFields fields).apply 0)
    fun _ => .all _ _
  rwa [← List.append_nil (Device.store ..).2] at hstore

/-- What is put together from the engine's accesses keeps to the frame. -/
theorem Routine.maintains (hblock : engine.block.Known) {α : Type} {p : Program α}
    (h : engine.Routine p) : p.Maintains window indirect (engine.Framed window initial) := by
  induction h with
  | done value => exact .done value
  | bind _ _ hp hf => exact .bind hp hf
  | read hregister =>
    refine maintains_read hblock (hregister.imp_right fun hdata => ?_)
    exact .inr (.inr (.inr (.inr (.inl hdata))))
  | update hrow hfields => exact maintains_update hblock hrow hfields
  | fill fields => exact maintains_fill hblock fields
  | give hwhat => exact .give hwhat

/-- Without a known clock divider, the speed register keeps its value. -/
theorem not_mayChange_speed (hblock : engine.block.Known)
    (hprescale : engine.config.prescale = none) :
    ¬ engine.MayChange window (place engine.block.speed) := by
  have hlow : 8 ≤ place engine.block.speed := place_ge_of_programs hblock (.inr (.inr (.inl rfl)))
  rintro (⟨row, hrow, heq⟩ | ⟨-, hpair⟩)
  · exact ne_speed_of_mem_programmed hblock hprescale hrow (place_injective heq).symm
  · omega

theorem Framed.withinFrame (hblock : engine.block.Known) (h : engine.Framed window initial file) :
    engine.WithinFrame window initial file where
  elsewhere offset hoffset := by
    by_contra hnot
    exact hoffset (h.unchanged offset hnot)
  control := h.sameOutside (engine.block.control, 0xB) (by simp [programmed])
  interruptControl := h.sameOutside (engine.block.interruptControl, 0x2) (by simp [programmed])
  transaction := h.sameOutside (engine.block.transaction, 0xF3301) (by simp [programmed])
  pinSelection := h.sameOutside (engine.block.pinSelection, 0x7F7F) (by simp [programmed])
  speed := by
    cases hprescale : engine.config.prescale with
    | none => exact .of_eq (h.unchanged _ (not_mayChange_speed hblock hprescale))
    | some divider =>
      exact h.sameOutside (engine.block.speed, 0xFFFF0003) (by simp [programmed, hprescale])

/-- The engine's operations write neither the status nor the setup register. -/
theorem writes_of_performAll {σ : Type} (device : Device σ) (hblock : engine.block.Known)
    (opened : Option Session) {steps : List Step} (hsteps : ∀ step ∈ steps, step.OfSession)
    (world : World σ) :
    ∀ write ∈ writesOf (actsOf ((engine.performAll opened steps).run device world).events),
      write.1 ≠ engine.block.status ∧ write.1 ≠ engine.block.setup := by
  have hkeeps : (engine.performAll opened steps).Keeps (OnBlock engine.block) :=
    keeps_performAll opened hsteps
  have hacts := hkeeps.forall_mem (performs_actsOf device hblock hkeeps world)
  intro write hwrite
  obtain ⟨act, hact, hsome⟩ := List.mem_filterMap.mp hwrite
  have hon := hacts act hact
  cases act with
  | read register value => cases hsome
  | pause length => cases hsome
  | write register value =>
    obtain rfl := Option.some.inj hsome
    exact hblock.ne_of_programs hon

/-- **The register frame.** On a register file with any contents, through any window and with
indirect access or without, whatever a user does by way of a session: the status and setup registers
are never written, and at every point of the run, also between the two accesses by which a register
outside the window is reached, the file differs from what it was at first only as `WithinFrame`
says. No replies may be queued for the registers that the engine writes: reading them is to give
what is stored. -/
theorem register_frame (engine : Engine) (hblock : engine.block.Known) (window : Nat)
    (indirect : Bool) (opened : Option Session) (steps : List Step)
    (hsteps : ∀ step ∈ steps, step.OfSession) (world : World RegisterFile)
    (hquiet : ∀ row ∈ engine.programmed, world.device.queue (place row.1) = []) :
    let outcome := (engine.performAll opened steps).run (RegisterFile.device window indirect) world
    (∀ write ∈ writesOf (actsOf outcome.events),
      write.1 ≠ engine.block.status ∧ write.1 ≠ engine.block.setup) ∧
    world.device.replay indirect outcome.events = outcome.world.device ∧
    ∀ earlier, earlier <+: outcome.events →
      engine.WithinFrame window world.device (world.device.replay indirect earlier) := by
  intro outcome
  have hframed : engine.Framed window world.device world.device :=
    ⟨fun _ _ => rfl, fun _ _ => .of_eq rfl, hquiet⟩
  have hthroughout : world.device.Throughout indirect (engine.Framed window world.device)
      outcome.events :=
    (routine_performAll opened hsteps).maintains hblock world hframed
  exact ⟨writes_of_performAll _ hblock opened hsteps world, RegisterFile.replay_run _ world,
    fun earlier hearlier => (hthroughout earlier hearlier).withinFrame hblock⟩

/-- The control register holds bits that are not the engine's, and the window ends before the data
register. -/
theorem register_frame_polaris :
    let engine : Engine := ⟨.polaris, Config.default.withReferenceClock 27000⟩
    let world : World RegisterFile := ⟨{ values := OffsetMap.empty.set 0x5bd0 0xcafe0000 }, false⟩
    let steps : List Step := [.openSession, .transact (.ok (.probe 0x50)), .dropSession]
    let outcome := (engine.performAll none steps).run (RegisterFile.device 0x5be8 true) world
    outcome.world.device.value 0x5bd0 = 0xcafe0001 ∧
      outcome.world.device.value (place engine.block.speed) = 0x21c0002 ∧
      engine.ReachesOut 0x5be8 ∧
      ∀ earlier, earlier <+: outcome.events →
        engine.WithinFrame 0x5be8 world.device (world.device.replay true earlier) := by
  intro engine world steps outcome
  have hsteps : ∀ step ∈ steps, step.OfSession := by
    simp [steps, Step.OfSession]
  have hframe := register_frame engine ⟨.polaris10, rfl⟩ 0x5be8 true none steps hsteps world
    fun _ _ => rfl
  have hout : engine.ReachesOut 0x5be8 :=
    ⟨engine.block.data, by simp [Chip.RegisterBlock.Programs], by decide⟩
  exact ⟨by decide +kernel, by decide +kernel, hout, hframe.2.2⟩

end Engine

end GpuI2c
