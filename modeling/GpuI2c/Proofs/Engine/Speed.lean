import GpuI2c.Proofs.Engine.Routine

/-!
# The bus speed

The speed register is accessed where a session opens, and only if the clock divider is known: it is
read and written back once, with the divider and a threshold of two in place
(`performs_setSpeed_iff`). Without a divider nothing that is done by way of a session reaches it
(`avoids_speed_performAll`).

For the settings that the firmware gives, the divider is a fifth of the clock in units of 10 kHz,
rounded down, and known unless it is zero; it never exceeds its sixteen bits
(`prescale_withReferenceClock`).
-/

namespace GpuI2c

open Register (Batch Field SameOutside)

/-! ## Accesses to a register -/

/-- The register that an act accesses. -/
def Act.register? : Act → Option UInt32
  | .read register _ | .write register _ => some register
  | .pause _ => none

/-- The acts that access a register, in order. -/
def accessesTo (register : UInt32) (acts : List Act) : List Act :=
  acts.filter fun act => act.register? = some register

theorem accessesTo_append (register : UInt32) (first second : List Act) :
    accessesTo register (first ++ second) =
      accessesTo register first ++ accessesTo register second :=
  List.filter_append ..

theorem accessesTo_eq_nil_iff {register : UInt32} {acts : List Act} :
    accessesTo register acts = [] ↔ ∀ act ∈ acts, act.register? ≠ some register := by
  simp [accessesTo, List.filter_eq_nil_iff]

theorem accessesTo_eq_self {register : UInt32} {acts : List Act}
    (h : ∀ act ∈ acts, act.register? = some register) : accessesTo register acts = acts :=
  List.filter_eq_self.mpr (by simpa using h)

/-! ## The divider -/

/-- The divider for the usual bus speed, from a clock in units of 10 kHz. -/
theorem Engine.Config.prescale_withReferenceClock {clock : Nat} (h : clock < 0x10000) :
    (Config.default.withReferenceClock (10 * clock)).prescale =
      if 5 ≤ clock then some (UInt16.ofNat (clock / 5)) else none := by
  have hdivider : 10 * clock / 50 = clock / 5 := by omega
  show (if 10 * clock / 50 = 0 ∨ 10 * clock / 50 > 0xFFFF then none
    else some (UInt16.ofNat (10 * clock / 50))) = _
  rw [hdivider]
  by_cases hslow : 5 ≤ clock
  · rw [if_neg (by omega), if_pos hslow]
  · rw [if_pos (by omega), if_neg hslow]

namespace Engine

variable {engine : Engine}

/-- The speed word with a divider. -/
def speedWord (divider : UInt16) (raw : UInt32) : UInt32 :=
  (Batch.ofFields [Chip.prescale.holding divider.toUInt32, Chip.threshold.holding 2]).apply raw

/-- The divider is stored whole. -/
theorem prescale_speedWord (divider : UInt16) (raw : UInt32) :
    (Chip.prescale.extract (speedWord divider raw)).toNat = divider.toNat := by
  have hclip : Chip.prescale.clip divider.toUInt32 = 0xFFFF &&& divider.toUInt32 :=
    Field.clip_eq_and (by decide) (by decide) _
  have hword : Chip.prescale.extract (speedWord divider raw) =
      Chip.prescale.clip divider.toUInt32 := by
    simp (disch := decide) only [speedWord, Batch.apply_ofFields, List.foldl_cons, List.foldl_nil,
      Field.extract_insert_self, Field.extract_insert_of_apart]
  have hmask : (0xFFFF : UInt32).toNat = 2 ^ 16 - 1 := rfl
  rw [hword, hclip, toNat_low_bits hmask, UInt16.toNat_toUInt32, Nat.mod_eq_of_lt divider.toNat_lt]

theorem threshold_speedWord (divider : UInt16) (raw : UInt32) :
    Chip.threshold.extract (speedWord divider raw) = 2 := by
  simp only [speedWord, Batch.apply_ofFields, List.foldl_cons, List.foldl_nil,
    Field.extract_insert_self]
  decide

/-- The speed register keeps all other bits. -/
theorem sameOutside_speedWord (divider : UInt16) (raw : UInt32) :
    SameOutside 0xFFFF0003 (speedWord divider raw) raw := by
  refine Batch.sameOutside_apply_ofFields ?_ raw
  simp +decide

/-! ## Opening -/

/-- Setting the speed is one update of the speed register, or nothing. -/
theorem performs_setSpeed_iff {acts : List Act} {result : Unit} :
    engine.setSpeed.Performs acts result ↔
      match engine.config.prescale with
      | some divider => ∃ raw, acts =
          [.read engine.block.speed raw, .write engine.block.speed (speedWord divider raw)]
      | none => acts = [] := by
  unfold setSpeed
  cases engine.config.prescale with
  | some divider => exact performs_update
  | none => simp

theorem ne_speed (hblock : engine.block.Known) :
    engine.block.control ≠ engine.block.speed ∧ engine.block.pinSelection ≠ engine.block.speed ∧
      engine.block.status ≠ engine.block.speed ∧ engine.block.data ≠ engine.block.speed := by
  obtain hname | hname := hblock.cases <;> rw [hname] <;> decide

/-- Opening a session accesses the speed register only to set the speed. -/
theorem accessesTo_speed_openSession (hblock : engine.block.Known) {acts : List Act}
    {session : Session} (h : engine.openSession.Performs acts session) :
    engine.setSpeed.Performs (accessesTo engine.block.speed acts) () := by
  obtain ⟨-, control, pins, speed, rfl, hspeed⟩ := performs_openSession h
  obtain ⟨hcontrol, hpins, -⟩ := ne_speed hblock
  have hbefore : accessesTo engine.block.speed
      [.read engine.block.control control,
        .write engine.block.control (enableWord control),
        .read engine.block.pinSelection pins,
        .write engine.block.pinSelection
          (pinWord engine.config.clockPin.toUInt32 engine.config.dataPin.toUInt32 pins)] = [] := by
    rw [accessesTo_eq_nil_iff]
    simp [Act.register?, hcontrol, hpins]
  have hafter : accessesTo engine.block.speed speed = speed := by
    refine accessesTo_eq_self ?_
    rw [performs_setSpeed_iff] at hspeed
    cases hprescale : engine.config.prescale with
    | none =>
      rw [hprescale] at hspeed
      rw [hspeed]
      exact List.forall_mem_nil _
    | some divider =>
      rw [hprescale] at hspeed
      obtain ⟨raw, rfl⟩ := hspeed
      simp [Act.register?]
  rw [accessesTo_append, hbefore, hafter]
  exact hspeed

/-! ## Sessions without a divider -/

/-- Without a known divider, nothing that is put together from the engine's accesses reaches the
speed register. -/
theorem Routine.avoids_speed (hblock : engine.block.Known)
    (hprescale : engine.config.prescale = none) {α : Type} {p : Program α}
    (h : engine.Routine p) : p.Keeps fun act => act.register? ≠ some engine.block.speed := by
  obtain ⟨-, -, hstatus, hdata⟩ := ne_speed hblock
  induction h with
  | done value => trivial
  | bind _ _ hp hf => exact hp.bind hf
  | read hregister =>
    refine fun answer => ⟨fun haccess => ?_, trivial⟩
    obtain rfl := Option.some.inj haccess
    obtain heq | heq := hregister
    · exact hstatus heq.symm
    · exact hdata heq.symm
  | update hrow _ =>
    have hne := ne_speed_of_mem_programmed hblock hprescale hrow
    refine fun answer => ⟨fun haccess => hne (Option.some.inj haccess), ?_, trivial⟩
    exact List.forall_mem_singleton.mpr fun haccess => hne (Option.some.inj haccess)
  | fill fields =>
    exact ⟨List.forall_mem_singleton.mpr fun haccess => hdata (Option.some.inj haccess), trivial⟩
  | @give what hwhat =>
    refine ⟨?_, trivial⟩
    cases what with
    | write register value => exact (hwhat register value rfl).elim
    | pause length => exact List.forall_mem_singleton.mpr nofun
    | log _ | lock | unlock => exact List.forall_mem_nil _

theorem avoids_speed_performAll {σ : Type} (hblock : engine.block.Known)
    (hprescale : engine.config.prescale = none) (device : Device σ)
    (opened : Option Session) {steps : List Step} (hsteps : ∀ step ∈ steps, step.OfSession)
    (world : World σ) :
    accessesTo engine.block.speed
      (actsOf ((engine.performAll opened steps).run device world).events) = [] := by
  have hperforms := performs_actsOf device hblock (keeps_performAll opened hsteps) world
  exact accessesTo_eq_nil_iff.mpr
    (((routine_performAll opened hsteps).avoids_speed hblock hprescale).forall_mem hperforms)

end Engine

end GpuI2c
