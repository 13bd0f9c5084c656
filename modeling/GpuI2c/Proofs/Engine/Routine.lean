import GpuI2c.Proofs.Engine.Closing
import GpuI2c.Proofs.Register.Batch

/-!
# How operations are put together

Whatever the engine does in a session is put together from few kinds of access: a read of the status
or of the data register, an update of fields that are within the bits which the register allows for,
a write of the data register, a pause, a log line, and taking or releasing the lock
(`Engine.Routine`). So a property of programs that each of these has, and that is closed under
sequencing, holds of all that a user may do by way of a session (`routine_performAll`).
-/

namespace GpuI2c

open Register (Field)
open Bus (BusError ChannelStatus Payload Request)

namespace Engine

/-- The registers that the engine's operations write, each with the bits of it that they may change.
The speed register is among them only if the clock divider is known. -/
def programmed (engine : Engine) : List (UInt32 × UInt32) :=
  [(engine.block.control, 0xB), (engine.block.interruptControl, 0x2),
   (engine.block.transaction, 0xF3301), (engine.block.data, 0xFFFFFFFF),
   (engine.block.pinSelection, 0x7F7F)] ++
  if engine.config.prescale.isSome then [(engine.block.speed, 0xFFFF0003)] else []

/-- The programs that are put together from the engine's accesses to its registers. -/
inductive Routine (engine : Engine) : {α : Type} → Program α → Prop
  | done {α : Type} (value : α) : Routine engine (.done value)
  | bind {α β : Type} {p : Program α} {f : α → Program β} :
      Routine engine p → (∀ value, Routine engine (f value)) → Routine engine (p.bind f)
  | read {register : UInt32} (h : register = engine.block.status ∨ register = engine.block.data) :
      Routine engine (Register.read register)
  /-- Fields are put in place, all of them within the bits that the register allows for. -/
  | update {register mask : UInt32} {fields : List Field}
      (hrow : (register, mask) ∈ engine.programmed)
      (hfields : ∀ field ∈ fields, field.Within mask) :
      Routine engine (Register.update register fields)
  /-- The data register is written without a look at what it held. -/
  | fill (fields : List Field) : Routine engine (Register.set engine.block.data 0 fields)
  | give {what : Command} (h : ∀ register value, what ≠ .write register value) :
      Routine engine (.give what)

variable {engine : Engine}

/-- Without a known clock divider, the speed register is not among the registers that are
written. -/
theorem ne_speed_of_mem_programmed (hblock : engine.block.Known)
    (hprescale : engine.config.prescale = none) {row : UInt32 × UInt32}
    (h : row ∈ engine.programmed) : row.1 ≠ engine.block.speed := by
  have hrows : ∀ row ∈ engine.programmed, row.1 ≠ engine.block.speed := by
    obtain hname | hname := hblock.cases <;> simp [programmed, hprescale, hname] <;> decide
  exact hrows row h

/-! ## Traced access -/

theorem routine_trace {verb : String} {register value : UInt32} :
    engine.Routine (engine.trace verb register value) :=
  .give nofun

theorem routine_read {register : UInt32}
    (h : register = engine.block.status ∨ register = engine.block.data) :
    engine.Routine (engine.read register) :=
  .bind (.read h) fun _ => .bind routine_trace fun _ => .done _

theorem routine_update {register mask : UInt32} {fields : List Field}
    (hrow : (register, mask) ∈ engine.programmed) (hfields : ∀ field ∈ fields, field.Within mask) :
    engine.Routine (engine.update register fields) :=
  .bind (.update hrow hfields) fun _ => routine_trace

theorem routine_set (fields : List Field) :
    engine.Routine (engine.set engine.block.data fields) :=
  .bind (.fill fields) fun _ => routine_trace

/-- Putting fields of the control register in place. -/
theorem routine_control {fields : List Field} (hfields : ∀ field ∈ fields, field.Within 0xB) :
    engine.Routine (engine.update engine.block.control fields) :=
  routine_update (by simp [programmed]) hfields

/-- Routing pins. -/
theorem routine_pinSelection (clock data : UInt32) :
    engine.Routine (engine.update engine.block.pinSelection
      [Chip.clockPin.holding clock, Chip.dataPin.holding data]) :=
  routine_update (show (_, 0x7F7F) ∈ engine.programmed by simp [programmed]) (by simp +decide)

/-! ## Opening and closing -/

theorem routine_setSpeed : engine.Routine engine.setSpeed := by
  unfold setSpeed
  split
  · next divider hprescale =>
    have hrow : (engine.block.speed, 0xFFFF0003) ∈ engine.programmed := by
      simp [programmed, hprescale]
    exact routine_update hrow (by simp +decide)
  · exact .done _

theorem routine_openSession : engine.Routine engine.openSession :=
  .bind (.give nofun) fun _ =>
    .bind (routine_control (by decide)) fun _ =>
      .bind (routine_pinSelection _ _) fun _ => .bind routine_setSpeed fun _ => .done _

theorem routine_shutdown (session : Session) : engine.Routine (engine.shutdown session) :=
  .bind (routine_pinSelection _ _) fun _ =>
    .bind (routine_control (by decide)) fun _ =>
      .bind (routine_control (by decide)) fun _ => .done _

theorem routine_dropSession (session : Session) : engine.Routine (engine.dropSession session) := by
  cases hclosed : session.closed with
  | true =>
    rw [dropSession_of_closed hclosed]
    exact .give nofun
  | false =>
    rw [dropSession_of_not_closed hclosed]
    exact .bind (routine_shutdown session) fun _ => .give nofun

theorem routine_closeSession (session : Session) : engine.Routine (engine.closeSession session) :=
  .bind (routine_shutdown session) routine_dropSession

/-! ## Transactions -/

theorem routine_fillSlots (slot : UInt32) (bytes : List UInt8) :
    engine.Routine (engine.fillSlots slot bytes) := by
  induction bytes generalizing slot with
  | nil => exact .done _
  | cons byte rest ih => exact .bind (routine_set _) fun _ => ih _

theorem routine_submit (request : Request) : engine.Routine (engine.submit request) := by
  by_cases hlength : request.length < UInt32.size
  · rw [submit_eq hlength]
    have hrow : (engine.block.transaction, 0xF3301) ∈ engine.programmed := by simp [programmed]
    refine .bind (routine_update hrow (by simp +decide)) fun _ => ?_
    refine .bind (routine_set _) fun _ => ?_
    refine .bind (routine_fillSlots 1 request.payload.outgoing) fun _ => ?_
    exact .bind (routine_control (by decide)) fun _ => .done _
  · unfold submit
    rw [if_neg hlength]
    exact .done _

theorem routine_acknowledge : engine.Routine engine.acknowledge :=
  routine_update (show (_, 0x2) ∈ engine.programmed by simp [programmed]) (by decide)

theorem routine_awaitStatus (polls : Nat) : engine.Routine (engine.awaitStatus polls) := by
  induction polls with
  | zero => exact .done _
  | succ polls ih =>
    refine .bind (routine_read (.inl rfl)) fun raw => ?_
    split
    · split
      · exact .bind (.give nofun) fun _ => ih
      · exact ih
    · exact .done _

theorem routine_poll : engine.Routine engine.poll :=
  .bind (routine_awaitStatus _) fun _ => .bind routine_acknowledge fun _ => .done _

theorem routine_drainSlots (count : Nat) : engine.Routine (engine.drainSlots count) := by
  induction count with
  | zero => exact .done _
  | succ count ih =>
    refine .bind (routine_read (.inr rfl)) fun _ => ?_
    exact .bind ih fun _ => .done _

theorem routine_readReply (count : Nat) : engine.Routine (engine.readReply count) :=
  .bind (routine_set _) fun _ => .bind (routine_drainSlots count) fun _ =>
    .bind routine_acknowledge fun _ => .done _

theorem routine_collect (payload : Payload) : engine.Routine (engine.collect payload) := by
  cases payload with
  | read buffer => exact .bind (routine_readReply _) fun _ => .done _
  | empty | write data => exact .done _

theorem routine_transact (request : Request) : engine.Routine (engine.transact request) := by
  refine .bind (routine_submit request) fun result => ?_
  cases result with
  | error error => exact .done _
  | ok _ =>
    refine .bind routine_poll fun status => ?_
    cases status.toResult with
    | error error => exact .done _
    | ok _ => exact .bind (routine_collect _) fun _ => .done _

theorem routine_transact? (request : Except BusError Request) :
    engine.Routine (engine.transact? request) := by
  cases request with
  | error error => exact .done _
  | ok request => exact .bind (routine_transact request) fun _ => .done _

/-! ## Scripts -/

theorem routine_performOpen (session : Session) {step : Step} (h : step.OfSession) :
    engine.Routine (engine.performOpen session step) := by
  cases step with
  | submit request =>
    cases request with
    | error error => exact .done _
    | ok request => exact .bind (routine_submit request) fun _ => .done _
  | poll => exact .bind routine_poll fun _ => .done _
  | readReply count => exact .bind (routine_readReply count) fun _ => .done _
  | transact request => exact .bind (routine_transact? request) fun _ => .done _
  | closeSession => exact .bind (routine_closeSession session) fun _ => .done _
  | dropSession => exact .bind (routine_dropSession session) fun _ => .done _
  | log line => exact .bind (.give nofun) fun _ => .done _
  | openSession => exact .done _
  | peek _ | poke _ _ => exact h.elim

theorem routine_performIdle {step : Step} (h : step.OfSession) :
    engine.Routine (engine.performIdle step) := by
  cases step with
  | openSession => exact .bind routine_openSession fun _ => .done _
  | log line =>
    have hlog : engine.Routine (logIdle line.level line.text) :=
      .bind (.give nofun) fun _ => .bind (.give nofun) fun _ => .give nofun
    exact .bind hlog fun _ => .done _
  | peek _ | poke _ _ => exact h.elim
  | closeSession | dropSession | submit _ | poll | readReply _ | transact _ => exact .done _

/-- **All that a user does by way of a session is routine.** -/
theorem routine_performAll (opened : Option Session) {steps : List Step}
    (h : ∀ step ∈ steps, step.OfSession) : engine.Routine (engine.performAll opened steps) := by
  induction steps generalizing opened with
  | nil => exact .done _
  | cons step steps ih =>
    obtain ⟨hstep, hsteps⟩ := List.forall_mem_cons.mp h
    refine .bind ?_ fun value => .bind (ih _ hsteps) fun _ => .done _
    cases opened with
    | none => exact routine_performIdle hstep
    | some session => exact routine_performOpen session hstep

end Engine

end GpuI2c
