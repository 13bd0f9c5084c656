import GpuI2c.Proofs.Engine.Closing

/-!
# The engine lock

Opening a session takes the lock and closing it releases the lock. Nothing in between does either
(`Program.LeavesLock`), so the engine is locked while a session is open, and only then
(`tracksLock_performAll`).
-/

namespace GpuI2c

open Bus (BusError ChannelStatus Payload Request)

namespace Program

variable {α β : Type}

/-- Whatever reads answer, `p` neither takes nor releases the lock. -/
def LeavesLock : Program α → Prop
  | .done _ => True
  | .read _ next => ∀ answer, (next answer).LeavesLock
  | .command what next => (what ≠ .lock ∧ what ≠ .unlock) ∧ next.LeavesLock

theorem LeavesLock.bind {p : Program α} {f : α → Program β} (hp : p.LeavesLock)
    (hf : ∀ value, (f value).LeavesLock) : (p.bind f).LeavesLock := by
  induction p with
  | done value => exact hf value
  | read register next ih => exact fun answer => ih answer (hp answer)
  | command what next ih => exact ⟨hp.1, ih hp.2⟩

theorem locked_run {σ : Type} (device : Device σ) {p : Program α} (h : p.LeavesLock)
    (world : World σ) : (p.run device world).world.locked = world.locked := by
  induction p generalizing world with
  | done value => rfl
  | read register next ih => exact ih _ (h _) _
  | command what next ih =>
    obtain ⟨⟨hlock, hunlock⟩, hnext⟩ := h
    refine (ih hnext _).trans ?_
    cases what with
    | write register value | pause length | log line => rfl
    | lock => exact (hlock rfl).elim
    | unlock => exact (hunlock rfl).elim

end Program

namespace Engine

variable {engine : Engine}

/-! ## What a session does -/

theorem leavesLock_trace {verb : String} {register value : UInt32} :
    (engine.trace verb register value).LeavesLock :=
  ⟨⟨nofun, nofun⟩, trivial⟩

theorem leavesLock_read {register : UInt32} : (engine.read register).LeavesLock :=
  fun _ => leavesLock_trace.bind fun _ => trivial

theorem leavesLock_update {register : UInt32} {fields : List Register.Field} :
    (engine.update register fields).LeavesLock :=
  fun _ => ⟨⟨nofun, nofun⟩, leavesLock_trace⟩

theorem leavesLock_set {register : UInt32} {fields : List Register.Field} :
    (engine.set register fields).LeavesLock :=
  ⟨⟨nofun, nofun⟩, leavesLock_trace⟩

theorem leavesLock_setSpeed : engine.setSpeed.LeavesLock := by
  unfold setSpeed
  split
  · exact leavesLock_update
  · trivial

theorem leavesLock_fillSlots (slot : UInt32) (bytes : List UInt8) :
    (engine.fillSlots slot bytes).LeavesLock := by
  induction bytes generalizing slot with
  | nil => trivial
  | cons byte rest ih => exact leavesLock_set.bind fun _ => ih _

theorem leavesLock_submit (request : Request) : (engine.submit request).LeavesLock := by
  by_cases hlength : request.length < UInt32.size
  · rw [submit_eq hlength]
    exact leavesLock_update.bind fun _ => leavesLock_set.bind fun _ =>
      (leavesLock_fillSlots _ _).bind fun _ => leavesLock_update.bind fun _ => trivial
  · unfold submit
    rw [if_neg hlength]
    trivial

theorem leavesLock_awaitStatus (polls : Nat) : (engine.awaitStatus polls).LeavesLock := by
  induction polls with
  | zero => trivial
  | succ polls ih =>
    refine leavesLock_read.bind fun raw => ?_
    split
    · split
      · exact ⟨⟨nofun, nofun⟩, ih⟩
      · exact ih
    · trivial

theorem leavesLock_poll : engine.poll.LeavesLock :=
  (leavesLock_awaitStatus _).bind fun _ => leavesLock_update.bind fun _ => trivial

theorem leavesLock_drainSlots (count : Nat) : (engine.drainSlots count).LeavesLock := by
  induction count with
  | zero => trivial
  | succ count ih => exact leavesLock_read.bind fun _ => ih.bind fun _ => trivial

theorem leavesLock_readReply (count : Nat) : (engine.readReply count).LeavesLock :=
  leavesLock_set.bind fun _ => (leavesLock_drainSlots count).bind fun _ =>
    leavesLock_update.bind fun _ => trivial

theorem leavesLock_collect (payload : Payload) : (engine.collect payload).LeavesLock := by
  cases payload with
  | read buffer => exact (leavesLock_readReply _).bind fun _ => trivial
  | empty | write data => trivial

theorem leavesLock_transact (request : Request) : (engine.transact request).LeavesLock := by
  refine (leavesLock_submit request).bind fun result => ?_
  cases result with
  | error error => trivial
  | ok _ =>
    refine leavesLock_poll.bind fun status => ?_
    cases status.toResult with
    | error error => trivial
    | ok _ => exact (leavesLock_collect _).bind fun _ => trivial

theorem leavesLock_transact? (request : Except BusError Request) :
    (engine.transact? request).LeavesLock := by
  cases request with
  | error error => trivial
  | ok request => exact (leavesLock_transact request).bind fun _ => trivial

/-! ## Scripts -/

theorem locked_openSession {σ : Type} (device : Device σ) (world : World σ) :
    (engine.openSession.run device world).world.locked = true := by
  have hopening : ((engine.update engine.block.control [Chip.enable.holding 1]).bind fun _ =>
      (engine.update engine.block.pinSelection
        [Chip.clockPin.holding engine.config.clockPin.toUInt32,
         Chip.dataPin.holding engine.config.dataPin.toUInt32]).bind fun _ =>
      engine.setSpeed.bind fun _ => .done (Session.mk false)).LeavesLock :=
    leavesLock_update.bind fun _ => leavesLock_update.bind fun _ =>
      leavesLock_setSpeed.bind fun _ => trivial
  exact Program.locked_run device hopening { world with locked := true }

/-- Run while the engine is locked just if a session is `opened`, `p` leaves the engine locked if
its value says that a session is open, and unlocked if not. -/
def TracksLock {σ α : Type} (device : Device σ) (opened : Option Session)
    (p : Program (α × Option Session)) : Prop :=
  ∀ world : World σ, world.locked = opened.isSome →
    (p.run device world).world.locked = (p.run device world).value.2.isSome

variable {σ : Type} {device : Device σ}

theorem TracksLock.done {α : Type} (value : α) (opened : Option Session) :
    TracksLock device opened (.done (value, opened)) :=
  fun _ hlocked => hlocked

theorem TracksLock.of_leavesLock {α β : Type} {p : Program α} (hp : p.LeavesLock) (f : α → β)
    (opened : Option Session) :
    TracksLock device opened (p.bind fun value => .done (f value, opened)) := by
  intro world hlocked
  rw [Program.run_bind_done, Program.locked_run device hp, hlocked]

/-- A program that locks or unlocks the engine. -/
theorem TracksLock.of_locked {α β : Type} {p : Program α} {f : α → β} {after : α → Option Session}
    {locked : Bool} (hp : ∀ world, (p.run device world).world.locked = locked)
    (hafter : ∀ value, (after value).isSome = locked) (opened : Option Session) :
    TracksLock device opened (p.bind fun value => .done (f value, after value)) := by
  intro world _
  rw [Program.run_bind_done, hp, hafter]

theorem tracksLock_performOpen (session : Session) (step : Step) :
    TracksLock device (some session) (engine.performOpen session step) := by
  cases step with
  | closeSession => exact .of_locked (locked_closeSession device session) (fun _ => rfl) _
  | dropSession => exact .of_locked (locked_dropSession device session) (fun _ => rfl) _
  | submit request =>
    cases request with
    | error error => exact .done _ _
    | ok request => exact .of_leavesLock (leavesLock_submit request) _ _
  | poll => exact .of_leavesLock leavesLock_poll _ _
  | readReply count => exact .of_leavesLock (leavesLock_readReply count) _ _
  | transact request => exact .of_leavesLock (leavesLock_transact? request) _ _
  | log line =>
    exact .of_leavesLock (p := Program.give (.log line)) ⟨⟨nofun, nofun⟩, trivial⟩ _ _
  | openSession => exact .done _ _
  | peek register => exact .of_leavesLock (p := Register.read register) (fun _ => trivial) _ _
  | poke register value =>
    exact .of_leavesLock (p := Register.write register value) ⟨⟨nofun, nofun⟩, trivial⟩ _ _

theorem tracksLock_performIdle (step : Step) :
    TracksLock device none (engine.performIdle step) := by
  cases step with
  | openSession => exact .of_locked (locked_openSession device) (fun _ => rfl) _
  | log line =>
    exact .of_locked (p := logIdle line.level line.text) (fun _ => rfl) (fun _ => rfl) _
  | peek register => exact .of_leavesLock (p := Register.read register) (fun _ => trivial) _ _
  | poke register value =>
    exact .of_leavesLock (p := Register.write register value) ⟨⟨nofun, nofun⟩, trivial⟩ _ _
  | closeSession | dropSession | submit _ | poll | readReply _ | transact _ => exact .done _ _

theorem tracksLock_perform (opened : Option Session) (step : Step) :
    TracksLock device opened (engine.perform opened step) := by
  cases opened with
  | none => exact tracksLock_performIdle step
  | some session => exact tracksLock_performOpen session step

/-- **The engine is locked while a session is open, and only then**, whatever its user does. -/
theorem tracksLock_performAll (opened : Option Session) (steps : List Step) :
    TracksLock device opened (engine.performAll opened steps) := by
  induction steps generalizing opened with
  | nil => exact .done _ opened
  | cons step steps ih =>
    intro world hlocked
    have hstep : ((engine.perform opened step).run device world).world.locked =
        ((engine.perform opened step).run device world).value.2.isSome :=
      tracksLock_perform opened step world hlocked
    simp only [performAll, Program.bind_eq, Program.run_bind, Program.pure_eq_done, Program.run]
    exact ih _ _ hstep

end Engine

end GpuI2c
