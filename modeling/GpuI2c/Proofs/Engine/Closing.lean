import GpuI2c.Engine.Script
import GpuI2c.Proofs.Engine.Words

/-!
# How sessions open and close

A session starts by enabling the engine and routing its pins, and it ends with three writes that
undo this (`Shutdown`). In between no pins are selected, and the pin selection that opens a session
is not followed by a write of the control register, even where it selects no pins. So the three
writes are nowhere but at the end (`SessionWrites.of_working`).

A session ends by being closed or by being given up. Closing one gives it up in its turn, and what
keeps this from being a second shutdown is that the session remembers the first
(`dropSession_of_closed`). The main statement about the engine is `run_session`: whatever is done in
a session and whichever way it ends, it closes once.
-/

namespace GpuI2c

open Bus (BusError Payload Request)

/-! ## The registers of a transaction -/

namespace Chip.RegisterBlock

theorem Known.control_ne_pinSelection {block : RegisterBlock} (h : block.Known) :
    block.control ≠ block.pinSelection := by
  obtain rfl | rfl := h.cases <;> decide

/-- The registers that are written for the speed and for transactions are neither the control
register nor the one that selects the pins. -/
theorem Known.ne_of_transaction {block : RegisterBlock} (h : block.Known) {register : UInt32}
    (hregister : register = block.interruptControl ∨ register = block.speed ∨
      register = block.transaction ∨ register = block.data) :
    register ≠ block.pinSelection ∧ register ≠ block.control := by
  obtain rfl | rfl := h.cases <;> rcases hregister with rfl | rfl | rfl | rfl <;> decide

end Chip.RegisterBlock

/-! ## The writes of a session -/

/-- The writes that open a session, the bus speed aside: the engine is enabled, and its pins are
routed. -/
inductive Startup (engine : Engine) : List (UInt32 × UInt32) → Prop where
  | writes {control pins : UInt32} (henable : Chip.enable.extract control = 1)
      (hclock : Chip.clockPin.extract pins = Chip.clockPin.clip engine.config.clockPin.toUInt32)
      (hdata : Chip.dataPin.extract pins = Chip.dataPin.clip engine.config.dataPin.toUInt32) :
      Startup engine [(engine.block.control, control), (engine.block.pinSelection, pins)]

/-- The writes that close a session: the pins are routed away, the engine is disabled in the write
that asserts its reset, and the reset is ended. -/
inductive Shutdown (block : Chip.RegisterBlock) : List (UInt32 × UInt32) → Prop where
  | writes {pins reset release : UInt32} (hclock : Chip.clockPin.extract pins = 0)
      (hdata : Chip.dataPin.extract pins = 0) (henable : Chip.enable.extract reset = 0)
      (hreset : Chip.softReset.extract reset = 1)
      (hrelease : Chip.softReset.extract release = 0) :
      Shutdown block [(block.pinSelection, pins), (block.control, reset), (block.control, release)]

/-- The writes of a session: it opens, and it closes at the end and nowhere before. -/
structure SessionWrites (engine : Engine) (writes : List (UInt32 × UInt32)) : Prop where
  shape : ∃ opening body closing, writes = opening ++ (body ++ closing) ∧
    Startup engine opening ∧ Shutdown engine.block closing
  once : ∀ before found after, writes = before ++ (found ++ after) →
    Shutdown engine.block found → after = []

/-- Writes that select no pins, and of which the first does not go to the control register. -/
structure Working (block : Chip.RegisterBlock) (writes : List (UInt32 × UInt32)) : Prop where
  not_pins : ∀ write ∈ writes, write.1 ≠ block.pinSelection
  not_control : ∀ write ∈ writes.head?, write.1 ≠ block.control

variable {engine : Engine} {block : Chip.RegisterBlock}

theorem Working.nil : Working block [] :=
  ⟨by simp, by simp⟩

theorem Working.append {first second : List (UInt32 × UInt32)} (hfirst : Working block first)
    (hsecond : Working block second) : Working block (first ++ second) := by
  refine ⟨List.forall_mem_append.mpr ⟨hfirst.not_pins, hsecond.not_pins⟩, ?_⟩
  cases first with
  | nil => exact hsecond.not_control
  | cons write rest => exact hfirst.not_control

theorem Working.cons {register value : UInt32} {rest : List (UInt32 × UInt32)}
    (hpins : register ≠ block.pinSelection) (hcontrol : register ≠ block.control)
    (hrest : ∀ write ∈ rest, write.1 ≠ block.pinSelection) :
    Working block ((register, value) :: rest) := by
  refine ⟨List.forall_mem_cons.mpr ⟨hpins, hrest⟩, ?_⟩
  intro write hwrite
  obtain rfl : (register, value) = write := by simpa using hwrite
  exact hcontrol

theorem Shutdown.length_eq {writes : List (UInt32 × UInt32)} (h : Shutdown block writes) :
    writes.length = 3 := by
  cases h
  rfl

/-- Behind writes that select no pins, only the last three writes can close a session. -/
theorem Shutdown.eq_nil_of_append {body closing before found after : List (UInt32 × UInt32)}
    (hbody : ∀ write ∈ body, write.1 ≠ block.pinSelection) (hclosing : Shutdown block closing)
    (hfound : Shutdown block found) (h : body ++ closing = before ++ (found ++ after)) :
    after = [] := by
  induction body generalizing before with
  | nil =>
    have hlength := congrArg List.length h
    rw [List.nil_append, List.length_append, List.length_append, hclosing.length_eq,
      hfound.length_eq] at hlength
    exact List.length_eq_zero_iff.mp (by omega)
  | cons write body ih =>
    obtain ⟨hwrite, hbody⟩ := List.forall_mem_cons.mp hbody
    cases before with
    | nil =>
      cases hfound
      obtain ⟨rfl, -⟩ := List.cons.inj h
      exact (hwrite rfl).elim
    | cons _ before =>
      obtain ⟨-, h⟩ := List.cons.inj h
      exact ih hbody h

/-- **A session closes at its end and nowhere before.** -/
theorem SessionWrites.of_working (hblock : engine.block.Known)
    {opening body closing : List (UInt32 × UInt32)} (hopening : Startup engine opening)
    (hbody : Working engine.block body) (hclosing : Shutdown engine.block closing) :
    SessionWrites engine (opening ++ (body ++ closing)) := by
  refine ⟨⟨opening, body, closing, rfl, hopening, hclosing⟩, fun before found after h hfound => ?_⟩
  have hne := hblock.control_ne_pinSelection
  obtain ⟨henable, hclock, hdata⟩ := hopening
  match before, h with
  | [], h =>
    cases hfound
    obtain ⟨hfirst, -⟩ := List.cons.inj h
    exact (hne (congrArg Prod.fst hfirst)).elim
  | [_], h =>
    -- The pin selection of the opening is not followed by a write of the control register.
    cases hfound with | @writes pins reset release _ _ _ _ _ =>
    obtain ⟨-, h⟩ := List.cons.inj h
    obtain ⟨-, h⟩ := List.cons.inj h
    cases body with
    | nil =>
      cases hclosing
      obtain ⟨hfirst, -⟩ := List.cons.inj h
      exact (hne (congrArg Prod.fst hfirst).symm).elim
    | cons write body =>
      obtain ⟨rfl, -⟩ := List.cons.inj h
      exact (hbody.not_control _ rfl rfl).elim
  | _ :: _ :: before, h =>
    obtain ⟨-, h⟩ := List.cons.inj h
    obtain ⟨-, h⟩ := List.cons.inj h
    exact Shutdown.eq_nil_of_append hbody.not_pins hclosing hfound h

/-! ## Programs inside a session -/

/-- Whatever reads answer, the writes of `p` neither select pins nor start at the control
register. -/
def Program.Works {α : Type} (block : Chip.RegisterBlock) (p : Program α) : Prop :=
  ∀ acts value, p.Performs acts value → Working block (writesOf acts)

theorem Program.Works.done {α : Type} (value : α) : (Program.done value).Works block := by
  rintro _ _ ⟨rfl, -⟩
  exact .nil

theorem Program.Works.bind {α β : Type} {p : Program α} {f : α → Program β} (hp : p.Works block)
    (hf : ∀ value, (f value).Works block) : (p.bind f).Works block := by
  intro acts result h
  obtain ⟨value, before, after, rfl, hbefore, hafter⟩ := Program.performs_bind.mp h
  rw [writesOf_append]
  exact (hp _ _ hbefore).append (hf value _ _ hafter)

theorem Program.Works.log {level : LogLevel} {text : String} :
    (Program.log level text).Works block := by
  rintro _ _ ⟨_, rfl, rfl, -⟩
  exact .nil

theorem writesOf_of_onlyReads {register : UInt32} {acts : List Act}
    (h : ∀ act ∈ acts, OnlyReads register act) : writesOf acts = [] := by
  induction acts with
  | nil => rfl
  | cons act acts ih =>
    obtain ⟨hact, hacts⟩ := List.forall_mem_cons.mp h
    cases act with
    | read other value => exact ih hacts
    | write other value => exact hact.elim
    | pause length => exact ih hacts

theorem writesOf_reads (register : UInt32) (raws : List UInt32) :
    writesOf (raws.map (.read register)) = [] := by
  induction raws with
  | nil => rfl
  | cons raw raws ih => exact ih

namespace Engine

theorem writesOf_slotActs (slot : UInt32) (bytes : List UInt8) :
    ∀ write ∈ writesOf (engine.slotActs slot bytes), write.1 = engine.block.data := by
  induction bytes generalizing slot with
  | nil => exact List.forall_mem_nil _
  | cons byte rest ih =>
    rw [slotActs, writesOf_write, List.forall_mem_cons]
    exact ⟨rfl, ih (slot + 1)⟩

theorem works_setSpeed (hblock : engine.block.Known) : engine.setSpeed.Works engine.block := by
  intro acts _ h
  obtain rfl | ⟨raw, word, rfl⟩ := performs_setSpeed h
  · exact .nil
  · obtain ⟨hpins, hcontrol⟩ := hblock.ne_of_transaction (.inr (.inl rfl))
    exact .cons hpins hcontrol (List.forall_mem_nil _)

theorem works_submit (hblock : engine.block.Known) (request : Request) :
    (engine.submit request).Works engine.block := by
  intro acts result h
  by_cases hlength : request.length < UInt32.size
  · obtain ⟨-, setup, control, rfl⟩ := performs_submit hlength h
    obtain ⟨hpins, hcontrol⟩ := hblock.ne_of_transaction (.inr (.inr (.inl rfl)))
    obtain ⟨hdata, -⟩ := hblock.ne_of_transaction (.inr (.inr (.inr rfl)))
    have hslots : ∀ write ∈ writesOf (engine.slotActs 1 request.payload.outgoing),
        write.1 ≠ engine.block.pinSelection := by
      intro write hwrite
      rw [writesOf_slotActs 1 request.payload.outgoing write hwrite]
      exact hdata
    simp only [submitActs, writesOf_append, writesOf_read, writesOf_write, writesOf_nil,
      List.cons_append, List.nil_append]
    refine .cons hpins hcontrol (List.forall_mem_cons.mpr ⟨hdata, ?_⟩)
    exact List.forall_mem_append.mpr
      ⟨hslots, List.forall_mem_singleton.mpr hblock.control_ne_pinSelection⟩
  · rw [submit, if_neg hlength] at h
    obtain ⟨rfl, -⟩ := h
    exact .nil

theorem works_acknowledge (hblock : engine.block.Known) :
    engine.acknowledge.Works engine.block := by
  intro acts _ h
  obtain ⟨raw, rfl⟩ := performs_acknowledge.mp h
  obtain ⟨hpins, hcontrol⟩ := hblock.ne_of_transaction (.inl rfl)
  exact .cons hpins hcontrol (List.forall_mem_nil _)

theorem works_poll (hblock : engine.block.Known) : engine.poll.Works engine.block := by
  refine .bind ?_ fun _ => .bind (works_acknowledge hblock) fun _ => .done _
  intro acts status h
  rw [writesOf_of_onlyReads (performs_awaitStatus h).2]
  exact .nil

theorem works_readReply (hblock : engine.block.Known) (count : Nat) :
    (engine.readReply count).Works engine.block := by
  refine .bind ?_ fun _ => .bind ?_ fun _ => .bind (works_acknowledge hblock) fun _ => .done _
  · intro acts _ h
    obtain rfl := performs_set.mp h
    obtain ⟨hpins, hcontrol⟩ := hblock.ne_of_transaction (.inr (.inr (.inr rfl)))
    exact .cons hpins hcontrol (List.forall_mem_nil _)
  · intro acts bytes h
    obtain ⟨raws, -, rfl, -⟩ := performs_drainSlots h
    rw [writesOf_reads]
    exact .nil

theorem works_collect (hblock : engine.block.Known) (payload : Payload) :
    (engine.collect payload).Works engine.block := by
  cases payload with
  | read buffer => exact .bind (works_readReply hblock _) fun _ => .done _
  | empty | write data => exact .done _

theorem works_transact (hblock : engine.block.Known) (request : Request) :
    (engine.transact request).Works engine.block := by
  refine .bind (works_submit hblock request) fun result => ?_
  cases result with
  | error error => exact .done _
  | ok _ =>
    refine .bind (works_poll hblock) fun status => ?_
    cases status.toResult with
    | error error => exact .done _
    | ok _ => exact .bind (works_collect hblock _) fun _ => .done _

theorem works_transact? (hblock : engine.block.Known) (request : Except BusError Request) :
    (engine.transact? request).Works engine.block := by
  cases request with
  | error error => exact .done _
  | ok request => exact .bind (works_transact hblock request) fun _ => .done _

/-! ## Opening and closing -/

theorem startup_openSession {acts : List Act} {session : Session}
    (h : engine.openSession.Performs acts session) :
    ∃ opening speed, writesOf acts = opening ++ writesOf speed ∧ Startup engine opening ∧
      engine.setSpeed.Performs speed () := by
  obtain ⟨-, control, pins, speed, rfl, hspeed⟩ := performs_openSession h
  refine ⟨_, speed, writesOf_append _ _, ?_, hspeed⟩
  exact .writes (enable_enableWord control) (clockPin_pinWord _ _ pins) (dataPin_pinWord _ _ pins)

/-- A shutdown writes what closes a session. -/
theorem IsShutdown.writes {acts : List Act} (h : engine.IsShutdown acts) :
    Shutdown engine.block (writesOf acts) := by
  obtain ⟨pins, control, control', rfl⟩ := h
  have hclock : Chip.clockPin.extract (pinWord 0 0 pins) = 0 := by
    rw [clockPin_pinWord]
    decide
  have hdata : Chip.dataPin.extract (pinWord 0 0 pins) = 0 := by
    rw [dataPin_pinWord]
    decide
  exact .writes hclock hdata (enable_resetWord control) (softReset_resetWord control)
    (softReset_releaseWord control')

/-- Opening, working and shutting down make a session. -/
theorem sessionWrites_of_performs (hblock : engine.block.Known) {opening body closing : List Act}
    {session : Session} (hopen : engine.openSession.Performs opening session)
    (hbody : Working engine.block (writesOf body)) (hclose : engine.IsShutdown closing) :
    SessionWrites engine (writesOf (opening ++ (body ++ closing))) := by
  obtain ⟨start, speed, hwrites, hstart, hspeed⟩ := startup_openSession hopen
  have hworking : Working engine.block (writesOf speed ++ writesOf body) :=
    (works_setSpeed hblock speed () hspeed).append hbody
  rw [writesOf_append, writesOf_append, hwrites, List.append_assoc,
    ← List.append_assoc (writesOf speed)]
  exact .of_working hblock hstart hworking hclose.writes

theorem locked_dropSession {σ : Type} (device : Device σ) (session : Session) (world : World σ) :
    ((engine.dropSession session).run device world).world.locked = false := by
  cases hclosed : session.closed with
  | true =>
    rw [dropSession_of_closed hclosed]
    rfl
  | false =>
    rw [dropSession_of_not_closed hclosed, Program.run_bind]
    rfl

theorem locked_closeSession {σ : Type} (device : Device σ) (session : Session) (world : World σ) :
    ((engine.closeSession session).run device world).world.locked = false := by
  rw [closeSession, Program.bind_eq, Program.run_bind]
  exact locked_dropSession device _ _

theorem closed_openSession {σ : Type} (device : Device σ) (hblock : engine.block.Known)
    (world : World σ) : (engine.openSession.run device world).value.closed = false :=
  (performs_openSession (performs_actsOf device hblock keeps_openSession world)).1

/-! ## Scripts -/

/-- The steps that make use of an open session. -/
def Step.IsUse : Step → Prop
  | .submit _ | .poll | .readReply _ | .transact _ => True
  | _ => False

/-- The steps that end a session. -/
def Step.IsEnding : Step → Prop
  | .closeSession | .dropSession => True
  | _ => False

/-- The steps that reach registers only by way of a session. -/
def Step.OfSession : Step → Prop
  | .peek _ | .poke .. => False
  | _ => True

theorem Step.IsUse.ofSession {step : Step} (h : step.IsUse) : step.OfSession := by
  cases step <;> trivial

theorem Step.IsEnding.ofSession {step : Step} (h : step.IsEnding) : step.OfSession := by
  cases step <;> trivial

theorem performAll_append (opened : Option Session) (first second : List Step) :
    engine.performAll opened (first ++ second) =
      (engine.performAll opened first).bind fun value =>
        (engine.performAll value.2 second).bind fun value' =>
          .done (value.1 ++ value'.1, value'.2) := by
  induction first generalizing opened with
  | nil => exact (Program.bind_done _).symm
  | cons step first ih =>
    simp only [List.cons_append, performAll, Program.bind_eq, Program.bind_assoc, ih,
      Program.pure_eq_done, Program.done_bind]

theorem working_of_performs_bind {α β : Type} {p : Program α} (hp : p.Works block) {f : α → β}
    {session : Session} {acts : List Act} {value : β × Option Session}
    (h : (p.bind fun result => .done (f result, some session)).Performs acts value) :
    Working block (writesOf acts) ∧ value.2 = some session := by
  obtain ⟨result, before, _, rfl, hbefore, rfl, rfl⟩ := Program.performs_bind.mp h
  rw [List.append_nil]
  exact ⟨hp _ _ hbefore, rfl⟩

/-- Using a session works inside it and leaves it open. -/
theorem working_performOpen (hblock : engine.block.Known) {session : Session} {step : Step}
    (h : step.IsUse) {acts : List Act} {value : Except Refusal Answer × Option Session}
    (hrun : (engine.performOpen session step).Performs acts value) :
    Working engine.block (writesOf acts) ∧ value.2 = some session := by
  cases step with
  | submit request =>
    cases request with
    | error error =>
      obtain ⟨rfl, rfl⟩ := hrun
      exact ⟨.nil, rfl⟩
    | ok request => exact working_of_performs_bind (works_submit hblock request) hrun
  | poll => exact working_of_performs_bind (works_poll hblock) hrun
  | readReply count => exact working_of_performs_bind (works_readReply hblock count) hrun
  | transact request => exact working_of_performs_bind (works_transact? hblock request) hrun
  | openSession | closeSession | dropSession | log _ | peek _ | poke _ _ => exact h.elim

theorem working_performAll (hblock : engine.block.Known) {session : Session} {steps : List Step}
    (h : ∀ step ∈ steps, step.IsUse) {acts : List Act}
    {value : List (Except Refusal Answer) × Option Session}
    (hrun : (engine.performAll (some session) steps).Performs acts value) :
    Working engine.block (writesOf acts) ∧ value.2 = some session := by
  induction steps generalizing acts value with
  | nil =>
    obtain ⟨rfl, rfl⟩ := hrun
    exact ⟨.nil, rfl⟩
  | cons step steps ih =>
    obtain ⟨hstep, hsteps⟩ := List.forall_mem_cons.mp h
    simp only [performAll, perform, Program.bind_eq, Program.performs_bind,
      Program.pure_eq_done, Program.performs_done] at hrun
    obtain ⟨first, before, _, rfl, hfirst, rest, after, _, rfl, hrest, rfl, rfl⟩ := hrun
    obtain ⟨hbefore, hopen⟩ := working_performOpen hblock hstep hfirst
    rw [hopen] at hrest
    obtain ⟨hafter, hstill⟩ := ih hsteps hrest
    rw [List.append_nil, writesOf_append]
    exact ⟨hbefore.append hafter, hstill⟩

/-- Whichever way a session ends that was not shut down, this closes it once and uses it up. -/
theorem performOpen_ending {session : Session} (hclosed : session.closed = false) {ending : Step}
    (h : ending.IsEnding) : engine.performOpen session ending =
      (engine.closeSession session).bind fun _ => .done (.ok .done, none) := by
  cases ending with
  | closeSession => rfl
  | dropSession =>
    rw [closeSession_eq_dropSession hclosed]
    rfl
  | _ => exact h.elim

/-- A session that is opened, used and ended is these three programs in sequence. -/
theorem performAll_session (steps : List Step) (ending : Step) :
    engine.performAll none (.openSession :: (steps ++ [ending])) =
      engine.openSession.bind fun session => (engine.performAll (some session) steps).bind
        fun value => (engine.perform value.2 ending).bind
          fun value' => .done (.ok .done :: (value.1 ++ [value'.1]), value'.2) := by
  simp [performAll, perform, performIdle, performAll_append, Program.bind_assoc]

/-! ## Keeping to the block -/

theorem keeps_performOpen (session : Session) {step : Step} (h : step.OfSession) :
    (engine.performOpen session step).Keeps (OnBlock engine.block) := by
  cases step with
  | submit request =>
    cases request with
    | error error => trivial
    | ok request => exact Program.Keeps.bind (keeps_submit request) fun _ => trivial
  | poll => exact Program.Keeps.bind keeps_poll fun _ => trivial
  | readReply count => exact Program.Keeps.bind (keeps_readReply count) fun _ => trivial
  | transact request => exact Program.Keeps.bind (keeps_transact? request) fun _ => trivial
  | closeSession => exact Program.Keeps.bind (keeps_closeSession session) fun _ => trivial
  | dropSession => exact Program.Keeps.bind (keeps_dropSession session) fun _ => trivial
  | log line => exact Program.Keeps.bind (keeps_give rfl) fun _ => trivial
  | openSession => trivial
  | peek _ | poke _ _ => exact h.elim

theorem keeps_logIdle (level : LogLevel) (text : String) :
    (logIdle level text).Keeps (OnBlock engine.block) :=
  Program.Keeps.bind (keeps_give rfl) fun _ =>
    Program.Keeps.bind (keeps_give rfl) fun _ => keeps_give rfl

theorem keeps_performIdle {step : Step} (h : step.OfSession) :
    (engine.performIdle step).Keeps (OnBlock engine.block) := by
  cases step with
  | openSession => exact Program.Keeps.bind keeps_openSession fun _ => trivial
  | log line => exact Program.Keeps.bind (keeps_logIdle _ _) fun _ => trivial
  | peek _ | poke _ _ => exact h.elim
  | closeSession | dropSession | submit _ | poll | readReply _ | transact _ => trivial

theorem keeps_perform (opened : Option Session) {step : Step} (h : step.OfSession) :
    (engine.perform opened step).Keeps (OnBlock engine.block) := by
  cases opened with
  | none => exact keeps_performIdle h
  | some session => exact keeps_performOpen session h

theorem keeps_performAll (opened : Option Session) {steps : List Step}
    (h : ∀ step ∈ steps, step.OfSession) :
    (engine.performAll opened steps).Keeps (OnBlock engine.block) := by
  induction steps generalizing opened with
  | nil => trivial
  | cons step steps ih =>
    obtain ⟨hstep, hsteps⟩ := List.forall_mem_cons.mp h
    exact Program.Keeps.bind (keeps_perform opened hstep) fun _ =>
      Program.Keeps.bind (ih _ hsteps) fun _ => trivial

/-! ## Closing -/

/-- **A session closes once**, whatever is done in it and whichever way it ends, and leaves the
engine unlocked. -/
theorem run_session {σ : Type} (device : Device σ) (world : World σ)
    (hblock : engine.block.Known) {steps : List Step} (hsteps : ∀ step ∈ steps, step.IsUse)
    {ending : Step} (h : ending.IsEnding) :
    let outcome := (engine.performAll none (.openSession :: (steps ++ [ending]))).run device world
    SessionWrites engine (writesOf (actsOf outcome.events)) ∧
      outcome.value.2 = none ∧ outcome.world.locked = false := by
  intro outcome
  have hplain : ∀ step ∈ .openSession :: (steps ++ [ending]), step.OfSession := by
    refine List.forall_mem_cons.mpr ⟨trivial, List.forall_mem_append.mpr ⟨?_, ?_⟩⟩
    · exact fun step hstep => (hsteps step hstep).ofSession
    · exact List.forall_mem_singleton.mpr h.ofSession
  constructor
  · have hperforms : (engine.performAll none (.openSession :: (steps ++ [ending]))).Performs
        (actsOf outcome.events) outcome.value :=
      performs_actsOf device hblock (keeps_performAll none hplain) world
    rw [performAll_session] at hperforms
    simp only [Program.performs_bind, Program.performs_done] at hperforms
    obtain ⟨session, opening, _, hacts, hopen, used, body, _, rfl, hbody, ended, closing, _, rfl,
      hclose, rfl, -⟩ := hperforms
    obtain ⟨hworking, hstill⟩ := working_performAll hblock hsteps hbody
    rw [hstill, perform, performOpen_ending (performs_openSession hopen).1 h,
      Program.performs_bind] at hclose
    obtain ⟨_, acts, _, rfl, hclose, rfl, -⟩ := hclose
    rw [hacts, List.append_nil, List.append_nil]
    exact sessionWrites_of_performs hblock hopen hworking (performs_closeSession hclose)
  · show ((engine.performAll none (.openSession :: (steps ++ [ending]))).run device world).value.2 =
        none ∧ ((engine.performAll none (.openSession :: (steps ++ [ending]))).run device
          world).world.locked = false
    have hstill (session : Session) (world' : World σ) :
        ((engine.performAll (some session) steps).run device world').value.2 = some session :=
      (working_performAll hblock hsteps (performs_actsOf device hblock
        (keeps_performAll _ fun step hstep => (hsteps step hstep).ofSession) world')).2
    simp only [performAll_session, Program.run_bind, Program.run, hstill, perform,
      performOpen_ending (closed_openSession device hblock world) h, locked_closeSession, and_self]

end Engine

end GpuI2c
