import GpuI2c.Proofs.Device.Contents
import GpuI2c.Proofs.Engine.Lock

/-!
# The engine between opening and closing

On a device that remembers, the registers say at any time whether a session is open: while one is,
the engine is enabled and its pins are routed (`Engaged`), and once one has been closed it is
neither until the next one opens (`AtRest`). The operations of a session keep the former from act to
act, and start transactions that are set up as they should be (`Program.Guarded`).

The main statement is `session_safety`. Opening and closing change single fields of the control
register and write back what they read of the others. So where the bit that started a transaction
still reads as one, it is written once more, and this while the engine is on its way in or out.
-/

namespace GpuI2c

open Register (Field)
open Bus (BusError ChannelStatus Payload Request)

/-! ## What registers hold -/

/-- The engine is enabled, and its pins are routed. -/
structure Engaged (engine : Engine) (held : Contents) : Prop where
  enable : Chip.enable.extract (held engine.block.control) = 1
  clockPin : Chip.clockPin.extract (held engine.block.pinSelection) =
    0x7F &&& engine.config.clockPin.toUInt32
  dataPin : Chip.dataPin.extract (held engine.block.pinSelection) =
    0x7F &&& engine.config.dataPin.toUInt32

/-- The engine is disabled and not in reset, and no pins are routed. -/
structure AtRest (block : Chip.RegisterBlock) (held : Contents) : Prop where
  enable : Chip.enable.extract (held block.control) = 0
  softReset : Chip.softReset.extract (held block.control) = 0
  clockPin : Chip.clockPin.extract (held block.pinSelection) = 0
  dataPin : Chip.dataPin.extract (held block.pinSelection) = 0

/-- The engine is engaged, and a transaction is set up: it has a start and a stop, stops where it is
not acknowledged, and acknowledges nothing that it reads. -/
structure Armed (engine : Engine) (held : Contents) : Prop extends Engaged engine held where
  start : Chip.start.extract (held engine.block.transaction) = 1
  stop : Chip.stop.extract (held engine.block.transaction) = 1
  stopOnNack : Chip.stopOnNack.extract (held engine.block.transaction) = 1
  ackOnRead : Chip.ackOnRead.extract (held engine.block.transaction) = 0

/-- A write of the control register with the bit that starts a transaction. -/
def WritesGo (block : Chip.RegisterBlock) : Act → Prop
  | .write register value => register = block.control ∧ Chip.go.extract value = 1
  | .read .. | .pause _ => False

/-- The act leaves the engine engaged, and armed if it writes the bit that starts a transaction. -/
def Secure (engine : Engine) (held : Contents) (act : Act) : Prop :=
  Engaged engine (held.afterAct act) ∧
    (WritesGo engine.block act → Armed engine (held.afterAct act))

/-- The act writes the bit that starts a transaction only where it is held already. -/
def CarriesOver (block : Chip.RegisterBlock) (held : Contents) (act : Act) : Prop :=
  WritesGo block act → Chip.go.extract (held block.control) = 1

variable {engine : Engine} {block : Chip.RegisterBlock} {held : Contents}

/-- Contents that agree on the control register and on the pins engage the engine alike. -/
theorem Engaged.of_eq {held' : Contents} (h : Engaged engine held)
    (hcontrol : held' engine.block.control = held engine.block.control)
    (hpins : held' engine.block.pinSelection = held engine.block.pinSelection) :
    Engaged engine held' := by
  refine ⟨?_, ?_, ?_⟩
  · rw [hcontrol, h.enable]
  · rw [hpins, h.clockPin]
  · rw [hpins, h.dataPin]

theorem Engaged.after {acts : List Act} (h : Engaged engine held)
    (hacts : held.Always (Secure engine) acts) : Engaged engine (held.after acts) := by
  induction acts generalizing held with
  | nil => exact h
  | cons act acts ih =>
    obtain ⟨hact, hrest⟩ := Contents.always_cons.mp hacts
    exact ih hact.1 hrest

/-- In a session, a write aside from the control register and the pins is secure. -/
theorem secure_write {register : UInt32} (value : UInt32) (h : Engaged engine held)
    (hpins : register ≠ engine.block.pinSelection) (hcontrol : register ≠ engine.block.control) :
    Secure engine held (.write register value) := by
  refine ⟨h.of_eq ?_ ?_, fun hgo => (hcontrol hgo.1).elim⟩
  · exact Function.update_of_ne hcontrol.symm _ _
  · exact Function.update_of_ne hpins.symm _ _

theorem always_secure {acts : List Act} (h : Engaged engine held)
    (haside : ∀ write ∈ writesOf acts,
      write.1 ≠ engine.block.pinSelection ∧ write.1 ≠ engine.block.control) :
    held.Always (Secure engine) acts := by
  induction acts generalizing held with
  | nil => exact Contents.always_nil
  | cons act acts ih =>
    rw [Contents.always_cons]
    cases act with
    | read register value => exact ⟨⟨h, False.elim⟩, ih h haside⟩
    | pause length => exact ⟨⟨h, False.elim⟩, ih h haside⟩
    | write register value =>
      obtain ⟨⟨hpins, hcontrol⟩, hrest⟩ := List.forall_mem_cons.mp haside
      have hwrite : Secure engine held (.write register value) :=
        secure_write value h hpins hcontrol
      exact ⟨hwrite, ih hwrite.1 hrest⟩

/-! ## Programs inside a session -/

/-- Whatever reads answer, as long as they give what is held, `p` keeps the engine engaged and
starts only transactions that are set up. -/
def Program.Guarded {α : Type} (engine : Engine) (p : Program α) : Prop :=
  ∀ held acts value, Engaged engine held → p.Performs acts value →
    ReadsBack engine.block.control held acts → held.Always (Secure engine) acts

namespace Program.Guarded

variable {α β : Type}

theorem done (value : α) : (Program.done value).Guarded engine := by
  rintro held _ _ - ⟨rfl, -⟩ -
  exact Contents.always_nil

theorem bind {p : Program α} {f : α → Program β} (hp : p.Guarded engine)
    (hf : ∀ value, (f value).Guarded engine) : (p.bind f).Guarded engine := by
  intro held acts result hengaged h hreads
  obtain ⟨value, before, after, rfl, hbefore, hafter⟩ := Program.performs_bind.mp h
  obtain ⟨hfirst, hsecond⟩ := Contents.always_append.mp hreads
  have hsecure : held.Always (Secure engine) before := hp held _ _ hengaged hbefore hfirst
  exact Contents.always_append.mpr
    ⟨hsecure, hf value _ _ _ (hengaged.after hsecure) hafter hsecond⟩

/-- So does a program that writes neither the control register nor the pins. -/
theorem of_aside {p : Program α}
    (h : ∀ acts value, p.Performs acts value → ∀ write ∈ writesOf acts,
      write.1 ≠ engine.block.pinSelection ∧ write.1 ≠ engine.block.control) :
    p.Guarded engine :=
  fun _ acts value hengaged hperforms _ => always_secure hengaged (h acts value hperforms)

end Program.Guarded

theorem Chip.RegisterBlock.Known.transaction_ne_data {block : RegisterBlock} (h : block.Known) :
    block.transaction ≠ block.data := by
  obtain rfl | rfl := h.cases <;> decide

namespace Engine

/-! ## Submitting -/

/-- What submitting a request does before it starts the transaction. -/
def prepareActs (engine : Engine) (request : Request) (setup : UInt32) : List Act :=
  [.read engine.block.transaction setup,
    .write engine.block.transaction (setupWord request setup),
    .write engine.block.data (addressWord request)] ++
  engine.slotActs 1 request.payload.outgoing

theorem submitActs_eq (request : Request) (setup control : UInt32) :
    engine.submitActs request setup control = engine.prepareActs request setup ++
      [.read engine.block.control control, .write engine.block.control (goWord control)] := rfl

theorem aside_prepareActs (hblock : engine.block.Known) (request : Request) (setup : UInt32) :
    ∀ write ∈ writesOf (engine.prepareActs request setup),
      write.1 ≠ engine.block.pinSelection ∧ write.1 ≠ engine.block.control := by
  have hdata := hblock.ne_of_transaction (.inr (.inr (.inr rfl)))
  refine List.forall_mem_cons.mpr ⟨hblock.ne_of_transaction (.inr (.inr (.inl rfl))), ?_⟩
  refine List.forall_mem_cons.mpr ⟨hdata, fun write hwrite => ?_⟩
  rw [writesOf_slotActs 1 request.payload.outgoing write hwrite]
  exact hdata

theorem transaction_after_prepareActs (hblock : engine.block.Known) (request : Request)
    (setup : UInt32) (held : Contents) :
    held.after (engine.prepareActs request setup) engine.block.transaction =
      setupWord request setup := by
  have hslots : ∀ write ∈ writesOf (engine.slotActs 1 request.payload.outgoing),
      write.1 ≠ engine.block.transaction := by
    intro write hwrite
    rw [writesOf_slotActs 1 request.payload.outgoing write hwrite]
    exact hblock.transaction_ne_data.symm
  simp only [prepareActs, Contents.after_append, Contents.after_read, Contents.after_write,
    Contents.after_nil]
  rw [Contents.after_of_not_written hslots, Function.update_of_ne hblock.transaction_ne_data,
    Function.update_self]

/-- Starting a prepared transaction arms the engine. -/
theorem armed_goWord (hblock : engine.block.Known) (hengaged : Engaged engine held)
    {request : Request} {setup control : UInt32}
    (htransaction : held engine.block.transaction = setupWord request setup)
    (hcontrol : MayRead engine.block.control held engine.block.control control) :
    Armed engine (Function.update held engine.block.control (goWord control)) := by
  have hpins : Function.update held engine.block.control (goWord control)
      engine.block.pinSelection = held engine.block.pinSelection :=
    Function.update_of_ne hblock.control_ne_pinSelection.symm _ _
  have hword : Function.update held engine.block.control (goWord control)
      engine.block.transaction = setupWord request setup := by
    rw [Function.update_of_ne (hblock.ne_of_transaction (.inr (.inr (.inl rfl)))).2, htransaction]
  obtain ⟨hstart, hstop, hnack, hack⟩ := framing_setupWord request setup
  rw [← hword] at hstart hstop hnack hack
  refine ⟨⟨?_, ?_, ?_⟩, hstart, hstop, hnack, hack⟩
  · rw [Function.update_self, enable_goWord, hcontrol.extract_eq (by decide), hengaged.enable]
  · rw [hpins, hengaged.clockPin]
  · rw [hpins, hengaged.dataPin]

theorem guarded_submit (hblock : engine.block.Known) (request : Request) :
    (engine.submit request).Guarded engine := by
  intro held acts result hengaged h hreads
  by_cases hlength : request.length < UInt32.size
  · obtain ⟨-, setup, control, rfl⟩ := performs_submit hlength h
    rw [submitActs_eq] at hreads ⊢
    have hsecure := always_secure hengaged (aside_prepareActs hblock request setup)
    have hready := hengaged.after hsecure
    obtain ⟨hcontrol, -⟩ := Contents.always_cons.mp (Contents.always_append.mp hreads).2
    have harmed := armed_goWord hblock hready
      (transaction_after_prepareActs hblock request setup held) hcontrol
    rw [Contents.always_append, Contents.always_cons, Contents.always_cons]
    exact ⟨hsecure, ⟨hready, False.elim⟩, ⟨harmed.toEngaged, fun _ => harmed⟩, Contents.always_nil⟩
  · rw [submit, if_neg hlength] at h
    obtain ⟨rfl, -⟩ := h
    exact Contents.always_nil

/-! ## The other operations -/

theorem guarded_acknowledge (hblock : engine.block.Known) :
    engine.acknowledge.Guarded engine := by
  refine .of_aside fun acts _ h => ?_
  obtain ⟨raw, rfl⟩ := performs_acknowledge.mp h
  exact List.forall_mem_singleton.mpr (hblock.ne_of_transaction (.inl rfl))

theorem guarded_poll (hblock : engine.block.Known) : engine.poll.Guarded engine := by
  refine .bind (.of_aside fun acts status h => ?_) fun _ =>
    .bind (guarded_acknowledge hblock) fun _ => .done _
  rw [writesOf_of_onlyReads (performs_awaitStatus h).2]
  exact List.forall_mem_nil _

theorem guarded_readReply (hblock : engine.block.Known) (count : Nat) :
    (engine.readReply count).Guarded engine := by
  refine .bind (.of_aside fun acts _ h => ?_) fun _ => .bind (.of_aside fun acts bytes h => ?_)
    fun _ => .bind (guarded_acknowledge hblock) fun _ => .done _
  · obtain rfl := performs_set.mp h
    exact List.forall_mem_singleton.mpr (hblock.ne_of_transaction (.inr (.inr (.inr rfl))))
  · obtain ⟨raws, -, rfl, -⟩ := performs_drainSlots h
    rw [writesOf_reads]
    exact List.forall_mem_nil _

theorem guarded_collect (hblock : engine.block.Known) (payload : Payload) :
    (engine.collect payload).Guarded engine := by
  cases payload with
  | read buffer => exact .bind (guarded_readReply hblock _) fun _ => .done _
  | empty | write data => exact .done _

theorem guarded_transact (hblock : engine.block.Known) (request : Request) :
    (engine.transact request).Guarded engine := by
  refine .bind (guarded_submit hblock request) fun result => ?_
  cases result with
  | error error => exact .done _
  | ok _ =>
    refine .bind (guarded_poll hblock) fun status => ?_
    cases status.toResult with
    | error error => exact .done _
    | ok _ => exact .bind (guarded_collect hblock _) fun _ => .done _

theorem guarded_transact? (hblock : engine.block.Known) (request : Except BusError Request) :
    (engine.transact? request).Guarded engine := by
  cases request with
  | error error => exact .done _
  | ok request => exact .bind (guarded_transact hblock request) fun _ => .done _

theorem guarded_performOpen (hblock : engine.block.Known) (session : Session) {step : Step}
    (h : step.IsUse) : (engine.performOpen session step).Guarded engine := by
  cases step with
  | submit request =>
    cases request with
    | error error => exact .done _
    | ok request => exact .bind (guarded_submit hblock request) fun _ => .done _
  | poll => exact .bind (guarded_poll hblock) fun _ => .done _
  | readReply count => exact .bind (guarded_readReply hblock count) fun _ => .done _
  | transact request => exact .bind (guarded_transact? hblock request) fun _ => .done _
  | openSession | closeSession | dropSession | log _ | peek _ | poke _ _ => exact h.elim

/-! ## Opening and closing -/

theorem carriesOver_of_ne {register : UInt32} (value : UInt32) (h : register ≠ block.control) :
    CarriesOver block held (.write register value) :=
  fun hgo => (h hgo.1).elim

/-- A control word that keeps the bit it was read with carries it over. -/
theorem carriesOver_of_go_eq {word raw : UInt32}
    (hword : Chip.go.extract word = Chip.go.extract raw)
    (hraw : MayRead block.control held block.control raw) :
    CarriesOver block held (.write block.control word) :=
  fun hgo => hraw.go_eq_one (hword.symm.trans hgo.2)

theorem carriesOver_openSession (hblock : engine.block.Known) {acts : List Act} {session : Session}
    (h : engine.openSession.Performs acts session)
    (hreads : ReadsBack engine.block.control held acts) :
    held.Always (CarriesOver engine.block) acts := by
  obtain ⟨-, control, pins, speed, rfl, hspeed⟩ := performs_openSession h
  obtain ⟨hcontrol, -⟩ := Contents.always_cons.mp hreads
  simp only [Contents.always_append, Contents.always_cons]
  refine ⟨⟨False.elim, carriesOver_of_go_eq (go_enableWord control) hcontrol, False.elim,
    carriesOver_of_ne _ hblock.control_ne_pinSelection.symm, Contents.always_nil⟩, ?_⟩
  obtain rfl | ⟨raw, word, rfl⟩ := performs_setSpeed hspeed
  · exact Contents.always_nil
  · rw [Contents.always_cons, Contents.always_cons]
    exact ⟨False.elim, carriesOver_of_ne _ (hblock.ne_of_transaction (.inr (.inl rfl))).2,
      Contents.always_nil⟩

theorem engaged_openSession (hblock : engine.block.Known) {acts : List Act} {session : Session}
    (h : engine.openSession.Performs acts session) : Engaged engine (held.after acts) := by
  obtain ⟨-, control, pins, speed, rfl, hspeed⟩ := performs_openSession h
  have hengaged : Engaged engine (held.after [.read engine.block.control control,
      .write engine.block.control (enableWord control), .read engine.block.pinSelection pins,
      .write engine.block.pinSelection (pinWord engine.config.clockPin.toUInt32
        engine.config.dataPin.toUInt32 pins)]) := by
    simp only [Contents.after_read, Contents.after_write, Contents.after_nil]
    refine ⟨?_, ?_, ?_⟩
    · rw [Function.update_of_ne hblock.control_ne_pinSelection, Function.update_self,
        enable_enableWord]
    · rw [Function.update_self, clockPin_pinWord, clip_clockPin]
    · rw [Function.update_self, dataPin_pinWord, clip_dataPin]
  have haside : ∀ write ∈ writesOf speed,
      write.1 ≠ engine.block.pinSelection ∧ write.1 ≠ engine.block.control := by
    obtain rfl | ⟨raw, word, rfl⟩ := performs_setSpeed hspeed
    · exact List.forall_mem_nil _
    · exact List.forall_mem_singleton.mpr (hblock.ne_of_transaction (.inr (.inl rfl)))
  rw [Contents.after_append]
  exact hengaged.after (always_secure hengaged haside)

theorem carriesOver_shutdown (hblock : engine.block.Known) {acts : List Act}
    (h : engine.IsShutdown acts)
    (hreads : ReadsBack engine.block.control held acts) :
    held.Always (CarriesOver engine.block) acts := by
  obtain ⟨pins, control, control', rfl⟩ := h
  simp only [ReadsBack, Contents.always_cons] at hreads ⊢
  obtain ⟨-, -, hcontrol, -, hcontrol', -⟩ := hreads
  exact ⟨False.elim, carriesOver_of_ne _ hblock.control_ne_pinSelection.symm, False.elim,
    carriesOver_of_go_eq (go_resetWord control) hcontrol, False.elim,
    carriesOver_of_go_eq (go_releaseWord control') hcontrol', Contents.always_nil⟩

theorem atRest_shutdown (hblock : engine.block.Known) {acts : List Act}
    (h : engine.IsShutdown acts)
    (hreads : ReadsBack engine.block.control held acts) :
    AtRest engine.block (held.after acts) := by
  obtain ⟨pins, control, control', rfl⟩ := h
  simp only [ReadsBack, Contents.always_cons] at hreads
  obtain ⟨-, -, -, -, hcontrol', -⟩ := hreads
  have henable : Chip.enable.extract control' = 0 := by
    rw [hcontrol'.extract_eq (by decide)]
    simp only [Contents.afterAct]
    rw [Function.update_self, enable_resetWord]
  simp only [Contents.after_read, Contents.after_write, Contents.after_nil]
  have hpins := hblock.control_ne_pinSelection.symm
  refine ⟨?_, ?_, ?_, ?_⟩
  · rw [Function.update_self, enable_releaseWord, henable]
  · rw [Function.update_self, softReset_releaseWord]
  · rw [Function.update_of_ne hpins, Function.update_of_ne hpins, Function.update_self,
      clockPin_pinWord, clip_clockPin]
    decide
  · rw [Function.update_of_ne hpins, Function.update_of_ne hpins, Function.update_self,
      dataPin_pinWord, clip_dataPin]
    decide

/-! ## Scripts -/

/-- What holds between two steps, by the session that is open and by whether one ever was: an open
session was not shut down, and the registers are as they should be. -/
structure Sound (engine : Engine) (opened : Option Session) (everOpened : Prop)
    (held : Contents) : Prop where
  not_closed : ∀ session, opened = some session → session.closed = false
  engaged : opened.isSome = true → Engaged engine held
  atRest : opened = none → everOpened → AtRest engine.block held

/-- What a step does, by the session that is open before it and after it. -/
inductive StepEffect (engine : Engine) :
    Option Session → Step → List Act → Option Session → Prop where
  | opens {acts : List Act} {session : Session} (h : engine.openSession.Performs acts session) :
      StepEffect engine none .openSession acts (some session)
  | uses {session : Session} {step : Step} {acts : List Act}
      {value : Except Refusal Answer × Option Session} (huse : step.IsUse)
      (h : (engine.performOpen session step).Performs acts value) :
      StepEffect engine (some session) step acts (some session)
  | closes {session : Session} {step : Step} {acts : List Act} (hending : step.IsEnding)
      (h : engine.IsShutdown acts) : StepEffect engine (some session) step acts none
  /-- It is refused, or writes a log line. -/
  | nothing {opened : Option Session} {step : Step}
      (hopening : opened = none → step ≠ .openSession) : StepEffect engine opened step [] opened

theorem stepEffect_performOpen (hblock : engine.block.Known) {session : Session}
    (hclosed : session.closed = false) {step : Step} (hstep : step.OfSession) {acts : List Act}
    {value : Except Refusal Answer × Option Session}
    (h : (engine.performOpen session step).Performs acts value) :
    StepEffect engine (some session) step acts value.2 := by
  by_cases huse : step.IsUse
  · rw [(working_performOpen hblock huse h).2]
    exact .uses huse h
  · have hcloses (hending : step.IsEnding) :
        StepEffect engine (some session) step acts value.2 := by
      rw [performOpen_ending hclosed hending] at h
      obtain ⟨_, acts, _, rfl, hclose, rfl, rfl⟩ := Program.performs_bind.mp h
      rw [List.append_nil]
      exact .closes hending (performs_closeSession hclose)
    cases step with
    | closeSession | dropSession => exact hcloses trivial
    | openSession =>
      obtain ⟨rfl, rfl⟩ := h
      exact .nothing nofun
    | log line =>
      obtain ⟨_, rfl, rfl, rfl⟩ := h
      exact .nothing nofun
    | submit _ | poll | readReply _ | transact _ => exact (huse trivial).elim
    | peek _ | poke _ _ => exact hstep.elim

theorem stepEffect_performIdle {step : Step} (hstep : step.OfSession) {acts : List Act}
    {value : Except Refusal Answer × Option Session}
    (h : (engine.performIdle step).Performs acts value) :
    StepEffect engine none step acts value.2 := by
  cases step with
  | openSession =>
    obtain ⟨_, acts, _, rfl, hopen, rfl, rfl⟩ := Program.performs_bind.mp h
    rw [List.append_nil]
    exact .opens hopen
  | log line =>
    obtain ⟨_, rfl, _, rfl, _, rfl, rfl, rfl⟩ := h
    exact .nothing nofun
  | closeSession | dropSession | submit _ | poll | readReply _ | transact _ =>
    obtain ⟨rfl, rfl⟩ := h
    exact .nothing nofun
  | peek _ | poke _ _ => exact hstep.elim

theorem stepEffect_perform (hblock : engine.block.Known) {opened : Option Session}
    (hclosed : ∀ session, opened = some session → session.closed = false) {step : Step}
    (hstep : step.OfSession) {acts : List Act} {value : Except Refusal Answer × Option Session}
    (h : (engine.perform opened step).Performs acts value) :
    StepEffect engine opened step acts value.2 := by
  cases opened with
  | none => exact stepEffect_performIdle hstep h
  | some session => exact stepEffect_performOpen hblock (hclosed session rfl) hstep h

theorem Step.IsEnding.not_isUse {step : Step} (h : step.IsEnding) : ¬ step.IsUse := by
  cases step with
  | closeSession | dropSession => exact id
  | _ => exact h.elim

namespace StepEffect

variable {opened opened' : Option Session} {step : Step} {acts : List Act}

theorem sound (h : StepEffect engine opened step acts opened') (hblock : engine.block.Known)
    (hreads : ReadsBack engine.block.control held acts) {everOpened : Prop}
    (hsound : Sound engine opened everOpened held) :
    Sound engine opened' (everOpened ∨ step = .openSession) (held.after acts) := by
  cases h with
  | opens hopen =>
    refine ⟨?_, fun _ => engaged_openSession hblock hopen, nofun⟩
    rintro _ ⟨⟩
    exact (performs_openSession hopen).1
  | uses huse hperforms =>
    have hengaged : Engaged engine held := hsound.engaged rfl
    have hsecure : held.Always (Secure engine) acts :=
      guarded_performOpen hblock _ huse held acts _ hengaged hperforms hreads
    exact ⟨hsound.not_closed, fun _ => hengaged.after hsecure, nofun⟩
  | closes _ hclose => exact ⟨nofun, nofun, fun _ _ => atRest_shutdown hblock hclose hreads⟩
  | nothing hopening =>
    exact ⟨hsound.not_closed, hsound.engaged, fun hclosed hopened =>
      hsound.atRest hclosed (hopened.resolve_right (hopening hclosed))⟩

/-- Using a session is secure; where none is open, it does nothing. -/
theorem secure (h : StepEffect engine opened step acts opened') (hblock : engine.block.Known)
    (huse : step.IsUse) (hreads : ReadsBack engine.block.control held acts)
    (hengaged : opened.isSome = true → Engaged engine held) :
    held.Always (Secure engine) acts := by
  cases h with
  | opens _ => exact huse.elim
  | uses _ hperforms =>
    exact guarded_performOpen hblock _ huse held acts _ (hengaged rfl) hperforms hreads
  | closes hending _ => exact (hending.not_isUse huse).elim
  | nothing _ => exact Contents.always_nil

/-- A step that does not use a session writes the bit that starts a transaction only where it is
held already. -/
theorem carriesOver (h : StepEffect engine opened step acts opened') (hblock : engine.block.Known)
    (huse : ¬ step.IsUse) (hreads : ReadsBack engine.block.control held acts) :
    held.Always (CarriesOver engine.block) acts := by
  cases h with
  | opens hopen => exact carriesOver_openSession hblock hopen hreads
  | uses huse' _ => exact (huse huse').elim
  | closes _ hclose => exact carriesOver_shutdown hblock hclose hreads
  | nothing _ => exact Contents.always_nil

end StepEffect

theorem sound_performAll (hblock : engine.block.Known) {opened : Option Session}
    {everOpened : Prop} {steps : List Step} (hsteps : ∀ step ∈ steps, step.OfSession)
    {acts : List Act} {value : List (Except Refusal Answer) × Option Session}
    (h : (engine.performAll opened steps).Performs acts value)
    (hreads : ReadsBack engine.block.control held acts)
    (hsound : Sound engine opened everOpened held) :
    Sound engine value.2 (everOpened ∨ .openSession ∈ steps) (held.after acts) := by
  induction steps generalizing opened everOpened held acts value with
  | nil =>
    obtain ⟨rfl, rfl⟩ := h
    exact ⟨hsound.not_closed, hsound.engaged,
      fun hclosed hopened => hsound.atRest hclosed (by simpa using hopened)⟩
  | cons step steps ih =>
    obtain ⟨hstep, hsteps⟩ := List.forall_mem_cons.mp hsteps
    simp only [performAll, Program.bind_eq, Program.performs_bind, Program.pure_eq_done,
      Program.performs_done] at h
    obtain ⟨_, before, _, rfl, hfirst, _, after, _, rfl, hrest, rfl, rfl⟩ := h
    rw [List.append_nil] at hreads ⊢
    obtain ⟨hbefore, hafter⟩ := Contents.always_append.mp hreads
    have hsound' :=
      (stepEffect_perform hblock hsound.not_closed hstep hfirst).sound hblock hbefore hsound
    have hend := ih hsteps hrest hafter hsound'
    rw [or_assoc, eq_comm (a := step), ← List.mem_cons] at hend
    rwa [Contents.after_append]

/-- Throughout the acts of a step, the bit that starts a transaction is written to an engine that is
armed by this, or else where it is held already, and then in opening or closing a session. -/
def StartsArmed (engine : Engine) (step : Step) (held : Contents) (acts : List Act) : Prop :=
  held.Always (fun held act => WritesGo engine.block act →
    Armed engine (held.afterAct act) ∨
      ¬ step.IsUse ∧ Chip.go.extract (held engine.block.control) = 1) acts

/-- **The engine is safe.** On a device that remembers what it is told, whatever it held at first
and whatever steps have been taken: the engine is locked while a session is open, and only then;
while one is open, the engine is enabled and its pins are routed; and while none is open but one
was, the engine is disabled and not in reset, and no pins are routed.

Then any further step that uses the session keeps the engine enabled and routed throughout; and
whenever a step writes the bit that starts a transaction, the engine is enabled and routed and the
transaction is set up, unless the step opens or closes a session and carries over a bit that is held
already (`StartsArmed`). -/
theorem session_safety {σ : Type} {device : Device σ} {Shows : σ → Contents → Prop}
    (hblock : engine.block.Known) (hdevice : device.Remembers engine.block.control Shows)
    {world : World σ} {initial : Contents} (hlocked : world.locked = false)
    (hshows : Shows world.device initial) {steps : List Step}
    (hsteps : ∀ step ∈ steps, step.OfSession) :
    let past := (engine.performAll none steps).run device world
    let held := initial.after (actsOf past.events)
    Shows past.world.device held ∧ past.world.locked = past.value.2.isSome ∧
      (past.value.2.isSome = true → Engaged engine held) ∧
      (past.value.2 = none → .openSession ∈ steps → AtRest engine.block held) ∧
      ∀ step : Step, step.OfSession →
        let acts := actsOf ((engine.perform past.value.2 step).run device past.world).events
        (past.value.2.isSome = true → step.IsUse →
          held.Always (fun held act => Engaged engine (held.afterAct act)) acts) ∧
        StartsArmed engine step held acts := by
  intro past held
  have hplain {α : Type} {p : Program α} (h : p.Keeps (OnBlock engine.block)) :
      p.Keeps Act.IsPlain := h.mono fun _ => OnBlock.isPlain hblock
  obtain ⟨hreads, hshown⟩ :=
    hdevice.readsBack_run (hplain (keeps_performAll none hsteps)) world 0 hshows
  have hsound : Sound engine past.value.2 (False ∨ .openSession ∈ steps) held :=
    sound_performAll hblock hsteps
      (performs_actsOf device hblock (keeps_performAll none hsteps) world) hreads
      ⟨nofun, nofun, nofun⟩
  refine ⟨hshown, tracksLock_performAll none steps world hlocked, hsound.engaged,
    fun hclosed hopened => hsound.atRest hclosed (.inr hopened), fun step hstep => ?_⟩
  have hkeeps : (engine.perform past.value.2 step).Keeps (OnBlock engine.block) :=
    keeps_perform past.value.2 hstep
  have heffect := stepEffect_perform hblock hsound.not_closed hstep
    (performs_actsOf device hblock hkeeps past.world)
  obtain ⟨hreadsNext, -⟩ := hdevice.readsBack_run (hplain hkeeps) past.world 0 hshown
  by_cases huse : step.IsUse
  · have hsecure := heffect.secure hblock huse hreadsNext hsound.engaged
    exact ⟨fun _ _ => hsecure.mono fun _ _ hact => hact.1,
      hsecure.mono fun _ _ hact hgo => .inl (hact.2 hgo)⟩
  · have hcarries := heffect.carriesOver hblock huse hreadsNext
    exact ⟨fun _ huse' => (huse huse').elim,
      hcarries.mono fun _ _ hact hgo => .inr ⟨huse, hact hgo⟩⟩

/-- A register file that held ones in its transaction register, where a session is opened and a
transaction polled; the next step submits another. -/
theorem session_safety_polaris :
    let engine : Engine := ⟨.polaris, .default⟩
    let device := RegisterFile.device 0x10000 true
    let file : RegisterFile := { values := OffsetMap.empty.set 0x5be4 0xffffffff }
    let past := (engine.performAll none [.openSession, .poll]).run device ⟨file, false⟩
    let held := Contents.after (fun register => file.value (RegisterFile.place register))
      (actsOf past.events)
    let acts := actsOf
      ((engine.perform past.value.2 (.submit (.ok (.probe 0x50)))).run device past.world).events
    past.value.2.isSome = true ∧ (0x16f4, 9) ∈ writesOf acts ∧
      past.world.locked = past.value.2.isSome ∧ Engaged engine held ∧
      StartsArmed engine (.submit (.ok (.probe 0x50))) held acts := by
  intro engine device file past held acts
  have hopen : past.value.2.isSome = true := by
    decide +kernel
  have hgo : (0x16f4, 9) ∈ writesOf acts := by
    decide +kernel
  have hblock : engine.block.Known := ⟨.polaris10, rfl⟩
  have hdevice : device.Remembers engine.block.control RegisterFile.Shows :=
    RegisterFile.remembers 0x10000 _
  have hunlocked : (World.mk file false).locked = false := rfl
  have hshows : file.Shows fun register => file.value (RegisterFile.place register) :=
    ⟨fun _ => rfl, fun _ => rfl⟩
  have hsteps : ∀ step ∈ [Step.openSession, .poll], step.OfSession :=
    List.forall_mem_cons.mpr ⟨trivial, List.forall_mem_singleton.mpr trivial⟩
  obtain ⟨-, hlocked, hengaged, -, hnext⟩ :=
    session_safety hblock hdevice hunlocked hshows hsteps
  obtain ⟨-, hstarts⟩ := hnext (.submit (.ok (.probe 0x50))) trivial
  exact ⟨hopen, hgo, hlocked, hengaged hopen, hstarts⟩

/-- Closing a session while the bit of its last transaction is still held writes this bit to an
engine that is disabled, with its pins routed away. -/
theorem closeSession_carriesOver_go :
    let engine : Engine := ⟨.polaris, .default⟩
    let device := RegisterFile.device 0x10000 true
    let past := (engine.performAll none [.openSession, .submit (.ok (.probe 0x50))]).run device
      ⟨{}, false⟩
    let acts := actsOf ((engine.perform past.value.2 .closeSession).run device past.world).events
    device.Remembers engine.block.control RegisterFile.Shows ∧
      RegisterFile.Shows {} (fun _ => 0) ∧ past.value.2.isSome = true ∧
      ∃ earlier value later, acts = earlier ++ .write engine.block.control value :: later ∧
        Chip.go.extract value = 1 ∧ Chip.enable.extract value = 0 := by
  intro engine device past acts
  have hacts : acts = [.read 0x16fb 0x2829, .write 0x16fb 0, .read 0x16f4 9] ++
      .write 0x16f4 3 :: [.read 0x16f4 3, .write 0x16f4 1] := by
    decide +kernel
  exact ⟨RegisterFile.remembers 0x10000 _, ⟨fun _ => rfl, fun _ => rfl⟩, by decide +kernel, _, _, _,
    hacts, by decide, by decide⟩

end Engine

end GpuI2c
