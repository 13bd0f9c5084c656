import GpuI2c.Adapter.Basic
import GpuI2c.Proofs.Adapter.Direct
import GpuI2c.Proofs.Adapter.Framed
import GpuI2c.Proofs.Engine.Closing

/-!
# Transfers close their sessions

The main statement is `sessions_close_once`. A session closes once, with the same writes, whatever
is done in it and whichever way it ends; and a transfer through an adapter either reaches no
register or is such a session. Either way the engine is not locked afterwards.

Nothing that an adapter does between opening and closing selects pins (`Program.Works`).
-/

namespace GpuI2c

open Bus (BusError Message Request)

/-! ## Between opening and closing -/

namespace Engine

variable {engine : Engine}

theorem works_exchangeWrite (hblock : engine.block.Known) (address : UInt8) (data : List UInt8)
    (more : Bool) : (engine.exchangeWrite address data more).Works engine.block :=
  .bind (works_transact? hblock _) fun _ => .done _

theorem works_exchangeRead (hblock : engine.block.Known) (address : UInt8) (buffer : List UInt8)
    (more : Bool) : (engine.exchangeRead address buffer more).Works engine.block := by
  refine .bind (works_transact? hblock _) fun value => ?_
  split <;> exact .done _

theorem works_exchange (hblock : engine.block.Known) (message : Message) (request : Request) :
    (engine.exchange message request).Works engine.block :=
  .bind (works_transact hblock request) fun _ => .done _

end Engine

theorem DirectAdapter.works_exchangeAll {adapter : DirectAdapter}
    (hblock : adapter.engine.block.Known) (count index : Nat) (messages : List Message) :
    (adapter.exchangeAll count index messages).Works adapter.engine.block := by
  induction messages generalizing index with
  | nil => exact .done _
  | cons message rest ih =>
    unfold exchangeAll
    split
    · exact .done _
    · refine .bind (Engine.works_exchange hblock _ _) fun value => ?_
      obtain ⟨result, message'⟩ := value
      cases result with
      | error error => exact .bind .log fun _ => .done _
      | ok _ => exact .bind (ih _) fun _ => .done _

namespace FramedAdapter

variable {adapter : FramedAdapter}

theorem works_writeFrames (hblock : adapter.engine.block.Known) (address : UInt8)
    (frames : List (UInt8 × List UInt8)) :
    (adapter.writeFrames address frames).Works adapter.engine.block := by
  induction frames with
  | nil => exact .done _
  | cons frame frames ih =>
    refine .bind (Engine.works_exchangeWrite hblock _ _ _) fun result => ?_
    cases result with
    | error error => exact .done _
    | ok _ => exact ih

theorem works_readFrames (hblock : adapter.engine.block.Known) (address : UInt8)
    (frames : List (UInt8 × List UInt8)) :
    (adapter.readFrames address frames).Works adapter.engine.block := by
  induction frames with
  | nil => exact .done _
  | cons frame frames ih =>
    refine .bind (Engine.works_exchangeWrite hblock _ _ _) fun result => ?_
    cases result with
    | error error => exact .done _
    | ok _ =>
      refine .bind (Engine.works_exchangeRead hblock _ _ _) fun value => ?_
      obtain ⟨result, filled⟩ := value
      cases result with
      | error error => exact .done _
      | ok _ => exact .bind ih fun _ => .done _

theorem works_access (hblock : adapter.engine.block.Known) (access : RegisterAccess) :
    (adapter.access access).Works adapter.engine.block := by
  cases access with
  | probe address => exact .bind (Engine.works_transact hblock _) fun _ => .done _
  | write address offset data => exact .bind (works_writeFrames hblock _ _) fun _ => .done _
  | read address offset buffer => exact .bind (works_readFrames hblock _ _) fun _ => .done _

theorem works_accessAll (hblock : adapter.engine.block.Known) (messages : List Message) :
    (adapter.accessAll messages).Works adapter.engine.block := by
  have hattempt : (adapter.attempt messages).Works adapter.engine.block := by
    unfold attempt
    split
    · exact .done _
    · exact .bind (works_access hblock _) fun _ => .done _
  refine .bind hattempt fun value => .bind ?_ fun _ => .done _
  intro acts _ h
  rw [performs_report h]
  exact .nil

end FramedAdapter

/-! ## Sessions -/

namespace Engine

variable {engine : Engine}

theorem locked_endSession {σ : Type} (device : Device σ) (session : Session)
    (result : Except Stop Unit) (world : World σ) :
    ((engine.endSession session result).run device world).world.locked = false := by
  match result with
  | .error (.left _) => exact locked_dropSession device session world
  | .error (.failed _) => exact locked_closeSession device session world
  | .ok () => exact locked_closeSession device session world

/-- What is done in a session of its own makes the writes of a session, however it ends, and leaves
the engine unlocked. -/
theorem run_inSession {σ α : Type} (device : Device σ) (world : World σ)
    (hblock : engine.block.Known) {body : Program (Except Stop Unit × α)}
    (hkeeps : body.Keeps (OnBlock engine.block)) (hworks : body.Works engine.block) :
    let outcome := (engine.inSession body).run device world
    SessionWrites engine (writesOf (actsOf outcome.events)) ∧ outcome.world.locked = false := by
  intro outcome
  constructor
  · have hperforms : (engine.inSession body).Performs (actsOf outcome.events) outcome.value :=
      performs_actsOf device hblock (keeps_inSession hkeeps) world
    obtain ⟨session, opening, inside, closing, result, hacts, hopen, hbody, hclose, -⟩ :=
      performs_inSession hperforms
    rw [hacts]
    exact sessionWrites_of_performs hblock hopen (hworks _ _ hbody) hclose
  · show ((engine.inSession body).run device world).world.locked = false
    simp only [inSession, Program.bind_eq, Program.run_bind, Program.pure_eq_done, Program.run,
      locked_endSession]

end Engine

/-! ## Transfers -/

/-- No register was accessed. -/
def Untouched (events : List Event) : Prop :=
  ∀ event ∈ events, ∃ line, event = .log line

theorem DirectAdapter.run_transfer_closes {σ : Type} (adapter : DirectAdapter)
    (messages : List Message) (device : Device σ) (world : World σ)
    (hblock : adapter.engine.block.Known) (hlocked : world.locked = false) :
    let outcome := (adapter.transfer messages).run device world
    (Untouched outcome.events ∨ SessionWrites adapter.engine (writesOf (actsOf outcome.events))) ∧
      outcome.world.locked = false := by
  by_cases hlength : ∀ message ∈ messages, message.length ≤ Bus.maxTransactionLength
  · rw [transfer_of_fitting hlength, Program.run_bind_done]
    obtain ⟨hwrites, hunlocked⟩ := Engine.run_inSession device world hblock
      (keeps_exchangeAll messages.length 0 messages) (works_exchangeAll hblock _ _ _)
    exact ⟨.inr hwrites, hunlocked⟩
  · rw [transfer_of_not_fitting hlength]
    exact ⟨.inl (List.forall_mem_nil _), hlocked⟩

theorem FramedAdapter.run_transfer_closes {σ : Type} (adapter : FramedAdapter)
    (messages : List Message) (device : Device σ) (world : World σ)
    (hblock : adapter.engine.block.Known) :
    let outcome := (adapter.transfer messages).run device world
    (Untouched outcome.events ∨ SessionWrites adapter.engine (writesOf (actsOf outcome.events))) ∧
      outcome.world.locked = false := by
  cases hsupported : isSupported messages with
  | true =>
    rw [transfer_of_isSupported hsupported, Program.run_bind_done]
    obtain ⟨hwrites, hunlocked⟩ := Engine.run_inSession device world hblock
      (keeps_accessAll messages) (works_accessAll hblock messages)
    exact ⟨.inr hwrites, hunlocked⟩
  | false =>
    rw [transfer, if_neg (hsupported ▸ Bool.false_ne_true)]
    exact ⟨.inl (List.forall_mem_singleton.mpr ⟨_, rfl⟩), rfl⟩

theorem Adapter.run_transfer_closes {σ : Type} (adapter : Adapter) (messages : List Message)
    (device : Device σ) (world : World σ) (hblock : adapter.engine.block.Known)
    (hlocked : world.locked = false) :
    let outcome := (adapter.transfer messages).run device world
    (Untouched outcome.events ∨ SessionWrites adapter.engine (writesOf (actsOf outcome.events))) ∧
      outcome.world.locked = false := by
  intro outcome
  cases adapter with
  | framed adapter =>
    have hrun : outcome = ((adapter.transfer messages).bind fun value =>
      .done (value.1.mapError .bus, value.2)).run device world := rfl
    rw [hrun, Program.run_bind_done]
    exact adapter.run_transfer_closes messages device world hblock
  | direct adapter =>
    have hrun : outcome = ((adapter.transfer messages).bind fun value =>
      .done (value.1.mapError .bus, value.2)).run device world := rfl
    rw [hrun, Program.run_bind_done]
    exact adapter.run_transfer_closes messages device world hblock hlocked

/-- **A session closes once, in the same way, whatever happened in it.** A session that was not shut
down ends the same way whether it is closed or given up: with the three writes of a shutdown, and
the engine is unlocked. Once it was shut down, giving it up accesses no register and unlocks the
engine too; this is why closing it, which gives it up in its turn, is one shutdown and not two. So a
session that is opened, used in any way and ended in either way has these three writes at its end
and nowhere before; and a transfer, whichever adapter does it and however it ends, reaches no
register or is one such session, and leaves the engine unlocked. -/
theorem sessions_close_once {σ : Type} (device : Device σ) (world : World σ) :
    (∀ (engine : Engine) (session : Engine.Session), engine.block.Known →
      session.closed = false →
      let closing := (engine.closeSession session).run device world
      let dropping := (engine.dropSession session).run device world
      Shutdown engine.block (writesOf (actsOf closing.events)) ∧
        closing.world.locked = false ∧ dropping = closing) ∧
    (∀ (engine : Engine) (session : Engine.Session), session.closed = true →
      let dropping := (engine.dropSession session).run device world
      dropping.events = [] ∧ dropping.world.locked = false) ∧
    (∀ (engine : Engine) (steps : List Engine.Step) (ending : Engine.Step), engine.block.Known →
      (∀ step ∈ steps, step.IsUse) → ending.IsEnding →
      let session :=
        (engine.performAll none (.openSession :: (steps ++ [ending]))).run device world
      SessionWrites engine (writesOf (actsOf session.events)) ∧ session.world.locked = false) ∧
    ∀ (adapter : Adapter) (messages : List Message), adapter.engine.block.Known →
      world.locked = false →
      let outcome := (adapter.transfer messages).run device world
      (Untouched outcome.events ∨
          SessionWrites adapter.engine (writesOf (actsOf outcome.events))) ∧
        outcome.world.locked = false := by
  refine ⟨fun engine session hblock hclosed => ?_, fun engine session hclosed => ?_,
    fun engine steps ending hblock hsteps hending => ?_,
    fun adapter messages hblock hlocked =>
      adapter.run_transfer_closes messages device world hblock hlocked⟩
  · have hshutdown : engine.IsShutdown
        (actsOf ((engine.closeSession session).run device world).events) :=
      Engine.performs_closeSession
        (performs_actsOf device hblock (Engine.keeps_closeSession session) world)
    exact ⟨hshutdown.writes, Engine.locked_closeSession device session world,
      by rw [Engine.closeSession_eq_dropSession hclosed]⟩
  · rw [Engine.dropSession_of_closed hclosed]
    exact ⟨rfl, rfl⟩
  · obtain ⟨hwrites, -, hunlocked⟩ := Engine.run_session device world hblock hsteps hending
    exact ⟨hwrites, hunlocked⟩

/-- Sessions that are closed, given up, and used before that, and a transfer, on a device that
always reads 0x10. -/
theorem sessions_close_once_navi :
    let engine : Engine := ⟨.navi, .default⟩
    let adapter : Adapter := .direct ⟨engine, Chip.Family.navi10.profile⟩
    let closing := (engine.closeSession ⟨false⟩).run (.steady 0x10) ⟨(), true⟩
    let dropping := (engine.dropSession ⟨false⟩).run (.steady 0x10) ⟨(), true⟩
    let session := (engine.performAll none (.openSession :: ([.poll] ++ [.dropSession]))).run
      (.steady 0x10) ⟨(), false⟩
    let outcome := (adapter.transfer [.write 0x74 [1]]).run (.steady 0x10) ⟨(), false⟩
    writesOf (actsOf closing.events) = [(0x1ebf, 0), (0x1eb8, 0x12), (0x1eb8, 0x10)] ∧
      Shutdown engine.block (writesOf (actsOf closing.events)) ∧ dropping = closing ∧
      ((engine.dropSession ⟨true⟩).run (.steady 0x10) ⟨(), true⟩).events = [] ∧
      SessionWrites engine (writesOf (actsOf session.events)) ∧ session.world.locked = false ∧
      (Untouched outcome.events ∨
        SessionWrites adapter.engine (writesOf (actsOf outcome.events))) ∧
      outcome.world.locked = false := by
  intro engine adapter closing dropping session outcome
  have hblock : engine.block.Known := ⟨.navi10, rfl⟩
  have huse : ∀ step ∈ [Engine.Step.poll], step.IsUse := List.forall_mem_singleton.mpr trivial
  have hlist : writesOf (actsOf closing.events) =
      [(0x1ebf, 0), (0x1eb8, 0x12), (0x1eb8, 0x10)] := by
    decide +kernel
  obtain ⟨hopen, hclosed, -⟩ := sessions_close_once (.steady 0x10) ⟨(), true⟩
  obtain ⟨hshutdown, -, hsame⟩ := hopen engine ⟨false⟩ hblock rfl
  obtain ⟨hnothing, -⟩ := hclosed engine ⟨true⟩ rfl
  obtain ⟨-, -, hsessions, htransfers⟩ := sessions_close_once (.steady 0x10) ⟨(), false⟩
  obtain ⟨hwrites, hunlocked⟩ := hsessions engine [.poll] .dropSession hblock huse trivial
  exact ⟨hlist, hshutdown, hsame, hnothing, hwrites, hunlocked,
    htransfers adapter [.write 0x74 [1]] hblock rfl⟩

end GpuI2c
