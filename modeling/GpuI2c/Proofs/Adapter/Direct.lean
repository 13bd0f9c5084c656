import GpuI2c.Adapter.Direct
import GpuI2c.Proofs.Adapter.Exchange

/-!
# What a direct adapter puts on the wire

The main statement is `transfer_carries_messages`: a transfer through a direct adapter does its
messages, each as the transaction it stands for, in order and up to the first that fails.
-/

namespace GpuI2c.DirectAdapter

open Bus (BusError Carries Message Observer Transaction Wire firstFailure replyAt verdict)

variable {adapter : DirectAdapter}

/-- The messages after a transfer: the reads before the first failure hold their replies. -/
def receiving (messages : List Message) (seen : List Transaction) : List Message :=
  messages.mapIdx fun place message =>
    if place < firstFailure seen then message.withBuffer (replyAt seen place) else message

theorem receiving_cons_of_succeeded {message : Message} {messages : List Message}
    {transaction : Transaction} {seen : List Transaction} (h : transaction.status = .succeeded) :
    receiving (message :: messages) (transaction :: seen) =
      message.withBuffer transaction.reply :: receiving messages seen := by
  simp [receiving, List.mapIdx_cons, Bus.firstFailure_cons_of_succeeded h, replyAt]

theorem receiving_of_failed {messages : List Message} {transaction : Transaction}
    (h : transaction.status ≠ .succeeded) : receiving messages [transaction] = messages := by
  apply List.ext_getElem?
  intro place
  simp [receiving, Bus.firstFailure_cons_of_failed h]

/-- A message that fits one transaction is not refused. -/
theorem exists_request {message : Message} (hlength : message.length ≤ Bus.maxTransactionLength)
    (more : Bool) : ∃ request, message.request more = .ok request := by
  cases message with
  | write address data => exact ⟨_, if_neg (Nat.not_lt.mpr hlength)⟩
  | read address buffer => exact ⟨_, if_neg (Nat.not_lt.mpr hlength)⟩

/-- The messages that are done show as their transactions, up to the first failure. -/
theorem started_observe_exchangeAll (observer : Observer)
    (hblock : adapter.engine.block.Known) {messages : List Message}
    (hlength : ∀ message ∈ messages, message.length ≤ Bus.maxTransactionLength) {count index : Nat}
    {acts : List Act} {result : Except Engine.Stop Unit} {filled : List Message}
    (h : (adapter.exchangeAll count index messages).Performs acts (result, filled)) :
    ∃ seen : List Transaction,
      (observer.observe adapter.engine.block acts).started = seen.reverse ++ observer.started ∧
      Carries (messages.map Message.wire) seen (result.mapError Engine.Stop.error) ∧
      filled = receiving messages seen ∧
      filled.map Message.length = messages.map Message.length := by
  induction messages generalizing observer index acts result filled with
  | nil =>
    obtain ⟨rfl, hvalue⟩ := h
    obtain ⟨rfl, rfl⟩ := Prod.mk.inj hvalue
    exact ⟨[], rfl, .nil, rfl, rfl⟩
  | cons message rest ih =>
    obtain ⟨hfirst, hrest⟩ := List.forall_mem_cons.mp hlength
    obtain ⟨request, hrequest⟩ := exists_request hfirst (!rest.isEmpty)
    simp only [exchangeAll, hrequest, Program.bind_eq, Program.performs_bind] at h
    obtain ⟨⟨ended, message'⟩, before, after, rfl, hexchange, h⟩ := h
    obtain ⟨transaction, hstarted, hdoes, hmessage, hcount⟩ :=
      Engine.started_observe_exchange observer hblock hfirst hrequest hexchange
    rw [Observer.observe_append]
    cases ended with
    | ok _ =>
      simp only [Program.performs_bind, Program.pure_eq_done, Program.performs_done,
        Prod.mk.injEq] at h
      obtain ⟨⟨_, _⟩, after, _, rfl, h, rfl, rfl, rfl⟩ := h
      obtain ⟨seen, hseen, hcarries, hfilled, hcounts⟩ :=
        ih (observer.observe adapter.engine.block before) hrest h
      refine ⟨transaction :: seen, ?_, .cons hdoes hcarries, ?_, ?_⟩
      · rw [List.append_nil, hseen, hstarted, List.reverse_cons, List.append_assoc,
          List.singleton_append]
      · rw [receiving_cons_of_succeeded hdoes.succeeded, ← hfilled, hmessage,
          if_pos hdoes.succeeded]
      · rw [List.map_cons, List.map_cons, hcount, hcounts]
    | error error =>
      simp only [Program.log, Program.give, Program.command_bind, Program.done_bind,
        Program.pure_eq_done, Program.performs_command, Program.performs_done, Command.acts,
        List.nil_append, Prod.mk.injEq] at h
      obtain ⟨_, rfl, rfl, rfl, rfl⟩ := h
      refine ⟨[transaction], ?_, .stop hdoes, ?_, ?_⟩
      · rw [Observer.observe_nil, hstarted]
        rfl
      · rw [receiving_of_failed hdoes.failed, hmessage, if_neg hdoes.failed]
      · rw [List.map_cons, List.map_cons, hcount]

theorem keeps_exchangeAll (count index : Nat) (messages : List Message) :
    (adapter.exchangeAll count index messages).Keeps (OnBlock adapter.engine.block) := by
  induction messages generalizing index with
  | nil => trivial
  | cons message rest ih =>
    unfold exchangeAll
    split
    · trivial
    · refine Program.Keeps.bind (Engine.keeps_exchange _ _) fun value => ?_
      obtain ⟨result, message'⟩ := value
      cases result with
      | error error => exact Program.Keeps.bind (Engine.keeps_give rfl) fun _ => trivial
      | ok _ => exact Program.Keeps.bind (ih _) fun _ => trivial

/-- A transfer with a message that does not fit one transaction is refused at once. -/
theorem transfer_of_not_fitting {messages : List Message}
    (h : ¬ ∀ message ∈ messages, message.length ≤ Bus.maxTransactionLength) :
    adapter.transfer messages = .done (.error .invalidInput, messages) := by
  have hany : messages.any (fun message => message.length > Bus.maxTransactionLength) := by
    simpa using h
  rw [transfer, if_pos hany]
  rfl

/-- Every other transfer does its messages in a session of its own. -/
theorem transfer_of_fitting {messages : List Message}
    (h : ∀ message ∈ messages, message.length ≤ Bus.maxTransactionLength) :
    adapter.transfer messages =
      (adapter.engine.inSession (adapter.exchangeAll messages.length 0 messages)).bind
        fun value => .done (value.1.map fun _ => messages.length, value.2) := by
  have hany : ¬ messages.any (fun message => message.length > Bus.maxTransactionLength) := by
    simpa using h
  rw [transfer, if_neg hany]
  rfl

theorem keeps_transfer (messages : List Message) :
    (adapter.transfer messages).Keeps (OnBlock adapter.engine.block) := by
  unfold transfer
  split
  · trivial
  · exact Program.Keeps.bind (Engine.keeps_inSession (keeps_exchangeAll _ _ _)) fun _ => trivial

/-- **A transfer does its messages in order, up to the first that fails.** The transactions on the
wire are those of the messages up to and including that one; its status is the error of the
transfer, and only the reads before it have got a reply. -/
theorem transfer_carries_messages {σ : Type} (adapter : DirectAdapter) (messages : List Message)
    (device : Device σ) (world : World σ) (hblock : adapter.engine.block.Known)
    (hlength : ∀ message ∈ messages, message.length ≤ Bus.maxTransactionLength)
    (hgo : GoReadsClear adapter.engine.block
      (actsOf ((adapter.transfer messages).run device world).events)) :
    let outcome := (adapter.transfer messages).run device world
    let seen := transactionsOf adapter.engine.block outcome.events
    let failed := firstFailure seen
    seen.map (·.toWire) = (messages.take (failed + 1)).map Message.wire ∧
      outcome.value.1 = (match seen[failed]? with
        | none => .ok messages.length
        | some transaction => transaction.status.toResult.map fun _ => messages.length) ∧
      outcome.value.2 = (messages.mapIdx fun place message =>
        if place < failed then message.withBuffer (replyAt seen place) else message) ∧
      outcome.value.2.map Message.length = messages.map Message.length := by
  intro outcome seen failed
  have hperforms : (adapter.transfer messages).Performs (actsOf outcome.events) outcome.value :=
    performs_actsOf device hblock (keeps_transfer messages) world
  rw [transfer_of_fitting hlength] at hperforms
  obtain ⟨session, opening, body, closing, result, hacts, hopen, hbody, hclose, hresult⟩ :=
    Engine.performs_inSession_count hperforms
  obtain ⟨shown, hshown, hcarries, hfilled, hcounts⟩ := started_observe_exchangeAll
    (({} : Observer).observe adapter.engine.block opening) hblock hlength hbody
  have hseen : seen = shown :=
    Engine.transactionsOf_session hblock hacts hopen hclose hgo hshown
  have hfailed : failed = firstFailure shown := congrArg firstFailure hseen
  rw [hseen, hfailed, hresult]
  refine ⟨?_, hcarries.map_result messages.length, hfilled, hcounts⟩
  rw [hcarries.wires_eq, List.map_take]

/-- A write and a read on a device whose status says done and whose data registers read 0x58. -/
theorem transfer_carries_write_and_read :
    let adapter : DirectAdapter := ⟨⟨.navi, .default⟩, Chip.Family.navi10.profile⟩
    let outcome := (adapter.transfer [.write 0x74 [1, 2], .read 0x74 [0]]).run
      (.steady 0x5810) ⟨(), false⟩
    let seen := transactionsOf adapter.engine.block outcome.events
    seen.map (·.toWire) = [⟨0xE8, false, 2, [1, 2]⟩, ⟨0xE9, true, 1, []⟩] ∧
      outcome.value = (.ok 2, [.write 0x74 [1, 2], .read 0x74 [0x58]]) := by
  intro adapter outcome seen
  obtain ⟨hwires, hresult, hfilled, -⟩ := transfer_carries_messages adapter
    [.write 0x74 [1, 2], .read 0x74 [0]] (.steady 0x5810) ⟨(), false⟩ ⟨.navi10, rfl⟩ (by decide)
    (by decide +kernel)
  refine ⟨hwires.trans ?_, Prod.ext (hresult.trans ?_) (hfilled.trans ?_)⟩
  · decide +kernel
  · decide +kernel
  · decide +kernel

end GpuI2c.DirectAdapter
