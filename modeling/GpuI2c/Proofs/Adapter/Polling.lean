import GpuI2c.Adapter.Basic
import GpuI2c.Proofs.Engine.Polling

/-!
# Polling, from the status register to the transfers of an adapter

The main statement is `Engine.polling_exact`: on any device, and whatever sequence of values its
status register gives, polling reads it up to the first value that is not busy, within the limit of
polls, and ends with what this value stands for. As a busy engine is never the end of it, no
transaction and no transfer fails with one.
-/

namespace GpuI2c

open Register (SameOutside)
open Bus (BusError Message NotBusy Request)
open Bus.ChannelStatus (Busy worstCompletion)

/-! ## Transfers that do not fail with a busy engine -/

namespace Engine

variable {engine : Engine}

theorem yields_transact? {request : Except BusError Request} (h : NotBusy request) :
    (engine.transact? request).Yields fun outcome => NotBusy outcome.1 := by
  cases request with
  | error error => exact fun herror => h (congrArg Except.error (Except.error.inj herror))
  | ok request => exact (yields_transact request).bind fun _ hresult => hresult

theorem notBusy_request (message : Message) (more : Bool) : NotBusy (message.request more) := by
  cases message with
  | write address data =>
    show NotBusy (Request.write address data more)
    unfold Request.write
    split <;> exact nofun
  | read address buffer =>
    show NotBusy (Request.read address buffer more)
    unfold Request.read
    split <;> exact nofun

theorem yields_exchangeWrite (address : UInt8) (data : List UInt8) (more : Bool) :
    (engine.exchangeWrite address data more).Yields NotBusy :=
  (yields_transact? (notBusy_request (.write address data) more)).bind fun _ hresult => hresult

theorem yields_exchangeRead (address : UInt8) (buffer : List UInt8) (more : Bool) :
    (engine.exchangeRead address buffer more).Yields fun outcome => NotBusy outcome.1 := by
  have hrequest : NotBusy (Request.read address buffer more) :=
    notBusy_request (.read address buffer) more
  refine (yields_transact? hrequest).bind fun outcome hresult => ?_
  split <;> exact hresult

theorem yields_exchange (message : Message) (request : Request) :
    (engine.exchange message request).Yields fun outcome => NotBusy outcome.1 :=
  (yields_transact request).bind fun _ hresult => hresult

/-- A session fails as what is done in it does. -/
theorem yields_inSession {α : Type} {body : Program (Except Stop Unit × α)}
    (h : body.Yields fun outcome => NotBusy (outcome.1.mapError Stop.error)) :
    (engine.inSession body).Yields fun outcome => NotBusy outcome.1 :=
  .bind_of_forall fun _ => h.bind fun _ hresult => .bind_of_forall fun _ => hresult

end Engine

namespace DirectAdapter

variable {adapter : DirectAdapter}

theorem yields_exchangeAll (count index : Nat) (messages : List Message) :
    (adapter.exchangeAll count index messages).Yields fun outcome =>
      NotBusy (outcome.1.mapError Engine.Stop.error) := by
  induction messages generalizing index with
  | nil => exact nofun
  | cons message rest ih =>
    unfold exchangeAll
    split
    · next error hrefused =>
      intro hbusy
      obtain rfl : error = .engineBusy := Except.error.inj hbusy
      exact Engine.notBusy_request message _ hrefused
    · refine (Engine.yields_exchange message _).bind fun outcome hresult => ?_
      obtain ⟨result, filled⟩ := outcome
      cases result with
      | error error => exact hresult
      | ok _ => exact (ih (index + 1)).bind fun _ hrest => hrest

theorem yields_transfer (messages : List Message) :
    (adapter.transfer messages).Yields fun outcome => NotBusy outcome.1 := by
  unfold transfer
  split
  · exact nofun
  · exact (Engine.yields_inSession (yields_exchangeAll _ 0 messages)).bind
      fun _ hresult => hresult.map _

end DirectAdapter

namespace FramedAdapter

variable {adapter : FramedAdapter}

theorem yields_writeFrames (address : UInt8) (frames : List (UInt8 × List UInt8)) :
    (adapter.writeFrames address frames).Yields NotBusy := by
  induction frames with
  | nil => exact nofun
  | cons frame rest ih =>
    refine (Engine.yields_exchangeWrite address _ false).bind fun result hresult => ?_
    cases result with
    | error error => exact hresult
    | ok _ => exact ih

theorem yields_readFrames (address : UInt8) (frames : List (UInt8 × List UInt8)) :
    (adapter.readFrames address frames).Yields fun outcome => NotBusy outcome.1 := by
  induction frames with
  | nil => exact nofun
  | cons frame rest ih =>
    refine (Engine.yields_exchangeWrite address _ true).bind fun result hresult => ?_
    cases result with
    | error error => exact hresult
    | ok _ =>
      refine (Engine.yields_exchangeRead address _ false).bind fun outcome hread => ?_
      obtain ⟨result, filled⟩ := outcome
      cases result with
      | error error => exact hread
      | ok _ => exact ih.bind fun _ hrest => hrest

theorem yields_access (access : RegisterAccess) :
    (adapter.access access).Yields fun outcome => NotBusy outcome.1 := by
  cases access with
  | probe address => exact (Engine.yields_transact _).bind fun _ hresult => hresult
  | write address offset data => exact (yields_writeFrames address _).bind fun _ hresult => hresult
  | read address offset buffer => exact (yields_readFrames address _).bind fun _ hresult => hresult

/-- The refusals of messages that cannot be taken apart are none of a busy engine. -/
theorem notBusy_ofMessages {messages : List Message} {stop : Engine.Stop}
    (h : RegisterAccess.ofMessages messages = .error stop) :
    NotBusy (α := Unit) (.error stop.error) := by
  unfold RegisterAccess.ofMessages at h
  split at h
  · split at h
    · cases h
    · split at h <;> cases h <;> exact nofun
  all_goals cases h <;> exact nofun

theorem yields_accessAll (messages : List Message) :
    (adapter.accessAll messages).Yields fun outcome =>
      NotBusy (outcome.1.mapError Engine.Stop.error) := by
  have hattempt : (adapter.attempt messages).Yields fun outcome =>
      NotBusy (outcome.1.mapError Engine.Stop.error) := by
    unfold attempt
    split
    · next stop hrefused => exact notBusy_ofMessages hrefused
    · refine (yields_access _).bind fun outcome hresult => ?_
      obtain ⟨result, filled⟩ := outcome
      cases result <;> exact hresult
  exact hattempt.bind fun outcome hresult => .bind_of_forall fun _ => hresult

theorem yields_transfer (messages : List Message) :
    (adapter.transfer messages).Yields fun outcome => NotBusy outcome.1 := by
  unfold transfer
  split
  · exact (Engine.yields_inSession (yields_accessAll messages)).bind
      fun _ hresult => hresult.map _
  · exact .bind_of_forall fun _ => nofun

end FramedAdapter

namespace Adapter

theorem mapError_ne {result : Except BusError Nat} (h : NotBusy result) :
    result.mapError AdapterError.bus ≠ .error (.bus .engineBusy) := by
  cases result with
  | error error => exact fun heq => h (congrArg _ (AdapterError.bus.inj (Except.error.inj heq)))
  | ok count => exact nofun

theorem yields_transfer (adapter : Adapter) (messages : List Message) :
    (adapter.transfer messages).Yields fun outcome => outcome.1 ≠ .error (.bus .engineBusy) := by
  cases adapter with
  | framed adapter =>
    exact (adapter.yields_transfer messages).bind fun _ hresult => mapError_ne hresult
  | direct adapter =>
    exact (adapter.yields_transfer messages).bind fun _ hresult => mapError_ne hresult

end Adapter

/-- **Polling is exact.** On every device, whatever the limit of polls and the pause between two:
polling reads the status up to the first value that is not busy, within the limit, and the whole
limit if there is none. There is one pause between two reads and none elsewhere. Then the end of the
transaction is acknowledged by one update of the interrupt control register, and nothing more is
done. The status is what the worst completion bit of that value stands for, and a timeout if there
is no such value. Success needs the done bit of that value, four low bits that are zero, and none of
the bits that are worse. The status is never that of a busy engine; so no transaction of any engine
fails with one, and no transfer of any adapter. -/
theorem Engine.polling_exact {σ : Type} (engine : Engine) (hblock : engine.block.Known)
    (device : Device σ) (world : World σ) :
    let outcome := engine.poll.run device world
    let acts := actsOf outcome.events
    let limit := engine.config.pollLimit
    (∀ history, Gives engine.block.status history acts →
      let First := IsLeast {place | place < limit ∧ ¬ Busy (history place)}
      (∃ count raw word,
        acts = ((List.range count).map fun place =>
            Act.read engine.block.status (history place)).intersperse
              (.pause (.micros engine.config.pollDelay)) ++
          [.read engine.block.interruptControl raw, .write engine.block.interruptControl word] ∧
        Chip.doneAck.extract word = 1 ∧ SameOutside Chip.doneAck.mask word raw ∧
        (∀ place, First place →
          count = place + 1 ∧ outcome.value = worstCompletion (history place)) ∧
        ((∀ place < limit, Busy (history place)) → count = limit ∧ outcome.value = .timeout)) ∧
      (outcome.value = .succeeded → ∃ place, First place ∧
        (history place).toNat % 16 = 0 ∧ (history place).toNat.testBit 4 = true ∧
          ∀ bit ∈ [5, 6, 9], (history place).toNat.testBit bit = false)) ∧
    outcome.value ≠ .engineBusy ∧
    (∀ request, ((engine.transact request).run device world).value.1 ≠ .error .engineBusy) ∧
    ∀ (adapter : Adapter) messages,
      ((adapter.transfer messages).run device world).value.1 ≠ .error (.bus .engineBusy) := by
  intro outcome acts limit
  have hperforms : engine.poll.Performs acts outcome.value :=
    performs_actsOf device hblock keeps_poll world
  refine ⟨fun history hgives => ?_, yields_poll.run device world,
    fun request => (yields_transact request).run device world,
    fun adapter messages => (adapter.yields_transfer messages).run device world⟩
  intro First
  obtain ⟨count, raw, hacts, hpolled⟩ := performs_poll_of_gives hperforms hgives
  obtain ⟨hword, hother⟩ := doneAck_acknowledgeWord raw
  refine ⟨⟨count, raw, acknowledgeWord raw, hacts, hword, hother,
    fun place => hpolled.eq_of_isLeast, hpolled.eq_of_busy⟩, fun hsucceeded => ?_⟩
  rw [hsucceeded] at hpolled
  obtain ⟨place, hfirst, hworst⟩ := hpolled.exists_isLeast_of_succeeded
  have hlow : (history place).toNat % 16 = 0 := not_not.mp (not_or.mp hfirst.1.2).1
  exact ⟨place, hfirst, hlow, Bus.ChannelStatus.bits_of_worstCompletion_eq_succeeded hworst⟩

/-- A status that is busy once and then says success is read twice. -/
theorem Engine.polling_exact_polaris :
    let engine : Engine := ⟨.polaris, Config.default.withPollDelay 25⟩
    let history : Nat → UInt32 := fun place => if place = 0 then 0x11 else 0x10
    let outcome := engine.poll.run (.playing (engine.block.status.toNat * 4) history) ⟨0, true⟩
    (∃ raw word, actsOf outcome.events =
        [.read engine.block.status 0x11, .pause (.micros 25), .read engine.block.status 0x10,
          .read engine.block.interruptControl raw, .write engine.block.interruptControl word] ∧
        Chip.doneAck.extract word = 1) ∧
      outcome.value = .succeeded := by
  intro engine history outcome
  have hblock : engine.block.Known := ⟨.polaris10, rfl⟩
  have hfirst : IsLeast {place | place < engine.config.pollLimit ∧ ¬ Busy (history place)} 1 := by
    refine ⟨⟨by decide, by decide +kernel⟩, ?_⟩
    rintro place ⟨-, hsettles⟩
    by_contra hzero
    obtain rfl : place = 0 := by omega
    exact hsettles (by decide +kernel)
  obtain ⟨hexact, -⟩ := polling_exact engine hblock
    (.playing (engine.block.status.toNat * 4) history) ⟨0, true⟩
  obtain ⟨⟨count, raw, word, hacts, hword, -, hsettled, -⟩, -⟩ :=
    hexact history (gives_poll_playing hblock history true)
  obtain ⟨rfl, hvalue⟩ := hsettled 1 hfirst
  exact ⟨⟨raw, word, hacts, hword⟩, hvalue.trans (by decide +kernel)⟩

end GpuI2c
