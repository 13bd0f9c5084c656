import GpuI2c.Adapter.Exchange
import GpuI2c.Proofs.Bus.Sequence
import GpuI2c.Proofs.Engine.Observed

/-!
# What an observer sees of an exchange

A message that fits one transaction shows as the transaction it stands for, and its buffer changes
only if it is a read that succeeded (`started_observe_exchange`). The session around the exchanges
of a transfer is opened before them and shut down once after them (`performs_inSession`).
-/

namespace GpuI2c

open Bus (Action BusError Message Observer Payload Request Transaction)

/-! ## The requests of messages -/

/-- The address byte as a number. -/
theorem Bus.Request.addressByte_eq (request : Request) :
    request.addressByte =
      UInt8.ofNat (2 * request.address.toNat % 256 + if request.action.isRead then 1 else 0) := by
  have hshift : (request.address <<< 1).toNat = 2 * (request.address.toNat % 128) := by
    rw [UInt8.toNat_shiftLeft]
    show request.address.toNat <<< 1 % 2 ^ 8 = _
    rw [Nat.shiftLeft_eq]
    omega
  have hbit (bit : Nat) (h : bit < 2 ^ 1) :
      2 * (request.address.toNat % 128) ||| bit = 2 * request.address.toNat % 256 + bit := by
    have hor := Nat.two_pow_add_eq_or_of_lt h (request.address.toNat % 128)
    rw [Nat.pow_one] at hor
    omega
  rw [← UInt8.toNat_inj, Request.addressByte, UInt8.toNat_or, hshift, UInt8.toNat_ofNat']
  cases request.action.isRead with
  | false =>
    show 2 * (request.address.toNat % 128) ||| 0 = (2 * request.address.toNat % 256 + 0) % 2 ^ 8
    rw [hbit 0 (by decide)]
    omega
  | true =>
    show 2 * (request.address.toNat % 128) ||| 1 = (2 * request.address.toNat % 256 + 1) % 2 ^ 8
    rw [hbit 1 (by decide)]
    omega

theorem isRead_ofDirection (read more : Bool) : (Action.ofDirection read more).isRead = read := by
  cases read <;> cases more <;> rfl

theorem wire_writeRequest (address : UInt8) (data : List UInt8) (more : Bool) :
    Request.wire ⟨.ofDirection false more, address, .write data⟩ =
      (Message.write address data).wire := by
  rw [Request.wire, Message.wire, Request.addressByte_eq, isRead_ofDirection]
  rfl

theorem wire_readRequest (address : UInt8) (buffer : List UInt8) (more : Bool) :
    Request.wire ⟨.ofDirection true more, address, .read buffer⟩ =
      (Message.read address buffer).wire := by
  rw [Request.wire, Message.wire, Request.addressByte_eq, isRead_ofDirection]
  rfl

theorem wire_probe (address : UInt8) :
    (Request.probe address).wire = (Message.write address []).wire := by
  have haction : (Request.probe address).action.isRead = false := isRead_ofDirection false false
  rw [Request.wire, Message.wire, Request.addressByte_eq, haction]
  rfl

/-- An answer to a request that stands for a write is what the write has to do. -/
theorem Bus.Transaction.Answers.does_write {transaction : Transaction} {request : Request}
    {result : Except BusError Unit} {payload : Payload} {address : UInt8} {data : List UInt8}
    (h : transaction.Answers request result payload)
    (hwire : request.wire = (Message.write address data).wire) :
    transaction.Does (Message.write address data).wire result := by
  have hwrite : transaction.isRead = false := congrArg Bus.Wire.isRead (h.wire_eq.trans hwire)
  refine ⟨h.wire_eq.trans hwire, h.result_eq, fun hread => ?_⟩
  rw [hwrite] at hread
  cases hread

namespace Engine

variable {engine : Engine} (observer : Observer)

/-! ## Exchanges -/

theorem started_observe_exchangeWrite (hblock : engine.block.Known) {address : UInt8}
    {data : List UInt8} (hlength : data.length ≤ Bus.maxTransactionLength) {more : Bool}
    {acts : List Act} {result : Except BusError Unit}
    (h : (engine.exchangeWrite address data more).Performs acts result) :
    ∃ transaction : Transaction,
      (observer.observe engine.block acts).started = transaction :: observer.started ∧
      transaction.Does (Message.write address data).wire result := by
  rw [exchangeWrite, Request.write, if_neg (by omega)] at h
  simp only [transact?, Program.bind_eq, Program.performs_bind, Program.pure_eq_done,
    Program.performs_done] at h
  obtain ⟨_, _, _, rfl, ⟨⟨_, payload⟩, acts, _, rfl, h, rfl, rfl⟩, rfl, rfl⟩ := h
  have hrequest : Request.length ⟨.ofDirection false more, address, .write data⟩ ≤
      Bus.maxTransactionLength := hlength
  obtain ⟨transaction, hstarted, hanswers⟩ := started_observe_transact observer hblock hrequest h
  rw [List.append_nil, List.append_nil]
  exact ⟨transaction, hstarted, hanswers.does_write (wire_writeRequest _ _ _)⟩

theorem started_observe_probe (hblock : engine.block.Known) {address : UInt8} {acts : List Act}
    {result : Except BusError Unit} {payload : Payload}
    (h : (engine.transact (Request.probe address)).Performs acts (result, payload)) :
    ∃ transaction : Transaction,
      (observer.observe engine.block acts).started = transaction :: observer.started ∧
      transaction.Does (Message.write address []).wire result := by
  have hempty : (Request.probe address).length ≤ Bus.maxTransactionLength := Nat.zero_le _
  obtain ⟨transaction, hstarted, hanswers⟩ := started_observe_transact observer hblock hempty h
  exact ⟨transaction, hstarted, hanswers.does_write (wire_probe address)⟩

/-- The end of a read hands out the buffer: the reply if the transaction succeeded. -/
theorem started_observe_exchangeRead (hblock : engine.block.Known) {address : UInt8}
    {buffer : List UInt8} (hlength : buffer.length ≤ Bus.maxTransactionLength) {more : Bool}
    {acts : List Act} {result : Except BusError Unit} {filled : List UInt8}
    (h : (engine.exchangeRead address buffer more).Performs acts (result, filled)) :
    ∃ transaction : Transaction,
      (observer.observe engine.block acts).started = transaction :: observer.started ∧
      transaction.Does (Message.read address buffer).wire result ∧
      filled = (if transaction.status = .succeeded then transaction.reply else buffer) ∧
      filled.length = buffer.length := by
  rw [exchangeRead, Request.read, if_neg (by omega)] at h
  simp only [transact?, Program.bind_eq, Program.performs_bind, Program.pure_eq_done,
    Program.performs_done] at h
  obtain ⟨_, _, after, rfl, ⟨⟨_, payload⟩, acts, _, rfl, h, rfl, rfl⟩, hfilled⟩ := h
  have hrequest : Request.length ⟨.ofDirection true more, address, .read buffer⟩ ≤
      Bus.maxTransactionLength := hlength
  obtain ⟨transaction, hstarted, hanswers⟩ := started_observe_transact observer hblock hrequest h
  have hpayload : payload =
      .read (if transaction.status = .succeeded then transaction.reply else buffer) := by
    rw [hanswers.payload_eq]
    split <;> rfl
  have hcount := hanswers.length_eq
  subst hpayload
  obtain ⟨rfl, hvalue⟩ := hfilled
  obtain ⟨rfl, rfl⟩ := Prod.mk.inj hvalue
  have hwire : transaction.toWire = (Message.read address buffer).wire := by
    rw [hanswers.wire_eq, wire_readRequest]
  have hbytes : transaction.count = buffer.length := congrArg Bus.Wire.count hwire
  rw [List.append_nil, List.append_nil]
  refine ⟨transaction, hstarted, ⟨hwire, hanswers.result_eq, fun _ hstatus => ?_⟩, rfl, hcount⟩
  rw [if_pos hstatus] at hcount
  rw [hbytes]
  exact hcount

/-- Doing the request of a write is writing. -/
theorem exchange_write_eq {address : UInt8} {data : List UInt8} {more : Bool} {request : Request}
    (h : (Message.write address data).request more = .ok request) :
    engine.exchange (.write address data) request =
      (engine.exchangeWrite address data more).bind fun result =>
        .done (result, .write address data) := by
  rw [exchangeWrite, show Request.write address data more = .ok request from h]
  simp only [exchange, transact?, Program.bind_eq, Program.bind_assoc, Program.pure_eq_done,
    Program.done_bind]
  congr 1
  funext value
  cases value.2 <;> rfl

/-- Doing the request of a read is reading. -/
theorem exchange_read_eq {address : UInt8} {buffer : List UInt8} {more : Bool} {request : Request}
    (h : (Message.read address buffer).request more = .ok request) :
    engine.exchange (.read address buffer) request =
      (engine.exchangeRead address buffer more).bind fun value =>
        .done (value.1, .read address value.2) := by
  rw [exchangeRead, show Request.read address buffer more = .ok request from h]
  simp only [exchange, transact?, Program.bind_eq, Program.bind_assoc, Program.pure_eq_done,
    Program.done_bind]
  congr 1
  funext value
  cases value.2 <;> rfl

/-- **A message shows as the transaction it stands for**, and its buffer holds the reply if this
succeeded. -/
theorem started_observe_exchange (hblock : engine.block.Known) {message : Message}
    (hlength : message.length ≤ Bus.maxTransactionLength) {more : Bool} {request : Request}
    (hrequest : message.request more = .ok request) {acts : List Act}
    {result : Except BusError Unit} {filled : Message}
    (h : (engine.exchange message request).Performs acts (result, filled)) :
    ∃ transaction : Transaction,
      (observer.observe engine.block acts).started = transaction :: observer.started ∧
      transaction.Does message.wire result ∧
      filled = (if transaction.status = .succeeded then message.withBuffer transaction.reply
        else message) ∧
      filled.length = message.length := by
  cases message with
  | write address data =>
    rw [exchange_write_eq hrequest] at h
    simp only [Program.performs_bind, Program.performs_done, Prod.mk.injEq] at h
    obtain ⟨_, acts, _, rfl, h, rfl, rfl, rfl⟩ := h
    obtain ⟨transaction, hstarted, hdoes⟩ :=
      started_observe_exchangeWrite observer hblock hlength h
    rw [List.append_nil]
    exact ⟨transaction, hstarted, hdoes, (ite_self _).symm, rfl⟩
  | read address buffer =>
    rw [exchange_read_eq hrequest] at h
    simp only [Program.performs_bind, Program.performs_done, Prod.mk.injEq] at h
    obtain ⟨⟨_, bytes⟩, acts, _, rfl, h, rfl, rfl, rfl⟩ := h
    obtain ⟨transaction, hstarted, hdoes, hbytes, hcount⟩ :=
      started_observe_exchangeRead observer hblock hlength h
    rw [List.append_nil]
    refine ⟨transaction, hstarted, hdoes, ?_, hcount⟩
    rw [hbytes]
    split <;> rfl

/-! ## Keeping to the block -/

theorem keeps_exchangeWrite (address : UInt8) (data : List UInt8) (more : Bool) :
    (engine.exchangeWrite address data more).Keeps (OnBlock engine.block) :=
  Program.Keeps.bind (keeps_transact? _) fun _ => trivial

theorem keeps_exchangeRead (address : UInt8) (buffer : List UInt8) (more : Bool) :
    (engine.exchangeRead address buffer more).Keeps (OnBlock engine.block) := by
  refine Program.Keeps.bind (keeps_transact? _) fun value => ?_
  split <;> trivial

theorem keeps_exchange (message : Message) (request : Request) :
    (engine.exchange message request).Keeps (OnBlock engine.block) :=
  Program.Keeps.bind (keeps_transact request) fun _ => trivial

/-! ## Sessions -/

variable {α : Type} {body : Program (Except Stop Unit × α)}

/-- However the work in a session ends, the session is shut down once. -/
theorem performs_endSession {session : Session} (hclosed : session.closed = false)
    {result : Except Stop Unit} {acts : List Act} {value : Unit}
    (h : (engine.endSession session result).Performs acts value) : engine.IsShutdown acts := by
  match result with
  | .error (.left error) =>
    rw [endSession, ← closeSession_eq_dropSession hclosed] at h
    exact performs_closeSession h
  | .error (.failed error) => exact performs_closeSession h
  | .ok () => exact performs_closeSession h

/-- What is done in a session of its own stands between an opening and a shutdown. -/
theorem performs_inSession {acts : List Act} {value : Except BusError Unit × α}
    (h : (engine.inSession body).Performs acts value) :
    ∃ session opening inside closing result,
      acts = opening ++ (inside ++ closing) ∧
      engine.openSession.Performs opening session ∧
      body.Performs inside (result, value.2) ∧
      engine.IsShutdown closing ∧
      value.1 = result.mapError Stop.error := by
  simp only [inSession, Program.bind_eq, Program.performs_bind, Program.pure_eq_done,
    Program.performs_done] at h
  obtain ⟨session, opening, _, rfl, hopen, ⟨result, filled⟩, inside, _, rfl, hbody, _, closing, _,
    rfl, hend, rfl, rfl⟩ := h
  exact ⟨session, opening, inside, closing, result, by rw [List.append_nil], hopen, hbody,
    performs_endSession (performs_openSession hopen).1 hend, rfl⟩

/-- The same where the number of messages is what a success answers. -/
theorem performs_inSession_count {count : Nat} {acts : List Act} {value : Except BusError Nat × α}
    (h : ((engine.inSession body).bind fun value =>
      .done (value.1.map fun _ => count, value.2)).Performs acts value) :
    ∃ session opening inside closing result,
      acts = opening ++ (inside ++ closing) ∧
      engine.openSession.Performs opening session ∧
      body.Performs inside (result, value.2) ∧
      engine.IsShutdown closing ∧
      value.1 = (result.mapError Stop.error).map fun _ => count := by
  obtain ⟨outcome, acts, _, rfl, hsession, rfl, rfl⟩ := Program.performs_bind.mp h
  obtain ⟨session, opening, inside, closing, result, rfl, hopen, hbody, hclose, hresult⟩ :=
    performs_inSession hsession
  exact ⟨session, opening, inside, closing, result, by rw [List.append_nil], hopen, hbody, hclose,
    by rw [← hresult]⟩

theorem keeps_endSession (session : Session) (result : Except Stop Unit) :
    (engine.endSession session result).Keeps (OnBlock engine.block) := by
  match result with
  | .error (.left _) => exact keeps_dropSession session
  | .error (.failed _) => exact keeps_closeSession session
  | .ok () => exact keeps_closeSession session

theorem keeps_inSession (h : body.Keeps (OnBlock engine.block)) :
    (engine.inSession body).Keeps (OnBlock engine.block) :=
  Program.Keeps.bind keeps_openSession fun session =>
    Program.Keeps.bind h fun value =>
      Program.Keeps.bind (keeps_endSession session value.1) fun _ => trivial

end Engine

end GpuI2c
