import GpuI2c.Bus.Request
import GpuI2c.Proofs.Bus.Observer

/-!
# Sequences of transactions

A transfer wants some transactions done, one after the other, and stops at the first that does not
succeed. `Carries` says that the transactions seen on the wire are the wanted ones up to and
including that one, and that its status is what the transfer ends with.
-/

namespace GpuI2c.Bus

/-! ## What is wanted -/

/-- The transaction that a message stands for: the address in the upper seven bits of the address
byte, the direction in the lowest one. -/
def Message.wire (message : Message) : Wire where
  address := UInt8.ofNat (2 * message.address.toNat % 256 + if message.isRead then 1 else 0)
  isRead := message.isRead
  count := message.length
  bytes := if message.isRead then [] else message.bytes

/-! ## The first failure -/

/-- The place of the first transaction that did not succeed; the number of transactions if all of
them did. -/
def firstFailure (seen : List Transaction) : Nat :=
  seen.findIdx fun transaction => transaction.status ≠ .succeeded

/-- How a sequence of transactions ended: as the first that did not succeed. -/
def verdict (seen : List Transaction) : Except BusError Unit :=
  match seen[firstFailure seen]? with
  | some transaction => transaction.status.toResult
  | none => .ok ()

/-- The reply of the transaction at a place. -/
def replyAt (seen : List Transaction) (place : Nat) : List UInt8 :=
  match seen[place]? with
  | some transaction => transaction.reply
  | none => []

variable {transaction : Transaction} {seen : List Transaction}

theorem firstFailure_cons_of_succeeded (h : transaction.status = .succeeded) :
    firstFailure (transaction :: seen) = firstFailure seen + 1 := by
  simp [firstFailure, List.findIdx_cons, h]

theorem firstFailure_cons_of_failed (h : transaction.status ≠ .succeeded) :
    firstFailure (transaction :: seen) = 0 := by
  simp [firstFailure, List.findIdx_cons, h]

theorem verdict_cons_of_succeeded (h : transaction.status = .succeeded) :
    verdict (transaction :: seen) = verdict seen := by
  rw [verdict, firstFailure_cons_of_succeeded h, List.getElem?_cons_succ]
  rfl

theorem verdict_cons_of_failed (h : transaction.status ≠ .succeeded) :
    verdict (transaction :: seen) = transaction.status.toResult := by
  rw [verdict, firstFailure_cons_of_failed h, List.getElem?_cons_zero]

/-! ## Carrying out what is wanted -/

/-- What a transaction has to do with what was wanted and with the result it was reported to
have. -/
structure Transaction.Does (transaction : Transaction) (wire : Wire)
    (result : Except BusError Unit) : Prop where
  wire_eq : transaction.toWire = wire
  result_eq : result = transaction.status.toResult
  /-- A read that succeeded gave as many bytes as it asked for. -/
  complete : transaction.isRead → transaction.status = .succeeded →
    transaction.reply.length = transaction.count

/-- The wanted transactions were done up to the first failure, and nothing else was. -/
structure Carries (wanted : List Wire) (seen : List Transaction) (result : Except BusError Unit) :
    Prop where
  wires_eq : seen.map (·.toWire) = wanted.take (firstFailure seen + 1)
  result_eq : result = verdict seen
  complete : ∀ transaction ∈ seen, transaction.isRead → transaction.status = .succeeded →
    transaction.reply.length = transaction.count

variable {wire : Wire} {wanted : List Wire} {result : Except BusError Unit} {error : BusError}

theorem Transaction.Does.succeeded (h : transaction.Does wire (.ok ())) :
    transaction.status = .succeeded := by
  have hresult := h.result_eq
  revert hresult
  cases transaction.status <;> simp [ChannelStatus.toResult]

theorem Transaction.Does.failed (h : transaction.Does wire (.error error)) :
    transaction.status ≠ .succeeded := by
  intro hstatus
  have hresult := h.result_eq
  rw [hstatus] at hresult
  cases hresult

theorem Carries.nil : Carries [] [] (.ok ()) :=
  ⟨rfl, rfl, List.forall_mem_nil _⟩

theorem Carries.cons (h : transaction.Does wire (.ok ())) (hrest : Carries wanted seen result) :
    Carries (wire :: wanted) (transaction :: seen) result := by
  refine ⟨?_, ?_, List.forall_mem_cons.mpr ⟨h.complete, hrest.complete⟩⟩
  · rw [List.map_cons, h.wire_eq, firstFailure_cons_of_succeeded h.succeeded,
      List.take_succ_cons, hrest.wires_eq]
  · rw [verdict_cons_of_succeeded h.succeeded, hrest.result_eq]

theorem Carries.stop (h : transaction.Does wire (.error error)) :
    Carries (wire :: wanted) [transaction] (.error error) := by
  refine ⟨?_, ?_, List.forall_mem_singleton.mpr h.complete⟩
  · rw [firstFailure_cons_of_failed h.failed, List.map_cons, List.map_nil, h.wire_eq,
      List.take_succ_cons, List.take_zero]
  · rw [verdict_cons_of_failed h.failed, h.result_eq]

theorem Carries.single (h : transaction.Does wire result) :
    Carries [wire] [transaction] result := by
  cases result with
  | ok _ => exact .cons h .nil
  | error error => exact .stop h

/-- What is made of the result is a failure just if some transaction failed. -/
theorem Carries.map_result {α : Type} (h : Carries wanted seen result) (value : α) :
    (result.map fun _ => value) = match seen[firstFailure seen]? with
      | none => .ok value
      | some transaction => transaction.status.toResult.map fun _ => value := by
  rw [h.result_eq, verdict]
  cases seen[firstFailure seen]? <;> rfl

end GpuI2c.Bus
