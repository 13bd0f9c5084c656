import GpuI2c.Proofs.Adapter.Framed

/-!
# The device that a framed adapter talks to

Every transaction of a framed transfer goes to the device of the first message, for a write and for
a read and however many bytes share a transaction (`transfer_addresses_first`). The other messages
lend it their bytes and their direction only: a second message for the same device is exchanged with
that device, and one for another device is not refused, but exchanged with the first device all the
same (`transfer_misaddresses_second`).
-/

namespace GpuI2c

open Bus (BusError Carries Message Observer Transaction Wire firstFailure)

/-! ## Addresses on the wire -/

namespace Bus

/-- The address byte of a device: the address in the upper seven bits, the direction in the lowest
one. -/
def addressOnWire (address : UInt8) (isRead : Bool) : UInt8 :=
  UInt8.ofNat (2 * address.toNat % 256 + if isRead then 1 else 0)

/-- A transaction with the device at `address`. -/
def Wire.With (wire : Wire) (address : UInt8) : Prop :=
  wire.address = addressOnWire address wire.isRead

/-- The transaction of a message is one with the device of the message. -/
theorem Message.wire_with (message : Message) : message.wire.With message.address := rfl

/-- Devices are told apart by the lower seven bits of their addresses. -/
theorem addressOnWire_eq_iff {address other : UInt8} {isRead : Bool} :
    addressOnWire address isRead = addressOnWire other isRead ↔
      address.toNat % 128 = other.toNat % 128 := by
  have hbit : (if isRead then 1 else 0) < 2 := by
    cases isRead <;> decide
  unfold addressOnWire
  rw [← UInt8.toNat_inj, UInt8.toNat_ofNat', UInt8.toNat_ofNat']
  omega

/-- What holds of all wanted transactions holds of those that are carried out. -/
theorem Carries.forall_mem {P : Wire → Prop} {wanted : List Wire} {seen : List Transaction}
    {result : Except BusError Unit} (h : Carries wanted seen result)
    (hwanted : ∀ wire ∈ wanted, P wire) : ∀ transaction ∈ seen, P transaction.toWire := by
  intro transaction htransaction
  have hmem : transaction.toWire ∈ wanted.take (firstFailure seen + 1) := by
    rw [← h.wires_eq]
    exact List.mem_map_of_mem htransaction
  exact hwanted _ (List.mem_of_mem_take hmem)

end Bus

/-- The device of a register access. -/
def RegisterAccess.address : RegisterAccess → UInt8
  | .probe address | .write address _ _ | .read address _ _ => address

/-- A register access is one to the device of the first message. -/
theorem RegisterAccess.address_eq {first : Message} {others : List Message}
    {access : RegisterAccess} (h : ofMessages (first :: others) = .ok access) :
    access.address = first.address := by
  match first, others, h with
  | first, [], h =>
    by_cases hempty : first.isEmpty = true
    · obtain rfl := Except.ok.inj ((if_pos hempty).symm.trans h)
      rfl
    · have haccess := (if_neg hempty).symm.trans h
      match first, haccess with
      | .write address (offset :: bytes), haccess =>
        obtain rfl := Except.ok.inj haccess
        rfl
  | .write address (offset :: _), [.read _ buffer], h =>
    obtain rfl := Except.ok.inj h
    rfl
  | .write address (offset :: _), [.write _ bytes], h =>
    obtain rfl := Except.ok.inj h
    rfl

namespace FramedAdapter

variable {adapter : FramedAdapter}

/-! ## Frames -/

theorem length_of_mem_frames {group : Nat} {offset : UInt8} {bytes : List UInt8}
    {frame : UInt8 × List UInt8} (h : frame ∈ frames group offset bytes) :
    frame.2.length ≤ group - 1 + 1 := by
  induction offset, bytes using frames.induct group with
  | case1 offset =>
    rw [frames] at h
    exact (List.not_mem_nil h).elim
  | case2 offset byte rest ih =>
    rw [frames] at h
    obtain rfl | h := List.mem_cons.mp h
    · show (rest.take (group - 1)).length + 1 ≤ group - 1 + 1
      rw [List.length_take]
      omega
    · exact ih h

/-- A frame leaves room for the offset in its transaction. -/
theorem length_lt_of_mem_frames {offset : UInt8} {bytes : List UInt8} {frame : UInt8 × List UInt8}
    (h : frame ∈ frames adapter.groupLength offset bytes) :
    frame.2.length < Bus.maxTransactionLength := by
  have hlength := length_of_mem_frames h
  have hgroup : adapter.groupLength ≤ Bus.maxTransactionLength - 1 := by
    unfold groupLength
    split <;> decide
  have : Bus.maxTransactionLength = 15 := rfl
  omega

theorem with_of_mem_writingWires {address : UInt8} {frames : List (UInt8 × List UInt8)} :
    ∀ wire ∈ writingWires address frames, wire.With address := by
  intro wire hwire
  obtain ⟨frame, -, rfl⟩ := List.mem_map.mp hwire
  exact (Message.write address (frame.1 :: frame.2)).wire_with

theorem with_of_mem_readingWires {address : UInt8} {frames : List (UInt8 × List UInt8)} :
    ∀ wire ∈ readingWires address frames, wire.With address := by
  intro wire hwire
  obtain ⟨frame, -, hwire⟩ := List.mem_flatMap.mp hwire
  obtain rfl | hwire := List.mem_cons.mp hwire
  · exact (Message.write address [frame.1]).wire_with
  · obtain rfl := List.mem_singleton.mp hwire
    exact (Message.read address frame.2).wire_with

/-! ## Transfers -/

/-- The transactions that a register access shows are all with its device. -/
theorem exists_started_observe_access (observer : Observer) (hblock : adapter.engine.block.Known)
    {access : RegisterAccess} {acts : List Act} {result : Except BusError Unit}
    {filled : Option (List UInt8)} (h : (adapter.access access).Performs acts (result, filled)) :
    ∃ seen : List Transaction,
      (observer.observe adapter.engine.block acts).started = seen.reverse ++ observer.started ∧
      ∀ transaction ∈ seen, transaction.toWire.With access.address := by
  cases access with
  | probe address =>
    simp only [FramedAdapter.access, Program.bind_eq, Program.performs_bind,
      Program.pure_eq_done, Program.performs_done, Prod.mk.injEq] at h
    obtain ⟨⟨_, payload⟩, acts, _, rfl, h, rfl, rfl, rfl⟩ := h
    obtain ⟨transaction, hstarted, hdoes⟩ := Engine.started_observe_probe observer hblock h
    refine ⟨[transaction], by rw [List.append_nil, hstarted]; rfl, ?_⟩
    rw [List.forall_mem_singleton, hdoes.wire_eq]
    exact (Message.write address []).wire_with
  | write address offset data =>
    simp only [FramedAdapter.access, Program.bind_eq, Program.performs_bind,
      Program.pure_eq_done, Program.performs_done, Prod.mk.injEq] at h
    obtain ⟨_, acts, _, rfl, h, rfl, rfl, rfl⟩ := h
    obtain ⟨seen, hseen, hcarries⟩ := started_observe_writeFrames observer hblock
      (fun frame hframe => length_lt_of_mem_frames hframe) h
    rw [List.append_nil]
    exact ⟨seen, hseen, hcarries.forall_mem with_of_mem_writingWires⟩
  | read address offset buffer =>
    simp only [FramedAdapter.access, Program.bind_eq, Program.performs_bind,
      Program.pure_eq_done, Program.performs_done, Prod.mk.injEq] at h
    obtain ⟨⟨_, bytes⟩, acts, _, rfl, h, rfl, rfl, rfl⟩ := h
    obtain ⟨seen, hseen, hcarries, -⟩ := started_observe_readFrames observer hblock
      (fun frame hframe => Nat.le_of_lt (length_lt_of_mem_frames hframe)) h
    rw [List.append_nil]
    exact ⟨seen, hseen, hcarries.forall_mem with_of_mem_readingWires⟩

/-- **A framed transfer talks to the device of its first message**, and to no other. So a later
message finds its own device just if that is the device of the first message. -/
theorem transfer_addresses_first {σ : Type} (adapter : FramedAdapter) (first : Message)
    (others : List Message) (device : Device σ) (world : World σ)
    (hblock : adapter.engine.block.Known) :
    let outcome := (adapter.transfer (first :: others)).run device world
    GoReadsClear adapter.engine.block (actsOf outcome.events) →
      ∀ transaction ∈ transactionsOf adapter.engine.block outcome.events,
        transaction.toWire.With first.address ∧
        ∀ other ∈ others, transaction.toWire.With other.address ↔
          first.address.toNat % 128 = other.address.toNat % 128 := by
  intro outcome hgo transaction htransaction
  have hfirst : transaction.toWire.With first.address := by
    have hperforms : (adapter.transfer (first :: others)).Performs (actsOf outcome.events)
        outcome.value := performs_actsOf device hblock (keeps_transfer _) world
    cases hsupported : isSupported (first :: others) with
    | false =>
      obtain ⟨-, line, hevents⟩ :=
        run_transfer_of_not_isSupported adapter device world hsupported
      rw [show outcome.events = [.log line] from hevents] at htransaction
      exact (List.not_mem_nil htransaction).elim
    | true =>
      obtain ⟨access, haccess⟩ := exists_access_of_isSupported hsupported
      rw [transfer_of_isSupported hsupported] at hperforms
      obtain ⟨session, opening, body, closing, result, hacts, hopen, hwork, hclose, -⟩ :=
        Engine.performs_inSession_count hperforms
      obtain ⟨ended, filled, hbody, -⟩ := performs_accessAll haccess hwork
      obtain ⟨shown, hshown, hwith⟩ := exists_started_observe_access
        (({} : Observer).observe adapter.engine.block opening) hblock hbody
      have hseen : transactionsOf adapter.engine.block outcome.events = shown :=
        Engine.transactionsOf_session hblock hacts hopen hclose hgo hshown
      rw [← RegisterAccess.address_eq haccess]
      exact hwith transaction (hseen ▸ htransaction)
  refine ⟨hfirst, fun other _ => ?_⟩
  rw [Wire.With, show transaction.address = _ from hfirst]
  exact Bus.addressOnWire_eq_iff

/-- A second message for the same device, under an address with another topmost bit. -/
theorem transfer_addresses_first_polaris :
    let firmware : Firmware.Context :=
      { image := ⟨⟨#[]⟩, ""⟩, revision := ⟨2, 2⟩, objectRevision := ⟨1, 4⟩
        schema := .displayPaths ⟨⟨0, 0, 0⟩, 0, 0, 0, 0, 0⟩ ⟨⟨0, 0, 0⟩, 0, 0, 0⟩ }
    let adapter : FramedAdapter :=
      ⟨⟨.polaris, .default⟩, firmware, Chip.Family.polaris10.profile, none⟩
    let outcome := (adapter.transfer [.write 0x50 [0x10], .read 0xD0 [0]]).run (.steady 0x5810)
      ⟨(), false⟩
    let seen := transactionsOf adapter.engine.block outcome.events
    seen.length = 2 ∧ ∀ transaction ∈ seen,
      transaction.toWire.With 0x50 ∧ transaction.toWire.With 0xD0 := by
  intro firmware adapter outcome seen
  have hfirst := transfer_addresses_first adapter (.write 0x50 [0x10]) [.read 0xD0 [0]]
    (.steady 0x5810) ⟨(), false⟩ ⟨.polaris10, rfl⟩ (by decide +kernel)
  refine ⟨by decide +kernel, fun transaction htransaction => ?_⟩
  obtain ⟨hwith, hothers⟩ := hfirst transaction htransaction
  exact ⟨hwith, (hothers _ List.mem_cons_self).mpr (by decide)⟩

/-- Two messages for different devices: the byte of the second message is written to the device of
the first, and the buffer of the second is filled by it; no transaction is with the device of the
second. -/
theorem transfer_misaddresses_second :
    let firmware : Firmware.Context :=
      { image := ⟨⟨#[]⟩, ""⟩, revision := ⟨2, 2⟩, objectRevision := ⟨1, 4⟩
        schema := .displayPaths ⟨⟨0, 0, 0⟩, 0, 0, 0, 0, 0⟩ ⟨⟨0, 0, 0⟩, 0, 0, 0⟩ }
    let adapter : FramedAdapter :=
      ⟨⟨.polaris, .default⟩, firmware, Chip.Family.polaris10.profile, none⟩
    let writing := (adapter.transfer [.write 0x50 [0x10], .write 0x51 [0xAA]]).run (.steady 0x5810)
      ⟨(), false⟩
    let reading := (adapter.transfer [.write 0x50 [0x10], .read 0x51 [0]]).run (.steady 0x5810)
      ⟨(), false⟩
    writing.value.1 = .ok 2 ∧
      (transactionsOf adapter.engine.block writing.events).map (·.toWire) =
        [⟨0xA0, false, 2, [0x10, 0xAA]⟩] ∧
      reading.value = (.ok 2, [.write 0x50 [0x10], .read 0x51 [0x58]]) ∧
      (transactionsOf adapter.engine.block reading.events).map (·.toWire) =
        [⟨0xA0, false, 1, [0x10]⟩, ⟨0xA1, true, 1, []⟩] ∧
      (Message.write 0x51 [0xAA]).wire.address = 0xA2 ∧
      (Message.read 0x51 [0]).wire.address = 0xA3 := by
  decide +kernel

end FramedAdapter

end GpuI2c
