import GpuI2c.Proofs.Engine.Words

/-!
# Lengths of requests

The count of a transaction and the number of a slot have four bits each, which is enough for the
fifteen bytes that a request is made with at most. But a request may be given another payload of any
length afterwards, and submitting it only checks that the length fits thirty-two bits. The main
statement is `submit_programs_modulo`: the transaction is then started all the same, with the count
and the slots taken modulo sixteen.
-/

namespace GpuI2c.Engine

open Bus (BusError ChannelStatus Payload Request)

variable {engine : Engine}

/-- The acts that program a request into the registers of a block and start it. The count is that of
its bytes, and the slots go up from one, all modulo sixteen; the address byte goes to slot 0 before
them. -/
inductive Programmed (block : Chip.RegisterBlock) (request : Request) : List Act → Prop
  | acts {held setup address control start : UInt32} {slots : List UInt32}
      (hcount : (Chip.count.extract setup).toNat = request.length % 16)
      (haddress : Chip.index.extract address = 0 ∧ Chip.indexWrite.extract address = 1 ∧
        (Chip.data.extract address).toUInt8 = request.addressByte)
      (hslots : slots.map (fun word =>
          ((Chip.index.extract word).toNat, (Chip.data.extract word).toUInt8)) =
        request.payload.outgoing.mapIdx fun place byte => ((place + 1) % 16, byte))
      (hgo : Chip.go.extract start = 1) :
      Programmed block request
        ([.read block.transaction held, .write block.transaction setup,
            .write block.data address] ++
          slots.map (.write block.data) ++
          [.read block.control control, .write block.control start])

/-- The bytes that go to the slots, by their places. -/
theorem slotActs_eq_map (slot : Nat) (bytes : List UInt8) :
    engine.slotActs (UInt32.ofNat slot) bytes =
      (bytes.mapIdx fun place byte => slotWord (UInt32.ofNat (slot + place)) byte).map
        (.write engine.block.data) := by
  induction bytes generalizing slot with
  | nil => rfl
  | cons byte rest ih =>
    have hnext : UInt32.ofNat slot + 1 = UInt32.ofNat (slot + 1) := by
      rw [UInt32.ofNat_add]
      rfl
    have hplace (place : Nat) : slot + 1 + place = slot + (place + 1) := by omega
    rw [slotActs, hnext, ih, List.mapIdx_cons, List.map_cons]
    simp only [hplace, Nat.add_zero]

theorem programmed_submitActs (request : Request) (setup control : UInt32) :
    Programmed engine.block request (engine.submitActs request setup control) := by
  have hfirst : engine.slotActs 1 request.payload.outgoing =
      engine.slotActs (UInt32.ofNat 1) request.payload.outgoing := rfl
  rw [submitActs, hfirst, slotActs_eq_map]
  refine .acts (count_setupWord_mod request setup)
    ⟨index_addressWord request, indexWrite_addressWord request, data_addressWord request⟩ ?_
    (go_goWord control)
  apply List.ext_getElem?
  intro place
  simp only [List.getElem?_map, List.getElem?_mapIdx, Option.map_map, Function.comp_def,
    index_slotWord_mod, data_slotWord, Nat.add_comm 1]

/-- **Lengths are taken modulo sixteen.** Whatever the length of a request, as long as it fits
thirty-two bits, submitting it and doing its transaction program it and start it. Only a longer one
is refused, and then no register is reached. -/
theorem submit_programs_modulo {σ : Type} (engine : Engine) (hblock : engine.block.Known)
    (request : Request) (device : Device σ) (world : World σ) :
    let submitted := (engine.submit request).run device world
    let transacted := (engine.transact request).run device world
    (request.length < UInt32.size → submitted.value = .ok () ∧
      Programmed engine.block request (actsOf submitted.events) ∧
      ∃ submission rest, actsOf transacted.events = submission ++ rest ∧
        Programmed engine.block request submission) ∧
    (UInt32.size ≤ request.length →
      submitted = ⟨.error .invalidInput, world, []⟩ ∧
      transacted = ⟨(.error .invalidInput, request.payload), world, []⟩) := by
  intro submitted transacted
  refine ⟨fun hlength => ?_, fun hlength => ?_⟩
  · have hsubmit : (engine.submit request).Performs (actsOf submitted.events) submitted.value :=
      performs_actsOf device hblock (keeps_submit request) world
    have htransact : (engine.transact request).Performs (actsOf transacted.events)
        transacted.value :=
      performs_actsOf device hblock (keeps_transact request) world
    obtain ⟨hvalue, setup, control, hacts⟩ := performs_submit hlength hsubmit
    obtain ⟨setup', control', polls, raw, collected, hall, -⟩ := performs_transact hlength htransact
    rw [hacts, hall, List.append_assoc]
    exact ⟨hvalue, programmed_submitActs request setup control, _, _, rfl,
      programmed_submitActs request setup' control'⟩
  · have hrefused : engine.submit request = .done (.error .invalidInput) := by
      rw [submit, if_neg (Nat.not_lt.mpr hlength)]
      rfl
    have hnothing : engine.transact request =
        .done (.error .invalidInput, request.payload) := by
      rw [transact, hrefused]
      rfl
    show (engine.submit request).run device world = _ ∧
      (engine.transact request).run device world = _
    rw [hrefused, hnothing]
    exact ⟨rfl, rfl⟩

/-- A probe that was given twenty bytes to write. -/
theorem submit_programs_modulo_polaris :
    let engine : Engine := ⟨.polaris, .default⟩
    let request := (Request.probe 0x50).withPayload (.write (List.replicate 20 0xAA))
    let submitted := (engine.submit request).run (.steady 0) ⟨(), false⟩
    submitted.value = .ok () ∧ Programmed engine.block request (actsOf submitted.events) := by
  intro engine request submitted
  obtain ⟨hprogrammed, -⟩ :=
    submit_programs_modulo engine ⟨.polaris10, rfl⟩ request (.steady 0) ⟨(), false⟩
  obtain ⟨hvalue, hacts, -⟩ := hprogrammed (by decide)
  exact ⟨hvalue, hacts⟩

/-- A request with a sixteenth byte is not refused: it is started with a count of zero, and its last
byte goes to slot 0, where the address is. -/
theorem submit_overlong_request :
    let engine : Engine := ⟨.polaris, .default⟩
    let request := (Request.probe 0x50).withPayload (.write (List.replicate 16 0xAA))
    let outcome := (engine.submit request).run (.steady 0) ⟨(), false⟩
    let writes := writesOf (actsOf outcome.events)
    Bus.maxTransactionLength < request.length ∧ outcome.value = .ok () ∧
      ((writes.filter fun write => write.1 = engine.block.transaction).map fun write =>
        Chip.count.extract write.2) = [0] ∧
      (writes.filter fun write => write.1 = engine.block.data).getLast?.map (fun write =>
        Chip.index.extract write.2) = some 0 ∧
      (engine.block.control, 1) ∈ writes := by
  intro engine request outcome writes
  have hsubmit : (engine.submit request).Performs (actsOf outcome.events) outcome.value :=
    performs_actsOf _ ⟨.polaris10, rfl⟩ (keeps_submit request) _
  obtain ⟨haccepted, -⟩ := performs_submit (by decide) hsubmit
  exact ⟨by decide, haccepted, by decide +kernel, by decide +kernel, by decide +kernel⟩

end GpuI2c.Engine
