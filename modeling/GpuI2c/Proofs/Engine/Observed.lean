import Mathlib.Data.List.Basic
import GpuI2c.Proofs.Bus.Observer
import GpuI2c.Proofs.Engine.Words

/-!
# What an observer sees of the engine

The main statement is `started_observe_transact`: whatever the registers held before, a transaction
of the engine shows as one transaction on the wire, the one that was asked for, and the engine
reports what the observer saw of its end. Opening and closing a session start no transaction, as
long as GO never reads as set.
-/

namespace GpuI2c

open Bus (BusError ChannelStatus Observer Payload Request Transaction)

/-! ## Filling the buffer -/

/-- A list is what its first places hold, when there are as many of them as it is long. -/
theorem filterMap_range_getElem? {α : Type} {list : List α} {n : Nat} (h : list.length ≤ n) :
    (List.range n).filterMap (fun place => list[place]?) = list := by
  induction list generalizing n with
  | nil => simp
  | cons head tail ih =>
    cases n with
    | zero => simp at h
    | succ n =>
      have htail : tail.length ≤ n := by simpa using h
      rw [List.range_succ_eq_map, List.filterMap_cons, List.filterMap_map]
      show head :: (List.range n).filterMap (fun place => tail[place]?) = head :: tail
      rw [ih htail]

theorem outgoing_length_le (payload : Payload) : payload.outgoing.length ≤ payload.length := by
  cases payload with
  | write data => exact Nat.le_refl data.length
  | empty | read buffer => exact Nat.zero_le _

/-- Numbers up to fifteen are told apart by four bits. -/
theorem four_bits_ofNat {n : Nat} (h : n ≤ Bus.maxTransactionLength) :
    0xF &&& UInt32.ofNat n = UInt32.ofNat n := by
  rw [← UInt32.toNat_inj, toNat_four_bits h, UInt32.toNat_ofNat_of_lt' (lt_size_of_le_max h)]

theorem ofNat_eq_ofNat_iff {m n : Nat} (hm : m ≤ Bus.maxTransactionLength)
    (hn : n ≤ Bus.maxTransactionLength) : UInt32.ofNat m = UInt32.ofNat n ↔ m = n := by
  constructor
  · intro h
    rw [← toNat_four_bits hm, ← toNat_four_bits hn, h]
  · rintro rfl
    rfl

namespace Engine

variable {engine : Engine} {observer : Observer}

theorem fill_addressWord (request : Request) :
    observer.fill (addressWord request) =
      { observer with address := request.addressByte, slots := [] } := by
  rw [Observer.fill, if_pos ⟨index_addressWord request, indexWrite_addressWord request⟩,
    data_addressWord]

theorem fill_slotWord {slot : Nat} (hpos : slot ≠ 0) (hslot : slot ≤ Bus.maxTransactionLength)
    (byte : UInt8) : observer.fill (slotWord (UInt32.ofNat slot) byte) =
      { observer with slots := (UInt32.ofNat slot, byte) :: observer.slots } := by
  have hindex : Chip.index.extract (slotWord (UInt32.ofNat slot) byte) = UInt32.ofNat slot := by
    rw [index_slotWord, four_bits_ofNat hslot]
  have hne : UInt32.ofNat slot ≠ 0 := by
    intro heq
    exact hpos ((ofNat_eq_ofNat_iff hslot (Nat.zero_le _)).mp heq)
  rw [Observer.fill, hindex, data_slotWord, if_neg fun h => hne h.1]

/-- Writing bytes to consecutive slots puts just these bytes into just these slots. -/
theorem observe_slotActs (observer : Observer) (hblock : engine.block.Known) {slot : Nat}
    (hpos : slot ≠ 0) {bytes : List UInt8}
    (hfit : slot + bytes.length ≤ Bus.maxTransactionLength + 1) :
    ∃ slots, observer.observe engine.block (engine.slotActs (UInt32.ofNat slot) bytes) =
        { observer with slots } ∧
      ∀ place ≤ Bus.maxTransactionLength, slots.lookup (UInt32.ofNat place) =
        if slot ≤ place ∧ place < slot + bytes.length then bytes[place - slot]?
        else observer.slots.lookup (UInt32.ofNat place) := by
  induction bytes generalizing slot observer with
  | nil =>
    refine ⟨observer.slots, rfl, fun place _ => ?_⟩
    rw [if_neg (by simp only [List.length_nil]; omega)]
  | cons byte rest ih =>
    rw [List.length_cons] at hfit
    have hslot : slot ≤ Bus.maxTransactionLength := by omega
    have hnext : UInt32.ofNat slot + 1 = UInt32.ofNat (slot + 1) := by
      rw [UInt32.ofNat_add]
      rfl
    rw [slotActs, Observer.observe_cons, Observer.step_write_data hblock,
      fill_slotWord hpos hslot, hnext]
    have hrest : slot + 1 + rest.length ≤ Bus.maxTransactionLength + 1 := by omega
    obtain ⟨slots, hobserve, hlookup⟩ := ih
      { observer with slots := (UInt32.ofNat slot, byte) :: observer.slots }
      (by omega) hrest
    refine ⟨slots, hobserve, fun place hplace => ?_⟩
    rw [hlookup place hplace, List.lookup_cons, List.length_cons]
    by_cases heq : place = slot
    · subst heq
      rw [if_neg (by omega), if_pos (by omega), Nat.sub_self, List.getElem?_cons_zero,
        beq_self_eq_true]
    · have hbeq : (UInt32.ofNat place == UInt32.ofNat slot) = false := by
        rw [beq_eq_false_iff_ne]
        exact fun h => heq ((ofNat_eq_ofNat_iff hplace hslot).mp h)
      rw [hbeq]
      by_cases hin : slot + 1 ≤ place ∧ place < slot + 1 + rest.length
      · rw [if_pos hin, if_pos (by omega), ← List.getElem?_cons_succ (a := byte),
          Nat.sub_add_eq, Nat.sub_add_cancel (by omega)]
      · rw [if_neg hin, if_neg (by omega)]

/-- **Submitting a request starts just that transaction.** -/
theorem started_observe_submit (observer : Observer) (hblock : engine.block.Known)
    {request : Request} (hlength : request.length ≤ Bus.maxTransactionLength)
    (setup control : UInt32) :
    (observer.observe engine.block (engine.submitActs request setup control)).started =
      { toWire := request.wire } :: observer.started := by
  have hout : request.payload.outgoing.length ≤ request.length :=
    outgoing_length_le request.payload
  have hfit : 1 + request.payload.outgoing.length ≤ Bus.maxTransactionLength + 1 := by omega
  obtain ⟨slots, hobserve, hlookup⟩ := observe_slotActs
    { observer with
      setup := setupWord request setup, address := request.addressByte, slots := [] }
    hblock Nat.one_ne_zero hfit
  have hbytes : (List.range request.length).filterMap
      (fun place => slots.lookup (UInt32.ofNat (place + 1))) = request.payload.outgoing := by
    rw [← filterMap_range_getElem? hout]
    apply List.filterMap_congr
    intro place hplace
    rw [List.mem_range] at hplace
    rw [hlookup (place + 1) (by omega)]
    by_cases hin : place < request.payload.outgoing.length
    · rw [if_pos (by omega), Nat.add_sub_cancel]
    · rw [if_neg (by omega), List.getElem?_eq_none (by omega)]
      rfl
  have hwire : (Observer.wire { observer with
      setup := setupWord request setup, address := request.addressByte, slots }) =
        request.wire := by
    unfold Observer.wire Request.wire
    rw [readWrite_setupWord, count_setupWord hlength, hbytes]
  have hbegin : observer.observe engine.block [.read engine.block.transaction setup,
      .write engine.block.transaction (setupWord request setup),
      .write engine.block.data (addressWord request)] =
      { observer with
        setup := setupWord request setup, address := request.addressByte, slots := [] } := by
    rw [Observer.observe_cons, Observer.step_read_other hblock _ (by simp), Observer.observe_cons,
      Observer.step_write_transaction, Observer.observe_cons, Observer.step_write_data hblock,
      fill_addressWord, Observer.observe_nil]
  have hfirst : engine.slotActs 1 request.payload.outgoing =
      engine.slotActs (UInt32.ofNat 1) request.payload.outgoing := rfl
  rw [submitActs, Observer.observe_append, Observer.observe_append, hbegin, hfirst, hobserve,
    Observer.observe_cons, Observer.step_read_other hblock _ (.inl rfl), Observer.observe_cons,
    Observer.step_write_go hblock (go_goWord control), Observer.observe_nil, hwire]

/-! ## The end of a transaction -/

theorem observe_acknowledge (hblock : engine.block.Known) (raw word : UInt32) :
    observer.observe engine.block [.read engine.block.interruptControl raw,
      .write engine.block.interruptControl word] = observer := by
  rw [Observer.observe_cons, Observer.step_read_other hblock _ (.inr (.inl rfl)),
    Observer.observe_cons, Observer.step_write_other hblock _ (.inl rfl), Observer.observe_nil]

/-- The status values that are read belong to the transaction started last. -/
theorem started_observe_polls {acts : List Act}
    (hreads : ∀ act ∈ acts, OnlyReads engine.block.status act) {last : Transaction}
    {earlier : List Transaction} (hstarted : observer.started = last :: earlier) :
    (observer.observe engine.block acts).started =
      { last with statuses := last.statuses ++ valuesRead engine.block.status acts } ::
        earlier := by
  induction acts generalizing observer last with
  | nil => simp [valuesRead, hstarted]
  | cons act acts ih =>
    obtain ⟨hact, hrest⟩ := List.forall_mem_cons.mp hreads
    rw [Observer.observe_cons]
    cases act with
    | read register raw =>
      obtain rfl : register = engine.block.status := hact
      rw [Observer.step_read_status, Observer.amend, hstarted, ih hrest rfl, valuesRead_same,
        List.append_assoc, List.singleton_append]
    | write register word => exact hact.elim
    | pause length => exact ih hrest hstarted

/-- So do the data words that are read. -/
theorem started_observe_drain (hblock : engine.block.Known) {raws : List UInt32}
    {last : Transaction} {earlier : List Transaction}
    (hstarted : observer.started = last :: earlier) :
    (observer.observe engine.block (raws.map (.read engine.block.data))).started =
      { last with words := last.words ++ raws } :: earlier := by
  induction raws generalizing observer last with
  | nil => simp [hstarted]
  | cons raw raws ih =>
    rw [List.map_cons, Observer.observe_cons, Observer.step_read_data hblock, Observer.amend,
      hstarted, ih rfl, List.append_assoc, List.singleton_append]

theorem started_fill_replyWord : (observer.fill replyWord).started = observer.started := by
  have hindex : Chip.index.extract replyWord ≠ 0 := by
    rw [index_replyWord]
    decide
  rw [Observer.fill, if_neg fun h => hindex h.1]

end Engine

/-! ## Whole transactions -/

/-- The payload after a transaction that succeeded: a read holds the reply. -/
def Bus.Payload.receiving (payload : Payload) (reply : List UInt8) : Payload :=
  match payload with
  | .read _ => .read reply
  | payload => payload

/-- What a transaction on the wire has to do with a request and with what the engine said of it. -/
structure Bus.Transaction.Answers (transaction : Transaction) (request : Request)
    (result : Except BusError Unit) (payload : Payload) : Prop where
  wire_eq : transaction.toWire = request.wire
  result_eq : result = transaction.status.toResult
  /-- The payload changes only if the transaction succeeded, and never its length. -/
  payload_eq : payload = if transaction.status = .succeeded then
    request.payload.receiving transaction.reply else request.payload
  length_eq : payload.length = request.payload.length

namespace Engine

variable {engine : Engine} {observer : Observer}

theorem started_observe_collect (hblock : engine.block.Known) {payload filled : Payload}
    {acts : List Act} (h : (engine.collect payload).Performs acts filled) {last : Transaction}
    {earlier : List Transaction} (hstarted : observer.started = last :: earlier)
    (hwords : last.words = []) :
    ∃ words, (observer.observe engine.block acts).started = { last with words } :: earlier ∧
      filled = payload.receiving (Transaction.reply { last with words }) ∧
      filled.length = payload.length := by
  cases payload with
  | empty =>
    obtain ⟨rfl, rfl⟩ := h
    exact ⟨[], by rw [Observer.observe_nil, hstarted, ← hwords], rfl, rfl⟩
  | write data =>
    obtain ⟨rfl, rfl⟩ := h
    exact ⟨[], by rw [Observer.observe_nil, hstarted, ← hwords], rfl, rfl⟩
  | read buffer =>
    simp only [collect, Program.bind_eq, Program.performs_bind, Program.pure_eq_done,
      Program.performs_done] at h
    obtain ⟨bytes, _, _, rfl, hreply, rfl, rfl⟩ := h
    obtain ⟨raws, raw, hcount, rfl, rfl⟩ := performs_readReply hreply
    have hfill : (observer.fill replyWord).started = last :: earlier := by
      rw [started_fill_replyWord, hstarted]
    refine ⟨raws, ?_, rfl, ?_⟩
    · rw [List.append_nil, Observer.observe_cons, Observer.step_write_data hblock,
        Observer.observe_append, observe_acknowledge hblock,
        started_observe_drain hblock hfill, hwords, List.nil_append]
    · show (raws.map _).length = buffer.length
      rw [List.length_map, hcount]

/-- **A transaction of the engine shows as one transaction on the wire**, the one that was asked
for, and the engine says of its end what the observer saw of it. -/
theorem started_observe_transact (observer : Observer) (hblock : engine.block.Known)
    {request : Request} (hlength : request.length ≤ Bus.maxTransactionLength) {acts : List Act}
    {result : Except BusError Unit} {payload : Payload}
    (h : (engine.transact request).Performs acts (result, payload)) :
    ∃ transaction : Transaction,
      (observer.observe engine.block acts).started = transaction :: observer.started ∧
      transaction.Answers request result payload := by
  obtain ⟨setup, control, polls, raw, collected, rfl, hreads, rfl, hcollect⟩ :=
    performs_transact (lt_size_of_le_max hlength) h
  have hstarted := started_observe_polls hreads
    (started_observe_submit observer hblock hlength setup control)
  rw [List.nil_append] at hstarted
  rw [Observer.observe_append, Observer.observe_append, Observer.observe_append,
    observe_acknowledge hblock]
  by_cases hstatus : ChannelStatus.settled (valuesRead engine.block.status polls) = .succeeded
  · rw [if_pos hstatus] at hcollect
    obtain ⟨words, hstarted, rfl, hcount⟩ :=
      started_observe_collect hblock hcollect hstarted rfl
    refine ⟨_, hstarted, rfl, rfl, ?_, hcount⟩
    exact (if_pos hstatus).symm
  · rw [if_neg hstatus] at hcollect
    obtain ⟨rfl, rfl⟩ := hcollect
    refine ⟨_, hstarted, rfl, rfl, ?_, rfl⟩
    exact (if_neg hstatus).symm

/-! ## Opening and closing -/

theorem started_observe_openSession (hblock : engine.block.Known) {acts : List Act}
    {session : Session} (h : engine.openSession.Performs acts session)
    (hgo : GoReadsClear engine.block acts) :
    (observer.observe engine.block acts).started = observer.started := by
  obtain ⟨-, control, pins, speed, rfl, hspeed⟩ := performs_openSession h
  have hclear : Chip.go.extract (enableWord control) = 0 := by
    rw [go_enableWord]
    exact hgo control (by simp [valuesRead])
  have hspeed : (observer.observe engine.block speed).started = observer.started := by
    obtain rfl | ⟨raw, word, rfl⟩ := performs_setSpeed hspeed
    · rfl
    · rw [Observer.observe_cons, Observer.step_read_other hblock _ (by simp),
        Observer.observe_cons, Observer.step_write_other hblock _ (by simp), Observer.observe_nil]
  rw [Observer.observe_append, Observer.observe_cons, Observer.step_read_other hblock _ (by simp),
    Observer.observe_cons, Observer.step_write_control hblock hclear, Observer.observe_cons,
    Observer.step_read_other hblock _ (by simp), Observer.observe_cons,
    Observer.step_write_other hblock _ (by simp), Observer.observe_nil, hspeed]

theorem started_observe_shutdown (hblock : engine.block.Known) {acts : List Act}
    (h : engine.IsShutdown acts) (hgo : GoReadsClear engine.block acts) :
    (observer.observe engine.block acts).started = observer.started := by
  obtain ⟨pins, control, control', rfl⟩ := h
  have hreset : Chip.go.extract (resetWord control) = 0 := by
    rw [go_resetWord]
    exact hgo control (by simp [valuesRead])
  have hrelease : Chip.go.extract (releaseWord control') = 0 := by
    rw [go_releaseWord]
    exact hgo control' (by simp [valuesRead])
  rw [Observer.observe_cons, Observer.step_read_other hblock _ (by simp),
    Observer.observe_cons, Observer.step_write_other hblock _ (by simp), Observer.observe_cons,
    Observer.step_read_other hblock _ (by simp), Observer.observe_cons,
    Observer.step_write_control hblock hreset, Observer.observe_cons,
    Observer.step_read_other hblock _ (by simp), Observer.observe_cons,
    Observer.step_write_control hblock hrelease, Observer.observe_nil]

/-- A session shows the transactions of what is done in it, and no others. -/
theorem transactionsOf_session (hblock : engine.block.Known) {events : List Event}
    {opening body closing : List Act} {session : Session}
    (hacts : actsOf events = opening ++ (body ++ closing))
    (hopen : engine.openSession.Performs opening session) (hclose : engine.IsShutdown closing)
    (hgo : GoReadsClear engine.block (actsOf events)) {shown : List Transaction}
    (hshown : ((({} : Observer).observe engine.block opening).observe engine.block body).started =
      shown.reverse ++ (({} : Observer).observe engine.block opening).started) :
    transactionsOf engine.block events = shown := by
  rw [hacts, goReadsClear_append, goReadsClear_append] at hgo
  obtain ⟨hgoOpen, -, hgoClose⟩ := hgo
  rw [transactionsOf, hacts, Observer.observe_append, Observer.observe_append,
    started_observe_shutdown hblock hclose hgoClose, hshown,
    started_observe_openSession hblock hopen hgoOpen]
  show (shown.reverse ++ []).reverse = shown
  rw [List.append_nil, List.reverse_reverse]

end Engine

end GpuI2c
