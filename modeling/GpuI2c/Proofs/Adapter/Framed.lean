import Mathlib.Data.List.Basic
import GpuI2c.Adapter.Framed
import GpuI2c.Proofs.Adapter.Exchange

/-!
# What a framed adapter puts on the wire

A frame that is written shows as one transaction, a frame that is read as two: the offset is
written, then the bytes are read (`started_observe_writeFrames`, `started_observe_readFrames`).
The main statement is `transfer_frames_messages`, for adapters that move one byte at a time: the
three shapes of transfers that are not refused, and what each of them shows.
-/

namespace GpuI2c.FramedAdapter

open Bus (BusError Carries Message Observer Request Transaction Wire firstFailure replyAt verdict)

variable {adapter : FramedAdapter}

/-! ## Frames -/

/-- The transactions that write frames. -/
def writingWires (address : UInt8) (frames : List (UInt8 × List UInt8)) : List Wire :=
  frames.map fun frame => (Message.write address (frame.1 :: frame.2)).wire

/-- The transactions that read frames. -/
def readingWires (address : UInt8) (frames : List (UInt8 × List UInt8)) : List Wire :=
  frames.flatMap fun frame =>
    [(Message.write address [frame.1]).wire, (Message.read address frame.2).wire]

/-- The bytes of frames after they were read: those of a frame whose second transaction succeeded
are the reply. -/
def receivedBytes (frames : List (UInt8 × List UInt8)) (seen : List Transaction) : List UInt8 :=
  (frames.mapIdx fun place frame =>
    if 2 * place + 1 < firstFailure seen then replyAt seen (2 * place + 1) else frame.2).flatten

theorem receivedBytes_cons {frame : UInt8 × List UInt8} {frames : List (UInt8 × List UInt8)}
    {first second : Transaction} {seen : List Transaction} (hfirst : first.status = .succeeded)
    (hsecond : second.status = .succeeded) :
    receivedBytes (frame :: frames) (first :: second :: seen) =
      second.reply ++ receivedBytes frames seen := by
  have hfailure : firstFailure (first :: second :: seen) = firstFailure seen + 2 := by
    rw [Bus.firstFailure_cons_of_succeeded hfirst, Bus.firstFailure_cons_of_succeeded hsecond]
  rw [receivedBytes, List.mapIdx_cons, List.flatten_cons, hfailure, if_pos (by omega)]
  congr 3
  funext place frame
  have hlater : replyAt (first :: second :: seen) (2 * (place + 1) + 1) =
      replyAt seen (2 * place + 1) := rfl
  rw [hlater]
  by_cases hplace : 2 * place + 1 < firstFailure seen
  · rw [if_pos hplace, if_pos (by omega)]
  · rw [if_neg hplace, if_neg (by omega)]

theorem receivedBytes_of_failure_le {frames : List (UInt8 × List UInt8)} {seen : List Transaction}
    (h : firstFailure seen ≤ 1) : receivedBytes frames seen = frames.flatMap (·.2) := by
  rw [receivedBytes, List.flatMap_def]
  congr 1
  apply List.ext_getElem?
  intro place
  have hplace : ¬ 2 * place + 1 < firstFailure seen := by omega
  simp [hplace]

/-- Writing frames shows one transaction for each, up to the first failure. -/
theorem started_observe_writeFrames (observer : Observer) (hblock : adapter.engine.block.Known)
    {address : UInt8} {frames : List (UInt8 × List UInt8)}
    (hfit : ∀ frame ∈ frames, frame.2.length < Bus.maxTransactionLength) {acts : List Act}
    {result : Except BusError Unit}
    (h : (adapter.writeFrames address frames).Performs acts result) :
    ∃ seen : List Transaction,
      (observer.observe adapter.engine.block acts).started = seen.reverse ++ observer.started ∧
      Carries (writingWires address frames) seen result := by
  induction frames generalizing observer acts result with
  | nil =>
    obtain ⟨rfl, rfl⟩ := h
    exact ⟨[], rfl, .nil⟩
  | cons frame frames ih =>
    obtain ⟨hfirst, hrest⟩ := List.forall_mem_cons.mp hfit
    simp only [writeFrames, Program.bind_eq, Program.performs_bind] at h
    obtain ⟨ended, before, after, rfl, hwrite, h⟩ := h
    have hlength : (frame.1 :: frame.2).length ≤ Bus.maxTransactionLength := hfirst
    obtain ⟨transaction, hstarted, hdoes⟩ :=
      Engine.started_observe_exchangeWrite observer hblock hlength hwrite
    rw [Observer.observe_append]
    cases ended with
    | ok _ =>
      obtain ⟨seen, hseen, hcarries⟩ := ih (observer.observe adapter.engine.block before) hrest h
      refine ⟨transaction :: seen, ?_, .cons hdoes hcarries⟩
      rw [hseen, hstarted, List.reverse_cons, List.append_assoc, List.singleton_append]
    | error error =>
      obtain ⟨rfl, rfl⟩ := h
      exact ⟨[transaction], hstarted, .stop hdoes⟩

/-- Reading frames shows two transactions for each, up to the first failure. -/
theorem started_observe_readFrames (observer : Observer) (hblock : adapter.engine.block.Known)
    {address : UInt8} {frames : List (UInt8 × List UInt8)}
    (hfit : ∀ frame ∈ frames, frame.2.length ≤ Bus.maxTransactionLength) {acts : List Act}
    {result : Except BusError Unit} {filled : List UInt8}
    (h : (adapter.readFrames address frames).Performs acts (result, filled)) :
    ∃ seen : List Transaction,
      (observer.observe adapter.engine.block acts).started = seen.reverse ++ observer.started ∧
      Carries (readingWires address frames) seen result ∧
      filled = receivedBytes frames seen ∧
      ∀ place frame, frames[place]? = some frame → 2 * place + 1 < firstFailure seen →
        (replyAt seen (2 * place + 1)).length = frame.2.length := by
  induction frames generalizing observer acts result filled with
  | nil =>
    obtain ⟨rfl, hvalue⟩ := h
    obtain ⟨rfl, rfl⟩ := Prod.mk.inj hvalue
    refine ⟨[], rfl, .nil, rfl, fun place frame hframe => ?_⟩
    rw [List.getElem?_nil] at hframe
    cases hframe
  | cons frame frames ih =>
    obtain ⟨hfirst, hrest⟩ := List.forall_mem_cons.mp hfit
    simp only [readFrames, Program.bind_eq, Program.performs_bind] at h
    obtain ⟨ended, selecting, after, rfl, hselect, h⟩ := h
    have hoffset : [frame.1].length ≤ Bus.maxTransactionLength := Nat.succ_le_succ (Nat.zero_le _)
    obtain ⟨select, hstarted, hselected⟩ :=
      Engine.started_observe_exchangeWrite observer hblock hoffset hselect
    cases ended with
    | error error =>
      obtain ⟨rfl, hvalue⟩ := h
      obtain ⟨rfl, rfl⟩ := Prod.mk.inj hvalue
      have hfailure : firstFailure [select] ≤ 1 := by
        simp [Bus.firstFailure_cons_of_failed hselected.failed]
      refine ⟨[select], ?_, .stop hselected, ?_, fun place _ _ hplace => by omega⟩
      · rw [List.append_nil]
        exact hstarted
      · rw [receivedBytes_of_failure_le hfailure]
        rfl
    | ok _ =>
      simp only [Program.performs_bind] at h
      obtain ⟨⟨ended, bytes⟩, reading, after, rfl, hread, h⟩ := h
      obtain ⟨fetch, hfetched, hdoes, hbytes, hcount⟩ := Engine.started_observe_exchangeRead
        (observer.observe adapter.engine.block selecting) hblock hfirst hread
      rw [hstarted] at hfetched
      have hsucceeded := hselected.succeeded
      cases ended with
      | error error =>
        obtain ⟨rfl, hvalue⟩ := h
        obtain ⟨rfl, rfl⟩ := Prod.mk.inj hvalue
        have hfailure : firstFailure [select, fetch] ≤ 1 := by
          simp [Bus.firstFailure_cons_of_succeeded hsucceeded,
            Bus.firstFailure_cons_of_failed hdoes.failed]
        refine ⟨[select, fetch], ?_, .cons hselected (.stop hdoes), ?_,
          fun place _ _ hplace => by omega⟩
        · rw [List.append_nil, Observer.observe_append, hfetched]
          rfl
        · rw [receivedBytes_of_failure_le hfailure, hbytes, if_neg hdoes.failed]
          rfl
      | ok _ =>
        simp only [Program.performs_bind, Program.pure_eq_done, Program.performs_done,
          Prod.mk.injEq] at h
        obtain ⟨⟨_, _⟩, others, _, rfl, h, rfl, rfl, rfl⟩ := h
        obtain ⟨seen, hseen, hcarries, hothers, hcounts⟩ := ih
          ((observer.observe adapter.engine.block selecting).observe adapter.engine.block reading)
          hrest h
        rw [hbytes, if_pos hdoes.succeeded] at hcount ⊢
        refine ⟨select :: fetch :: seen, ?_, .cons hselected (.cons hdoes hcarries), ?_, ?_⟩
        · rw [List.append_nil, Observer.observe_append, Observer.observe_append, hseen, hfetched]
          simp
        · rw [receivedBytes_cons hsucceeded hdoes.succeeded, ← hothers]
        · intro place wanted hwanted hplace
          rw [Bus.firstFailure_cons_of_succeeded hsucceeded,
            Bus.firstFailure_cons_of_succeeded hdoes.succeeded] at hplace
          cases place with
          | zero =>
            obtain rfl : frame = wanted := Option.some.inj hwanted
            exact hcount
          | succ place => exact hcounts place wanted hwanted (by omega)

/-! ## One byte at a time -/

/-- The register `place` after the one at `offset`. -/
def registerFrom (offset : UInt8) (place : Nat) : UInt8 :=
  UInt8.ofNat ((offset.toNat + place) % 256)

theorem registerFrom_succ (offset : UInt8) (place : Nat) :
    registerFrom offset (place + 1) = registerFrom (offset + UInt8.ofNat 1) place := by
  rw [registerFrom, registerFrom, UInt8.toNat_add, ← UInt8.toNat_inj, UInt8.toNat_ofNat',
    UInt8.toNat_ofNat']
  show (offset.toNat + (place + 1)) % 256 % 256 = ((offset.toNat + 1) % 256 + place) % 256 % 256
  omega

theorem frames_one (offset : UInt8) (bytes : List UInt8) :
    frames 1 offset bytes = bytes.mapIdx fun place byte => (registerFrom offset place, [byte]) := by
  induction bytes generalizing offset with
  | nil => rw [frames, List.mapIdx_nil]
  | cons byte rest ih =>
    have hzero : registerFrom offset 0 = offset := by
      rw [registerFrom, Nat.add_zero, Nat.mod_eq_of_lt offset.toNat_lt, UInt8.ofNat_toNat]
    rw [frames, List.mapIdx_cons, hzero, Nat.sub_self, List.take_zero, List.drop_zero, ih]
    congr 2
    funext place byte
    rw [registerFrom_succ]

theorem length_of_mem_frames_one {offset : UInt8} {bytes : List UInt8}
    {frame : UInt8 × List UInt8} (h : frame ∈ frames 1 offset bytes) : frame.2.length = 1 := by
  rw [frames_one] at h
  obtain ⟨place, hplace, rfl⟩ := List.mem_mapIdx.mp h
  rfl

/-- The transactions that write bytes to the registers from `offset` on, one by one. -/
def registerWrites (address offset : UInt8) (data : List UInt8) : List Wire :=
  data.mapIdx fun place byte => (Message.write address [registerFrom offset place, byte]).wire

/-- The transactions that read the registers from `offset` on, one by one. -/
def registerReads (address offset : UInt8) (buffer : List UInt8) : List Wire :=
  (buffer.mapIdx fun place byte =>
    [(Message.write address [registerFrom offset place]).wire,
      (Message.read address [byte]).wire]).flatten

theorem map_mapIdx {α β γ : Type} (list : List α) (f : Nat → α → β) (g : β → γ) :
    (list.mapIdx f).map g = list.mapIdx fun place item => g (f place item) := by
  apply List.ext_getElem?
  intro place
  simp [Function.comp_def]

theorem flatten_mapIdx_of_singletons {α β : Type} {list : List α} {f : Nat → α → List β}
    {g : Nat → α → β} (h : ∀ place item, list[place]? = some item → f place item = [g place item]) :
    (list.mapIdx f).flatten = list.mapIdx g := by
  induction list generalizing f g with
  | nil => rfl
  | cons head tail ih =>
    have htail := ih (f := fun place => f (place + 1)) (g := fun place => g (place + 1))
      fun place item hitem => h (place + 1) item hitem
    rw [List.mapIdx_cons, List.mapIdx_cons, List.flatten_cons, h 0 head rfl, htail,
      List.singleton_append]

theorem writingWires_frames_one (address offset : UInt8) (data : List UInt8) :
    writingWires address (frames 1 offset data) = registerWrites address offset data := by
  rw [writingWires, frames_one, map_mapIdx]
  rfl

theorem readingWires_frames_one (address offset : UInt8) (buffer : List UInt8) :
    readingWires address (frames 1 offset buffer) = registerReads address offset buffer := by
  rw [readingWires, frames_one, List.flatMap_def, map_mapIdx]
  rfl

/-- The bytes of a buffer after a transfer: byte `place` is read by transaction `2 * place + 1`. -/
def filledBuffer (buffer : List UInt8) (seen : List Transaction) : List UInt8 :=
  buffer.mapIdx fun place byte =>
    if 2 * place + 1 < firstFailure seen then (replyAt seen (2 * place + 1)).headD byte else byte

theorem receivedBytes_frames_one {offset : UInt8} {buffer : List UInt8} {seen : List Transaction}
    (h : ∀ place frame, (frames 1 offset buffer)[place]? = some frame →
      2 * place + 1 < firstFailure seen →
      (replyAt seen (2 * place + 1)).length = frame.2.length) :
    receivedBytes (frames 1 offset buffer) seen = filledBuffer buffer seen := by
  rw [receivedBytes, filledBuffer]
  rw [frames_one] at h ⊢
  rw [List.mapIdx_mapIdx]
  apply flatten_mapIdx_of_singletons
  intro place byte hbyte
  by_cases hplace : 2 * place + 1 < firstFailure seen
  · have hlength := h place (registerFrom offset place, [byte]) (by simp [hbyte]) hplace
    obtain ⟨answer, hanswer⟩ := List.length_eq_one_iff.mp hlength
    show (if _ then _ else _) = _
    rw [if_pos hplace, if_pos hplace, hanswer]
    rfl
  · show (if _ then _ else _) = _
    rw [if_neg hplace, if_neg hplace]

/-- No chip family has devices that advance their register offset. -/
theorem groupLength_eq_one {family : Chip.Family} (h : adapter.profile = family.profile) :
    adapter.groupLength = 1 := by
  rw [groupLength, h]
  rfl

/-! ## The shapes of transfers -/

/-- The transfers that are not refused, with the transactions that each of them stands for. -/
inductive Framing : List Message → List Wire → Prop where
  /-- An empty message probes its address. -/
  | probe (message : Message) : message.length = 0 →
      Framing [message] [(Message.write message.address []).wire]
  /-- A write of at least two bytes writes all but the first from the register that is named
  first. -/
  | write (address offset : UInt8) (data : List UInt8) : data ≠ [] →
      Framing [.write address (offset :: data)] (registerWrites address offset data)
  /-- A write of one byte names the register from which the second message is written. -/
  | thenWrite (address offset other : UInt8) (data : List UInt8) :
      Framing [.write address [offset], .write other data] (registerWrites address offset data)
  /-- A write of one byte names the register from which the second message is read. -/
  | thenRead (address offset other : UInt8) (buffer : List UInt8) :
      Framing [.write address [offset], .read other buffer] (registerReads address offset buffer)

/-- The transactions that a register access stands for. -/
def wiresOf : RegisterAccess → List Wire
  | .probe address => [(Message.write address []).wire]
  | .write address offset data => registerWrites address offset data
  | .read address offset buffer => registerReads address offset buffer

/-- The buffer that a register access hands out, if it is a read. -/
def filledOf (access : RegisterAccess) (seen : List Transaction) : Option (List UInt8) :=
  match access with
  | .read _ _ buffer => some (filledBuffer buffer seen)
  | .probe _ | .write .. => none

/-- What passes the test for the three shapes has one of them. -/
theorem exists_framing {messages : List Message} (h : isSupported messages = true) :
    ∃ wanted, Framing messages wanted := by
  match messages with
  | [] => exact absurd h Bool.false_ne_true
  | [only] =>
    obtain hempty | hlong := Bool.or_eq_true_iff.mp h
    · exact ⟨_, .probe only (beq_iff_eq.mp hempty)⟩
    · obtain ⟨hwrite, hlength⟩ := Bool.and_eq_true_iff.mp hlong
      match only with
      | .read _ _ => exact absurd hwrite Bool.false_ne_true
      | .write _ [] | .write _ [_] => exact absurd hlength Bool.false_ne_true
      | .write address (offset :: byte :: rest) =>
        exact ⟨_, .write address offset (byte :: rest) (List.cons_ne_nil _ _)⟩
  | [.read _ _, _] => exact absurd h Bool.false_ne_true
  | [.write address data, second] =>
    obtain ⟨offset, rfl⟩ := List.length_eq_one_iff.mp (beq_iff_eq.mp h)
    cases second with
    | write other bytes => exact ⟨_, .thenWrite address offset other bytes⟩
    | read other buffer => exact ⟨_, .thenRead address offset other buffer⟩
  | _ :: _ :: _ :: _ => exact absurd h Bool.false_ne_true

/-- A list of one of the three shapes passes the test, and is taken apart into the register access
of its shape. -/
theorem Framing.exists_access {messages : List Message} {wanted : List Wire}
    (h : Framing messages wanted) : isSupported messages = true ∧
      ∃ access, RegisterAccess.ofMessages messages = .ok access ∧ wanted = wiresOf access := by
  cases h with
  | probe message hempty =>
    have hprobe : message.isEmpty = true := beq_iff_eq.mpr hempty
    refine ⟨?_, .probe message.address, if_pos hprobe, rfl⟩
    rw [isSupported, hprobe, Bool.true_or]
  | write address offset data hdata =>
    cases data with
    | nil => exact (hdata rfl).elim
    | cons byte rest => exact ⟨rfl, _, rfl, rfl⟩
  | thenWrite address offset other data => exact ⟨rfl, _, rfl, rfl⟩
  | thenRead address offset other buffer => exact ⟨rfl, _, rfl, rfl⟩

/-- **The two looks at the messages agree.** A list that passes the test is taken apart in the
session, so that none of the refusals there is met. -/
theorem exists_access_of_isSupported {messages : List Message} (h : isSupported messages = true) :
    ∃ access, RegisterAccess.ofMessages messages = .ok access := by
  obtain ⟨wanted, hframing⟩ := exists_framing h
  obtain ⟨-, access, haccess, -⟩ := hframing.exists_access
  exact ⟨access, haccess⟩

/-- A register access shows its transactions, up to the first failure. -/
theorem started_observe_access (observer : Observer) (hblock : adapter.engine.block.Known)
    (hgroup : adapter.groupLength = 1) {access : RegisterAccess} {acts : List Act}
    {result : Except BusError Unit} {filled : Option (List UInt8)}
    (h : (adapter.access access).Performs acts (result, filled)) :
    ∃ seen : List Transaction,
      (observer.observe adapter.engine.block acts).started = seen.reverse ++ observer.started ∧
      Carries (wiresOf access) seen result ∧
      filled = filledOf access seen := by
  cases access with
  | probe address =>
    simp only [FramedAdapter.access, Program.bind_eq, Program.performs_bind,
      Program.pure_eq_done, Program.performs_done, Prod.mk.injEq] at h
    obtain ⟨⟨_, payload⟩, acts, _, rfl, h, rfl, rfl, rfl⟩ := h
    obtain ⟨transaction, hstarted, hdoes⟩ := Engine.started_observe_probe observer hblock h
    exact ⟨[transaction], by rw [List.append_nil, hstarted]; rfl, .single hdoes, rfl⟩
  | write address offset data =>
    simp only [FramedAdapter.access, Program.bind_eq, Program.performs_bind,
      Program.pure_eq_done, Program.performs_done, Prod.mk.injEq] at h
    obtain ⟨_, acts, _, rfl, h, rfl, rfl, rfl⟩ := h
    rw [hgroup] at h
    have hfit : ∀ frame ∈ frames 1 offset data, frame.2.length < Bus.maxTransactionLength := by
      intro frame hframe
      rw [length_of_mem_frames_one hframe]
      decide
    obtain ⟨seen, hseen, hcarries⟩ := started_observe_writeFrames observer hblock hfit h
    rw [writingWires_frames_one] at hcarries
    exact ⟨seen, by rw [List.append_nil, hseen], hcarries, rfl⟩
  | read address offset buffer =>
    simp only [FramedAdapter.access, Program.bind_eq, Program.performs_bind,
      Program.pure_eq_done, Program.performs_done, Prod.mk.injEq] at h
    obtain ⟨⟨_, bytes⟩, acts, _, rfl, h, rfl, rfl, rfl⟩ := h
    rw [hgroup] at h
    have hfit : ∀ frame ∈ frames 1 offset buffer,
        frame.2.length ≤ Bus.maxTransactionLength := by
      intro frame hframe
      rw [length_of_mem_frames_one hframe]
      decide
    obtain ⟨seen, hseen, hcarries, hbytes, hcounts⟩ :=
      started_observe_readFrames observer hblock hfit h
    rw [readingWires_frames_one] at hcarries
    rw [receivedBytes_frames_one hcounts] at hbytes
    exact ⟨seen, by rw [List.append_nil, hseen], hcarries, congrArg some hbytes⟩

/-- Only the buffer of a read changes. -/
theorem filled_messages {messages : List Message} {wanted : List Wire}
    (hframing : Framing messages wanted) {access : RegisterAccess}
    (haccess : RegisterAccess.ofMessages messages = .ok access) (seen : List Transaction) :
    (match filledOf access seen with
      | some buffer => messages.map (·.withBuffer buffer)
      | none => messages) =
    messages.map fun message => message.withBuffer (filledBuffer message.bytes seen) := by
  cases hframing with
  | probe message hempty =>
    obtain rfl := Except.ok.inj ((if_pos (beq_iff_eq.mpr hempty)).symm.trans haccess)
    cases message with
    | write address data => rfl
    | read address buffer =>
      obtain rfl : buffer = [] := List.length_eq_zero_iff.mp hempty
      rfl
  | write address offset data hdata =>
    obtain rfl := Except.ok.inj haccess
    rfl
  | thenWrite address offset other data =>
    obtain rfl := Except.ok.inj haccess
    rfl
  | thenRead address offset other buffer =>
    obtain rfl := Except.ok.inj haccess
    rfl

/-! ## Keeping to the block -/

theorem keeps_writeFrames (address : UInt8) (frames : List (UInt8 × List UInt8)) :
    (adapter.writeFrames address frames).Keeps (OnBlock adapter.engine.block) := by
  induction frames with
  | nil => trivial
  | cons frame frames ih =>
    refine Program.Keeps.bind (Engine.keeps_exchangeWrite _ _ _) fun result => ?_
    cases result with
    | error error => trivial
    | ok _ => exact ih

theorem keeps_readFrames (address : UInt8) (frames : List (UInt8 × List UInt8)) :
    (adapter.readFrames address frames).Keeps (OnBlock adapter.engine.block) := by
  induction frames with
  | nil => trivial
  | cons frame frames ih =>
    refine Program.Keeps.bind (Engine.keeps_exchangeWrite _ _ _) fun result => ?_
    cases result with
    | error error => trivial
    | ok _ =>
      refine Program.Keeps.bind (Engine.keeps_exchangeRead _ _ _) fun value => ?_
      obtain ⟨result, filled⟩ := value
      cases result with
      | error error => trivial
      | ok _ => exact Program.Keeps.bind ih fun _ => trivial

theorem keeps_access (access : RegisterAccess) :
    (adapter.access access).Keeps (OnBlock adapter.engine.block) := by
  cases access with
  | probe address => exact Program.Keeps.bind (Engine.keeps_transact _) fun _ => trivial
  | write address offset data => exact Program.Keeps.bind (keeps_writeFrames _ _) fun _ => trivial
  | read address offset buffer => exact Program.Keeps.bind (keeps_readFrames _ _) fun _ => trivial

theorem keeps_accessAll (messages : List Message) :
    (adapter.accessAll messages).Keeps (OnBlock adapter.engine.block) := by
  have hattempt : (adapter.attempt messages).Keeps (OnBlock adapter.engine.block) := by
    unfold attempt
    split
    · trivial
    · exact Program.Keeps.bind (keeps_access _) fun _ => trivial
  refine Program.Keeps.bind hattempt fun value => Program.Keeps.bind ?_ fun _ => trivial
  unfold report
  split
  · exact Engine.keeps_give rfl
  · trivial
  · trivial

theorem keeps_transfer (messages : List Message) :
    (adapter.transfer messages).Keeps (OnBlock adapter.engine.block) := by
  unfold transfer
  split
  · exact Program.Keeps.bind (Engine.keeps_inSession (keeps_accessAll messages)) fun _ => trivial
  · refine Program.Keeps.bind ?_ fun _ => trivial
    refine Program.Keeps.bind (Engine.keeps_give rfl) fun _ => ?_
    exact Program.Keeps.bind (Engine.keeps_give rfl) fun _ => Engine.keeps_give rfl

/-! ## Transfers -/

/-- A transfer of one of the shapes does its work in a session of its own. -/
theorem transfer_of_isSupported {messages : List Message} (h : isSupported messages = true) :
    adapter.transfer messages =
      (adapter.engine.inSession (adapter.accessAll messages)).bind
        fun value => .done (value.1.map fun _ => messages.length, value.2) := by
  rw [transfer, if_pos h]
  rfl

/-- A transfer that has none of the shapes is refused, and reaches no register. -/
theorem run_transfer_of_not_isSupported {σ : Type} (adapter : FramedAdapter) (device : Device σ)
    (world : World σ) {messages : List Message} (h : isSupported messages = false) :
    ((adapter.transfer messages).run device world).value = (.error .unsupported, messages) ∧
      ∃ line, ((adapter.transfer messages).run device world).events = [.log line] := by
  rw [transfer, if_neg (h ▸ Bool.false_ne_true)]
  exact ⟨rfl, _, rfl⟩

/-- The error of a failure is the one that made it. -/
theorem error_mapError_failed (result : Except BusError Unit) :
    (result.mapError Engine.Stop.failed).mapError Engine.Stop.error = result := by
  cases result <;> rfl

/-- The log line about a failure is no act. -/
theorem performs_report {result : Except Engine.Stop Unit} {acts : List Act} {value : Unit}
    (h : (report result).Performs acts value) : acts = [] := by
  match result with
  | .error (.failed error) =>
    obtain ⟨_, rfl, rfl, -⟩ := h
    rfl
  | .error (.left error) => exact h.1
  | .ok () => exact h.1

/-- The work of a session is the register access that the messages stand for. -/
theorem performs_accessAll {messages : List Message} {access : RegisterAccess}
    (haccess : RegisterAccess.ofMessages messages = .ok access) {acts : List Act}
    {result : Except Engine.Stop Unit} {after : List Message}
    (h : (adapter.accessAll messages).Performs acts (result, after)) :
    ∃ ended filled, (adapter.access access).Performs acts (ended, filled) ∧
      result = ended.mapError .failed ∧
      after = match filled with
        | some buffer => messages.map (·.withBuffer buffer)
        | none => messages := by
  simp only [accessAll, attempt, haccess, Program.bind_eq, Program.performs_bind,
    Program.pure_eq_done, Program.performs_done, Prod.mk.injEq] at h
  obtain ⟨_, _, _, rfl, ⟨⟨ended, filled⟩, acts, _, rfl, hended, rfl, rfl⟩, _, logged, _, rfl,
    hlog, rfl, rfl, rfl⟩ := h
  obtain rfl := performs_report hlog
  rw [List.append_nil, List.append_nil, List.append_nil]
  exact ⟨ended, filled, hended, rfl, rfl⟩

/-- **A transfer is framed as an access to numbered registers**, one byte at a time. The test before
the session passes just the three shapes, and what it passes is taken apart in the session into the
register access of its shape, so that none of the refusals there is met. A transfer of another shape
is refused and reaches no register. For the three shapes the transactions on the wire are those that
the shape stands for, up to and including the first that fails; the status of that one is the error
of the transfer, and the bytes that were read before it are in the buffer. -/
theorem transfer_frames_messages {σ : Type} (adapter : FramedAdapter) (messages : List Message)
    (device : Device σ) (world : World σ) (hblock : adapter.engine.block.Known)
    (hgroup : adapter.groupLength = 1) :
    let outcome := (adapter.transfer messages).run device world
    let seen := transactionsOf adapter.engine.block outcome.events
    let failed := firstFailure seen
    (isSupported messages = true ↔ ∃ wanted, Framing messages wanted) ∧
    (∀ wanted, Framing messages wanted →
      ∃ access, RegisterAccess.ofMessages messages = .ok access ∧ wanted = wiresOf access) ∧
    ((¬ ∃ wanted, Framing messages wanted) →
      outcome.value = (.error .unsupported, messages) ∧
        ∀ event ∈ outcome.events, ∃ line, event = .log line) ∧
    ∀ wanted, Framing messages wanted →
      GoReadsClear adapter.engine.block (actsOf outcome.events) →
        seen.map (·.toWire) = wanted.take (failed + 1) ∧
        outcome.value.1 = (match seen[failed]? with
          | none => .ok messages.length
          | some transaction => transaction.status.toResult.map fun _ => messages.length) ∧
        outcome.value.2 = (messages.map fun message =>
          message.withBuffer (message.bytes.mapIdx fun place byte =>
            if 2 * place + 1 < failed then (replyAt seen (2 * place + 1)).headD byte
            else byte)) ∧
        ∀ transaction ∈ seen, transaction.isRead → transaction.status = .succeeded →
          transaction.reply.length = transaction.count := by
  intro outcome seen failed
  have hshapes : isSupported messages = true ↔ ∃ wanted, Framing messages wanted :=
    ⟨exists_framing, fun ⟨wanted, hframing⟩ => hframing.exists_access.1⟩
  refine ⟨hshapes, fun wanted hframing => hframing.exists_access.2, ?_, ?_⟩
  · intro hnone
    have hrefused : isSupported messages = false := Bool.eq_false_iff.mpr (mt hshapes.mp hnone)
    obtain ⟨hvalue, line, hevents⟩ :=
      run_transfer_of_not_isSupported adapter device world hrefused
    refine ⟨hvalue, ?_⟩
    show ∀ event ∈ ((adapter.transfer messages).run device world).events, _
    rw [hevents, List.forall_mem_singleton]
    exact ⟨line, rfl⟩
  · intro wanted hframing hgo
    obtain ⟨hsupported, access, haccess, rfl⟩ := hframing.exists_access
    have hperforms : (adapter.transfer messages).Performs (actsOf outcome.events) outcome.value :=
      performs_actsOf device hblock (keeps_transfer messages) world
    rw [transfer_of_isSupported hsupported] at hperforms
    obtain ⟨session, opening, body, closing, result, hacts, hopen, hwork, hclose, hresult⟩ :=
      Engine.performs_inSession_count hperforms
    obtain ⟨ended, filled, hbody, rfl, hmessages⟩ := performs_accessAll haccess hwork
    obtain ⟨shown, hshown, hcarries, rfl⟩ := started_observe_access
      (({} : Observer).observe adapter.engine.block opening) hblock hgroup hbody
    have hseen : seen = shown :=
      Engine.transactionsOf_session hblock hacts hopen hclose hgo hshown
    have hfailed : failed = firstFailure shown := congrArg firstFailure hseen
    rw [hseen, hfailed, hresult, error_mapError_failed, hmessages]
    exact ⟨hcarries.wires_eq, hcarries.map_result messages.length,
      filled_messages hframing haccess shown, hcarries.complete⟩

/-- A read of two registers, the second of them register 0, and a transfer that is refused. -/
theorem transfer_frames_wrapping_read :
    let firmware : Firmware.Context :=
      { image := ⟨⟨#[]⟩, ""⟩, revision := ⟨2, 2⟩, objectRevision := ⟨1, 4⟩
        schema := .displayPaths ⟨⟨0, 0, 0⟩, 0, 0, 0, 0, 0⟩ ⟨⟨0, 0, 0⟩, 0, 0, 0⟩ }
    let adapter : FramedAdapter :=
      ⟨⟨.polaris, .default⟩, firmware, Chip.Family.polaris10.profile, none⟩
    let outcome := (adapter.transfer [.write 0x74 [0xFF], .read 0x74 [0, 0]]).run
      (.steady 0x5810) ⟨(), false⟩
    let seen := transactionsOf adapter.engine.block outcome.events
    seen.map (·.toWire) =
        [⟨0xE8, false, 1, [0xFF]⟩, ⟨0xE9, true, 1, []⟩, ⟨0xE8, false, 1, [0x00]⟩,
          ⟨0xE9, true, 1, []⟩] ∧
      outcome.value = (.ok 2, [.write 0x74 [0xFF], .read 0x74 [0x58, 0x58]]) ∧
      ((adapter.transfer []).run (.steady 0x5810) ⟨(), false⟩).value =
        (.error .unsupported, []) := by
  intro firmware adapter outcome seen
  have hnone : ¬ ∃ wanted, Framing [] wanted := by
    rintro ⟨wanted, h⟩
    cases h
  obtain ⟨hwires, hresult, hfilled, -⟩ := (transfer_frames_messages adapter
    [.write 0x74 [0xFF], .read 0x74 [0, 0]] (.steady 0x5810) ⟨(), false⟩ ⟨.polaris10, rfl⟩
    (groupLength_eq_one rfl)).2.2.2 _ (.thenRead 0x74 0xFF 0x74 [0, 0]) (by decide +kernel)
  obtain ⟨hrefused, -⟩ := (transfer_frames_messages adapter [] (.steady 0x5810) ⟨(), false⟩
    ⟨.polaris10, rfl⟩ (groupLength_eq_one rfl)).2.2.1 hnone
  refine ⟨hwires.trans ?_, Prod.ext (hresult.trans ?_) (hfilled.trans ?_), hrefused⟩
  · decide +kernel
  · decide +kernel
  · decide +kernel

end GpuI2c.FramedAdapter
