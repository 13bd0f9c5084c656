import Mathlib.Tactic.SplitIfs
import GpuI2c.Chip.Family
import GpuI2c.Engine.Session
import GpuI2c.Proofs.Program.Acts

/-!
# What engine operations do

For every operation of the engine, the acts that it may do and the value it may end with, whatever
the registers answer. Callers cite these and need not look at the operations again. No operation
writes the status or setup register (`Keeps (OnBlock engine.block)`).
-/

namespace GpuI2c

open Register (Batch Field)
open Bus (BusError ChannelStatus Payload Request)

/-! ## The registers of a block -/

/-- A register that the engine's operations write. -/
def Chip.RegisterBlock.Programs (block : Chip.RegisterBlock) (register : UInt32) : Prop :=
  register = block.control ∨ register = block.interruptControl ∨ register = block.speed ∨
    register = block.transaction ∨ register = block.data ∨ register = block.pinSelection

/-- A write of a register that the engine programs, a read of one of these or of the status, or a
pause. -/
def OnBlock (block : Chip.RegisterBlock) : Act → Prop
  | .read register _ => register = block.status ∨ block.Programs register
  | .write register _ => block.Programs register
  | .pause _ => True

namespace Chip.RegisterBlock

/-- The block of some chip family. -/
def Known (block : RegisterBlock) : Prop :=
  ∃ family : Family, family.registerBlock? = some block

theorem Known.cases {block : RegisterBlock} (h : block.Known) : block = polaris ∨ block = navi := by
  obtain ⟨family, h⟩ := h
  cases family <;> simp_all [Family.registerBlock?]

/-- The registers that the engine uses are pairwise different. -/
theorem Known.nodup {block : RegisterBlock} (h : block.Known) :
    [block.control, block.interruptControl, block.status, block.speed, block.transaction,
      block.data, block.pinSelection].Nodup := by
  obtain rfl | rfl := h.cases <;> decide

end Chip.RegisterBlock

theorem OnBlock.isPlain {block : Chip.RegisterBlock} (hblock : block.Known) {act : Act}
    (h : OnBlock block act) : act.IsPlain := by
  have hplain (register : UInt32) (hr : register = block.status ∨ block.Programs register) :
      Plain register := by
    obtain rfl | rfl := hblock.cases <;>
      rcases hr with rfl | rfl | rfl | rfl | rfl | rfl | rfl <;> decide
  cases act with
  | read register value => exact hplain register h
  | write register value => exact hplain register (.inr h)
  | pause length => trivial

/-- A run of a program that keeps to a known block performs the acts that its events show. -/
theorem performs_actsOf {σ α : Type} (device : Device σ) {block : Chip.RegisterBlock}
    (hblock : block.Known) {p : Program α} (h : p.Keeps (OnBlock block)) (world : World σ) :
    p.Performs (actsOf (p.run device world).events) (p.run device world).value :=
  p.performs_run device (h.mono fun _ => OnBlock.isPlain hblock) world 0

/-- The bytes that a payload sends to the device. -/
def Bus.Payload.outgoing : Payload → List UInt8
  | .write data => data
  | .empty | .read _ => []

/-- How a transaction ended, by the values its status register gave: the first that is not busy
counts, and without one the transaction timed out. -/
def Bus.ChannelStatus.settled : List UInt32 → ChannelStatus
  | [] => .timeout
  | raw :: rest => if isBusy raw then settled rest else ofRaw raw

theorem ofRaw_eq_engineBusy_iff {raw : UInt32} :
    ChannelStatus.ofRaw raw = .engineBusy ↔ ChannelStatus.isBusy raw = true := by
  unfold ChannelStatus.ofRaw
  split_ifs with hbusy <;> simp [hbusy]

/-- A read of one register, or a pause. -/
def OnlyReads (register : UInt32) : Act → Prop
  | .read other _ => other = register
  | .write .. => False
  | .pause _ => True

namespace Engine

variable {engine : Engine}

/-! ## Single accesses -/

@[simp] theorem performs_trace {verb : String} {register value : UInt32} {acts : List Act}
    {result : Unit} : (engine.trace verb register value).Performs acts result ↔ acts = [] := by
  simp [trace, Program.log, Program.give, Command.acts]

theorem performs_read {register value : UInt32} {acts : List Act} :
    (engine.read register).Performs acts value ↔ acts = [.read register value] := by
  simp only [Engine.read, Register.read, Program.bind_eq, Program.read_bind, Program.done_bind,
    Program.performs_read, Program.performs_bind, performs_trace, Program.pure_eq_done,
    Program.performs_done]
  constructor
  · rintro ⟨answer, rest, rfl, _, _, _, rfl, rfl, rfl, rfl⟩
    rfl
  · rintro rfl
    exact ⟨value, [], rfl, (), [], [], rfl, rfl, rfl, rfl⟩

theorem performs_update {register : UInt32} {fields : List Field} {acts : List Act}
    {result : Unit} : (engine.update register fields).Performs acts result ↔
      ∃ raw, acts = [.read register raw, .write register ((Batch.ofFields fields).apply raw)] := by
  simp only [update, Register.update, Register.read, Register.write, Program.give,
    Program.bind_eq, Program.read_bind, Program.command_bind, Program.done_bind,
    Program.pure_eq_done, Program.performs_read, Program.performs_command, performs_trace]
  constructor
  · rintro ⟨raw, _, rfl, _, rfl, rfl⟩
    exact ⟨raw, rfl⟩
  · rintro ⟨raw, rfl⟩
    exact ⟨raw, _, rfl, [], rfl, rfl⟩

theorem performs_set {register : UInt32} {fields : List Field} {acts : List Act}
    {result : Unit} : (engine.set register fields).Performs acts result ↔
      acts = [.write register ((Batch.ofFields fields).apply 0)] := by
  simp only [set, Register.set, Register.write, Program.give, Program.bind_eq,
    Program.command_bind, Program.done_bind, Program.pure_eq_done, Program.performs_command,
    performs_trace]
  constructor
  · rintro ⟨_, rfl, rfl⟩
    rfl
  · rintro rfl
    exact ⟨[], rfl, rfl⟩

/-! ## Opening and closing -/

/-- The control word that enables the engine. -/
def enableWord (raw : UInt32) : UInt32 :=
  (Batch.ofFields [Chip.enable.holding 1]).apply raw

/-- The pin selection word for two pins. -/
def pinWord (clock data raw : UInt32) : UInt32 :=
  (Batch.ofFields [Chip.clockPin.holding clock, Chip.dataPin.holding data]).apply raw

/-- The control word that disables the engine and asserts its reset. -/
def resetWord (raw : UInt32) : UInt32 :=
  (Batch.ofFields [Chip.enable.holding 0, Chip.softReset.holding 1]).apply raw

/-- The control word that ends the reset. -/
def releaseWord (raw : UInt32) : UInt32 :=
  (Batch.ofFields [Chip.softReset.holding 0]).apply raw

theorem performs_setSpeed {acts : List Act} {result : Unit}
    (h : engine.setSpeed.Performs acts result) :
    acts = [] ∨ ∃ raw word,
      acts = [.read engine.block.speed raw, .write engine.block.speed word] := by
  unfold setSpeed at h
  split at h
  · obtain ⟨raw, rfl⟩ := performs_update.mp h
    exact .inr ⟨raw, _, rfl⟩
  · exact .inl h.1

theorem performs_openSession {acts : List Act} {session : Session}
    (h : engine.openSession.Performs acts session) : session.closed = false ∧
      ∃ control pins speed,
        acts = [.read engine.block.control control,
          .write engine.block.control (enableWord control),
          .read engine.block.pinSelection pins,
          .write engine.block.pinSelection
            (pinWord engine.config.clockPin.toUInt32 engine.config.dataPin.toUInt32 pins)] ++
              speed ∧
        engine.setSpeed.Performs speed () := by
  simp only [openSession, Program.give, Program.bind_eq, Program.command_bind,
    Program.done_bind, Program.performs_command, Program.performs_bind, performs_update,
    Program.pure_eq_done, Program.performs_done] at h
  obtain ⟨_, rfl, _, _, _, rfl, ⟨control, rfl⟩, _, _, _, rfl, ⟨pins, rfl⟩, _, speed, _, rfl,
    hspeed, rfl, rfl⟩ := h
  exact ⟨rfl, control, pins, speed, by simp [enableWord, pinWord], hspeed⟩

/-- The acts of one shutdown, given what the registers held. -/
def IsShutdown (engine : Engine) (acts : List Act) : Prop :=
  ∃ pins control control',
    acts = [.read engine.block.pinSelection pins,
      .write engine.block.pinSelection (pinWord 0 0 pins),
      .read engine.block.control control,
      .write engine.block.control (resetWord control),
      .read engine.block.control control',
      .write engine.block.control (releaseWord control')]

theorem performs_shutdown {session session' : Session} {acts : List Act}
    (h : (engine.shutdown session).Performs acts session') :
    engine.IsShutdown acts ∧ session'.closed = true := by
  simp only [shutdown, Program.bind_eq, Program.performs_bind, performs_update,
    Program.pure_eq_done, Program.performs_done] at h
  obtain ⟨_, _, _, rfl, ⟨pins, rfl⟩, _, _, _, rfl, ⟨control, rfl⟩, _, _, _, rfl,
    ⟨control', rfl⟩, rfl, rfl⟩ := h
  exact ⟨⟨pins, control, control', rfl⟩, rfl⟩

/-- Giving up a session that was shut down only releases the lock. -/
theorem dropSession_of_closed {session : Session} (h : session.closed = true) :
    engine.dropSession session = Program.give .unlock := by
  rw [dropSession, if_pos h]
  rfl

/-- Giving up a session that was not shut down does that first. -/
theorem dropSession_of_not_closed {session : Session} (h : session.closed = false) :
    engine.dropSession session =
      (engine.shutdown session).bind fun _ => Program.give .unlock := by
  rw [dropSession, if_neg (h ▸ Bool.false_ne_true)]
  rfl

/-- As long as a session was not shut down, closing it and giving it up are the same: when closing
gives it up in its turn, the session is known to be shut down. -/
theorem closeSession_eq_dropSession {session : Session} (h : session.closed = false) :
    engine.closeSession session = engine.dropSession session := by
  rw [dropSession_of_not_closed h]
  simp only [closeSession, shutdown, Program.bind_eq, Program.bind_assoc, Program.pure_eq_done,
    Program.done_bind, dropSession_of_closed]

/-- Closing a session shuts it down once. -/
theorem performs_closeSession {session : Session} {acts : List Act} {result : Unit}
    (h : (engine.closeSession session).Performs acts result) : engine.IsShutdown acts := by
  obtain ⟨session', before, after, rfl, hshutdown, hdrop⟩ := Program.performs_bind.mp h
  obtain ⟨hacts, hclosed⟩ := performs_shutdown hshutdown
  rw [dropSession_of_closed hclosed] at hdrop
  obtain ⟨_, rfl, rfl, -⟩ := hdrop
  exact (List.append_nil before).symm ▸ hacts

/-! ## Submitting -/

/-- The transaction word for a request. -/
def setupWord (request : Request) (raw : UInt32) : UInt32 :=
  (Batch.ofFields
    [Chip.readWrite.holding (if request.action.isRead then 1 else 0),
     Chip.stopOnNack.holding 1,
     Chip.ackOnRead.holding 0,
     Chip.start.holding 1,
     Chip.stop.holding 1,
     Chip.count.holding (UInt32.ofNat request.length)]).apply raw

/-- The data word that puts the address byte of a request into slot 0. -/
def addressWord (request : Request) : UInt32 :=
  (Batch.ofFields
    [Chip.dataReadWrite.holding 0,
     Chip.data.holding request.addressByte.toUInt32,
     Chip.index.holding 0,
     Chip.indexWrite.holding 1]).apply 0

/-- The data word that puts a byte into a slot. -/
def slotWord (slot : UInt32) (byte : UInt8) : UInt32 :=
  (Batch.ofFields [Chip.index.holding slot, Chip.data.holding byte.toUInt32]).apply 0

/-- The control word that starts the transaction. -/
def goWord (raw : UInt32) : UInt32 :=
  (Batch.ofFields [Chip.go.holding 1]).apply raw

/-- The writes that put bytes into the slots from `slot` on. -/
def slotActs (engine : Engine) (slot : UInt32) : List UInt8 → List Act
  | [] => []
  | byte :: rest =>
    .write engine.block.data (slotWord slot byte) :: engine.slotActs (slot + 1) rest

theorem performs_fillSlots {slot : UInt32} {bytes : List UInt8} {acts : List Act}
    {result : Unit} : (engine.fillSlots slot bytes).Performs acts result ↔
      acts = engine.slotActs slot bytes := by
  induction bytes generalizing slot acts with
  | nil => simp [fillSlots, slotActs]
  | cons byte rest ih =>
    simp only [fillSlots, Program.bind_eq, Program.performs_bind, performs_set, ih]
    constructor
    · rintro ⟨_, _, _, rfl, rfl, rfl⟩
      rfl
    · rintro rfl
      exact ⟨(), [.write engine.block.data (slotWord slot byte)], _, rfl, rfl, rfl⟩

/-- What submitting a request does, given what the transaction and control registers held. -/
def submitActs (engine : Engine) (request : Request) (setup control : UInt32) : List Act :=
  [.read engine.block.transaction setup,
    .write engine.block.transaction (setupWord request setup),
    .write engine.block.data (addressWord request)] ++
  engine.slotActs 1 request.payload.outgoing ++
  [.read engine.block.control control, .write engine.block.control (goWord control)]

theorem submit_eq {request : Request} (hlength : request.length < UInt32.size) :
    engine.submit request = do
      engine.update engine.block.transaction
        [Chip.readWrite.holding (if request.action.isRead then 1 else 0),
         Chip.stopOnNack.holding 1,
         Chip.ackOnRead.holding 0,
         Chip.start.holding 1,
         Chip.stop.holding 1,
         Chip.count.holding (UInt32.ofNat request.length)]
      engine.set engine.block.data
        [Chip.dataReadWrite.holding 0,
         Chip.data.holding request.addressByte.toUInt32,
         Chip.index.holding 0,
         Chip.indexWrite.holding 1]
      engine.fillSlots 1 request.payload.outgoing
      engine.update engine.block.control [Chip.go.holding 1]
      return .ok () := by
  unfold submit
  rw [if_pos hlength]
  cases request.payload with
  | write data => rfl
  | empty | read buffer => rfl

theorem performs_submit {request : Request} (hlength : request.length < UInt32.size)
    {acts : List Act} {result : Except BusError Unit}
    (h : (engine.submit request).Performs acts result) :
    result = .ok () ∧ ∃ setup control, acts = engine.submitActs request setup control := by
  rw [submit_eq hlength] at h
  simp only [Program.bind_eq, Program.performs_bind, performs_update, performs_set,
    performs_fillSlots, Program.pure_eq_done, Program.performs_done] at h
  obtain ⟨_, _, _, rfl, ⟨setup, rfl⟩, _, _, _, rfl, rfl, _, _, _, rfl, rfl, _, _, _, rfl,
    ⟨control, rfl⟩, rfl, rfl⟩ := h
  exact ⟨rfl, setup, control, by simp [submitActs, setupWord, addressWord, goWord]⟩

/-! ## Polling -/

/-- The interrupt control word that acknowledges the end of a transaction. -/
def acknowledgeWord (raw : UInt32) : UInt32 :=
  (Batch.ofFields [Chip.doneAck.holding 1]).apply raw

theorem performs_acknowledge {acts : List Act} {result : Unit} :
    engine.acknowledge.Performs acts result ↔
      ∃ raw, acts = [.read engine.block.interruptControl raw,
        .write engine.block.interruptControl (acknowledgeWord raw)] :=
  performs_update

/-- One poll reads the status. A busy value is followed by the other polls, after a pause unless it
was the last one. -/
theorem performs_awaitStatus_succ {polls : Nat} {acts : List Act} {status : ChannelStatus}
    (h : (engine.awaitStatus (polls + 1)).Performs acts status) : ∃ raw after,
      acts = .read engine.block.status raw :: after ∧
      if ChannelStatus.isBusy raw then ∃ rest,
        after = (if polls = 0 then [] else [.pause (.micros engine.config.pollDelay)]) ++ rest ∧
          (engine.awaitStatus polls).Performs rest status
      else after = [] ∧ status = .ofRaw raw := by
  simp only [awaitStatus, Program.bind_eq, Program.performs_bind, performs_read] at h
  obtain ⟨raw, _, after, rfl, rfl, h⟩ := h
  refine ⟨raw, after, rfl, ?_⟩
  by_cases hbusy : ChannelStatus.isBusy raw
  · rw [ofRaw_eq_engineBusy_iff.mpr hbusy] at h
    rw [if_pos hbusy]
    by_cases hlast : polls = 0
    · subst hlast
      exact ⟨after, rfl, by simpa using h⟩
    · simp only [if_pos hlast, Program.pause, Program.give, Program.command_bind,
        Program.done_bind, Program.performs_command] at h
      rw [if_neg hlast]
      exact h
  · have hdone : ChannelStatus.ofRaw raw ≠ .engineBusy := mt ofRaw_eq_engineBusy_iff.mp hbusy
    rw [if_neg hbusy]
    revert hdone h
    cases ChannelStatus.ofRaw raw <;> simp

theorem performs_awaitStatus {polls : Nat} {acts : List Act} {status : ChannelStatus}
    (h : (engine.awaitStatus polls).Performs acts status) :
    status = .settled (valuesRead engine.block.status acts) ∧
      ∀ act ∈ acts, OnlyReads engine.block.status act := by
  induction polls generalizing acts with
  | zero =>
    obtain ⟨rfl, rfl⟩ := h
    exact ⟨rfl, by simp⟩
  | succ polls ih =>
    obtain ⟨raw, after, rfl, hafter⟩ := performs_awaitStatus_succ h
    rw [valuesRead_same, List.forall_mem_cons, ChannelStatus.settled]
    by_cases hbusy : ChannelStatus.isBusy raw
    · rw [if_pos hbusy] at hafter ⊢
      obtain ⟨rest, rfl, hrest⟩ := hafter
      obtain ⟨hstatus, hacts⟩ := ih hrest
      by_cases hlast : polls = 0
      · rw [if_pos hlast]
        exact ⟨hstatus, rfl, hacts⟩
      · rw [if_neg hlast]
        exact ⟨hstatus, rfl, List.forall_mem_cons.mpr ⟨trivial, hacts⟩⟩
    · rw [if_neg hbusy] at hafter ⊢
      obtain ⟨rfl, rfl⟩ := hafter
      exact ⟨rfl, rfl, List.forall_mem_nil _⟩

theorem performs_poll {acts : List Act} {status : ChannelStatus}
    (h : engine.poll.Performs acts status) : ∃ polls raw,
      acts = polls ++ [.read engine.block.interruptControl raw,
        .write engine.block.interruptControl (acknowledgeWord raw)] ∧
      status = .settled (valuesRead engine.block.status polls) ∧
      ∀ act ∈ polls, OnlyReads engine.block.status act := by
  simp only [poll, Program.bind_eq, Program.performs_bind, performs_acknowledge,
    Program.pure_eq_done, Program.performs_done] at h
  obtain ⟨_, polls, _, rfl, hawait, _, _, _, rfl, ⟨raw, rfl⟩, rfl, rfl⟩ := h
  obtain ⟨hstatus, hreads⟩ := performs_awaitStatus hawait
  exact ⟨polls, raw, by rw [List.append_nil], hstatus, hreads⟩

/-! ## Collecting replies -/

/-- The data word that turns to the first data byte of a reply. -/
def replyWord : UInt32 :=
  (Batch.ofFields
    [Chip.dataReadWrite.holding 1, Chip.index.holding 1, Chip.indexWrite.holding 1]).apply 0

theorem performs_drainSlots {count : Nat} {acts : List Act} {bytes : List UInt8}
    (h : (engine.drainSlots count).Performs acts bytes) : ∃ raws : List UInt32,
      raws.length = count ∧ acts = raws.map (.read engine.block.data) ∧
      bytes = raws.map fun raw => (Chip.data.extract raw).toUInt8 := by
  induction count generalizing acts bytes with
  | zero =>
    obtain ⟨rfl, rfl⟩ := h
    exact ⟨[], rfl, rfl, rfl⟩
  | succ count ih =>
    simp only [drainSlots, Program.bind_eq, Program.performs_bind, performs_read,
      Program.pure_eq_done, Program.performs_done] at h
    obtain ⟨raw, _, _, rfl, rfl, rest, _, _, rfl, hdrain, rfl, rfl⟩ := h
    obtain ⟨raws, rfl, rfl, rfl⟩ := ih hdrain
    exact ⟨raw :: raws, rfl, by simp, rfl⟩

theorem performs_readReply {count : Nat} {acts : List Act} {bytes : List UInt8}
    (h : (engine.readReply count).Performs acts bytes) : ∃ (raws : List UInt32) (raw : UInt32),
      raws.length = count ∧
      acts = .write engine.block.data replyWord :: (raws.map (.read engine.block.data) ++
        [.read engine.block.interruptControl raw,
          .write engine.block.interruptControl (acknowledgeWord raw)]) ∧
      bytes = raws.map fun raw => (Chip.data.extract raw).toUInt8 := by
  simp only [readReply, Program.bind_eq, Program.performs_bind, performs_set,
    performs_acknowledge, Program.pure_eq_done, Program.performs_done] at h
  obtain ⟨_, _, _, rfl, rfl, _, _, _, rfl, hdrain, _, _, _, rfl, ⟨raw, rfl⟩, rfl, rfl⟩ := h
  obtain ⟨raws, hcount, rfl, rfl⟩ := performs_drainSlots hdrain
  exact ⟨raws, raw, hcount, by simp [replyWord], rfl⟩

/-! ## Whole transactions -/

/-- A transaction submits its request, polls, and collects the reply only if it succeeded. -/
theorem performs_transact {request : Request} (hlength : request.length < UInt32.size)
    {acts : List Act} {result : Except BusError Unit} {payload : Payload}
    (h : (engine.transact request).Performs acts (result, payload)) :
    ∃ setup control polls raw collected,
      acts = engine.submitActs request setup control ++
        (polls ++ [.read engine.block.interruptControl raw,
          .write engine.block.interruptControl (acknowledgeWord raw)]) ++ collected ∧
      (∀ act ∈ polls, OnlyReads engine.block.status act) ∧
      result = (ChannelStatus.settled (valuesRead engine.block.status polls)).toResult ∧
      (if ChannelStatus.settled (valuesRead engine.block.status polls) = .succeeded then
        (engine.collect request.payload).Performs collected payload
      else collected = [] ∧ payload = request.payload) := by
  simp only [transact, Program.bind_eq, Program.performs_bind] at h
  obtain ⟨submitted, _, after, rfl, hsubmit, h⟩ := h
  obtain ⟨rfl, setup, control, rfl⟩ := performs_submit hlength hsubmit
  rw [Program.performs_bind] at h
  obtain ⟨status, _, collected, rfl, hpoll, h⟩ := h
  obtain ⟨polls, raw, rfl, rfl, hreads⟩ := performs_poll hpoll
  refine ⟨setup, control, polls, raw, collected, by simp only [List.append_assoc], hreads, ?_⟩
  cases hstatus : ChannelStatus.settled (valuesRead engine.block.status polls) with
  | succeeded =>
    simp only [hstatus, ChannelStatus.toResult, Program.performs_bind, Program.pure_eq_done,
      Program.performs_done, Prod.mk.injEq] at h
    obtain ⟨_, _, _, rfl, hcollect, rfl, rfl, rfl⟩ := h
    rw [List.append_nil]
    exact ⟨rfl, hcollect⟩
  | failed | engineBusy | timeout | noResponse =>
    simp only [hstatus, ChannelStatus.toResult, Program.pure_eq_done, Program.performs_done,
      Prod.mk.injEq] at h
    obtain ⟨rfl, rfl, rfl⟩ := h
    exact ⟨rfl, rfl, rfl⟩

/-! ## Keeping to the block -/

theorem keeps_give {P : Act → Prop} {what : Command} (h : what.acts = []) :
    (Program.give what).Keeps P :=
  ⟨h ▸ List.forall_mem_nil P, trivial⟩

theorem keeps_trace {P : Act → Prop} {verb : String} {register value : UInt32} :
    (engine.trace verb register value).Keeps P :=
  keeps_give rfl

theorem keeps_read {register : UInt32}
    (h : register = engine.block.status ∨ engine.block.Programs register) :
    (engine.read register).Keeps (OnBlock engine.block) :=
  Program.Keeps.bind (p := Register.read register) (fun _ => ⟨h, trivial⟩) fun _ =>
    Program.Keeps.bind keeps_trace fun _ => trivial

theorem keeps_update {register : UInt32} {fields : List Field}
    (h : engine.block.Programs register) :
    (engine.update register fields).Keeps (OnBlock engine.block) :=
  fun _ => ⟨.inr h, List.forall_mem_singleton.mpr h, keeps_trace⟩

theorem keeps_set {register : UInt32} {fields : List Field}
    (h : engine.block.Programs register) :
    (engine.set register fields).Keeps (OnBlock engine.block) :=
  ⟨List.forall_mem_singleton.mpr h, keeps_trace⟩

theorem keeps_openSession : engine.openSession.Keeps (OnBlock engine.block) := by
  refine Program.Keeps.bind (keeps_give rfl) fun _ => ?_
  refine Program.Keeps.bind (keeps_update (.inl rfl)) fun _ => ?_
  refine Program.Keeps.bind (keeps_update (by simp [Chip.RegisterBlock.Programs])) fun _ => ?_
  refine Program.Keeps.bind ?_ fun _ => trivial
  unfold setSpeed
  split
  · exact keeps_update (by simp [Chip.RegisterBlock.Programs])
  · trivial

theorem keeps_shutdown (session : Session) :
    (engine.shutdown session).Keeps (OnBlock engine.block) := by
  refine Program.Keeps.bind (keeps_update (by simp [Chip.RegisterBlock.Programs])) fun _ => ?_
  refine Program.Keeps.bind (keeps_update (.inl rfl)) fun _ => ?_
  exact Program.Keeps.bind (keeps_update (.inl rfl)) fun _ => trivial

theorem keeps_dropSession (session : Session) :
    (engine.dropSession session).Keeps (OnBlock engine.block) := by
  cases hclosed : session.closed with
  | true =>
    rw [dropSession_of_closed hclosed]
    exact keeps_give rfl
  | false =>
    rw [dropSession_of_not_closed hclosed]
    exact Program.Keeps.bind (keeps_shutdown session) fun _ => keeps_give rfl

theorem keeps_closeSession (session : Session) :
    (engine.closeSession session).Keeps (OnBlock engine.block) :=
  Program.Keeps.bind (keeps_shutdown session) keeps_dropSession

theorem keeps_fillSlots (slot : UInt32) (bytes : List UInt8) :
    (engine.fillSlots slot bytes).Keeps (OnBlock engine.block) := by
  induction bytes generalizing slot with
  | nil => trivial
  | cons byte rest ih =>
    exact Program.Keeps.bind (keeps_set (by simp [Chip.RegisterBlock.Programs])) fun _ => ih _

theorem keeps_submit (request : Request) :
    (engine.submit request).Keeps (OnBlock engine.block) := by
  by_cases hlength : request.length < UInt32.size
  · rw [submit_eq hlength]
    refine Program.Keeps.bind (keeps_update (by simp [Chip.RegisterBlock.Programs])) fun _ => ?_
    refine Program.Keeps.bind (keeps_set (by simp [Chip.RegisterBlock.Programs])) fun _ => ?_
    refine Program.Keeps.bind (keeps_fillSlots 1 request.payload.outgoing) fun _ => ?_
    exact Program.Keeps.bind (keeps_update (.inl rfl)) fun _ => trivial
  · unfold submit
    rw [if_neg hlength]
    trivial

theorem keeps_acknowledge : engine.acknowledge.Keeps (OnBlock engine.block) :=
  keeps_update (.inr (.inl rfl))

theorem keeps_awaitStatus (polls : Nat) :
    (engine.awaitStatus polls).Keeps (OnBlock engine.block) := by
  induction polls with
  | zero => trivial
  | succ polls ih =>
    refine Program.Keeps.bind (keeps_read (.inl rfl)) fun raw => ?_
    split
    · split
      · exact ⟨List.forall_mem_singleton.mpr trivial, ih⟩
      · exact ih
    · trivial

theorem keeps_poll : engine.poll.Keeps (OnBlock engine.block) :=
  Program.Keeps.bind (keeps_awaitStatus engine.config.pollLimit) fun _ =>
    Program.Keeps.bind keeps_acknowledge fun _ => trivial

theorem keeps_drainSlots (count : Nat) :
    (engine.drainSlots count).Keeps (OnBlock engine.block) := by
  induction count with
  | zero => trivial
  | succ count ih =>
    refine Program.Keeps.bind (keeps_read (by simp [Chip.RegisterBlock.Programs])) fun _ => ?_
    exact Program.Keeps.bind ih fun _ => trivial

theorem keeps_readReply (count : Nat) :
    (engine.readReply count).Keeps (OnBlock engine.block) := by
  refine Program.Keeps.bind (keeps_set (by simp [Chip.RegisterBlock.Programs])) fun _ => ?_
  refine Program.Keeps.bind (keeps_drainSlots count) fun _ => ?_
  exact Program.Keeps.bind keeps_acknowledge fun _ => trivial

theorem keeps_collect (payload : Payload) :
    (engine.collect payload).Keeps (OnBlock engine.block) := by
  cases payload with
  | read buffer => exact Program.Keeps.bind (keeps_readReply buffer.length) fun _ => trivial
  | empty | write data => trivial

theorem keeps_transact (request : Request) :
    (engine.transact request).Keeps (OnBlock engine.block) := by
  refine Program.Keeps.bind (keeps_submit request) fun result => ?_
  cases result with
  | error error => trivial
  | ok _ =>
    refine Program.Keeps.bind keeps_poll fun status => ?_
    cases status.toResult with
    | error error => trivial
    | ok _ => exact Program.Keeps.bind (keeps_collect request.payload) fun _ => trivial

theorem keeps_transact? (request : Except BusError Request) :
    (engine.transact? request).Keeps (OnBlock engine.block) := by
  cases request with
  | error error => trivial
  | ok request => exact Program.Keeps.bind (keeps_transact request) fun _ => trivial

end Engine

end GpuI2c
