import Mathlib.Data.List.Range
import Mathlib.Data.Nat.Bitwise
import Mathlib.Order.Bounds.Basic
import GpuI2c.Proofs.Engine.Words

/-!
# Polling

How the status of a transaction is read off the bits of the status register, and how often polling
reads it. A status register may give any sequence of values. The first one that is not busy ends
the polls, and if the limit is reached before, they are given up (`Polled`); between two reads there
is one pause. The main statement is `performs_poll_of_gives`.

No value ends the polls as a busy engine, so no transaction ends with one (`yields_transact`).
-/

namespace GpuI2c

open Register (Batch Field SameOutside)
open Bus (BusError ChannelStatus Payload Request)

/-! ## The bits of a status value -/

namespace Bus.ChannelStatus

/-- The completion bits of the status register with what they stand for, the worst one first. A
missing acknowledge alone comes last. -/
def completions : List (Nat × ChannelStatus) :=
  [(9, .noResponse), (6, .timeout), (5, .failed), (4, .succeeded), (10, .noResponse)]

/-- A status value of a transaction that is still going on: its low four bits are not all zero, or
none of its completion bits is set. -/
def Busy (raw : UInt32) : Prop :=
  raw.toNat % 16 ≠ 0 ∨ ∀ completion ∈ completions, raw.toNat.testBit completion.1 = false

instance : DecidablePred Busy := fun _ => inferInstanceAs (Decidable (_ ∨ _))

/-- What the worst completion bit stands for that is set. -/
def worstCompletion (raw : UInt32) : ChannelStatus :=
  ((completions.find? fun completion => raw.toNat.testBit completion.1).map (·.2)).getD .engineBusy

/-- A mask of a single bit tests this bit. -/
theorem and_eq_zero_iff {mask : UInt32} {bit : Nat} (h : mask.toNat = 2 ^ bit) {raw : UInt32} :
    raw &&& mask = 0 ↔ raw.toNat.testBit bit = false := by
  rw [← UInt32.toNat_inj, UInt32.toNat_and, h, Nat.and_two_pow]
  cases raw.toNat.testBit bit <;> simp

theorem and_or_eq_zero_iff {raw a b : UInt32} :
    raw &&& (a ||| b) = 0 ↔ raw &&& a = 0 ∧ raw &&& b = 0 := by
  simp only [← UInt32.toNat_inj, UInt32.toNat_and, UInt32.toNat_or, Nat.and_or_distrib_left,
    UInt32.toNat_zero, Nat.or_eq_zero_iff]

theorem and_done {raw : UInt32} :
    raw &&& Chip.done.mask = 0 ↔ raw.toNat.testBit 4 = false := and_eq_zero_iff rfl

theorem and_aborted {raw : UInt32} :
    raw &&& Chip.aborted.mask = 0 ↔ raw.toNat.testBit 5 = false := and_eq_zero_iff rfl

theorem and_timeout {raw : UInt32} :
    raw &&& Chip.timeout.mask = 0 ↔ raw.toNat.testBit 6 = false := and_eq_zero_iff rfl

theorem and_stoppedOnNack {raw : UInt32} :
    raw &&& Chip.stoppedOnNack.mask = 0 ↔ raw.toNat.testBit 9 = false := and_eq_zero_iff rfl

theorem and_nack {raw : UInt32} :
    raw &&& Chip.nack.mask = 0 ↔ raw.toNat.testBit 10 = false := and_eq_zero_iff rfl

theorem extract_status_eq_zero_iff {raw : UInt32} :
    Chip.status.extract raw = 0 ↔ raw.toNat % 16 = 0 := by
  have hmask : Chip.status.mask.toNat = 2 ^ 4 - 1 := rfl
  have hextract : Chip.status.extract raw = Chip.status.mask &&& raw :=
    UInt32.shiftRight_zero.trans (UInt32.and_comm _ _)
  rw [hextract, ← UInt32.toNat_inj, toNat_low_bits hmask]
  rfl

theorem isBusy_iff {raw : UInt32} : isBusy raw = true ↔ Busy raw := by
  simp only [isBusy, completionMask, Bool.or_eq_true, bne_iff_ne, beq_iff_eq, ne_eq,
    extract_status_eq_zero_iff, and_or_eq_zero_iff, and_done, and_aborted, and_timeout,
    and_stoppedOnNack, and_nack, Busy, completions, List.forall_mem_cons]
  tauto

/-- A status value that is not busy stands for its worst completion bit. -/
theorem ofRaw_eq_worstCompletion {raw : UInt32} (h : ¬ Busy raw) :
    ofRaw raw = worstCompletion raw := by
  obtain ⟨-, hcompleted⟩ := not_or.mp h
  simp only [completions, List.forall_mem_cons, List.not_mem_nil] at hcompleted
  rw [ofRaw, if_neg (mt isBusy_iff.mp h)]
  simp only [bne_iff_ne, ne_eq, and_stoppedOnNack, and_timeout, and_aborted, and_done,
    worstCompletion, completions, List.find?_cons, List.find?_nil]
  cases h9 : raw.toNat.testBit 9 with
  | true => rfl
  | false => cases h6 : raw.toNat.testBit 6 with
    | true => rfl
    | false => cases h5 : raw.toNat.testBit 5 with
      | true => rfl
      | false => cases h4 : raw.toNat.testBit 4 with
        | true => rfl
        | false => cases h10 : raw.toNat.testBit 10 with
          | true => rfl
          | false => simp_all

/-- Success needs the done bit, and none of the three bits that are worse. -/
theorem bits_of_worstCompletion_eq_succeeded {raw : UInt32} (h : worstCompletion raw = .succeeded) :
    raw.toNat.testBit 4 = true ∧ ∀ bit ∈ [5, 6, 9], raw.toNat.testBit bit = false := by
  revert h
  simp only [worstCompletion, completions, List.find?_cons, List.forall_mem_cons]
  cases raw.toNat.testBit 9 <;> cases raw.toNat.testBit 6 <;> cases raw.toNat.testBit 5 <;>
    cases raw.toNat.testBit 4 <;> cases raw.toNat.testBit 10 <;> simp

end Bus.ChannelStatus

/-! ## Results that are not busy -/

/-- A result other than that the engine is busy. -/
def Bus.NotBusy {α : Type} (result : Except BusError α) : Prop :=
  result ≠ .error .engineBusy

theorem Bus.NotBusy.map {α β : Type} {result : Except BusError α} (h : NotBusy result) (f : α → β) :
    NotBusy (result.map f) := by
  cases result with
  | error error => exact fun heq => h (congrArg Except.error (Except.error.inj heq))
  | ok value => exact nofun

open Bus (NotBusy)
open Bus.ChannelStatus (Busy worstCompletion)

/-! ## Histories of a register -/

/-- Among some acts, the reads of a register give the values of `history`, one after the other. -/
def Gives (register : UInt32) (history : Nat → UInt32) (acts : List Act) : Prop :=
  ∀ place raw, (valuesRead register acts)[place]? = some raw → raw = history place

namespace Gives

variable {register : UInt32} {history : Nat → UInt32}

theorem of_append {as bs : List Act} (h : Gives register history (as ++ bs)) :
    Gives register history as := by
  intro place raw hraw
  obtain ⟨hplace, -⟩ := List.getElem?_eq_some_iff.mp hraw
  apply h
  rw [valuesRead_append, List.getElem?_append_left hplace, hraw]

theorem read_iff {raw : UInt32} {acts : List Act} :
    Gives register history (.read register raw :: acts) ↔
      raw = history 0 ∧ Gives register (fun place => history (place + 1)) acts := by
  simp only [Gives, valuesRead_same]
  constructor
  · intro h
    exact ⟨h 0 raw rfl, fun place value hvalue => h (place + 1) value hvalue⟩
  · rintro ⟨rfl, h⟩ place value hvalue
    cases place with
    | zero => exact (Option.some.inj hvalue).symm
    | succ place => exact h place value hvalue

theorem append_iff_of_nil {as bs : List Act} (h : valuesRead register as = []) :
    Gives register history (as ++ bs) ↔ Gives register history bs := by
  rw [Gives, valuesRead_append, h, List.nil_append, Gives]

end Gives

/-- A device whose register at a byte offset gives the values of `history` one after the other. All
other registers read zero. -/
def Device.playing (offset : Nat) (history : Nat → UInt32) : Device Nat where
  window := 2 ^ 32
  read place count := if place = offset then (history count, count + 1) else (0, count)
  write _ _ count := count

theorem load_playing (register : UInt32) {other : UInt32} (h : Plain other)
    (history : Nat → UInt32) (count : Nat) :
    (Device.playing (register.toNat * 4) history).load other count =
      if other = register then
        (history count, count + 1, [.read (other.toNat * 4) (history count)])
      else (0, count, [.read (other.toNat * 4) 0]) := by
  have hdirect : (Device.playing (register.toNat * 4) history).offset? other =
      some (other.toNat * 4) := if_pos (show other.toNat * 4 < 2 ^ 32 by omega)
  have hsame : other.toNat * 4 = register.toNat * 4 ↔ other = register := by
    rw [← UInt32.toNat_inj, Nat.mul_left_inj (by decide)]
  simp only [Device.load, hdirect]
  by_cases heq : other = register <;> simp [Device.playing, hsame, heq]

theorem run_command_playing (offset : Nat) (history : Nat → UInt32) (what : Command)
    (world : World Nat) :
    (what.run (.playing offset history) world).1.device = world.device := by
  cases what with
  | write register value =>
    simp only [Command.run, Device.store, Device.select, Device.playing]
    split <;> rfl
  | pause length | log line | lock | unlock => rfl

/-- To every program that keeps to plain registers, the device gives its history. -/
theorem gives_playing {α : Type} (register : UInt32) {p : Program α} (h : p.Keeps Act.IsPlain)
    (history : Nat → UInt32) (world : World Nat) (selected : UInt32) :
    Gives register (fun place => history (world.device + place))
      (actsFrom selected (p.run (.playing (register.toNat * 4) history) world).events) := by
  induction p generalizing world selected with
  | done value => exact nofun
  | read other next ih =>
    have hplain : Plain other := (h 0).1
    obtain ⟨selected', hacts⟩ := actsFrom_load (.playing (register.toNat * 4) history)
      hplain world.device selected
    have hload := load_playing register hplain history world.device
    rw [Program.run, hacts]
    by_cases heq : other = register
    · rw [if_pos heq] at hload
      have hrest := ih (history world.device) (h _).2
        { world with device := world.device + 1 } selected'
      rw [hload, heq, Gives.read_iff]
      exact ⟨rfl, by simpa only [Nat.add_assoc, Nat.add_comm 1] using hrest⟩
    · rw [if_neg heq] at hload
      have hnone : valuesRead register [.read other 0] = [] := by simp [valuesRead, heq]
      rw [hload]
      exact (Gives.append_iff_of_nil hnone).mpr (ih 0 (h 0).2 world selected')
  | command what next ih =>
    obtain ⟨selected', hacts⟩ := actsFrom_command (.playing (register.toNat * 4) history)
      h.1 world selected
    have hnone : valuesRead register what.acts = [] := by cases what <;> rfl
    have hrest := ih h.2 (what.run (.playing (register.toNat * 4) history) world).1 selected'
    rw [run_command_playing] at hrest
    rw [Program.run, hacts]
    exact (Gives.append_iff_of_nil hnone).mpr hrest

/-! ## The values that polling takes -/

/-- How many values of `history` it takes to settle a status with at most `polls` of them, and what
the status is. -/
inductive Polled (history : Nat → UInt32) (polls : Nat) : Nat → ChannelStatus → Prop
  /-- The first value that is not busy settles the status. -/
  | settled {place : Nat} (h : IsLeast {place | place < polls ∧ ¬ Busy (history place)} place) :
    Polled history polls (place + 1) (worstCompletion (history place))
  | spent (h : ∀ place < polls, Busy (history place)) : Polled history polls polls .timeout

namespace Polled

variable {history : Nat → UInt32} {polls count : Nat} {status : ChannelStatus}

/-- After a busy value it goes on with the next ones. -/
theorem succ (hbusy : Busy (history 0))
    (h : Polled (fun place => history (place + 1)) polls count status) :
    Polled history (polls + 1) (count + 1) status := by
  cases h with
  | @settled place h =>
    obtain ⟨⟨hlt, hended⟩, hfirst⟩ := h
    have hnext : IsLeast {place | place < polls + 1 ∧ ¬ Busy (history place)} (place + 1) := by
      refine ⟨⟨by omega, hended⟩, ?_⟩
      rintro other ⟨hother, hsettles⟩
      cases other with
      | zero => exact (hsettles hbusy).elim
      | succ other => exact Nat.succ_le_succ (hfirst ⟨by omega, hsettles⟩)
    exact .settled hnext
  | spent h =>
    refine .spent fun place hplace => ?_
    cases place with
    | zero => exact hbusy
    | succ place => exact h place (by omega)

theorem pos (h : Polled history (polls + 1) count status) : 0 < count := by
  cases h with
  | settled h => exact Nat.succ_pos _
  | spent h => exact Nat.succ_pos _

theorem eq_of_isLeast (h : Polled history polls count status) {place : Nat}
    (hfirst : IsLeast {place | place < polls ∧ ¬ Busy (history place)} place) :
    count = place + 1 ∧ status = worstCompletion (history place) := by
  cases h with
  | settled h =>
    obtain rfl := h.unique hfirst
    exact ⟨rfl, rfl⟩
  | spent h => exact (hfirst.1.2 (h place hfirst.1.1)).elim

theorem eq_of_busy (h : Polled history polls count status)
    (hbusy : ∀ place < polls, Busy (history place)) : count = polls ∧ status = .timeout := by
  cases h with
  | settled h => exact (h.1.2 (hbusy _ h.1.1)).elim
  | spent h => exact ⟨rfl, rfl⟩

/-- A success is that of the first value that is not busy. -/
theorem exists_isLeast_of_succeeded (h : Polled history polls count .succeeded) : ∃ place,
    IsLeast {place | place < polls ∧ ¬ Busy (history place)} place ∧
      worstCompletion (history place) = .succeeded := by
  generalize hstatus : ChannelStatus.succeeded = status at h
  cases h with
  | @settled place h => exact ⟨place, h, rfl⟩
  | spent h => cases hstatus

end Polled

namespace Engine

variable {engine : Engine}

/-! ## Polls -/

/-- Reads of the status register that give the first `count` values of `history`, with one pause
between two of them. -/
def pollActs (engine : Engine) (history : Nat → UInt32) (count : Nat) : List Act :=
  ((List.range count).map fun place => .read engine.block.status (history place)).intersperse
    (.pause (.micros engine.config.pollDelay))

theorem pollActs_succ_succ (history : Nat → UInt32) (count : Nat) :
    engine.pollActs history (count + 2) =
      .read engine.block.status (history 0) :: .pause (.micros engine.config.pollDelay) ::
        engine.pollActs (fun place => history (place + 1)) (count + 1) := by
  simp only [pollActs, List.range_succ_eq_map, List.map_cons, List.map_map,
    List.intersperse_cons_cons]
  rfl

theorem performs_awaitStatus_of_gives {polls : Nat} {history : Nat → UInt32} {acts : List Act}
    {status : ChannelStatus} (h : (engine.awaitStatus polls).Performs acts status)
    (hgives : Gives engine.block.status history acts) :
    ∃ count, acts = engine.pollActs history count ∧ Polled history polls count status := by
  induction polls generalizing acts history with
  | zero =>
    obtain ⟨rfl, rfl⟩ := h
    exact ⟨0, rfl, .spent nofun⟩
  | succ polls ih =>
    obtain ⟨raw, after, rfl, hafter⟩ := performs_awaitStatus_succ h
    obtain ⟨rfl, hnext⟩ := Gives.read_iff.mp hgives
    by_cases hbusy : Busy (history 0)
    · rw [if_pos (ChannelStatus.isBusy_iff.mpr hbusy)] at hafter
      obtain ⟨rest, rfl, hrest⟩ := hafter
      cases polls with
      | zero =>
        obtain ⟨rfl, rfl⟩ := hrest
        exact ⟨1, rfl, .spent fun place hplace => by rwa [Nat.lt_one_iff.mp hplace]⟩
      | succ polls =>
        obtain ⟨count, rfl, hpolled⟩ := ih hrest hnext
        obtain ⟨count, rfl⟩ := Nat.exists_eq_succ_of_ne_zero hpolled.pos.ne'
        exact ⟨count + 2, (pollActs_succ_succ history count).symm, hpolled.succ hbusy⟩
    · rw [if_neg (mt ChannelStatus.isBusy_iff.mp hbusy),
        ChannelStatus.ofRaw_eq_worstCompletion hbusy] at hafter
      obtain ⟨rfl, rfl⟩ := hafter
      exact ⟨1, rfl, .settled ⟨⟨Nat.succ_pos polls, hbusy⟩, fun place _ => Nat.zero_le place⟩⟩

/-- **Polling** reads the status as often as it takes, with one pause between two reads, and then
acknowledges the end of the transaction. -/
theorem performs_poll_of_gives {history : Nat → UInt32} {acts : List Act} {status : ChannelStatus}
    (h : engine.poll.Performs acts status) (hgives : Gives engine.block.status history acts) :
    ∃ count raw, acts = engine.pollActs history count ++
        [.read engine.block.interruptControl raw,
          .write engine.block.interruptControl (acknowledgeWord raw)] ∧
      Polled history engine.config.pollLimit count status := by
  simp only [poll, Program.bind_eq, Program.performs_bind, performs_acknowledge,
    Program.pure_eq_done, Program.performs_done] at h
  obtain ⟨_, polls, _, rfl, hawait, _, _, _, rfl, ⟨raw, rfl⟩, rfl, rfl⟩ := h
  obtain ⟨count, rfl, hpolled⟩ := performs_awaitStatus_of_gives hawait hgives.of_append
  exact ⟨count, raw, by rw [List.append_nil], hpolled⟩

/-- **Polling is given every history by some device.** -/
theorem gives_poll_playing (hblock : engine.block.Known) (history : Nat → UInt32)
    (locked : Bool) :
    Gives engine.block.status history (actsOf (engine.poll.run
      (.playing (engine.block.status.toNat * 4) history) ⟨0, locked⟩).events) := by
  have h := gives_playing engine.block.status
    (engine.keeps_poll.mono fun _ => OnBlock.isPlain hblock) history ⟨0, locked⟩ 0
  simp only [Nat.zero_add] at h
  exact h

/-- The word that acknowledges has the bit for it set, and all other bits as read. -/
theorem doneAck_acknowledgeWord (raw : UInt32) :
    Chip.doneAck.extract (acknowledgeWord raw) = 1 ∧
      SameOutside Chip.doneAck.mask (acknowledgeWord raw) raw := by
  constructor
  · simp only [acknowledgeWord, Batch.apply_ofFields, List.foldl_cons, List.foldl_nil,
      Field.extract_insert_self]
    decide
  · exact Batch.sameOutside_apply_ofFields (by decide) raw

/-! ## Never a busy engine -/

theorem yields_awaitStatus (polls : Nat) :
    (engine.awaitStatus polls).Yields (· ≠ .engineBusy) := by
  induction polls with
  | zero => exact nofun
  | succ polls ih =>
    refine Program.Yields.bind_of_forall fun raw => ?_
    split
    · split
      · exact ih
      · exact ih
    · assumption

theorem yields_poll : engine.poll.Yields (· ≠ .engineBusy) :=
  (yields_awaitStatus _).bind fun _ hstatus => .bind_of_forall fun _ => hstatus

theorem yields_submit (request : Request) : (engine.submit request).Yields NotBusy := by
  by_cases hlength : request.length < UInt32.size
  · rw [submit_eq hlength]
    exact .bind_of_forall fun _ => .bind_of_forall fun _ => .bind_of_forall fun _ =>
      .bind_of_forall fun _ => nofun
  · rw [submit, if_neg hlength]
    exact nofun

theorem yields_transact (request : Request) :
    (engine.transact request).Yields fun outcome => NotBusy outcome.1 := by
  refine (yields_submit request).bind fun result hresult => ?_
  cases result with
  | error error => exact hresult
  | ok _ =>
    refine yields_poll.bind fun status hstatus => ?_
    cases status with
    | engineBusy => exact (hstatus rfl).elim
    | succeeded => exact .bind_of_forall fun _ => nofun
    | failed | timeout | noResponse => exact nofun

end Engine

end GpuI2c
