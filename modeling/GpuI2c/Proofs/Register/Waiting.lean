import Mathlib.Algebra.GroupWithZero.Nat
import Mathlib.Data.List.Range
import GpuI2c.Proofs.Device.Points
import GpuI2c.Register.Access

/-!
# Waiting for a field

Waiting reads a register up to the first value in which the field is as awaited, within the number
of attempts, and pauses between two reads. Whatever the device, its answers to one read of the
register after the other settle the result, and how often it is read (`wait_exact`).

An interval of a millisecond or more is slept in whole milliseconds, so up to a millisecond of it is
lost (`wait_sleeps_whole_millis`).
-/

namespace GpuI2c

open RegisterFile (approach doorway)
open Register (Field WaitTimeout pauseBetween wait waitFrom)

/-! ## Reads and pauses among events -/

namespace Event

/-- Whether an event is a read. -/
def isRead : Event → Bool
  | .read .. => true
  | .write .. | .pause _ | .log _ => false

/-- Whether an event is a pause. -/
def isPause : Event → Bool
  | .pause _ => true
  | .read .. | .write .. | .log _ => false

end Event

/-- What happens between two consecutive reads, for each two of them. -/
def betweenReads (events : List Event) : List (List Event) :=
  (events.splitOnP Event.isRead).tail.dropLast

/-- The microseconds that some events pause. -/
def slept (events : List Event) : Nat :=
  (events.map fun
    | .pause length => length.inMicros
    | .read .. | .write .. | .log _ => 0).sum

/-! ## Reading a register again and again -/

namespace Device

variable {σ : Type}

/-- The values that a register gives to one read after the other. -/
def answers (device : Device σ) (register : UInt32) (state : σ) : Nat → UInt32
  | 0 => (device.load register state).1
  | place + 1 => device.answers register (device.load register state).2.1 place

/-- A read is seen where the register is accessed, behind the way to it. -/
theorem events_load (device : Device σ) (register : UInt32) (state : σ) :
    (device.load register state).2.2 = approach device.window register ++
      [.read (doorway device.window register) (device.load register state).1] := by
  unfold load offset? approach doorway
  by_cases hin : register.toNat * 4 < device.window
  · simp only [if_pos hin, if_pos (show RegisterFile.place register < device.window from hin)]
    rfl
  · simp only [if_neg hin, if_neg (show ¬ RegisterFile.place register < device.window from hin)]
    rfl

/-- A device that gives the values of `history` one after the other, whatever is read. -/
def giving (window : Nat) (history : Nat → UInt32) : Device Nat where
  window
  read _ count := (history count, count + 1)
  write _ _ count := count

/-- Every sequence of values is what some device answers. -/
theorem answers_giving (window : Nat) (history : Nat → UInt32) (register : UInt32) (count : Nat) :
    (giving window history).answers register count = fun place => history (count + place) := by
  have hload : ∀ count, ((giving window history).load register count).1 = history count ∧
      ((giving window history).load register count).2.1 = count + 1 := by
    intro count
    unfold load
    split <;> exact ⟨rfl, rfl⟩
  funext place
  induction place generalizing count with
  | zero => exact (hload count).1
  | succ place ih => rw [answers, (hload count).2, ih, Nat.add_assoc, Nat.add_comm 1]

end Device

/-- What is seen when a register is read `count` times, with a pause between two reads. -/
def pollEvents (window : Nat) (register : UInt32) (length : Pause) (history : Nat → UInt32)
    (count : Nat) : List Event :=
  (((List.range count).map fun place =>
    approach window register ++ [.read (doorway window register) (history place)]).intersperse
      [.pause length]).flatten

section

variable {window : Nat} {register : UInt32} {length : Pause}

theorem pollEvents_one (history : Nat → UInt32) : pollEvents window register length history 1 =
    approach window register ++ [.read (doorway window register) (history 0)] := by
  simp [pollEvents]

theorem pollEvents_succ_succ (history : Nat → UInt32) (count : Nat) :
    pollEvents window register length history (count + 2) =
      approach window register ++ .read (doorway window register) (history 0) :: .pause length ::
        pollEvents window register length (fun place => history (place + 1)) (count + 1) := by
  simp only [pollEvents, List.range_succ_eq_map, List.map_cons, List.map_map,
    List.intersperse_cons_cons, List.flatten_cons, List.append_assoc, List.singleton_append]
  rfl

theorem isRead_approach : ∀ event ∈ approach window register, event.isRead = false := by
  unfold approach
  split <;> simp [Event.isRead]

/-- Before the first read there is the way to the register, and before each further one a pause and
the way; after the last read there is nothing. -/
theorem splitOnP_pollEvents {gap : List Event} (hgap : ∀ event ∈ gap, event.isRead = false)
    (history : Nat → UInt32) (count : Nat) :
    (gap ++ pollEvents window register length history (count + 1)).splitOnP Event.isRead =
      (gap ++ approach window register) ::
        (List.replicate count (.pause length :: approach window register) ++ [[]]) := by
  have hway : ∀ event ∈ gap ++ approach window register, event.isRead = false :=
    List.forall_mem_append.mpr ⟨hgap, isRead_approach⟩
  -- The pause before a read is part of the gap in front of it, so this is for every gap.
  induction count generalizing gap history with
  | zero =>
    rw [pollEvents_one, ← List.append_assoc,
      List.splitOnP_append_cons_of_forall_mem hway _ rfl, List.splitOnP_nil]
    rfl
  | succ count ih =>
    have hpause : ∀ event ∈ [Event.pause length], event.isRead = false := by simp [Event.isRead]
    rw [pollEvents_succ_succ, ← List.append_assoc,
      List.splitOnP_append_cons_of_forall_mem hway _ rfl, List.replicate_succ, List.cons_append]
    exact congrArg _ (ih hpause (fun place => history (place + 1))
      (List.forall_mem_append.mpr ⟨hpause, isRead_approach⟩))

theorem betweenReads_pollEvents (history : Nat → UInt32) (count : Nat) :
    betweenReads (pollEvents window register length history count) =
      List.replicate (count - 1) (.pause length :: approach window register) := by
  cases count with
  | zero => rfl
  | succ count =>
    have hsplit : ([] ++ pollEvents window register length history (count + 1)).splitOnP
        Event.isRead = _ := splitOnP_pollEvents (List.forall_mem_nil _) history count
    rw [List.nil_append] at hsplit
    rw [betweenReads, hsplit, List.tail_cons, List.dropLast_concat]
    rfl

theorem slept_pause_approach :
    slept (.pause length :: approach window register) = length.inMicros := by
  unfold approach
  split <;> simp [slept]

/-- `count` reads, and a pause less. -/
theorem countP_pollEvents (history : Nat → UInt32) (count : Nat) :
    (pollEvents window register length history count).countP Event.isRead = count ∧
      (pollEvents window register length history count).countP Event.isPause = count - 1 := by
  have hreads : (approach window register).countP Event.isRead = 0 :=
    List.countP_eq_zero.mpr fun event hevent => by simp [isRead_approach event hevent]
  have hpauses : (approach window register).countP Event.isPause = 0 := by
    unfold approach
    split <;> rfl
  induction count generalizing history with
  | zero => exact ⟨rfl, rfl⟩
  | succ count ih =>
    cases count with
    | zero =>
      rw [pollEvents_one, List.countP_append, List.countP_append, hreads, hpauses]
      exact ⟨rfl, rfl⟩
    | succ count =>
      obtain ⟨hrestReads, hrestPauses⟩ := ih fun place => history (place + 1)
      rw [pollEvents_succ_succ, List.countP_append, List.countP_append, hreads, hpauses]
      simp only [List.countP_cons, hrestReads, hrestPauses, Event.isRead, Event.isPause]
      exact ⟨by simp, by simp⟩

end

/-! ## Waiting -/

namespace Register

variable {σ : Type} (device : Device σ) (register : UInt32) (field : Field)

/-- The first read either settles the result, or is the last one, or is followed by a pause and the
attempts that are left. -/
theorem run_waitFrom_succ (micros attempts : Nat) (last : UInt32) (world : World σ) :
    let (raw, state, seen) := device.load register world.device
    let after : World σ := { world with device := state }
    let rest := (waitFrom register field micros attempts raw).run device after
    (waitFrom register field micros (attempts + 1) last).run device world =
      if field.extract raw = field.value then ⟨.ok raw, after, seen⟩
      else if attempts = 0 then ⟨.error ⟨raw⟩, after, seen⟩
      else { rest with events := seen ++ .pause (pauseBetween micros) :: rest.events } := by
  simp only [waitFrom, Program.bind_eq, read, Program.read_bind, Program.done_bind, Program.run]
  by_cases hfound : field.extract (device.load register world.device).1 = field.value
  · simp [hfound, Program.run]
  · by_cases hlast : attempts = 0
    · subst hlast
      simp [hfound, Program.run, waitFrom]
    · simp [hfound, hlast, Program.run, Program.pause, Program.give, Command.run]

/-- What is left of a search after the first place. -/
theorem find?_range_succ (P : Nat → Bool) (count : Nat) : (List.range (count + 1)).find? P =
    if P 0 then some 0 else ((List.range count).find? fun place => P (place + 1)).map (· + 1) := by
  rw [List.range_succ_eq_map, List.find?_cons, List.find?_map]
  cases P 0 <;> rfl

theorem run_waitFrom (micros attempts : Nat) (last : UInt32) (world : World σ) :
    let history := device.answers register world.device
    let outcome := (waitFrom register field micros attempts last).run device world
    let first := (List.range attempts).find? fun place =>
      field.extract (history place) = field.value
    outcome.value = (match first with
      | some place => .ok (history place)
      | none => .error ⟨if attempts = 0 then last else history (attempts - 1)⟩) ∧
    outcome.events = pollEvents device.window register (pauseBetween micros) history
      ((first.map (· + 1)).getD attempts) := by
  induction attempts generalizing last world with
  | zero => exact ⟨rfl, rfl⟩
  | succ attempts ih =>
    intro history outcome first
    have hstep := run_waitFrom_succ device register field micros attempts last world
    have hseen : (device.load register world.device).2.2 =
        pollEvents device.window register (pauseBetween micros) history 1 :=
      (device.events_load register world.device).trans (pollEvents_one history).symm
    have hfirst : first = _ := find?_range_succ _ attempts
    dsimp only at hstep
    by_cases hfound : field.extract (history 0) = field.value
    · rw [if_pos (show field.extract (device.load register world.device).1 = _ from hfound)]
        at hstep
      rw [if_pos (by simpa using hfound)] at hfirst
      rw [hfirst]
      exact ⟨congrArg Outcome.value hstep, (congrArg Outcome.events hstep).trans hseen⟩
    · rw [if_neg (show ¬ field.extract (device.load register world.device).1 = _ from hfound)]
        at hstep
      rw [if_neg (by simpa using hfound)] at hfirst
      cases attempts with
      | zero =>
        rw [hfirst]
        exact ⟨congrArg Outcome.value hstep, (congrArg Outcome.events hstep).trans hseen⟩
      | succ attempts =>
        rw [if_neg (Nat.succ_ne_zero attempts)] at hstep
        -- The attempts that are left, on the device that the first read leaves.
        have hlater : device.answers register (device.load register world.device).2.1 =
            fun place => history (place + 1) := rfl
        obtain ⟨hvalue, hevents⟩ := ih (history 0)
          { world with device := (device.load register world.device).2.1 }
        simp only [hlater] at hvalue hevents
        have hpaused := (congrArg Outcome.events hstep).trans
          (congrArg₂ (fun seen later => seen ++ .pause (pauseBetween micros) :: later)
            (device.events_load register world.device) hevents)
        have hresult := (congrArg Outcome.value hstep).trans hvalue
        rw [List.append_assoc, List.singleton_append] at hpaused
        rw [hfirst]
        cases hrest : (List.range (attempts + 1)).find? fun place =>
            decide (field.extract (history (place + 1)) = field.value) with
        | none =>
          rw [hrest] at hpaused hresult
          exact ⟨hresult, hpaused.trans (pollEvents_succ_succ history attempts).symm⟩
        | some place =>
          rw [hrest] at hpaused hresult
          exact ⟨hresult, hpaused.trans (pollEvents_succ_succ history place).symm⟩

/-- **Waiting reads within its attempts, and says what it read.** On every device, for every field,
number of attempts and interval: the register is read up to the first answer in which the field has
its value, and this answer is the result. If no attempt finds it, the register is read as often as
there are attempts, and the last answer is reported; without any attempt that is zero. Between two
reads there is one pause, always the same, and none elsewhere. Nothing is written, but that a
register outside the window is selected before each read of it. -/
theorem wait_exact (device : Device σ) (register : UInt32) (field : Field) (attempts micros : Nat)
    (world : World σ) :
    let history := device.answers register world.device
    let outcome := (wait register field attempts micros).run device world
    let Reads := fun count : Nat =>
      outcome.events = (((List.range count).map fun place =>
        approach device.window register ++
          [.read (doorway device.window register) (history place)]).intersperse
            [.pause (pauseBetween micros)]).flatten ∧
      outcome.events.countP Event.isRead = count ∧
      outcome.events.countP Event.isPause = count - 1
    match (List.range attempts).find? fun place => field.extract (history place) = field.value with
    | some place => outcome.value = .ok (history place) ∧ Reads (place + 1)
    | none =>
      outcome.value = .error ⟨if attempts = 0 then 0 else history (attempts - 1)⟩ ∧
        Reads attempts := by
  intro history outcome Reads
  have hreads : ∀ count, outcome.events =
      pollEvents device.window register (pauseBetween micros) history count → Reads count := by
    intro count hevents
    refine ⟨hevents, ?_⟩
    rw [hevents]
    exact countP_pollEvents history count
  obtain ⟨hvalue, hevents⟩ := run_waitFrom device register field micros attempts 0 world
  cases hfirst : (List.range attempts).find? fun place =>
      decide (field.extract (history place) = field.value) with
  | none =>
    rw [hfirst] at hvalue hevents
    exact ⟨hvalue, hreads attempts hevents⟩
  | some place =>
    rw [hfirst] at hvalue hevents
    exact ⟨hvalue, hreads (place + 1) hevents⟩

/-- The third answer of a register behind the index and data registers is the one waited for. -/
theorem wait_exact_third :
    let history : Nat → UInt32 := fun place => if place < 2 then 0x0F else 0x1F
    let outcome := (wait 0x1000 ⟨0x10, 4, 1⟩ 5 100).run (.giving 0x100 history) ⟨0, false⟩
    outcome.value = .ok 0x1F ∧ outcome.events.countP Event.isRead = 3 ∧
      outcome.events.countP Event.isPause = 2 := by
  intro history outcome
  have hfirst : ((List.range 5).find? fun place =>
      decide (Field.extract ⟨0x10, 4, 1⟩ (history (0 + place)) = 1)) = some 2 := by decide +kernel
  have hexact := wait_exact (.giving 0x100 history) 0x1000 ⟨0x10, 4, 1⟩ 5 100 ⟨0, false⟩
  simp only [Device.answers_giving, hfirst] at hexact
  obtain ⟨hvalue, -, hreads, hpauses⟩ := hexact
  exact ⟨hvalue, hreads, hpauses⟩

/-- **An interval of a millisecond or more is slept in whole milliseconds.** Between two consecutive
reads of a register, waiting sleeps the interval if it is shorter than a millisecond, and otherwise
the whole milliseconds of it. So it sleeps at least the interval just if that is shorter than a
millisecond or a whole number of them, and always more than the interval less a millisecond. -/
theorem wait_sleeps_whole_millis (device : Device σ) (register : UInt32) (field : Field)
    (attempts micros : Nat) (world : World σ) {between : List Event}
    (hbetween : between ∈ betweenReads
      ((wait register field attempts micros).run device world).events) :
    slept between = (if micros < 1000 then micros else 1000 * (micros / 1000)) ∧
      (micros ≤ slept between ↔ micros < 1000 ∨ micros % 1000 = 0) ∧
      slept between ≤ micros ∧ micros < slept between + 1000 := by
  obtain ⟨-, hevents⟩ := run_waitFrom device register field micros attempts 0 world
  have hslept : slept between = (if micros < 1000 then micros else 1000 * (micros / 1000)) := by
    rw [wait, hevents, betweenReads_pollEvents] at hbetween
    rw [List.eq_of_mem_replicate hbetween, slept_pause_approach, pauseBetween]
    by_cases hshort : micros < 1000
    · rw [if_neg (Nat.not_le.mpr hshort), if_pos hshort]
      rfl
    · rw [if_pos (Nat.not_lt.mp hshort), if_neg hshort]
      rfl
  refine ⟨hslept, ?_⟩
  rw [hslept]
  by_cases hshort : micros < 1000
  · rw [if_pos hshort]
    omega
  · rw [if_neg hshort]
    omega

/-- Two reads that are to be 2500 microseconds apart have two milliseconds between them. -/
theorem wait_sleeps_whole_millis_twice :
    let outcome := (wait 0x10 ⟨1, 0, 1⟩ 2 2500).run (.giving 0x1000 fun _ => 0) ⟨0, false⟩
    [.pause (.millis 2)] ∈ betweenReads outcome.events ∧ slept [.pause (.millis 2)] = 2000 := by
  intro outcome
  have hbetween : [.pause (.millis 2)] ∈ betweenReads outcome.events := by decide +kernel
  obtain ⟨hslept, -⟩ := wait_sleeps_whole_millis _ _ _ _ _ _ hbetween
  exact ⟨hbetween, hslept⟩

/-- With an interval of 1500 microseconds, two reads are a millisecond apart. -/
theorem wait_sleeps_short :
    let outcome := (wait 0x10 ⟨1, 0, 1⟩ 2 1500).run (.giving 0x1000 fun _ => 0) ⟨0, false⟩
    outcome.events = [.read 0x40 0, .pause (.millis 1), .read 0x40 0] ∧
      betweenReads outcome.events = [[.pause (.millis 1)]] ∧ slept [.pause (.millis 1)] < 1500 := by
  decide +kernel

end Register

end GpuI2c
