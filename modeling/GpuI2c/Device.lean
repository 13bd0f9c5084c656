import GpuI2c.Program

/-!
# Devices and runs

A device is a register window seen through byte offsets. Registers are named by dword index: a
register whose byte offset lies inside the window is accessed in place; for any other one the
byte offset is written to the index register at offset 0, and the access goes to the data
register at offset 4.

`Program.run` answers the requests of a program from a device and records every access, pause and
log line in order.
-/

namespace GpuI2c

/-- A register device with states in `σ`. Offsets are in bytes. -/
structure Device (σ : Type) where
  /-- Size in bytes of the directly mapped window. -/
  window : Nat
  read : Nat → σ → UInt32 × σ
  write : Nat → UInt32 → σ → σ

/-- What an observer of a run sees. Offsets are in bytes, as the device sees them. -/
inductive Event where
  | read (offset : Nat) (value : UInt32)
  | write (offset : Nat) (value : UInt32)
  | pause (length : Pause)
  | log (line : LogLine)
  deriving DecidableEq

namespace Device

variable {σ : Type}

/-- Dword index of the register that selects an indirectly accessed register. -/
def indexRegister : UInt32 := 0

/-- Dword index of the register through which the selected register is accessed. -/
def dataRegister : UInt32 := 1

/-- The byte offset of a register inside the window, if it lies there. -/
def offset? (device : Device σ) (register : UInt32) : Option Nat :=
  let offset := register.toNat * 4
  if offset < device.window then some offset else none

/-- The device after `register` was selected for indirect access, and what was seen. -/
def select (device : Device σ) (register : UInt32) (state : σ) : σ × Event :=
  let offset := indexRegister.toNat * 4
  let value := register * 4
  (device.write offset value state, .write offset value)

/-- Read a register: its value, the state after the access, and what was seen. -/
def load (device : Device σ) (register : UInt32) (state : σ) : UInt32 × σ × List Event :=
  match device.offset? register with
  | some offset =>
    let (value, state) := device.read offset state
    (value, state, [.read offset value])
  | none =>
    let (state, selection) := device.select register state
    let offset := dataRegister.toNat * 4
    let (value, state) := device.read offset state
    (value, state, [selection, .read offset value])

/-- Write a register: the state after the access, and what was seen. -/
def store (device : Device σ) (register value : UInt32) (state : σ) : σ × List Event :=
  match device.offset? register with
  | some offset => (device.write offset value state, [.write offset value])
  | none =>
    let (state, selection) := device.select register state
    let offset := dataRegister.toNat * 4
    (device.write offset value state, [selection, .write offset value])

end Device

/-- A device together with the lock of its engine. -/
structure World (σ : Type) where
  device : σ
  /-- Whether a session owns the engine. -/
  locked : Bool := false

/-- The end of a run: the program's value, the world it leaves, and what was seen on the way. -/
structure Outcome (σ α : Type) where
  value : α
  world : World σ
  events : List Event

/-- Carry out a command. -/
def Command.run {σ : Type} (device : Device σ) (world : World σ) : Command → World σ × List Event
  | .write register value =>
    let (state, events) := device.store register value world.device
    ({ world with device := state }, events)
  | .pause length => (world, [.pause length])
  | .log line => (world, [.log line])
  | .lock => ({ world with locked := true }, [])
  | .unlock => ({ world with locked := false }, [])

/-- Run a program on a device. -/
def Program.run {σ α : Type} (device : Device σ) : Program α → World σ → Outcome σ α
  | .done value, world => ⟨value, world, []⟩
  | .read register next, world =>
    let (value, state, events) := device.load register world.device
    let rest := (next value).run device { world with device := state }
    { rest with events := events ++ rest.events }
  | .command what next, world =>
    let (world, events) := what.run device world
    let rest := next.run device world
    { rest with events := events ++ rest.events }

/-- A sequence runs its first program, then the second from the world the first one leaves. -/
theorem Program.run_bind {σ α β : Type} (device : Device σ) (p : Program α) (f : α → Program β)
    (world : World σ) :
    (p.bind f).run device world =
      { (f (p.run device world).value).run device (p.run device world).world with
        events := (p.run device world).events ++
          ((f (p.run device world).value).run device (p.run device world).world).events } := by
  induction p generalizing world with
  | done value => rfl
  | read register next ih => simp [Program.run, ih, List.append_assoc]
  | command what next ih => simp [Program.run, ih, List.append_assoc]

/-- Changing the value of a program does not change what its run does. -/
theorem Program.run_bind_done {σ α β : Type} (device : Device σ) (p : Program α) (f : α → β)
    (world : World σ) :
    (p.bind fun value => .done (f value)).run device world =
      ⟨f (p.run device world).value, (p.run device world).world, (p.run device world).events⟩ := by
  rw [Program.run_bind]
  simp [Program.run]

end GpuI2c
