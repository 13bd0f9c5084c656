import GpuI2c.Adapter.Exchange
import GpuI2c.Chip.Family
import GpuI2c.Firmware.Context
import GpuI2c.Firmware.Wiring

/-!
# Framed adapters

A framed adapter talks to a device with numbered byte registers. Each of its transactions starts
with a register offset; the data follows in the same transaction for writes, and in a second one
for reads. A transfer must have one of three shapes: a single empty message, which probes the
address; a single write of an offset and data; or a write of an offset alone, followed by any one
message. Every other transfer is refused before any register is reached.

The messages are looked at twice. `isSupported` is the test for the three shapes, before a session
is opened; `RegisterAccess.ofMessages` takes the messages apart in the session, and has refusals of
its own for what it cannot take apart.
-/

namespace GpuI2c

open Bus (BusError Message Request maxTransactionLength)

/-- An adapter for a device with numbered registers, wired as the firmware says. -/
structure FramedAdapter where
  engine : Engine
  firmware : Firmware.Context
  profile : Chip.Profile
  /-- The wiring of the bus, if the firmware describes it. -/
  wiring : Option Firmware.Wiring
  deriving DecidableEq

/-- What a transfer asks of a device with numbered registers. -/
inductive RegisterAccess where
  /-- Find out whether the device answers. -/
  | probe (address : UInt8)
  /-- Write the registers from `offset` on. -/
  | write (address offset : UInt8) (data : List UInt8)
  /-- Read the registers from `offset` on. -/
  | read (address offset : UInt8) (buffer : List UInt8)
  deriving DecidableEq

/-- Whether a list of messages has one of the three shapes. -/
def isSupported : List Message → Bool
  | [only] => only.isEmpty || (!only.isRead && only.length > 1)
  | [.write _ data, _] => data.length == 1
  | _ => false

/-- Take a list of messages apart into a register access, to the address of the first message. A
write without an offset before a second message is left on the spot; any other list that stands for
no register access is a failure. -/
def RegisterAccess.ofMessages : List Message → Except Engine.Stop RegisterAccess
  | [only] =>
    if only.isEmpty then .ok (.probe only.address)
    else
      match only with
      | .write address (offset :: bytes) => .ok (.write address offset bytes)
      | .write _ [] => .error (.failed .invalidInput)
      | .read .. => .error (.failed .unsupported)
  | [.write _ [], _] => .error (.left .invalidInput)
  | [.write address (offset :: _), .read _ buffer] => .ok (.read address offset buffer)
  | [.write address (offset :: _), .write _ bytes] => .ok (.write address offset bytes)
  | _ => .error (.failed .unsupported)

/-- Cut the bytes of consecutive registers into groups of at most `group` bytes, each with the
offset of its first register. Offsets wrap around after 255. -/
def frames (group : Nat) (offset : UInt8) : List UInt8 → List (UInt8 × List UInt8)
  | [] => []
  | byte :: rest =>
    (offset, byte :: rest.take (group - 1)) ::
      frames group (offset + UInt8.ofNat group) (rest.drop (group - 1))
termination_by bytes => bytes.length
decreasing_by simp only [List.length_drop, List.length_cons]; omega

namespace FramedAdapter

/-- The most data bytes of one transaction, the offset not counted. -/
def groupLength (adapter : FramedAdapter) : Nat :=
  if adapter.profile.registerAutoIncrement then maxTransactionLength - 1 else 1

/-- Write frames in order, up to the first failure. -/
def writeFrames (adapter : FramedAdapter) (address : UInt8) :
    List (UInt8 × List UInt8) → Program (Except BusError Unit)
  | [] => return .ok ()
  | (offset, bytes) :: rest => do
    match ← adapter.engine.exchangeWrite address (offset :: bytes) false with
    | .error error => return .error error
    | .ok () => adapter.writeFrames address rest

/-- Read frames in order, up to the first failure. Returns the bytes of all frames, those of the
frames that were not read as they were. -/
def readFrames (adapter : FramedAdapter) (address : UInt8) :
    List (UInt8 × List UInt8) → Program (Except BusError Unit × List UInt8)
  | [] => return (.ok (), [])
  | (offset, bytes) :: rest => do
    let untouched := rest.flatMap (·.2)
    match ← adapter.engine.exchangeWrite address [offset] true with
    | .error error => return (.error error, bytes ++ untouched)
    | .ok () =>
      match ← adapter.engine.exchangeRead address bytes false with
      | (.error error, filled) => return (.error error, filled ++ untouched)
      | (.ok (), filled) =>
        let (result, others) ← adapter.readFrames address rest
        return (result, filled ++ others)

/-- Carry out a register access inside an open session. Returns the buffer of a read. -/
def access (adapter : FramedAdapter) :
    RegisterAccess → Program (Except BusError Unit × Option (List UInt8))
  | .probe address => do
    let (result, _) ← adapter.engine.transact (Request.probe address)
    return (result, none)
  | .write address offset data => do
    let result ← adapter.writeFrames address (frames adapter.groupLength offset data)
    return (result, none)
  | .read address offset buffer => do
    let (result, filled) ←
      adapter.readFrames address (frames adapter.groupLength offset buffer)
    return (result, some filled)

/-- Carry out the register access that messages stand for. Returns the buffer of a read. -/
def attempt (adapter : FramedAdapter) (messages : List Message) :
    Program (Except Engine.Stop Unit × Option (List UInt8)) :=
  match RegisterAccess.ofMessages messages with
  | .error stop => return (.error stop, none)
  | .ok wanted => do
    let (result, filled) ← adapter.access wanted
    return (result.mapError .failed, filled)

/-- Log a failure. Nothing is logged about a transfer that is left on the spot. -/
def report : Except Engine.Stop Unit → Program Unit
  | .error (.failed error) => Program.log .debug ("register transfer failed: " ++ error.message)
  | .error (.left _) | .ok () => return ()

/-- What a transfer does inside its open session. Returns the messages with the buffer that was
filled. -/
def accessAll (adapter : FramedAdapter) (messages : List Message) :
    Program (Except Engine.Stop Unit × List Message) := do
  let (result, filled) ← adapter.attempt messages
  report result
  return (result,
    match filled with
    | some buffer => messages.map (·.withBuffer buffer)
    | none => messages)

/-- Run messages as one bus transfer. Returns the number of messages, or why the transfer failed,
and the messages with the buffer that was filled. -/
def transfer (adapter : FramedAdapter) (messages : List Message) :
    Program (Except BusError Nat × List Message) :=
  if isSupported messages then do
    let (result, filled) ← adapter.engine.inSession (adapter.accessAll messages)
    return (result.map fun () => messages.length, filled)
  else do
    Engine.logIdle .warn
      ("unsupported transfer of " ++ toString messages.length ++ " message(s)")
    return (.error .unsupported, messages)

end FramedAdapter

end GpuI2c
