import GpuI2c.Adapter.Basic
import GpuI2c.Board
import GpuI2c.Firmware.Clock
import GpuI2c.Firmware.Records
import GpuI2c.Text

/-!
# Building adapters

An adapter is built from the identity of a board and, where the chip family calls for it, from the
board's firmware image. Building reads no register: it only parses, and reports in the log what it
found. A bus line or reference clock that the firmware does not describe is reported and done
without.
-/

namespace GpuI2c

namespace Adapter

/-! ## One board -/

/-- The log line for the connector with the given index. -/
def connectorLine (firmware : Firmware.Context) (index : Nat) (id : Firmware.ObjectId) : String :=
  "connector " ++ toString index ++ ": " ++ id.text ++
    match firmware.i2cInfo id with
    | .ok wiring =>
      " line " ++ toString wiring.line.toNat ++ " engine " ++ toString wiring.engine.toNat ++
        " slave " ++ Text.markedPaddedHex 2 wiring.slaveAddress.toNat
    | .error error => " (" ++ error.message ++ ")"

/-- Log the connectors whose indices are listed, those without an id left out. -/
def logConnectors (firmware : Firmware.Context) : List Nat → Program Unit
  | [] => return ()
  | index :: rest => do
    match firmware.connectorId? index with
    | some id => Program.log .debug (connectorLine firmware index id)
    | none => pure ()
    logConnectors firmware rest

/-- The log line for a firmware image. -/
def firmwareLine (firmware : Firmware.Context) : String :=
  "BIOS " ++ Text.quoted firmware.name ++ ": ROM " ++ firmware.revision.text ++
    ", object info " ++ firmware.objectRevision.text

/-- Log what a firmware image is and which connectors it describes. -/
def logFirmware (firmware : Firmware.Context) : Program Unit := do
  Program.log .info (firmwareLine firmware)
  logConnectors firmware (List.range firmware.connectorCount)

/-- The wiring of a bus line, if the firmware describes it. -/
def findWiring (firmware : Firmware.Context) (line : UInt8) : Program (Option Firmware.Wiring) :=
  match firmware.gpioInfo line with
  | .ok wiring => do
    Program.log .info
      ("lighting bus on line " ++ toString wiring.line.toNat ++ " (engine " ++
        toString wiring.engine.toNat ++ ", hw assist " ++ toString wiring.hwAssist ++ ")")
    return some wiring
  | .error error => do
    Program.log .warn
      ("no GPIO_I2C entry for line " ++ toString line.toNat ++ ": " ++ error.message)
    return none

/-- The engine settings for a board: the usual ones, with the reference clock if the firmware
gives it. -/
def findConfig (firmware : Firmware.Context) : Program Engine.Config :=
  match firmware.crystalFrequency with
  | .ok clock => return Engine.Config.default.withReferenceClock clock
  | .error error => do
    Program.log .warn
      ("reference clock unknown (" ++ error.message ++ "), leaving bus speed as is")
    return .default

/-- Build the adapter of a board whose bus the firmware describes. -/
def createFramed (block : Chip.RegisterBlock) (profile : Chip.Profile) (image : Array UInt8) :
    Program (Except AdapterError Adapter) :=
  match Firmware.Context.ofBytes image with
  | .error error => return .error (.firmware error)
  | .ok firmware => do
    logFirmware firmware
    let wiring ← findWiring firmware profile.busLine
    let config ← findConfig firmware
    return .ok (.framed { engine := ⟨block, config⟩, firmware, profile, wiring })

/-- Build the adapter of a board. The image is only looked at where the chip family calls for
it. -/
def create (device : PciDevice) (image : Array UInt8) : Program (Except AdapterError Adapter) :=
  match Board.find? device with
  | none => return .error .deviceNotFound
  | some board =>
    let profile := board.family.profile
    match board.family.registerBlock? with
    | none => return .error (.unsupportedFamily board.family)
    | some block => do
      Program.log .info
        (board.name ++ " (" ++ Text.paddedHex 4 device.vendor.toNat ++ ":" ++
          Text.paddedHex 4 device.device.toNat ++ ") on the " ++ block.name ++ " register block")
      match profile.driveMode with
      | .firmwareTable => createFramed block profile image
      | .directRegister => return .ok (.direct { engine := ⟨block, .default⟩, profile })

/-! ## Several boards -/

/-- Build the adapter of the first device that is a supported board. -/
def probe (devices : List PciDevice) (image : Array UInt8) :
    Program (Except AdapterError Adapter) :=
  match Board.firstSupported? devices with
  | none => return .error .deviceNotFound
  | some (device, _) => create device image

/-- The most adapters that `createAll` builds. -/
def maxAdapters : Nat := 2

/-- A device that may be a supported board, with the handle of its registers and the bytes of its
firmware image. -/
structure Candidate (β : Type) where
  device : PciDevice
  backend : β
  image : Array UInt8

/-- `createAll` with the adapters built so far. -/
def createFrom {β : Type} (built : List (Adapter × β)) :
    List (Candidate β) → Program (Except AdapterError (List (Adapter × β)) × Nat)
  | [] => return (.ok built, 0)
  | candidate :: rest =>
    match Board.find? candidate.device with
    | none => do
      let (result, visited) ← createFrom built rest
      return (result, visited + 1)
    | some _ => do
      match ← create candidate.device candidate.image with
      | .error error =>
        Program.log .error
          (Text.paddedHex 4 candidate.device.vendor.toNat ++ ":" ++
            Text.paddedHex 4 candidate.device.device.toNat ++ ": " ++ error.message ++
            ", releasing " ++ toString built.length ++ " adapters")
        return (.error error, 1)
      | .ok adapter =>
        let built := built ++ [(adapter, candidate.backend)]
        if built.length ≥ maxAdapters then return (.ok built, 1)
        else
          let (result, visited) ← createFrom built rest
          return (result, visited + 1)

/-- Build adapters for the supported boards among the candidates, in order, until the set is full.
Other devices are passed over, and the first failure ends it all. Returns the adapters with the
register handles of their boards, and the number of candidates that were looked at. -/
def createAll {β : Type} (candidates : List (Candidate β)) :
    Program (Except AdapterError (List (Adapter × β)) × Nat) :=
  createFrom [] candidates

end Adapter

end GpuI2c
