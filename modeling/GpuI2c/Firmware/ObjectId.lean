/-!
# Object ids

Firmware packs the id of a display object into 16 bits: its type in bits 15 to 12, its instance in
bits 11 to 8, and an id within the type in bits 7 to 0. The decoded form numbers encoders,
connectors and generic objects densely. GPU ids are kept as they are and router ids are dropped.
-/

namespace GpuI2c.Firmware

/-- The types of display objects. -/
inductive ObjectType where
  | unknown
  | gpu
  | encoder
  | connector
  | router
  | generic
  deriving DecidableEq

namespace ObjectType

/-- All object types. -/
def all : List ObjectType :=
  [.unknown, .gpu, .encoder, .connector, .router, .generic]

/-- The name of an object type in messages. -/
def name : ObjectType → String
  | .unknown => "Unknown"
  | .gpu => "Gpu"
  | .encoder => "Encoder"
  | .connector => "Connector"
  | .router => "Router"
  | .generic => "Generic"

/-- The type in a firmware object id; unknown for a type nibble without a meaning. -/
def ofFirmware (raw : UInt16) : ObjectType :=
  match (raw &&& 0xF000) >>> 12 with
  | 0x1 => .gpu
  | 0x2 => .encoder
  | 0x3 => .connector
  | 0x4 => .router
  | 0x7 => .generic
  | _ => .unknown

/-- The type nibble of a type, if it has one. -/
def nibble? : ObjectType → Option UInt16
  | .gpu => some 0x1
  | .encoder => some 0x2
  | .connector => some 0x3
  | .router => some 0x4
  | .generic => some 0x7
  | .unknown => none

end ObjectType

/-! ## Numbering -/

/-- Encoder ids of the firmware, each with its driver id. -/
def encoderIds : List (UInt8 × UInt8) :=
  [(0x01, 1),   -- internal LVDS
   (0x02, 2),   -- internal TMDS1
   (0x03, 3),   -- internal TMDS2
   (0x04, 4),   -- internal DAC1
   (0x05, 5),   -- internal DAC2
   (0x0F, 6),   -- internal LVTM1
   (0x12, 7),   -- internal HDMI
   (0x13, 8),   -- KLDSCP TMDS1
   (0x15, 9),   -- KLDSCP DAC1
   (0x16, 10),  -- KLDSCP DAC2
   (0x18, 11),  -- MVPU FPGA
   (0x19, 12),  -- internal DDI
   (0x1E, 13),  -- UNIPHY
   (0x1F, 14),  -- KLDSCP LVTMA
   (0x20, 15),  -- UNIPHY1
   (0x21, 16),  -- UNIPHY2
   (0x22, 17),  -- Almond / Nutmeg
   (0x23, 18),  -- Travis
   (0x25, 20)]  -- UNIPHY3

/-- Connector ids of the firmware, each with its driver id. -/
def connectorIds : List (UInt8 × UInt8) :=
  [(0x01, 1),   -- single link DVI-I
   (0x02, 2),   -- dual link DVI-I
   (0x03, 3),   -- single link DVI-D
   (0x04, 4),   -- dual link DVI-D
   (0x05, 5),   -- VGA
   (0x0C, 12),  -- HDMI type A
   (0x0E, 14),  -- LVDS
   (0x10, 16),  -- PCIe
   (0x12, 18),  -- hardcoded DVI
   (0x13, 19),  -- DisplayPort
   (0x14, 20),  -- eDP
   (0x15, 21)]  -- MXM

/-- Generic ids of the firmware, each with its driver id. -/
def genericIds : List (UInt8 × UInt8) :=
  [(0x03, 1),   -- MXM OPM
   (0x01, 2),   -- GLSync
   (0x04, 3)]   -- stereo pin

/-- The driver id of a firmware id; zero if the numbering has no entry for it. -/
def driverId (numbering : List (UInt8 × UInt8)) (firmwareId : UInt8) : UInt8 :=
  match numbering.find? fun entry => entry.1 = firmwareId with
  | some entry => entry.2
  | none => 0

/-- The firmware id with the given driver id, if the numbering has one. -/
def firmwareId? (numbering : List (UInt8 × UInt8)) (driverId : UInt8) : Option UInt8 :=
  (numbering.find? fun entry => entry.2 = driverId).map (·.1)

/-! ## Ids -/

/-- A decoded object id. -/
structure ObjectId where
  id : UInt8
  /-- The instance. -/
  enumId : UInt8
  objectType : ObjectType
  deriving DecidableEq

namespace ObjectId

/-- Instances are numbered from 1 to 7. -/
def isInstance (enumId : UInt8) : Bool :=
  1 ≤ enumId && enumId ≤ 7

/-- Decode a firmware object id. There is none for an unknown type or an instance out of range; an
id that the numbering does not have decodes to zero. -/
def ofFirmware? (raw : UInt16) : Option ObjectId :=
  let objectType := ObjectType.ofFirmware raw
  if objectType = .unknown then none
  else
    let enumId := ((raw &&& 0x0F00) >>> 8).toUInt8
    if isInstance enumId then
      let firmwareId := (raw &&& 0x00FF).toUInt8
      let id :=
        match objectType with
        | .gpu => firmwareId
        | .encoder => driverId encoderIds firmwareId
        | .connector => driverId connectorIds firmwareId
        | .generic => driverId genericIds firmwareId
        | .router | .unknown => 0
      some ⟨id, enumId, objectType⟩
    else none

/-- Encode an object id as the firmware does, if it has a firmware form; router ids have none. -/
def toFirmware? (object : ObjectId) : Option UInt16 := do
  let nibble ← object.objectType.nibble?
  if isInstance object.enumId then
    let firmwareId ←
      match object.objectType with
      | .gpu => some object.id
      | .encoder => firmwareId? encoderIds object.id
      | .connector => firmwareId? connectorIds object.id
      | .generic => firmwareId? genericIds object.id
      | .router | .unknown => none
    some ((nibble <<< 12) ||| (object.enumId.toUInt16 <<< 8) ||| firmwareId.toUInt16)
  else none

/-- An object id as it stands in log lines. -/
def text (object : ObjectId) : String :=
  "GraphicsObjectId \x7b id: " ++ toString object.id.toNat ++ ", enum_id: " ++
    toString object.enumId.toNat ++ ", object_type: " ++ object.objectType.name ++ " \x7d"

end ObjectId

end GpuI2c.Firmware
