import GpuI2c.Firmware.Span
import GpuI2c.Text

/-!
# Firmware images

An image is recognised by three signatures: a magic word at its start, a fixed text near it, and
the letters `ATOM` in its ROM header. It declares its own size in units of 512 bytes, and only
that many of the mapped bytes belong to it. It may carry the part number of its board as text.
-/

namespace GpuI2c.Firmware

/-- The word that a recognised image starts with. -/
def imageMagic : UInt16 := 0xAA55

/-- Offset of the vendor signature. -/
def vendorSignatureOffset : Nat := 0x30

/-- The vendor signature, `" 761295520"`. -/
def vendorSignature : Array UInt8 :=
  #[0x20, 0x37, 0x36, 0x31, 0x32, 0x39, 0x35, 0x35, 0x32, 0x30]

/-- Where the offset of the ROM header is kept. -/
def romHeaderPointer : Nat := 0x48

/-- Offset of the signature inside the ROM header. -/
def romSignatureOffset : Nat := 4

/-- The signature inside the ROM header, `"ATOM"`. -/
def romSignature : Array UInt8 :=
  #[0x41, 0x54, 0x4F, 0x4D]

/-- Where the number of size units is kept. -/
def sizeOffset : Nat := 2

/-- The bytes in one size unit. -/
def sizeUnit : Nat := 512

/-- Where the offset of the part number is kept. -/
def partNumberPointer : Nat := 0x6E

/-- Offset of the part number in images that give none. -/
def defaultPartNumberOffset : Nat := 0x80

/-- The most bytes of a part number. -/
def partNumberLength : Nat := 19

/-- Whether a signature stands at `offset` and ends strictly before the end of the span. -/
def Span.bears (span : Span) (offset : Nat) (signature : Array UInt8) : Bool :=
  match span.slice offset signature.size with
  | .ok bytes => bytes == signature
  | .error _ => false

/-- Whether all three signatures are in place. -/
def Span.isRecognized (span : Span) : Bool :=
  match span.word 0, span.word romHeaderPointer with
  | .ok magic, .ok romHeader =>
    magic == imageMagic && span.bears vendorSignatureOffset vendorSignature &&
      span.bears (romHeader.toNat + romSignatureOffset) romSignature
  | _, _ => false

/-- The part number: the bytes at its offset up to the first zero byte, as far as they are
text. -/
def Span.partNumber (span : Span) : String :=
  let offset :=
    match span.word partNumberPointer with
    | .error _ => defaultPartNumberOffset
    | .ok offset => if offset = 0 then defaultPartNumberOffset else offset.toNat
  match span.slice offset partNumberLength with
  | .error _ => ""
  | .ok bytes =>
    let shown := bytes.toList.takeWhile (· ≠ 0)
    String.ofList (Text.fitting partNumberLength (Text.leadingText shown))

/-- A recognised image, cut to its declared size. -/
structure Image where
  span : Span
  /-- The part number; empty if the image carries none. -/
  name : String
  deriving DecidableEq

/-- Open the image in the mapped bytes. -/
def Image.ofBytes (mapped : Array UInt8) : Except FirmwareError Image :=
  let all : Span := ⟨mapped⟩
  if all.isRecognized then do
    let units ← all.byte sizeOffset
    let declared := units.toNat * sizeUnit
    if declared > mapped.size then .error (.sizeMismatch declared mapped.size)
    else
      let span : Span := ⟨mapped.extract 0 declared⟩
      .ok ⟨span, span.partNumber⟩
  else .error .notRecognized

end GpuI2c.Firmware
