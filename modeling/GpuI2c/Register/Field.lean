/-!
# Register fields

A field is a group of bits of a 32-bit register together with a value for it. Values enter a
register shifted to the left and cut by the mask; they leave it cut by the mask and shifted back.
Shift counts are taken modulo 32.

A batch of fields is folded into one mask and one value, so that the hardware observes a single
write for all of them.
-/

namespace GpuI2c.Register

/-- Masked bits of a register and a value for them. -/
structure Field where
  mask : UInt32
  shift : UInt8
  value : UInt32 := 0
  deriving DecidableEq

namespace Field

/-- The same field with another value. -/
def holding (field : Field) (value : UInt32) : Field :=
  { field with value }

/-- The field's value in a raw register value. -/
def extract (field : Field) (raw : UInt32) : UInt32 :=
  (raw &&& field.mask) >>> field.shift.toUInt32

/-- The raw register value `raw` with the field's value in place. -/
def insert (field : Field) (raw : UInt32) : UInt32 :=
  (raw &&& ~~~field.mask) ||| (field.mask &&& (field.value <<< field.shift.toUInt32))

/-- The field with the value it has in `raw`. -/
def reading (raw : UInt32) (field : Field) : Field :=
  field.holding (field.extract raw)

end Field

/-- The combined effect of several fields: the bits they cover and the values of these bits. -/
structure Batch where
  mask : UInt32 := 0
  value : UInt32 := 0
  deriving DecidableEq

/-- A batch with one more field, which wins over earlier ones where they overlap. -/
def Batch.add (batch : Batch) (field : Field) : Batch :=
  ⟨batch.mask ||| field.mask, field.insert batch.value⟩

/-- The batch of a list of fields. -/
def Batch.ofFields (fields : List Field) : Batch :=
  fields.foldl Batch.add {}

/-- The raw register value with all fields of the batch in place. -/
def Batch.apply (batch : Batch) (raw : UInt32) : UInt32 :=
  (raw &&& ~~~batch.mask) ||| batch.value

end GpuI2c.Register
