import GpuI2c.Proofs.Engine.Acts
import GpuI2c.Proofs.Register.Batch

/-!
# The words that the engine writes

What the fields of each word are that an operation writes, whatever the register held before. A
field that the operation does not mention is the one that was read, and in a word that is written
without a read it is zero.
-/

namespace GpuI2c

open Register (Batch Field)
open Bus (Request)

/-! ## Fields of a few low bits -/

theorem clip_count (value : UInt32) : Chip.count.clip value = 0xF &&& value :=
  Field.clip_eq_and (by decide) (by decide) value

theorem clip_data (value : UInt32) : Chip.data.clip value = 0xFF &&& value :=
  Field.clip_eq_and (by decide) (by decide) value

theorem clip_index (value : UInt32) : Chip.index.clip value = 0xF &&& value :=
  Field.clip_eq_and (by decide) (by decide) value

theorem clip_clockPin (value : UInt32) : Chip.clockPin.clip value = 0x7F &&& value :=
  Field.clip_eq_and (by decide) (by decide) value

theorem clip_dataPin (value : UInt32) : Chip.dataPin.clip value = 0x7F &&& value :=
  Field.clip_eq_and (by decide) (by decide) value

theorem lt_size_of_le_max {n : Nat} (h : n ≤ Bus.maxTransactionLength) : n < UInt32.size :=
  Nat.lt_of_le_of_lt h (by decide)

/-- A mask of low bits takes a word modulo their power of two. -/
theorem toNat_low_bits {mask : UInt32} {bits : Nat} (h : mask.toNat = 2 ^ bits - 1)
    (word : UInt32) : (mask &&& word).toNat = word.toNat % 2 ^ bits := by
  rw [UInt32.and_comm, UInt32.toNat_and, h, Nat.and_two_pow_sub_one_eq_mod]

/-- Four bits hold a number modulo sixteen. -/
theorem toNat_four_bits_mod (n : Nat) : (0xF &&& UInt32.ofNat n).toNat = n % 16 := by
  have hmask : (0xF : UInt32).toNat = 2 ^ 4 - 1 := rfl
  rw [toNat_low_bits hmask, UInt32.toNat_ofNat']
  omega

/-- Four bits hold every number up to fifteen. -/
theorem toNat_four_bits {n : Nat} (h : n ≤ Bus.maxTransactionLength) :
    (0xF &&& UInt32.ofNat n).toNat = n := by
  have hn : n ≤ 15 := h
  rw [toNat_four_bits_mod, Nat.mod_eq_of_lt (by omega)]

/-- Eight bits hold every byte. -/
theorem toUInt8_eight_bits (byte : UInt8) : (0xFF &&& byte.toUInt32).toUInt8 = byte := by
  have hmask : (0xFF : UInt32).toNat = 2 ^ 8 - 1 := rfl
  rw [← UInt8.toNat_inj, UInt32.toNat_toUInt8, toNat_low_bits hmask, UInt8.toNat_toUInt32,
    Nat.mod_mod, Nat.mod_eq_of_lt byte.toNat_lt]

namespace Engine

/-! ## Control -/

theorem go_enableWord (raw : UInt32) :
    Chip.go.extract (enableWord raw) = Chip.go.extract raw := by
  simp (disch := decide) only [enableWord, Batch.apply_ofFields, List.foldl_cons, List.foldl_nil,
    Field.extract_insert_of_apart]

theorem enable_enableWord (raw : UInt32) : Chip.enable.extract (enableWord raw) = 1 := by
  simp only [enableWord, Batch.apply_ofFields, List.foldl_cons, List.foldl_nil,
    Field.extract_insert_self]
  decide

theorem go_resetWord (raw : UInt32) : Chip.go.extract (resetWord raw) = Chip.go.extract raw := by
  simp (disch := decide) only [resetWord, Batch.apply_ofFields, List.foldl_cons, List.foldl_nil,
    Field.extract_insert_of_apart]

theorem enable_resetWord (raw : UInt32) : Chip.enable.extract (resetWord raw) = 0 := by
  simp (disch := decide) only [resetWord, Batch.apply_ofFields, List.foldl_cons, List.foldl_nil,
    Field.extract_insert_self, Field.extract_insert_of_apart]
  decide

theorem softReset_resetWord (raw : UInt32) : Chip.softReset.extract (resetWord raw) = 1 := by
  simp only [resetWord, Batch.apply_ofFields, List.foldl_cons, List.foldl_nil,
    Field.extract_insert_self]
  decide

theorem go_releaseWord (raw : UInt32) :
    Chip.go.extract (releaseWord raw) = Chip.go.extract raw := by
  simp (disch := decide) only [releaseWord, Batch.apply_ofFields, List.foldl_cons, List.foldl_nil,
    Field.extract_insert_of_apart]

theorem enable_releaseWord (raw : UInt32) :
    Chip.enable.extract (releaseWord raw) = Chip.enable.extract raw := by
  simp (disch := decide) only [releaseWord, Batch.apply_ofFields, List.foldl_cons, List.foldl_nil,
    Field.extract_insert_of_apart]

theorem softReset_releaseWord (raw : UInt32) : Chip.softReset.extract (releaseWord raw) = 0 := by
  simp only [releaseWord, Batch.apply_ofFields, List.foldl_cons, List.foldl_nil,
    Field.extract_insert_self]
  decide

theorem go_goWord (raw : UInt32) : Chip.go.extract (goWord raw) = 1 := by
  simp only [goWord, Batch.apply_ofFields, List.foldl_cons, List.foldl_nil,
    Field.extract_insert_self]
  decide

theorem enable_goWord (raw : UInt32) :
    Chip.enable.extract (goWord raw) = Chip.enable.extract raw := by
  simp (disch := decide) only [goWord, Batch.apply_ofFields, List.foldl_cons, List.foldl_nil,
    Field.extract_insert_of_apart]

/-! ## Pin selection -/

theorem clockPin_pinWord (clock data raw : UInt32) :
    Chip.clockPin.extract (pinWord clock data raw) = Chip.clockPin.clip clock := by
  simp (disch := decide) only [pinWord, Batch.apply_ofFields, List.foldl_cons, List.foldl_nil,
    Field.extract_insert_self, Field.extract_insert_of_apart]

theorem dataPin_pinWord (clock data raw : UInt32) :
    Chip.dataPin.extract (pinWord clock data raw) = Chip.dataPin.clip data := by
  simp only [pinWord, Batch.apply_ofFields, List.foldl_cons, List.foldl_nil,
    Field.extract_insert_self]

/-! ## Transactions -/

theorem readWrite_setupWord (request : Request) (raw : UInt32) :
    (Chip.readWrite.extract (setupWord request raw) == 1) = request.action.isRead := by
  have hword : Chip.readWrite.extract (setupWord request raw) =
      Chip.readWrite.clip (if request.action.isRead then 1 else 0) := by
    simp (disch := decide) only [setupWord, Batch.apply_ofFields, List.foldl_cons, List.foldl_nil,
      Field.extract_insert_self, Field.extract_insert_of_apart]
  rw [hword]
  cases request.action.isRead <;> decide

theorem count_setupWord_mod (request : Request) (raw : UInt32) :
    (Chip.count.extract (setupWord request raw)).toNat = request.length % 16 := by
  have hword : Chip.count.extract (setupWord request raw) =
      Chip.count.clip (UInt32.ofNat request.length) := by
    simp only [setupWord, Batch.apply_ofFields, List.foldl_cons, List.foldl_nil,
      Field.extract_insert_self]
  rw [hword, clip_count, toNat_four_bits_mod]

theorem count_setupWord {request : Request} (h : request.length ≤ Bus.maxTransactionLength)
    (raw : UInt32) : (Chip.count.extract (setupWord request raw)).toNat = request.length := by
  have hlength : request.length ≤ 15 := h
  rw [count_setupWord_mod, Nat.mod_eq_of_lt (by omega)]

/-- Every transaction has a start and a stop, stops where it is not acknowledged, and acknowledges
nothing that it reads. -/
theorem framing_setupWord (request : Request) (raw : UInt32) :
    Chip.start.extract (setupWord request raw) = 1 ∧
      Chip.stop.extract (setupWord request raw) = 1 ∧
      Chip.stopOnNack.extract (setupWord request raw) = 1 ∧
      Chip.ackOnRead.extract (setupWord request raw) = 0 := by
  simp (disch := decide) only [setupWord, Batch.apply_ofFields, List.foldl_cons, List.foldl_nil,
    Field.extract_insert_self, Field.extract_insert_of_apart]
  decide

theorem index_addressWord (request : Request) :
    Chip.index.extract (addressWord request) = 0 := by
  simp (disch := decide) only [addressWord, Batch.apply_ofFields, List.foldl_cons, List.foldl_nil,
    Field.extract_insert_self, Field.extract_insert_of_apart]
  decide

theorem indexWrite_addressWord (request : Request) :
    Chip.indexWrite.extract (addressWord request) = 1 := by
  simp only [addressWord, Batch.apply_ofFields, List.foldl_cons, List.foldl_nil,
    Field.extract_insert_self]
  decide

theorem data_addressWord (request : Request) :
    (Chip.data.extract (addressWord request)).toUInt8 = request.addressByte := by
  simp (disch := decide) only [addressWord, Batch.apply_ofFields, List.foldl_cons, List.foldl_nil,
    Field.extract_insert_self, Field.extract_insert_of_apart]
  rw [clip_data, toUInt8_eight_bits]

theorem index_slotWord (slot : UInt32) (byte : UInt8) :
    Chip.index.extract (slotWord slot byte) = 0xF &&& slot := by
  simp (disch := decide) only [slotWord, Batch.apply_ofFields, List.foldl_cons, List.foldl_nil,
    Field.extract_insert_self, Field.extract_insert_of_apart]
  rw [clip_index]

theorem index_slotWord_mod (slot : Nat) (byte : UInt8) :
    (Chip.index.extract (slotWord (UInt32.ofNat slot) byte)).toNat = slot % 16 := by
  rw [index_slotWord, toNat_four_bits_mod]

theorem data_slotWord (slot : UInt32) (byte : UInt8) :
    (Chip.data.extract (slotWord slot byte)).toUInt8 = byte := by
  simp only [slotWord, Batch.apply_ofFields, List.foldl_cons, List.foldl_nil,
    Field.extract_insert_self]
  rw [clip_data, toUInt8_eight_bits]

theorem index_replyWord : Chip.index.extract replyWord = 1 := by
  simp (disch := decide) only [replyWord, Batch.apply_ofFields, List.foldl_cons, List.foldl_nil,
    Field.extract_insert_self, Field.extract_insert_of_apart]
  decide

end Engine

end GpuI2c
