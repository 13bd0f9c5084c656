import Mathlib.Data.Nat.Bitwise
import GpuI2c.Device.Memory

/-!
# Registers in mapped memory

A register counts as mapped if its first byte lies in the window, but memory holds a register only
if all four of its bytes do. The two differ for one register at most: the last one, in a window
whose size is not a whole number of registers. It is accessed in place and is not there, so that
writes to it are lost and it reads as zero. Every other register is reached, in place or through the
index and data registers (`device_reaches_whole_registers`).

What an access does is said byte by byte: a write puts the bytes of its value at its offset, the
least significant one first (`bytes_write`), and a read puts four bytes together (`toNat_read`), so
it gives the value that was written (`read_write`).
-/

namespace GpuI2c.Memory

/-! ## Bytes of a value -/

/-- The byte of a value at a place, counted from the least significant one. -/
def byteOf (value : UInt32) (place : Nat) : UInt8 :=
  UInt8.ofNat (value.toNat / 256 ^ place)

theorem toNat_byteOf (value : UInt32) (place : Nat) :
    (byteOf value place).toNat = value.toNat / 256 ^ place % 256 :=
  UInt8.toNat_ofNat'

theorem toUInt8_shiftRight (value : UInt32) {shift : UInt32} {place : Nat} (hplace : place < 4)
    (hshift : shift.toNat = 8 * place) : (value >>> shift).toUInt8 = byteOf value place := by
  have hlow : shift.toNat % 32 = 8 * place := by omega
  have hpower : 2 ^ (8 * place) = 256 ^ place := Nat.pow_mul 2 8 place
  rw [← UInt8.toNat_inj, toNat_byteOf, UInt32.toNat_toUInt8, UInt32.toNat_shiftRight, hlow,
    Nat.shiftRight_eq_div_pow, hpower]

/-- One more byte on top of the ones below its place. -/
theorem toNat_or_shiftLeft (low : UInt32) (byte : UInt8) (shift : UInt32) (place : Nat)
    (hplace : place < 4) (hshift : shift.toNat = 8 * place) (hlow : low.toNat < 256 ^ place) :
    (low ||| byte.toUInt32 <<< shift).toNat = low.toNat + 256 ^ place * byte.toNat := by
  have hcount : shift.toNat % 32 = 8 * place := by omega
  have hpower : 256 ^ place = 2 ^ (8 * place) := (Nat.pow_mul 2 8 place).symm
  have hinside : 2 ^ (8 * place) * byte.toNat < 2 ^ 32 :=
    calc 2 ^ (8 * place) * byte.toNat
        < 2 ^ (8 * place) * 2 ^ 8 := Nat.mul_lt_mul_of_pos_left byte.toNat_lt (Nat.two_pow_pos _)
      _ = 2 ^ (8 * place + 8) := (Nat.pow_add 2 _ 8).symm
      _ ≤ 2 ^ 32 := Nat.pow_le_pow_right (by decide) (by omega)
  have hplaced : (byte.toUInt32 <<< shift).toNat = 2 ^ (8 * place) * byte.toNat := by
    rw [UInt32.toNat_shiftLeft, hcount, UInt8.toNat_toUInt32, Nat.shiftLeft_eq, Nat.mul_comm,
      Nat.mod_eq_of_lt hinside]
  rw [hpower] at hlow ⊢
  rw [UInt32.toNat_or, hplaced, Nat.or_comm, ← Nat.two_pow_add_eq_or_of_lt hlow, Nat.add_comm]

variable {size offset : Nat}

/-! ## One access -/

/-- A read puts four bytes together. -/
theorem toNat_read (h : Holds size offset) (memory : Memory size) (byte : Nat → UInt8)
    (hbyte : ∀ place (hplace : offset + place < size), place < 4 →
      memory.bytes[offset + place] = byte place) :
    (memory.read offset).toNat = (byte 0).toNat + 256 ^ 1 * (byte 1).toNat +
      256 ^ 2 * (byte 2).toNat + 256 ^ 3 * (byte 3).toNat := by
  have h0 := (byte 0).toNat_lt
  have h1 := (byte 1).toNat_lt
  have h2 := (byte 2).toNat_lt
  have hone := toNat_or_shiftLeft (byte 0).toUInt32 (byte 1) 8 1 (by decide) rfl h0
  rw [UInt8.toNat_toUInt32] at hone
  have htwo := toNat_or_shiftLeft _ (byte 2) 16 2 (by decide) rfl (by rw [hone]; omega)
  have hthree := toNat_or_shiftLeft _ (byte 3) 24 3 (by decide) rfl (by rw [htwo, hone]; omega)
  have hfirst : memory.bytes[offset] = byte 0 := hbyte 0 (by omega) (by decide)
  rw [read, dif_pos h, hfirst, hbyte 1 (by omega) (by decide), hbyte 2 (by omega) (by decide),
    hbyte 3 (by omega) (by decide), hthree, htwo, hone]

/-- **A write puts the bytes of its value at its offset** and changes no other. -/
theorem bytes_write (h : Holds size offset) (value : UInt32) (memory : Memory size) {place : Nat}
    (hplace : place < size) : (memory.write offset value).bytes[place] =
      if offset ≤ place ∧ place < offset + 4 then byteOf value (place - offset)
      else memory.bytes[place] := by
  have h0 : (value >>> 0).toUInt8 = byteOf value 0 := toUInt8_shiftRight value (by decide) rfl
  have h1 : (value >>> 8).toUInt8 = byteOf value 1 := toUInt8_shiftRight value (by decide) rfl
  have h2 : (value >>> 16).toUInt8 = byteOf value 2 := toUInt8_shiftRight value (by decide) rfl
  have h3 : (value >>> 24).toUInt8 = byteOf value 3 := toUInt8_shiftRight value (by decide) rfl
  rw [UInt32.shiftRight_zero] at h0
  rw [write, dif_pos h, h0, h1, h2, h3]
  simp only [Vector.getElem_set]
  by_cases hin : offset ≤ place ∧ place < offset + 4
  · obtain ⟨k, rfl⟩ := Nat.exists_eq_add_of_le hin.1
    obtain rfl | rfl | rfl | rfl : k = 0 ∨ k = 1 ∨ k = 2 ∨ k = 3 := by omega
    all_goals simp
  · rw [if_neg hin, if_neg (by omega), if_neg (by omega), if_neg (by omega), if_neg (by omega)]

/-- A read gives the value of a write. -/
theorem read_write (h : Holds size offset) (value : UInt32) (memory : Memory size) :
    (memory.write offset value).read offset = value := by
  have hvalue := value.toNat_lt
  have hbyte : ∀ place (hplace : offset + place < size), place < 4 →
      (memory.write offset value).bytes[offset + place] = byteOf value place := by
    intro place hplace hlow
    rw [bytes_write h value memory hplace, if_pos (by omega), Nat.add_sub_cancel_left]
  rw [← UInt32.toNat_inj, toNat_read h _ (byteOf value) hbyte]
  simp only [toNat_byteOf, Nat.reducePow]
  omega

/-- A read depends on four bytes. -/
theorem read_congr {a b : Memory size} (h : Holds size offset)
    (hbytes : ∀ place (hplace : offset + place < size), place < 4 →
      a.bytes[offset + place] = b.bytes[offset + place]) :
    a.read offset = b.read offset := by
  have hfirst : a.bytes[offset] = b.bytes[offset] := hbytes 0 (by omega) (by decide)
  rw [read, read, dif_pos h, dif_pos h, hfirst, hbytes 1 (by omega) (by decide),
    hbytes 2 (by omega) (by decide), hbytes 3 (by omega) (by decide)]

/-- A write elsewhere leaves a register alone. -/
theorem read_write_of_ne {other : Nat} (h : Holds size offset) (hother : Holds size other)
    (hne : offset ≠ other) (value : UInt32) (memory : Memory size) :
    (memory.write other value).read offset = memory.read offset := by
  refine read_congr h fun place hplace hlow => ?_
  rw [bytes_write hother value memory hplace, if_neg (by omega)]

/-! ## Registers -/

variable {register : UInt32}

theorem offset?_device (register : UInt32) : (device size).offset? register =
    if register.toNat * 4 < size then some (register.toNat * 4) else none := rfl

/-- The registers whose first byte alone does not settle whether they are there. -/
theorem part_iff : (register.toNat * 4 < size ∧ size < register.toNat * 4 + 4) ↔
    size % 4 ≠ 0 ∧ register.toNat = size / 4 := by
  omega

theorem store_of_lt (h : register.toNat * 4 < size) (value : UInt32) (memory : Memory size) :
    (device size).store register value memory =
      (memory.write (register.toNat * 4) value, [.write (register.toNat * 4) value]) := by
  rw [Device.store, offset?_device, if_pos h]
  rfl

theorem load_of_lt (h : register.toNat * 4 < size) (memory : Memory size) :
    (device size).load register memory =
      (memory.read (register.toNat * 4), memory,
        [.read (register.toNat * 4) (memory.read (register.toNat * 4))]) := by
  rw [Device.load, offset?_device, if_pos h]
  rfl

theorem store_of_le (h : size ≤ register.toNat * 4) (value : UInt32) (memory : Memory size) :
    (device size).store register value memory =
      ((memory.write 0 (register * 4)).write 4 value,
        [.write 0 (register * 4), .write 4 value]) := by
  rw [Device.store, offset?_device, if_neg (Nat.not_lt.mpr h)]
  rfl

theorem load_of_le (h : size ≤ register.toNat * 4) (memory : Memory size) :
    (device size).load register memory =
      ((memory.write 0 (register * 4)).read 4, memory.write 0 (register * 4),
        [.write 0 (register * 4), .read 4 ((memory.write 0 (register * 4)).read 4)]) := by
  rw [Device.load, offset?_device, if_neg (Nat.not_lt.mpr h)]
  rfl

/-- **Every register is reached but one that the window holds a part of.** Through a window of at
least eight bytes: a register that lies in it is accessed in place, a write changes its four bytes,
and a read gives the value written. A register behind the window is accessed through the index and
data registers, which get the bytes of its offset and of the value. A register of which the window
holds a part is accessed in place, but a write to it is lost and it reads as zero; this is the last
one, if the size of the window is not a whole number of registers. -/
theorem device_reaches_whole_registers (hsize : 8 ≤ size) (register value : UInt32)
    (memory : Memory size) :
    let place := register.toNat * 4
    let stored := (device size).store register value memory
    let loaded := (device size).load register
    (place + 4 ≤ size →
      stored.2 = [.write place value] ∧
      (∀ i (hi : i < size), stored.1.bytes[i] =
        if place ≤ i ∧ i < place + 4 then byteOf value (i - place) else memory.bytes[i]) ∧
      loaded stored.1 = (value, stored.1, [.read place value])) ∧
    (place < size → size < place + 4 →
      stored = (memory, [.write place value]) ∧ loaded memory = (0, memory, [.read place 0])) ∧
    (size ≤ place →
      stored.2 = [.write 0 (register * 4), .write 4 value] ∧
      (∀ i (hi : i < size), stored.1.bytes[i] =
        if i < 4 then byteOf (register * 4) i
        else if i < 8 then byteOf value (i - 4) else memory.bytes[i]) ∧
      (loaded stored.1).1 = value ∧
      (loaded stored.1).2.2 = [.write 0 (register * 4), .read 4 value]) ∧
    (place < size ∧ size < place + 4 ↔ size % 4 ≠ 0 ∧ register.toNat = size / 4) := by
  intro place stored loaded
  refine ⟨fun hwhole => ?_, fun hmapped hpart => ?_, fun hbehind => ?_, part_iff⟩
  · have hmapped : place < size := by omega
    have hholds : Holds size place := ⟨hwhole, Nat.mul_mod_left _ 4⟩
    have hstored : stored = (memory.write place value, [.write place value]) :=
      store_of_lt hmapped value memory
    rw [hstored]
    refine ⟨rfl, fun i hi => bytes_write hholds value memory hi, ?_⟩
    exact (load_of_lt hmapped _).trans (by rw [read_write hholds])
  · have hmissing : ¬ Holds size place := fun hholds => by omega
    have hwrite : memory.write place value = memory := dif_neg hmissing
    have hread : memory.read place = 0 := dif_neg hmissing
    have hstored : stored = (memory.write place value, [.write place value]) :=
      store_of_lt hmapped value memory
    refine ⟨by rw [hstored, hwrite], ?_⟩
    exact (load_of_lt hmapped memory).trans (by rw [hread])
  · have hindex : Holds size 0 := ⟨by omega, rfl⟩
    have hdata : Holds size 4 := ⟨by omega, rfl⟩
    have hstored : stored = ((memory.write 0 (register * 4)).write 4 value,
        [.write 0 (register * 4), .write 4 value]) := store_of_le hbehind value memory
    -- Selecting the register again leaves the data register as it was written.
    have hagain : (stored.1.write 0 (register * 4)).read 4 = value := by
      rw [hstored, read_write_of_ne hdata hindex (by decide), read_write hdata]
    have hloaded := load_of_le hbehind stored.1
    rw [hagain] at hloaded
    refine ⟨congrArg Prod.snd hstored, fun i hi => ?_, congrArg (·.1) hloaded,
      congrArg (·.2.2) hloaded⟩
    simp only [hstored]
    rw [bytes_write hdata _ _ hi, bytes_write hindex _ _ hi]
    by_cases hlow : i < 4
    · rw [if_neg (by omega), if_pos (by omega), if_pos hlow, Nat.sub_zero]
    · rw [if_neg hlow, if_neg (c := 0 ≤ i ∧ _) (by omega)]
      by_cases hhigh : i < 8
      · rw [if_pos (by omega), if_pos hhigh]
      · rw [if_neg (by omega), if_neg hhigh]

/-- A window of ten bytes holds two registers and a part of the third. -/
theorem device_reaches_whole_registers_ten :
    let memory := zeroed 10
    let stored := fun register => (device 10).store register 0x12345678 memory
    (8 : Nat) ≤ 10 ∧
      ((stored 1).1.bytes[4] = 0x78 ∧ ((device 10).load 1 (stored 1).1).1 = 0x12345678) ∧
      stored 2 = (memory, [.write 8 0x12345678]) ∧
      ((stored 3).2 = [.write 0 12, .write 4 0x12345678] ∧
        ((device 10).load 3 (stored 3).1).1 = 0x12345678) := by
  intro memory stored
  have hsize : (8 : Nat) ≤ 10 := by decide
  obtain ⟨hwhole, -⟩ := device_reaches_whole_registers hsize 1 0x12345678 memory
  obtain ⟨-, hpart, -⟩ := device_reaches_whole_registers hsize 2 0x12345678 memory
  obtain ⟨-, -, hbehind, -⟩ := device_reaches_whole_registers hsize 3 0x12345678 memory
  obtain ⟨-, hbytes, hread⟩ := hwhole (by decide)
  obtain ⟨hlost, -⟩ := hpart (by decide) (by decide)
  obtain ⟨hevents, -, hfound, -⟩ := hbehind (by decide)
  exact ⟨hsize, ⟨hbytes 4 (by decide), congrArg (·.1) hread⟩, hlost, hevents, hfound⟩

/-- A write to the third register of such a window goes to its place, where the memory holds no
register, and is lost. -/
theorem part_register_loses_write :
    let stored := (device 10).store 2 0x12345678 (zeroed 10)
    stored.2 = [.write 8 0x12345678] ∧ ¬ Holds 10 8 ∧ stored.1 = zeroed 10 ∧
      ((device 10).load 2 stored.1).1 = 0 :=
  ⟨rfl, by decide, rfl, rfl⟩

end GpuI2c.Memory
