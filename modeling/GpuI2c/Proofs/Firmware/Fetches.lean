import GpuI2c.Firmware.Image

/-!
# What fetches find

Every fetch from a span in terms of the bytes it is made of: when it fails and with what error, and
otherwise the numbers and tables it finds (`Span.word_of_lt`, `Span.word_of_le`, `Span.slice_eq`,
`Span.table_eq`). Numbers are read as natural numbers, the lower byte first.

A span that is the beginning of some bytes finds what stands in these bytes (`beginning`), so what
follows a fetch can be said about the bytes alone.
-/

namespace GpuI2c.Firmware

open Layout (byteAt wordAt dwordAt)

/-! ## Numbers -/

/-- The byte at a place; zero past the end. -/
def u8 (bytes : Array UInt8) (place : Nat) : Nat :=
  (bytes.getD place 0).toNat

/-- The number in the two bytes from a place on, the lower one first. -/
def u16 (bytes : Array UInt8) (place : Nat) : Nat :=
  u8 bytes place + 256 * u8 bytes (place + 1)

/-- The number in the four bytes from a place on, the lower ones first. -/
def u32 (bytes : Array UInt8) (place : Nat) : Nat :=
  u16 bytes place + 0x10000 * u16 bytes (place + 2)

theorem toNat_wordOfBytes (low high : UInt8) :
    (wordOfBytes low high).toNat = low.toNat + 256 * high.toNat := by
  have hlow : low.toNat < 2 ^ 8 := low.toNat_lt
  have hhigh : high.toNat < 2 ^ 8 := high.toNat_lt
  have hshift : (high.toUInt16 <<< 8).toNat = 2 ^ 8 * high.toNat := by
    rw [UInt16.toNat_shiftLeft]
    show high.toNat <<< 8 % 2 ^ 16 = 2 ^ 8 * high.toNat
    rw [Nat.shiftLeft_eq]
    omega
  rw [wordOfBytes, UInt16.toNat_or, hshift, Nat.or_comm]
  show 2 ^ 8 * high.toNat ||| low.toNat = low.toNat + 256 * high.toNat
  rw [← Nat.two_pow_add_eq_or_of_lt hlow]
  omega

theorem toNat_dwordOfWords (low high : UInt16) :
    (dwordOfWords low high).toNat = low.toNat + 0x10000 * high.toNat := by
  have hlow : low.toNat < 2 ^ 16 := low.toNat_lt
  have hhigh : high.toNat < 2 ^ 16 := high.toNat_lt
  have hshift : (high.toUInt32 <<< 16).toNat = 2 ^ 16 * high.toNat := by
    rw [UInt32.toNat_shiftLeft]
    show high.toNat <<< 16 % 2 ^ 32 = 2 ^ 16 * high.toNat
    rw [Nat.shiftLeft_eq]
    omega
  rw [dwordOfWords, UInt32.toNat_or, hshift, Nat.or_comm]
  show 2 ^ 16 * high.toNat ||| low.toNat = low.toNat + 0x10000 * high.toNat
  rw [← Nat.two_pow_add_eq_or_of_lt hlow]
  omega

theorem u16_lt (bytes : Array UInt8) (place : Nat) : u16 bytes place < 0x10000 := by
  have hlow : u8 bytes place < 256 := (bytes.getD place 0).toNat_lt
  have hhigh : u8 bytes (place + 1) < 256 := (bytes.getD (place + 1) 0).toNat_lt
  rw [u16]
  omega

/-- A byte inside a slice is the one that far behind its start. -/
theorem byteAt_extract (bytes : Array UInt8) (start : Nat) {length place : Nat}
    (h : place < length) :
    byteAt (bytes.extract start (start + length)) place = bytes.getD (start + place) 0 := by
  rw [byteAt, Array.getD_eq_getD_getElem?, Array.getD_eq_getD_getElem?, Array.getElem?_extract]
  by_cases hinside : start + place < bytes.size
  · rw [if_pos (by omega)]
  · rw [if_neg (by omega), Array.getElem?_eq_none (by omega)]

/-- So is a number. -/
theorem toNat_wordAt_extract (bytes : Array UInt8) (start : Nat) {length place : Nat}
    (h : place + 1 < length) :
    (wordAt (bytes.extract start (start + length)) place).toNat = u16 bytes (start + place) := by
  rw [wordAt, toNat_wordOfBytes, byteAt_extract bytes start (by omega),
    byteAt_extract bytes start h]
  rfl

theorem toNat_dwordAt_extract (bytes : Array UInt8) (start : Nat) {length place : Nat}
    (h : place + 3 < length) :
    (dwordAt (bytes.extract start (start + length)) place).toNat = u32 bytes (start + place) := by
  rw [dwordAt, toNat_dwordOfWords, toNat_wordAt_extract bytes start (by omega),
    toNat_wordAt_extract bytes start (by omega)]
  rfl

/-! ## Fetches -/

theorem advance?_of_lt {offset distance : Nat} (h : offset + distance < offsetLimit) :
    advance? offset distance = some (offset + distance) :=
  if_pos h

/-- Why a table of `size` bytes at `offset` cannot be fetched from an image of `declared` bytes. -/
def fetchError (declared offset size : Nat) : Option FirmwareError :=
  if offset = 0 then some .tableAbsent
  else if offset + size ≥ declared then some (.outOfBounds offset size)
  else none

theorem fetchError_eq_none_iff {declared offset size : Nat} :
    fetchError declared offset size = none ↔ offset ≠ 0 ∧ offset + size < declared := by
  rw [fetchError]
  by_cases hzero : offset = 0
  · simp [hzero]
  · by_cases hinside : offset + size < declared
    · rw [if_neg hzero, if_neg (by omega)]
      exact ⟨fun _ => ⟨hzero, hinside⟩, fun _ => rfl⟩
    · rw [if_neg hzero, if_pos (by omega)]
      exact ⟨fun h => (Option.some_ne_none _ h).elim, fun h => (hinside h.2).elim⟩

namespace Span

variable {span : Span} {offset : Nat}

theorem byte_of_lt (h : offset < span.size) :
    span.byte offset = .ok (span.bytes.getD offset 0) := by
  have hget : span.bytes[offset]? = some (span.bytes.getD offset 0) := by
    rw [Array.getD_eq_getD_getElem?, Array.getElem?_eq_getElem h]
    rfl
  rw [byte, hget]

theorem byte_of_le (h : span.size ≤ offset) :
    span.byte offset = .error (.outOfBounds offset 1) := by
  rw [byte, Array.getElem?_eq_none h]

/-- A number is found where both its bytes are there. -/
theorem word_of_lt (h : offset + 1 < span.size) (hoffset : offset + 1 < offsetLimit) :
    ∃ word, span.word offset = .ok word ∧ word.toNat = u16 span.bytes offset := by
  refine ⟨wordOfBytes (span.bytes.getD offset 0) (span.bytes.getD (offset + 1) 0), ?_, ?_⟩
  · rw [word, byte_of_lt (by omega), advance?_of_lt hoffset]
    show (do let high ← span.byte (offset + 1); pure _) = _
    rw [byte_of_lt h]
    rfl
  · rw [toNat_wordOfBytes]
    rfl

/-- Otherwise the first missing byte is the error. -/
theorem word_of_le (h : span.size ≤ offset + 1) (hoffset : offset + 1 < offsetLimit) :
    span.word offset =
      .error (.outOfBounds (if span.size ≤ offset then offset else offset + 1) 1) := by
  rw [word, advance?_of_lt hoffset]
  by_cases hfirst : span.size ≤ offset
  · rw [if_pos hfirst, byte_of_le hfirst]
    rfl
  · rw [if_neg hfirst, byte_of_lt (by omega)]
    show (do let high ← span.byte (offset + 1); pure _) = _
    rw [byte_of_le h]
    rfl

theorem slice_eq {length : Nat} (hoffset : offset + length < offsetLimit) :
    span.slice offset length =
      if offset + length < span.size then .ok (span.bytes.extract offset (offset + length))
      else .error (.outOfBounds offset length) := by
  rw [slice, advance?_of_lt hoffset]

/-- A slice that does not end strictly before the end of the span is not found. -/
theorem slice_of_le {length : Nat} (h : span.size ≤ offset + length) :
    span.slice offset length = .error (.outOfBounds offset length) := by
  rw [slice, advance?]
  by_cases hoffset : offset + length < offsetLimit
  · rw [if_pos hoffset]
    exact if_neg (Nat.not_lt.mpr h)
  · rw [if_neg hoffset]

/-- A table is found, or the fetch fails as `fetchError` says. -/
theorem table_eq {α : Type} [Layout α] (hoffset : offset + Layout.size α < offsetLimit) :
    span.table α offset =
      match fetchError span.size offset (Layout.size α) with
      | some error => .error error
      | none => .ok (Layout.decode (span.bytes.extract offset (offset + Layout.size α))) := by
  rw [table, fetchError, slice_eq hoffset]
  by_cases hzero : offset = 0
  · rw [if_pos hzero, if_pos hzero]
  · rw [if_neg hzero, if_neg hzero]
    by_cases hinside : offset + Layout.size α < span.size
    · rw [if_pos hinside, if_neg (by omega)]
      rfl
    · rw [if_neg hinside, if_pos (by omega)]
      rfl

end Span

/-! ## The beginning of some bytes -/

/-- The first `declared` bytes. -/
def beginning (bytes : Array UInt8) (declared : Nat) : Span :=
  ⟨bytes.extract 0 declared⟩

variable {bytes : Array UInt8} {declared offset : Nat}

theorem size_beginning (h : declared ≤ bytes.size) :
    (beginning bytes declared).size = declared := by
  rw [beginning, Span.size, Array.size_extract]
  omega

theorem u8_beginning (h : offset < declared) :
    u8 (beginning bytes declared).bytes offset = u8 bytes offset := by
  have hextract := byteAt_extract bytes 0 h
  rw [Nat.zero_add, Nat.zero_add] at hextract
  exact congrArg UInt8.toNat hextract

theorem u16_beginning (h : offset + 1 < declared) :
    u16 (beginning bytes declared).bytes offset = u16 bytes offset := by
  rw [u16, u8_beginning (Nat.lt_of_succ_lt h), u8_beginning h]
  rfl

theorem extract_beginning {stop : Nat} (h : stop ≤ declared) :
    (beginning bytes declared).bytes.extract offset stop = bytes.extract offset stop := by
  rw [beginning, Array.extract_extract, Nat.zero_add, Nat.zero_add, Nat.min_eq_left h]

/-- A table at the beginning of some bytes is the one in these bytes. -/
theorem table_beginning {α : Type} [Layout α] (hdeclared : declared ≤ bytes.size)
    (hoffset : offset + Layout.size α < offsetLimit) :
    (beginning bytes declared).table α offset =
      match fetchError declared offset (Layout.size α) with
      | some error => .error error
      | none => .ok (Layout.decode (bytes.extract offset (offset + Layout.size α))) := by
  rw [Span.table_eq hoffset, size_beginning hdeclared]
  cases hfetch : fetchError declared offset (Layout.size α) with
  | some error => rfl
  | none =>
    obtain ⟨-, hinside⟩ := fetchError_eq_none_iff.mp hfetch
    rw [extract_beginning (Nat.le_of_lt hinside)]

end GpuI2c.Firmware
