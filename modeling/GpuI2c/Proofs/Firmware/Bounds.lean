import Mathlib.Data.Nat.Digits.Defs
import Mathlib.Order.Bounds.Defs
import GpuI2c.Proofs.Firmware.Accepted

/-!
# Bounds of fetches

Offsets are 64-bit numbers, and an image is far smaller than their range. So an offset behind bytes
that are there always exists, and a sum of offset and length that does not exist lies past the end
like any other that is too large: every fetch goes by the sums of natural numbers, and none wraps
around to the start of the image.

A fetch is exact (`Exact`) if it finds what it should where it should, and has one error for
everywhere else. **All fetches from an image are exact** (`fetches_exact`). Bytes and integers may
reach up to the last byte of the image, slices and tables end strictly before its end.
-/

namespace GpuI2c.Firmware

/-! ## Exact fetches -/

variable {α : Type} {fetch : Except FirmwareError α} {inside : Prop} {Found : α → Prop}
  {failure : FirmwareError}

/-- A fetch that succeeds just if its bytes are inside, finds what it should, and has one error. -/
structure Exact (fetch : Except FirmwareError α) (inside : Prop) (Found : α → Prop)
    (failure : FirmwareError) : Prop where
  succeeds_iff : (∃ value, fetch = .ok value) ↔ inside
  found : ∀ value, fetch = .ok value → Found value
  fails : ∀ error, fetch = .error error → error = failure

namespace Exact

theorem of_ok {value : α} (hfetch : fetch = .ok value) (hinside : inside) (hfound : Found value) :
    Exact fetch inside Found failure := by
  subst hfetch
  refine ⟨⟨fun _ => hinside, fun _ => ⟨value, rfl⟩⟩, fun other hother => ?_, fun error herror => ?_⟩
  · rwa [← Except.ok.inj hother]
  · cases herror

theorem of_error (hfetch : fetch = .error failure) (houtside : ¬ inside) :
    Exact fetch inside Found failure := by
  subst hfetch
  refine ⟨⟨fun ⟨value, hvalue⟩ => ?_, fun hinside => absurd hinside houtside⟩,
    fun value hvalue => ?_, fun error herror => (Except.error.inj herror).symm⟩
  · cases hvalue
  · cases hvalue

theorem inside_of_ok (h : Exact fetch inside Found failure) {value : α}
    (hfetch : fetch = .ok value) : inside :=
  h.succeeds_iff.mp ⟨value, hfetch⟩

theorem exists_ok (h : Exact fetch inside Found failure) (hinside : inside) :
    ∃ value, fetch = .ok value ∧ Found value := by
  obtain ⟨value, hvalue⟩ := h.succeeds_iff.mpr hinside
  exact ⟨value, hvalue, h.found value hvalue⟩

theorem eq_error (h : Exact fetch inside Found failure) (houtside : ¬ inside) :
    fetch = .error failure := by
  cases hfetch : fetch with
  | ok value => exact absurd (h.inside_of_ok hfetch) houtside
  | error error => rw [h.fails error hfetch]

end Exact

/-! ## Little-endian numbers -/

/-- The number in some bytes, the lowest one first. -/
def littleEndian (bytes : Array UInt8) : Nat :=
  Nat.ofDigits 256 (bytes.toList.map UInt8.toNat)

theorem littleEndian_extract_self (bytes : Array UInt8) (place : Nat) :
    littleEndian (bytes.extract place place) = 0 := by
  rw [littleEndian, Array.extract_eq_empty_of_le (Nat.min_le_left _ _)]
  rfl

/-- The first byte is the lowest one. -/
theorem littleEndian_extract {bytes : Array UInt8} {start stop : Nat} (hstart : start < bytes.size)
    (hstop : start < stop) :
    littleEndian (bytes.extract start stop) =
      u8 bytes start + 256 * littleEndian (bytes.extract (start + 1) stop) := by
  have hfirst : (bytes.extract start stop).toList =
      bytes[start] :: (bytes.extract (start + 1) stop).toList := by
    have hlength : start < (bytes.toList.take stop).length := by
      rw [List.length_take, Array.length_toList]
      omega
    rw [Array.toList_extract, Array.toList_extract, List.extract_eq_drop_take',
      List.extract_eq_drop_take', List.drop_eq_getElem_cons hlength, List.getElem_take,
      Array.getElem_toList]
  rw [littleEndian, hfirst, List.map_cons, Nat.ofDigits_cons, Array.getElem_eq_getD 0]
  rfl

theorem u16_eq_littleEndian {bytes : Array UInt8} {place : Nat} (h : place + 1 < bytes.size) :
    u16 bytes place = littleEndian (bytes.extract place (place + 2)) := by
  rw [littleEndian_extract (Nat.lt_of_succ_lt h) (by omega), littleEndian_extract h (by omega),
    littleEndian_extract_self]
  rfl

theorem u32_eq_littleEndian {bytes : Array UInt8} {place : Nat} (h : place + 3 < bytes.size) :
    u32 bytes place = littleEndian (bytes.extract place (place + 4)) := by
  have hfirst : place < bytes.size := by omega
  have hsecond : place + 1 < bytes.size := by omega
  have hupper : u16 bytes (place + 2) = littleEndian (bytes.extract (place + 1 + 1) (place + 4)) :=
    u16_eq_littleEndian h
  rw [littleEndian_extract hfirst (by omega), littleEndian_extract hsecond (by omega), ← hupper,
    u32, u16]
  omega

/-! ## Integers of a span -/

namespace Span

variable {span : Span} {offset : Nat}

/-- A number that is not found is reported by its first missing byte. -/
theorem word_eq_error (hspan : span.size < offsetLimit) (h : span.size ≤ offset + 1) :
    span.word offset = .error (.outOfBounds (max offset span.size) 1) := by
  by_cases hfirst : span.size ≤ offset
  · rw [word, byte_of_le hfirst, Nat.max_eq_left hfirst]
    rfl
  · -- The offset of the missing byte is the size of the span, so it exists.
    have hsize : span.size = offset + 1 := by omega
    rw [word_of_le h (by omega), if_neg hfirst, hsize, Nat.max_eq_right (Nat.le_succ offset)]

theorem dword_of_lt (hspan : span.size < offsetLimit) (h : offset + 3 < span.size) :
    ∃ dword, span.dword offset = .ok dword ∧ dword.toNat = u32 span.bytes offset := by
  obtain ⟨low, hlow, hlower⟩ : ∃ word, span.word offset = .ok word ∧
      word.toNat = u16 span.bytes offset := word_of_lt (by omega) (by omega)
  obtain ⟨high, hhigh, hupper⟩ : ∃ word, span.word (offset + 2) = .ok word ∧
      word.toNat = u16 span.bytes (offset + 2) := word_of_lt h (Nat.lt_trans h hspan)
  refine ⟨dwordOfWords low high, ?_, ?_⟩
  · rw [dword, hlow, advance?_of_lt (by omega)]
    show (do let high ← span.word (offset + 2); pure _) = _
    rw [hhigh]
    rfl
  · rw [toNat_dwordOfWords, hlower, hupper]
    rfl

theorem dword_eq_error (hspan : span.size < offsetLimit) (h : span.size ≤ offset + 3) :
    span.dword offset = .error (.outOfBounds (max offset span.size) 1) := by
  by_cases hlow : span.size ≤ offset + 1
  · rw [dword, word_eq_error hspan hlow]
    rfl
  · -- The lower half is there, so the first missing byte is in the upper one.
    obtain ⟨low, hfound, -⟩ : ∃ word, span.word offset = .ok word ∧ _ :=
      word_of_lt (Nat.lt_of_not_le hlow) (by omega)
    have hmissing : max (offset + 2) span.size = max offset span.size := by omega
    rw [dword, hfound, advance?_of_lt (by omega)]
    show (do let high ← span.word (offset + 2); pure _) = _
    rw [word_eq_error hspan h, hmissing]
    rfl

end Span

/-! ## Fetches from the beginning of some bytes -/

section Beginning

variable {bytes : Array UInt8} {declared : Nat}

theorem getElem?_beginning {offset : Nat} (h : offset < declared) :
    (beginning bytes declared).bytes[offset]? = bytes[offset]? := by
  rw [beginning, Array.getElem?_extract, Nat.zero_add]
  by_cases hinside : offset < bytes.size
  · rw [if_pos (by omega)]
  · rw [if_neg (by omega), Array.getElem?_eq_none (Nat.le_of_not_lt hinside)]

theorem u32_beginning {offset : Nat} (h : offset + 3 < declared) :
    u32 (beginning bytes declared).bytes offset = u32 bytes offset := by
  have hlower : offset + 1 < declared := by omega
  rw [u32, u16_beginning hlower, u16_beginning h]
  rfl

theorem byte_exact (hfits : declared ≤ bytes.size) (offset : Nat) :
    Exact ((beginning bytes declared).byte offset) (offset < declared)
      (fun byte => bytes[offset]? = some byte) (.outOfBounds offset 1) := by
  have hsize := size_beginning hfits
  by_cases hinside : offset < declared
  · have hget : bytes[offset]? = some _ := Array.getElem?_eq_getElem (by omega)
    exact .of_ok (by rw [Span.byte, getElem?_beginning hinside, hget]) hinside hget
  · exact .of_error (Span.byte_of_le (by omega)) hinside

theorem word_exact (hfits : declared ≤ bytes.size) (hlimit : declared < offsetLimit)
    (offset : Nat) :
    Exact ((beginning bytes declared).word offset) (offset + 1 < declared)
      (fun word => word.toNat = littleEndian (bytes.extract offset (offset + 2)))
      (.outOfBounds (max offset declared) 1) := by
  have hsize := size_beginning hfits
  by_cases hinside : offset + 1 < declared
  · obtain ⟨word, hword, hnumber⟩ : ∃ word, (beginning bytes declared).word offset = .ok word ∧ _ :=
      Span.word_of_lt (by omega) (Nat.lt_trans hinside hlimit)
    refine .of_ok hword hinside ?_
    rw [hnumber, u16_beginning hinside, u16_eq_littleEndian (by omega)]
  · refine .of_error ?_ hinside
    rw [Span.word_eq_error (by omega) (by omega), hsize]

theorem dword_exact (hfits : declared ≤ bytes.size) (hlimit : declared < offsetLimit)
    (offset : Nat) :
    Exact ((beginning bytes declared).dword offset) (offset + 3 < declared)
      (fun dword => dword.toNat = littleEndian (bytes.extract offset (offset + 4)))
      (.outOfBounds (max offset declared) 1) := by
  have hsize := size_beginning hfits
  by_cases hinside : offset + 3 < declared
  · obtain ⟨dword, hdword, hnumber⟩ :
        ∃ dword, (beginning bytes declared).dword offset = .ok dword ∧ _ :=
      Span.dword_of_lt (by omega) (by omega)
    refine .of_ok hdword hinside ?_
    rw [hnumber, u32_beginning hinside, u32_eq_littleEndian (by omega)]
  · refine .of_error ?_ hinside
    rw [Span.dword_eq_error (by omega) (by omega), hsize]

theorem slice_exact (hfits : declared ≤ bytes.size) (hlimit : declared < offsetLimit)
    (offset length : Nat) :
    Exact ((beginning bytes declared).slice offset length) (offset + length < declared)
      (fun found => found = bytes.extract offset (offset + length))
      (.outOfBounds offset length) := by
  have hsize := size_beginning hfits
  by_cases hinside : offset + length < declared
  · refine .of_ok ?_ hinside (extract_beginning (Nat.le_of_lt hinside))
    rw [Span.slice_eq (Nat.lt_trans hinside hlimit), if_pos (by omega)]
  · exact .of_error (Span.slice_of_le (by omega)) hinside

theorem table_exact (hfits : declared ≤ bytes.size) (hlimit : declared < offsetLimit) (α : Type)
    [Layout α] (offset : Nat) :
    Exact ((beginning bytes declared).table α offset)
      (offset ≠ 0 ∧ offset + Layout.size α < declared)
      (fun table => table = Layout.decode (bytes.extract offset (offset + Layout.size α)))
      (if offset = 0 then .tableAbsent else .outOfBounds offset (Layout.size α)) := by
  by_cases hzero : offset = 0
  · rw [if_pos hzero]
    exact .of_error (by rw [Span.table, if_pos hzero]) fun hinside => hinside.1 hzero
  · rw [if_neg hzero]
    have hslice := slice_exact hfits hlimit offset (Layout.size α)
    by_cases hinside : offset + Layout.size α < declared
    · obtain ⟨found, hfound, rfl⟩ := hslice.exists_ok hinside
      exact .of_ok (by rw [Span.table, if_neg hzero, hfound]; rfl) ⟨hzero, hinside⟩ rfl
    · refine .of_error ?_ fun hboth => hinside hboth.2
      rw [Span.table, if_neg hzero, hslice.eq_error hinside]
      rfl

end Beginning

/-! ## Fetches from an image -/

/-- **All fetches from an image are exact.** With any offset and length: a byte is found just if its
offset is less than the declared size of the image, an integer just if its last byte is, a slice
just if its end is, and a table just if its end is and its offset is not zero. What is found stands
there in the mapped bytes, integers with the lowest byte first, and so an integer is that of the
slice in its place wherever there is such a slice. A byte, a slice or a table that is not found is
reported as it was asked for, or as absent if it is a table at zero, and an integer by its first
missing byte. The offset of the second half of an integer exists whenever the first half is found. -/
theorem fetches_exact {mapped : Array UInt8} {image : Image}
    (h : Image.ofBytes mapped = .ok image) (offset length : Nat) :
    let declared := declaredSize mapped
    let Missing := IsLeast {place | offset ≤ place ∧ declared ≤ place}
    Exact (image.span.byte offset) (offset < declared) (fun byte => mapped[offset]? = some byte)
      (.outOfBounds offset 1) ∧
    (∃ missing, Missing missing ∧
      Exact (image.span.word offset) (offset + 1 < declared)
        (fun word => word.toNat = littleEndian (mapped.extract offset (offset + 2)))
        (.outOfBounds missing 1) ∧
      Exact (image.span.dword offset) (offset + 3 < declared)
        (fun dword => dword.toNat = littleEndian (mapped.extract offset (offset + 4)))
        (.outOfBounds missing 1)) ∧
    Exact (image.span.slice offset length) (offset + length < declared)
      (fun found => found = mapped.extract offset (offset + length))
      (.outOfBounds offset length) ∧
    (∀ (α : Type) [Layout α],
      Exact (image.span.table α offset) (offset ≠ 0 ∧ offset + Layout.size α < declared)
        (fun table => table = Layout.decode (mapped.extract offset (offset + Layout.size α)))
        (if offset = 0 then .tableAbsent else .outOfBounds offset (Layout.size α))) ∧
    (∀ found, image.span.slice offset 2 = .ok found →
      ∃ word, image.span.word offset = .ok word ∧ word.toNat = littleEndian found) ∧
    (∀ found, image.span.slice offset 4 = .ok found →
      ∃ dword, image.span.dword offset = .ok dword ∧ dword.toNat = littleEndian found) ∧
    (∀ low, image.span.byte offset = .ok low → advance? offset 1 = some (offset + 1)) ∧
    ∀ low, image.span.word offset = .ok low → advance? offset 2 = some (offset + 2) := by
  intro declared Missing
  obtain ⟨hfits, hspan⟩ := span_of_image_ofBytes h
  have hlimit : declared < offsetLimit := declaredSize_lt_offsetLimit mapped
  have hbyte := byte_exact hfits offset
  have hword := word_exact hfits hlimit offset
  have hdword := dword_exact hfits hlimit offset
  have hslice := slice_exact hfits hlimit offset
  have hmissing : Missing (max offset declared) :=
    ⟨⟨Nat.le_max_left _ _, Nat.le_max_right _ _⟩, fun _ hplace => Nat.max_le.mpr hplace⟩
  rw [hspan]
  refine ⟨hbyte, ⟨_, hmissing, hword, hdword⟩, hslice length,
    fun α _ => table_exact hfits hlimit α offset, fun found hfound => ?_, fun found hfound => ?_,
    fun low hlow => ?_, fun low hlow => ?_⟩
  · -- A slice ends a byte earlier than an integer may, so the integer is there as well.
    have hinside : offset + 2 < declared := (hslice 2).inside_of_ok hfound
    rw [(hslice 2).found found hfound]
    exact hword.exists_ok (Nat.lt_of_succ_lt hinside)
  · have hinside : offset + 4 < declared := (hslice 4).inside_of_ok hfound
    rw [(hslice 4).found found hfound]
    exact hdword.exists_ok (Nat.lt_of_succ_lt hinside)
  · exact advance?_of_lt (Nat.lt_of_le_of_lt (hbyte.inside_of_ok hlow) hlimit)
  · exact advance?_of_lt (Nat.lt_of_le_of_lt (hword.inside_of_ok hlow) hlimit)

/-- The last two bytes of an image of 512 bytes: they are found as an integer, but not as a slice,
and the integer of four bytes misses byte 512. A slice whose end would wrap around is not found. -/
theorem fetches_exact_oneConnector :
    ∃ image, Image.ofBytes oneConnector = .ok image ∧
      (∃ word, image.span.word 510 = .ok word ∧ word.toNat = 0) ∧
      image.span.slice 510 2 = .error (.outOfBounds 510 2) ∧
      image.span.dword 510 = .error (.outOfBounds 512 1) ∧
      image.span.slice (2 ^ 64 - 1) 2 = .error (.outOfBounds (2 ^ 64 - 1) 2) := by
  have haccepted := whole_oneConnector.accepted
  have himage : Image.ofBytes oneConnector = .ok (reading oneConnector).image :=
    image_ofBytes_eq_ok_iff.mpr ⟨haccepted.signed, haccepted.fits, rfl⟩
  have hdeclared : declaredSize oneConnector = 512 := by decide +kernel
  have hzero : littleEndian (oneConnector.extract 510 512) = 0 := by decide +kernel
  have hfirst : IsLeast {place | 510 ≤ place ∧ declaredSize oneConnector ≤ place} 512 := by
    rw [hdeclared]
    exact ⟨⟨by decide, le_rfl⟩, fun _ hplace => hplace.2⟩
  obtain ⟨-, ⟨missing, hmissing, hword, hdword⟩, hslice, -⟩ := fetches_exact himage 510 2
  obtain ⟨-, -, hwrapped, -⟩ := fetches_exact himage (2 ^ 64 - 1) 2
  obtain rfl := hmissing.unique hfirst
  rw [hdeclared] at hword hdword hslice hwrapped
  obtain ⟨word, hfound, hnumber⟩ := hword.exists_ok (by decide)
  exact ⟨_, himage, ⟨word, hfound, hnumber.trans hzero⟩, hslice.eq_error (by decide),
    hdword.eq_error (by decide), hwrapped.eq_error (by decide)⟩

end GpuI2c.Firmware
