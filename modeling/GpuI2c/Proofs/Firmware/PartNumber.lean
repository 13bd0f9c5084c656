import Mathlib.Data.List.TakeWhile
import GpuI2c.Proofs.Firmware.Accepted
import GpuI2c.Proofs.Text.Utf8

/-!
# Part numbers

The part number of an image is the longest text in the bytes for it: nineteen bytes, up to the first
zero byte. They are looked for at the place that the image gives, or else at a fixed one, and must
end strictly inside the declared size. As no text in nineteen bytes is too long to be kept, no
character of it is left out (`name_of_ofBytes`).
-/

namespace GpuI2c.Firmware

open Text (IsLongestText bytesOf encoded fitting leadingText)

/-- Where the part number is: the number in the two bytes at 0x6E, or else 0x80 if it is zero or not
among the declared bytes. -/
def partNumberPlace (bytes : Array UInt8) : Nat :=
  if 0x6F < declaredSize bytes ∧ u16 bytes 0x6E ≠ 0 then u16 bytes 0x6E else 0x80

/-- The bytes of the part number: nineteen of them, up to the first zero byte. -/
def partNumberBytes (bytes : Array UInt8) : List UInt8 :=
  (bytes.extract (partNumberPlace bytes) (partNumberPlace bytes + 19)).toList.takeWhile (· ≠ 0)

variable {bytes : Array UInt8}

theorem length_partNumberBytes (bytes : Array UInt8) : (partNumberBytes bytes).length ≤ 19 := by
  have hwindow : (bytes.extract (partNumberPlace bytes) (partNumberPlace bytes + 19)).toList.length
      ≤ 19 := by
    rw [Array.length_toList, Array.size_extract]
    omega
  exact Nat.le_trans (List.takeWhile_sublist _).length_le hwindow

theorem partNumberPlace_add_lt_offsetLimit (bytes : Array UInt8) :
    partNumberPlace bytes + 19 < offsetLimit := by
  unfold partNumberPlace
  split
  · exact u16_add_lt_offsetLimit bytes _ (by decide)
  · decide

/-- The part number of the declared part of some bytes is looked for where they say. -/
theorem partNumber_eq_slice (h : declaredSize bytes ≤ bytes.size) :
    (beginning bytes (declaredSize bytes)).partNumber =
      match (beginning bytes (declaredSize bytes)).slice (partNumberPlace bytes) 19 with
      | .error _ => ""
      | .ok found =>
        String.ofList (fitting 19 (leadingText (found.toList.takeWhile (· ≠ 0)))) := by
  have hsize := size_beginning h
  -- The number itself may lie behind the declared bytes.
  by_cases hread : 0x6F < declaredSize bytes
  · obtain ⟨word, hword, hnumber⟩ : ∃ word,
        (beginning bytes (declaredSize bytes)).word partNumberPointer = .ok word ∧ _ :=
      Span.word_of_lt (by rwa [hsize]) (by decide)
    have hnumber : word.toNat = u16 bytes 0x6E := hnumber.trans (u16_beginning hread)
    have hzero : word = 0 ↔ u16 bytes 0x6E = 0 := by
      rw [← UInt16.toNat_inj, hnumber]
      rfl
    have hplace : (if word = 0 then defaultPartNumberOffset else word.toNat) =
        partNumberPlace bytes := by
      rw [partNumberPlace, hnumber]
      by_cases hnone : u16 bytes 0x6E = 0
      · rw [if_pos (hzero.mpr hnone), if_neg fun hgiven => hgiven.2 hnone]
        rfl
      · rw [if_neg (mt hzero.mp hnone), if_pos ⟨hread, hnone⟩]
    rw [Span.partNumber, hword]
    dsimp only
    rw [hplace]
    rfl
  · have hword : (beginning bytes (declaredSize bytes)).word partNumberPointer = .error _ :=
      Span.word_of_le (by rw [hsize]; exact Nat.le_of_not_lt hread) (by decide)
    have hplace : partNumberPlace bytes = defaultPartNumberOffset :=
      if_neg fun hgiven => hread hgiven.1
    rw [Span.partNumber, hword, hplace]
    rfl

theorem partNumber_beginning (h : declaredSize bytes ≤ bytes.size) :
    (beginning bytes (declaredSize bytes)).partNumber =
      if partNumberPlace bytes + 19 < declaredSize bytes then
        String.ofList (fitting 19 (leadingText (partNumberBytes bytes)))
      else "" := by
  rw [partNumber_eq_slice h, Span.slice_eq (partNumberPlace_add_lt_offsetLimit bytes),
    size_beginning h]
  by_cases hinside : partNumberPlace bytes + 19 < declaredSize bytes
  · rw [if_pos hinside, if_pos hinside, extract_beginning (Nat.le_of_lt hinside)]
    rfl
  · rw [if_neg hinside, if_neg hinside]

/-- No text in the bytes of a part number is too long to be kept. -/
theorem fitting_partNumberBytes (bytes : Array UInt8) :
    fitting 19 (leadingText (partNumberBytes bytes)) = leadingText (partNumberBytes bytes) := by
  have hbeginning := (Text.isPrefix_encoded_leadingText (partNumberBytes bytes)).length_le
  exact Text.fitting_of_le (Nat.le_trans hbeginning (length_partNumberBytes bytes))

theorem zero_notMem_partNumberBytes (bytes : Array UInt8) : 0 ∉ partNumberBytes bytes := by
  intro hmem
  have hkept := List.mem_takeWhile_imp hmem
  simp at hkept

/-- **The part number is the longest text in the bytes for it.** If these end strictly inside the
declared size, the name of an image is the longest text that they begin with, and it is kept as a
whole; otherwise the name is empty. In any case it has no zero byte and at most nineteen bytes. -/
theorem name_of_ofBytes {image : Image} (h : Image.ofBytes bytes = .ok image) :
    (partNumberPlace bytes + 19 < declaredSize bytes →
      IsLongestText image.name (partNumberBytes bytes) ∧
      fitting 19 (leadingText (partNumberBytes bytes)) = leadingText (partNumberBytes bytes)) ∧
    (declaredSize bytes ≤ partNumberPlace bytes + 19 → image.name = "") ∧
    0 ∉ bytesOf image.name ∧ (bytesOf image.name).length ≤ 19 := by
  obtain ⟨-, hfits, rfl⟩ := image_ofBytes_eq_ok_iff.mp h
  have hname := partNumber_beginning hfits
  rw [fitting_partNumberBytes] at hname
  by_cases hinside : partNumberPlace bytes + 19 < declaredSize bytes
  · rw [if_pos hinside] at hname
    have hlongest : IsLongestText (reading bytes).image.name (partNumberBytes bytes) := by
      show IsLongestText (beginning bytes (declaredSize bytes)).partNumber _
      rw [hname]
      exact Text.isLongestText_leadingText _
    have hbeginning := hlongest.1
    refine ⟨fun _ => ⟨hlongest, fitting_partNumberBytes bytes⟩, fun hpast => ?_, fun hzero => ?_,
      Nat.le_trans hbeginning.length_le (length_partNumberBytes bytes)⟩
    · omega
    · exact zero_notMem_partNumberBytes bytes (hbeginning.subset hzero)
  · rw [if_neg hinside] at hname
    have hempty : bytesOf (reading bytes).image.name = [] := by
      show bytesOf (beginning bytes (declaredSize bytes)).partNumber = []
      rw [hname]
      rfl
    refine ⟨fun hinside' => absurd hinside' hinside, fun _ => hname, ?_, ?_⟩
    · rw [hempty]
      exact List.not_mem_nil
    · rw [hempty]
      exact Nat.zero_le 19

/-- Mapped bytes whose part number breaks off inside a character: two letters, the two bytes of
`é`, and the first two bytes of a longer character. -/
def brokenName : Array UInt8 :=
  patched 512
    [(0, [0x55, 0xAA, 1]), (0x30, asciiBytes " 761295520"), (0x48, [0x80, 0]), (0x6E, [0x90, 0]),
     (0x84, asciiBytes "ATOM"), (0x90, [0x56, 0x37, 0xC3, 0xA9, 0xE2, 0x82])]

/-- The name of an image whose part number breaks off inside a character. -/
theorem name_of_ofBytes_broken :
    ∃ image, Image.ofBytes brokenName = .ok image ∧ image.name = "V7é" := by
  have hsigned : BearsSignatures brokenName := by decide +kernel
  have hfits : declaredSize brokenName ≤ brokenName.size := by decide +kernel
  have hinside : partNumberPlace brokenName + 19 < declaredSize brokenName := by decide +kernel
  have himage : Image.ofBytes brokenName = .ok (reading brokenName).image :=
    image_ofBytes_eq_ok_iff.mpr ⟨hsigned, hfits, rfl⟩
  obtain ⟨hlongest, -⟩ := (name_of_ofBytes himage).1 hinside
  have hbytes : partNumberBytes brokenName = encoded ['V', '7', 'é'] ++ [0xE2, 0x82] := by
    decide +kernel
  have hnone : ([0xE2, 0x82] : List UInt8).toByteArray.utf8DecodeChar? 0 = none := by
    decide +kernel
  have hshown : leadingText (partNumberBytes brokenName) = ['V', '7', 'é'] := by
    rw [hbytes, Text.leadingText_append, leadingText, if_neg (by decide), hnone]
    rfl
  refine ⟨_, himage, Text.IsLongestText.unique hlongest ?_⟩
  have hleading := Text.isLongestText_leadingText (partNumberBytes brokenName)
  rwa [hshown] at hleading

end GpuI2c.Firmware
