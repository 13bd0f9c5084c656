import Mathlib.Tactic.SplitIfs
import GpuI2c.Proofs.Firmware.Declared

/-!
# Opening an image again

An image is recognised by the mapped bytes and then cut to its declared size, so the bytes that are
kept need not be those that it was recognised by. They are recognised again just if they are there
at all and the signature in the ROM header is among them, and then they are the same image
(`ofBytes_span`). Every image that parses is of this kind.
-/

namespace GpuI2c.Firmware

variable {bytes : Array UInt8}

/-- The beginning of a beginning of the same size is all of it. -/
theorem beginning_beginning (declared : Nat) :
    beginning (beginning bytes declared).bytes declared = beginning bytes declared := by
  rw [beginning, beginning, Array.extract_extract, Nat.zero_add, Nat.zero_add, Nat.min_self]

/-- The declared part of an image declares the same size, unless it is empty. -/
theorem declaredSize_beginning (h : declaredSize bytes ≠ 0) :
    declaredSize (beginning bytes (declaredSize bytes)).bytes = declaredSize bytes := by
  have hlarge := le_declaredSize h
  rw [declaredSize, u8_beginning (by omega)]
  rfl

/-- The declared part of an image has all signatures if it has the one in the ROM header. -/
theorem bearsSignatures_beginning_iff (hsigned : BearsSignatures bytes)
    (hfits : declaredSize bytes ≤ bytes.size) :
    BearsSignatures (beginning bytes (declaredSize bytes)).bytes ↔
      declaredSize bytes ≠ 0 ∧ romPlace bytes + 8 < declaredSize bytes := by
  have hsize : (beginning bytes (declaredSize bytes)).bytes.size = declaredSize bytes :=
    size_beginning hfits
  constructor
  · rintro ⟨-, -, hpointer, hrom, -⟩
    rw [hsize] at hpointer hrom
    have hplace : romPlace (beginning bytes (declaredSize bytes)).bytes = romPlace bytes :=
      u16_beginning hpointer
    exact ⟨by omega, hplace ▸ hrom⟩
  · rintro ⟨hnonempty, hrom⟩
    exact bearsSignatures_congr (beginning_beginning _).symm (Nat.le_of_eq hsize.symm)
      (le_declaredSize hnonempty) hrom hsigned

/-- **An image opens again if its declared part has the ROM header's signature.** The declared part
of an image that opens has all three signatures just if it is not empty and the one in the ROM
header ends strictly inside it. Then opening the declared part gives the same image, with the same
name, and otherwise it is not recognised. If the mapped bytes parse, so does the declared part, and
to the same tables. -/
theorem ofBytes_span {image : Image} (h : Image.ofBytes bytes = .ok image) :
    (BearsSignatures image.span.bytes ↔
      image.span.size ≠ 0 ∧ romPlace bytes + 8 < image.span.size) ∧
    (BearsSignatures image.span.bytes → Image.ofBytes image.span.bytes = .ok image) ∧
    (¬ BearsSignatures image.span.bytes →
      Image.ofBytes image.span.bytes = .error .notRecognized) ∧
    ∀ firmware, Context.ofBytes bytes = .ok firmware → firmware.image = image ∧
      BearsSignatures image.span.bytes ∧ Context.ofBytes image.span.bytes = .ok firmware := by
  have hsize := size_of_image_ofBytes h
  rw [image_ofBytes_eq] at h
  split_ifs at h with hsigned hlong
  obtain rfl := Except.ok.inj h
  have hfits := Nat.not_lt.mp hlong
  have hiff : BearsSignatures (reading bytes).image.span.bytes ↔
      declaredSize bytes ≠ 0 ∧ romPlace bytes + 8 < declaredSize bytes :=
    bearsSignatures_beginning_iff hsigned hfits
  rw [hsize]
  refine ⟨hiff, fun hagain => ?_, fun hagain => ?_, fun firmware hparse => ?_⟩
  · have hdeclared : declaredSize (reading bytes).image.span.bytes = declaredSize bytes :=
      declaredSize_beginning (hiff.mp hagain).1
    have hspan : beginning (reading bytes).image.span.bytes (declaredSize bytes) =
        (reading bytes).image.span := beginning_beginning _
    have hshort : ¬ declaredSize bytes > (reading bytes).image.span.bytes.size :=
      Nat.not_lt.mpr (Nat.le_of_eq hsize.symm)
    rw [image_ofBytes_eq, if_pos hagain, hdeclared, if_neg hshort]
    show Except.ok (Image.mk _ _) = _
    rw [hdeclared, hspan]
    rfl
  · rw [image_ofBytes_eq, if_neg hagain]
  · obtain ⟨haccepted, rfl⟩ := ofBytes_eq_ok_iff.mp hparse
    have hrom := haccepted.rom_lt
    refine ⟨rfl, hiff.mpr ⟨haccepted.nonempty, by omega⟩, ?_⟩
    refine ofBytes_congr (declaredSize_beginning haccepted.nonempty).symm
      (beginning_beginning _).symm (Nat.le_of_eq hsize.symm) hparse

/-- An image with two more bytes behind its declared part. -/
theorem ofBytes_span_oneConnector :
    let mapped := oneConnector ++ #[0x12, 0x34]
    ∃ image, Image.ofBytes mapped = .ok image ∧ image.span.size = 512 ∧
      BearsSignatures image.span.bytes ∧ Image.ofBytes image.span.bytes = .ok image := by
  intro mapped
  have haccepted : Accepted mapped := by decide +kernel
  have himage : Image.ofBytes mapped = .ok (reading mapped).image := by
    rw [image_ofBytes_eq, if_pos haccepted.signed, if_neg (Nat.not_lt.mpr haccepted.fits)]
  have hdeclared : declaredSize mapped = 512 := by decide +kernel
  obtain ⟨-, hsame, -, hparsed⟩ := ofBytes_span himage
  obtain ⟨-, hsigned, -⟩ := hparsed _ (ofBytes_eq_ok_iff.mpr ⟨haccepted, rfl⟩)
  exact ⟨_, himage, (size_of_image_ofBytes himage).trans hdeclared, hsigned, hsame hsigned⟩

/-- Mapped bytes that declare 512, and keep the signature of the ROM header right behind them. -/
def signatureBehind : Array UInt8 :=
  patched 520 [(0, [0x55, 0xAA, 1]), (0x30, asciiBytes " 761295520"), (0x48, [0xFC, 1]),
    (0x200, asciiBytes "ATOM")]

/-- An image that does not open again: what is left of it lacks a signature. -/
theorem signatureBehind_opens_once :
    ∃ image, Image.ofBytes signatureBehind = .ok image ∧ image.span.size = 512 ∧
      ¬ BearsSignatures image.span.bytes ∧
      Image.ofBytes image.span.bytes = .error .notRecognized := by
  have hsigned : BearsSignatures signatureBehind := by decide +kernel
  have hdeclared : declaredSize signatureBehind = 512 := by decide +kernel
  have hfits : declaredSize signatureBehind ≤ signatureBehind.size := by decide +kernel
  have himage : Image.ofBytes signatureBehind = .ok (reading signatureBehind).image := by
    rw [image_ofBytes_eq, if_pos hsigned, if_neg (Nat.not_lt.mpr hfits)]
  have hlost : ¬ BearsSignatures (reading signatureBehind).image.span.bytes := by
    refine mt (bearsSignatures_beginning_iff hsigned hfits).mp fun h => ?_
    exact absurd h.2 (by decide +kernel)
  refine ⟨_, himage, (size_of_image_ofBytes himage).trans hdeclared, hlost, ?_⟩
  rw [image_ofBytes_eq, if_neg hlost]

end GpuI2c.Firmware
