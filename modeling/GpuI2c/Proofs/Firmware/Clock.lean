import Mathlib.Tactic.SplitIfs
import GpuI2c.Firmware.Clock
import GpuI2c.Proofs.Firmware.Accepted

/-!
# The clock of an image

Where the bytes of an image that parses keep its reference clock, and what may stand in the way of
finding it. The firmware info table names the place: revisions 1 and 2 hold the clock themselves,
revision 3 leaves it to the display controller info. `crystalFrequency_eq` says that this is what
`Context.crystalFrequency` finds.
-/

namespace GpuI2c.Firmware

variable {bytes : Array UInt8}

/-! ## What the bytes say -/

/-- Where the firmware info is. -/
def infoPlace (bytes : Array UInt8) : Nat :=
  u16 bytes (masterPlace bytes + 12)

/-- Where the display controller info is, in images that lead to display paths. -/
def dcePlace (bytes : Array UInt8) : Nat :=
  u16 bytes (masterPlace bytes + 58)

/-- The revision of the firmware info. -/
def infoRevision (bytes : Array UInt8) : Revision :=
  revisionAt bytes (infoPlace bytes)

/-- The size of a firmware info table of this revision, if it holds the clock itself. -/
def Revision.infoSize? (revision : Revision) : Option Nat :=
  if revision.major = 1 ∧ 1 ≤ revision.minor ∧ revision.minor ≤ 4 then some 89
  else if revision.major = 2 ∧ revision.minor = 1 then some 92
  else if revision.major = 2 ∧ revision.minor = 2 then some 108
  else none

/-- Whether a firmware info table of this revision leaves the clock to the display controller. -/
def Revision.DefersClock (revision : Revision) : Prop :=
  revision.major = 3 ∧ 1 ≤ revision.minor ∧ revision.minor ≤ 3

instance (revision : Revision) : Decidable revision.DefersClock :=
  inferInstanceAs (Decidable (_ ∧ _))

/-- The clock, in units of 10 kHz: 82 bytes into the firmware info, or 12 bytes into the display
controller info. -/
def clock (bytes : Array UInt8) : Nat :=
  u16 bytes (if (infoRevision bytes).DefersClock then dcePlace bytes + 12
    else infoPlace bytes + 82)

/-- Why the table with the clock is not found, given the revision of the firmware info. -/
def clockTableError (bytes : Array UInt8) : Option FirmwareError :=
  match (infoRevision bytes).infoSize? with
  | some size => fetchError (declaredSize bytes) (infoPlace bytes) size
  | none =>
    if (infoRevision bytes).DefersClock then
      if IsDisplayImage bytes then fetchError (declaredSize bytes) (dcePlace bytes) 56
      else some .unsupported
    else some (.unsupportedVersion (infoRevision bytes))

/-- Why the clock is not found, if it is not. -/
def clockError (bytes : Array UInt8) : Option FirmwareError :=
  (fetchError (declaredSize bytes) (infoPlace bytes) 4).or (clockTableError bytes)

/-! ## What is found -/

theorem infoPlace_eq : (reading bytes).schema.firmwareInfo.toNat = infoPlace bytes := by
  have hplace : (Layout.wordAt (bytes.extract (masterPlace bytes) (masterPlace bytes + 74))
      12).toNat = infoPlace bytes :=
    toNat_wordAt_extract bytes _ (by decide)
  show (schemaOf bytes).firmwareInfo.toNat = infoPlace bytes
  rw [schemaOf]
  by_cases hdisplay : IsDisplayImage bytes
  · rw [if_pos hdisplay]
    exact hplace
  · rw [if_neg hdisplay]
    exact hplace

/-- A number in a table of an image: the table is not found, or the number stands at its place. -/
theorem map_table_eq (hfits : declaredSize bytes ≤ bytes.size) {α : Type} [Layout α]
    {offset size value : Nat} (hsize : Layout.size α = size) (hoffset : offset + size < offsetLimit)
    (field : α → UInt16)
    (hfield : (field (Layout.decode (bytes.extract offset (offset + size)))).toNat = value) :
    ((reading bytes).image.span.table α offset >>= fun table => pure (field table)).map
        UInt16.toNat =
      match fetchError (declaredSize bytes) offset size with
      | some error => .error error
      | none => .ok value := by
  cases hfetch : fetchError (declaredSize bytes) offset size with
  | some error =>
    rw [image_table_of_some hfits α hoffset hfetch hsize]
    rfl
  | none =>
    rw [image_table_of_none hfits α hoffset hfetch hsize]
    exact congrArg Except.ok hfield

/-- The two places for the clock exclude each other. -/
theorem not_defersClock_of_infoSize? {revision : Revision} {size : Nat}
    (h : revision.infoSize? = some size) : ¬ revision.DefersClock := by
  rintro ⟨hmajor, -, -⟩
  simp [Revision.infoSize?, hmajor] at h

/-- From revision 3 on, the schema decides whether there is a display controller info. -/
theorem referenceClock_of_defersClock (hfits : declaredSize bytes ≤ bytes.size)
    (hdefers : (infoRevision bytes).DefersClock) :
    ((reading bytes).referenceClock (infoPlace bytes) (infoRevision bytes)).map UInt16.toNat =
      if IsDisplayImage bytes then
        match fetchError (declaredSize bytes) (dcePlace bytes) 56 with
        | some error => .error error
        | none => .ok (u16 bytes (dcePlace bytes + 12))
      else .error .unsupported := by
  have hthree : (infoRevision bytes).major = 3 := hdefers.1
  have hlower (major : UInt8) (h : major ≠ 3) (P : Prop) :
      ¬ ((infoRevision bytes).major = major ∧ P) :=
    fun hboth => h (hboth.1.symm.trans hthree)
  rw [Context.referenceClock, if_neg (hlower 1 (by decide) _), if_neg (hlower 2 (by decide) _),
    if_neg (hlower 2 (by decide) _)]
  have hcond : (infoRevision bytes).major = 3 ∧ 1 ≤ (infoRevision bytes).minor ∧
      (infoRevision bytes).minor ≤ 3 := hdefers
  rw [if_pos hcond]
  by_cases hdisplay : IsDisplayImage bytes
  · have hschema : (reading bytes).schema = .displayPaths
        (Layout.decode (bytes.extract (masterPlace bytes) (masterPlace bytes + 74)))
        (Layout.decode (bytes.extract (objectPlace bytes) (objectPlace bytes + 8))) :=
      if_pos hdisplay
    have hplace : (Layout.decode (bytes.extract (masterPlace bytes) (masterPlace bytes + 74)) :
        DisplayMasterList).dceInfo.toNat = dcePlace bytes :=
      toNat_wordAt_extract bytes _ (by decide)
    rw [if_pos hdisplay, hschema]
    dsimp only
    rw [hplace]
    exact map_table_eq hfits rfl (u16_add_lt_offsetLimit bytes _ (by decide))
      DisplayControllerInfo.dceRefclk10khz (toNat_wordAt_extract bytes _ (by decide))
  · obtain ⟨master, objects, hschema⟩ : ∃ master objects,
        (reading bytes).schema = .objectTables master objects := ⟨_, _, if_neg hdisplay⟩
    rw [if_neg hdisplay, hschema]
    rfl

/-- Revisions 1 and 2 hold the clock at the same place; their tables differ in size only. -/
theorem referenceClock_of_infoSize? (hfits : declaredSize bytes ≤ bytes.size) {size : Nat}
    (hsize : (infoRevision bytes).infoSize? = some size) :
    ((reading bytes).referenceClock (infoPlace bytes) (infoRevision bytes)).map UInt16.toNat =
      match fetchError (declaredSize bytes) (infoPlace bytes) size with
      | some error => .error error
      | none => .ok (u16 bytes (infoPlace bytes + 82)) := by
  have hoffset {size : Nat} (hsize : size < 0x10000) : infoPlace bytes + size < offsetLimit :=
    u16_add_lt_offsetLimit bytes _ hsize
  rw [Revision.infoSize?] at hsize
  rw [Context.referenceClock]
  split_ifs at hsize ⊢
  · obtain rfl := Option.some.inj hsize
    exact map_table_eq hfits rfl (hoffset (by decide)) FirmwareInfo1.referenceClock
      (toNat_wordAt_extract bytes _ (by decide))
  · obtain rfl := Option.some.inj hsize
    exact map_table_eq hfits rfl (hoffset (by decide))
      (fun table : FirmwareInfo21 => table.coreReferenceClock)
      (toNat_wordAt_extract bytes _ (by decide))
  · obtain rfl := Option.some.inj hsize
    exact map_table_eq hfits rfl (hoffset (by decide))
      (fun table : FirmwareInfo22 => table.coreReferenceClock)
      (toNat_wordAt_extract bytes _ (by decide))

/-- No other revision is known. -/
theorem referenceClock_of_unknown (hsize : (infoRevision bytes).infoSize? = none)
    (hdefers : ¬ (infoRevision bytes).DefersClock) :
    (reading bytes).referenceClock (infoPlace bytes) (infoRevision bytes) =
      .error (.unsupportedVersion (infoRevision bytes)) := by
  rw [Revision.infoSize?] at hsize
  rw [Revision.DefersClock] at hdefers
  rw [Context.referenceClock]
  split_ifs at hsize ⊢
  rfl

theorem referenceClock_eq (hfits : declaredSize bytes ≤ bytes.size) :
    ((reading bytes).referenceClock (infoPlace bytes) (infoRevision bytes)).map UInt16.toNat =
      match clockTableError bytes with
      | some error => .error error
      | none => .ok (clock bytes) := by
  rw [clockTableError, clock]
  cases hsize : (infoRevision bytes).infoSize? with
  | some size =>
    have hown := not_defersClock_of_infoSize? hsize
    rw [referenceClock_of_infoSize? hfits hsize, if_neg hown, if_neg hown]
  | none =>
    by_cases hdefers : (infoRevision bytes).DefersClock
    · rw [referenceClock_of_defersClock hfits hdefers, if_pos hdefers]
      dsimp only
      rw [if_pos hdefers]
      by_cases hdisplay : IsDisplayImage bytes
      · rw [if_pos hdisplay, if_pos hdisplay]
      · rw [if_neg hdisplay, if_neg hdisplay]
    · rw [referenceClock_of_unknown hsize hdefers, if_neg hdefers]
      rfl

/-- **The clock is found where the bytes say it is**, in kHz. -/
theorem crystalFrequency_eq (hfits : declaredSize bytes ≤ bytes.size) :
    (reading bytes).crystalFrequency =
      match clockError bytes with
      | some error => .error error
      | none => .ok (10 * clock bytes) := by
  have hoffset : infoPlace bytes + 4 < offsetLimit := u16_add_lt_offsetLimit bytes _ (by decide)
  have hrevision : (Layout.decode (bytes.extract (infoPlace bytes) (infoPlace bytes + 4)) :
      TableHeader).revision = infoRevision bytes :=
    revision_extract bytes _ (by decide)
  rw [Context.crystalFrequency, infoPlace_eq, clockError]
  cases hheader : fetchError (declaredSize bytes) (infoPlace bytes) 4 with
  | some error =>
    rw [image_table_of_some hfits TableHeader hoffset hheader rfl]
    rfl
  | none =>
    have hscaled (found : Except FirmwareError UInt16) :
        (found >>= fun value => pure (value.toNat * 10)) =
          (found.map UInt16.toNat).map (10 * ·) := by
      cases found with
      | error error => rfl
      | ok value => exact congrArg Except.ok (Nat.mul_comm _ _)
    have htable := referenceClock_eq hfits
    rw [image_table_of_none hfits TableHeader hoffset hheader rfl]
    show ((reading bytes).referenceClock (infoPlace bytes)
      (Layout.decode _ : TableHeader).revision >>= fun value => pure (value.toNat * 10)) = _
    rw [hrevision, Option.none_or, hscaled, htable]
    cases clockTableError bytes <;> rfl

end GpuI2c.Firmware
