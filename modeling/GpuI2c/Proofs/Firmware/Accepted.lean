import GpuI2c.Proofs.Firmware.Grammar

/-!
# Images that parse

Bytes are accepted if nothing is wrong with them (`Accepted`), and this is when parsing finds
something: what the bytes say (`ofBytes_eq_ok_iff`). The tables that parsing goes through then lie
inside the declared size.
-/

namespace GpuI2c.Firmware

/-- Bytes of an image with which nothing is wrong. -/
def Accepted (bytes : Array UInt8) : Prop :=
  ∀ failure ∈ failures bytes, failure = none

instance (bytes : Array UInt8) : Decidable (Accepted bytes) :=
  inferInstanceAs (Decidable (∀ failure ∈ failures bytes, failure = none))

variable {bytes : Array UInt8}

namespace Accepted

theorem signed (h : Accepted bytes) : BearsSignatures bytes := by
  have hfirst : (if BearsSignatures bytes then none else some FirmwareError.notRecognized) = none :=
    h _ (by simp [failures])
  simpa using hfirst

theorem fits (h : Accepted bytes) : declaredSize bytes ≤ bytes.size := by
  have hsecond : (if declaredSize bytes > bytes.size then
      some (FirmwareError.sizeMismatch (declaredSize bytes) bytes.size) else none) = none :=
    h _ (by simp [failures])
  simpa using hsecond

theorem nonempty (h : Accepted bytes) : declaredSize bytes ≠ 0 := by
  have hthird : (if declaredSize bytes = 0 then
      some (FirmwareError.outOfBounds 0x48 1) else none) = none :=
    h _ (by simp [failures])
  simpa using hthird

/-- The ROM header lies inside the declared size. -/
theorem rom_lt (h : Accepted bytes) : romPlace bytes + 40 < declaredSize bytes :=
  (fetchError_eq_none_iff.mp (h _ (by simp [failures]))).2

/-- The object info is there, and lies inside the declared size. -/
theorem object_lt (h : Accepted bytes) : objectPlace bytes ≠ 0 ∧
    objectPlace bytes + (if IsDisplayImage bytes then 8 else 16) < declaredSize bytes :=
  fetchError_eq_none_iff.mp (h (fetchError (declaredSize bytes) (objectPlace bytes)
    (if IsDisplayImage bytes then 8 else 16)) (by simp [failures]))

theorem objectPlace_ne_zero (h : Accepted bytes) : objectPlace bytes ≠ 0 :=
  h.object_lt.1

end Accepted

/-- Bytes that parse are a signed image, whose declared size is there and not zero. -/
theorem opened_of_ofBytes {firmware : Context} (h : Context.ofBytes bytes = .ok firmware) :
    BearsSignatures bytes ∧ declaredSize bytes ≤ bytes.size ∧ declaredSize bytes ≠ 0 := by
  rw [Context.ofBytes, image_ofBytes_eq] at h
  by_cases hsigned : BearsSignatures bytes
  · by_cases hfits : declaredSize bytes ≤ bytes.size
    · rw [if_pos hsigned, if_neg (Nat.not_lt.mpr hfits)] at h
      refine ⟨hsigned, hfits, fun hempty => ?_⟩
      -- Without any bytes, the place of the ROM header is missing.
      have hsize : (reading bytes).image.span.size = 0 := by
        rw [← hempty]
        exact size_beginning hfits
      have hword : (reading bytes).image.span.word romHeaderPointer = .error _ :=
        Span.word_of_le (by rw [hsize]; exact Nat.zero_le _) (by decide)
      dsimp only [bind, Except.bind] at h
      rw [hword] at h
      cases h
    · rw [if_pos hsigned, if_pos (Nat.lt_of_not_le hfits)] at h
      cases h
  · rw [if_neg hsigned] at h
    cases h

/-- Parsing a signed image whose declared size is there and not zero. -/
theorem ofBytes_of_opened (hsigned : BearsSignatures bytes)
    (hfits : declaredSize bytes ≤ bytes.size) (hnonempty : declaredSize bytes ≠ 0) :
    Context.ofBytes bytes =
      match (failures bytes).findSome? id with
      | some error => .error error
      | none => .ok (reading bytes) := by
  by_cases hdisplay : IsDisplayImage bytes
  · exact ofBytes_of_display hsigned hfits hnonempty hdisplay
  · exact ofBytes_of_legacy hsigned hfits hnonempty hdisplay

/-- **Bytes parse if nothing is wrong with them**, and then to what they say. -/
theorem ofBytes_eq_ok_iff {firmware : Context} :
    Context.ofBytes bytes = .ok firmware ↔ Accepted bytes ∧ reading bytes = firmware := by
  constructor
  · intro h
    obtain ⟨hsigned, hfits, hnonempty⟩ := opened_of_ofBytes h
    rw [ofBytes_of_opened hsigned hfits hnonempty] at h
    cases hfailures : (failures bytes).findSome? id with
    | some error =>
      rw [hfailures] at h
      cases h
    | none =>
      rw [hfailures] at h
      exact ⟨List.findSome?_eq_none_iff.mp hfailures, Except.ok.inj h⟩
  · rintro ⟨haccepted, rfl⟩
    have hfailures : (failures bytes).findSome? id = none :=
      List.findSome?_eq_none_iff.mpr haccepted
    rw [ofBytes_of_opened haccepted.signed haccepted.fits haccepted.nonempty, hfailures]

/-! ## Images that declare all of their bytes -/

/-- Bytes with which nothing is wrong, and all of which are declared. -/
structure Whole (bytes : Array UInt8) : Prop where
  accepted : Accepted bytes
  declaredSize_eq : declaredSize bytes = bytes.size

namespace Whole

theorem parses (h : Whole bytes) : Context.ofBytes bytes = .ok (reading bytes) :=
  ofBytes_eq_ok_iff.mpr ⟨h.accepted, rfl⟩

theorem beginning_eq (h : Whole bytes) : beginning bytes (declaredSize bytes) = ⟨bytes⟩ := by
  rw [beginning, h.declaredSize_eq, Array.extract_size]

/-- What is found in such an image. -/
theorem reading_eq (h : Whole bytes) :
    reading bytes =
      { image := ⟨⟨bytes⟩, (⟨bytes⟩ : Span).partNumber⟩
        revision := revisionAt bytes (romPlace bytes)
        objectRevision := revisionAt bytes (objectPlace bytes)
        schema := schemaOf bytes } := by
  rw [reading, h.beginning_eq]

end Whole

/-! ## An image that parses -/

/-- Bytes that are zero but for some runs of bytes at their places. -/
def patched (size : Nat) (patches : List (Nat × List UInt8)) : Array UInt8 :=
  ((List.range size).map fun place => (patches.findSome? fun patch =>
    if patch.1 ≤ place then patch.2[place - patch.1]? else none).getD 0).toArray

/-- An image of 512 bytes with some tables, whose ROM header has the given number as both parts of
its revision. The ROM header is at 0x80, the master list at 0xB0, and the object info at 0x100. -/
def imageWith (revision : UInt8) (tables : List (Nat × List UInt8)) : Array UInt8 :=
  patched 512
    ([(0, [0x55, 0xAA, 1]), (0x30, asciiBytes " 761295520"), (0x48, [0x80, 0]),
      (0x80, [0x28, 0, revision, revision] ++ asciiBytes "ATOM"), (0xA0, [0xB0, 0]),
      (0xE0, [0, 1])] ++ tables)

/-- A legacy image with one connector, a DisplayPort one, which is wired to line 3. -/
def oneConnector : Array UInt8 :=
  patched 512
    [(0, [0x55, 0xAA, 1]), (0x30, asciiBytes " 761295520"), (0x48, [0x80, 0]),
     -- The ROM header and the master list.
     (0x80, [0x28, 0, 1, 1] ++ asciiBytes "ATOM"), (0xA0, [0xB0, 0]), (0xC8, [0x60, 1]),
     (0xE0, [0, 1]),
     -- The object header, the table of connectors and the records of its entry.
     (0x100, [0x10, 0, 1, 1, 0, 0, 0x20, 0]), (0x120, [1]), (0x124, [0x13, 0x31, 0, 0, 0x40, 0]),
     (0x140, [1, 4, 0x93, 0, 0xFF]),
     -- The GPIO table.
     (0x160, [0x70, 0, 1, 1])]

theorem whole_oneConnector : Whole oneConnector :=
  ⟨by decide +kernel, by decide +kernel⟩

end GpuI2c.Firmware
