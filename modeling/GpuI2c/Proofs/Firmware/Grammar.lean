import GpuI2c.Firmware.Context
import GpuI2c.Proofs.Firmware.Fetches

/-!
# The grammar of images

Which bytes are an image that can be parsed, and what is found in it, said about the bytes alone.
`failures` lists what may be wrong with them. **Parsing reports the first failure that applies, and
without one it finds what `reading` says** (`Context.ofBytes_eq`).

Three sizes bound a fetch. The signatures lie inside the mapped bytes. Everything else lies inside
the declared size, which the mapped bytes must have, and tables end strictly before it.
-/

namespace GpuI2c.Firmware

/-! ## What the bytes say -/

/-- The bytes of a text of ASCII characters. -/
def asciiBytes (text : String) : List UInt8 :=
  text.toList.map fun char => UInt8.ofNat char.toNat

/-- The bytes that an image declares to have: 512 times byte 2. -/
def declaredSize (bytes : Array UInt8) : Nat :=
  512 * u8 bytes 2

/-- Where the ROM header is. -/
def romPlace (bytes : Array UInt8) : Nat :=
  u16 bytes 0x48

/-- Where the master list is. -/
def masterPlace (bytes : Array UInt8) : Nat :=
  u16 bytes (romPlace bytes + 32)

/-- Where the object info is. -/
def objectPlace (bytes : Array UInt8) : Nat :=
  u16 bytes (masterPlace bytes + 48)

/-- The revision of the table at a place: the lower six bits of its third and fourth bytes. -/
def revisionAt (bytes : Array UInt8) (place : Nat) : Revision where
  major := UInt8.ofNat (u8 bytes (place + 2) % 64)
  minor := UInt8.ofNat (u8 bytes (place + 3) % 64)

/-- Whether the ROM header has revision 2.2 or up in both numbers, and so leads to display paths. -/
def IsDisplayImage (bytes : Array UInt8) : Prop :=
  2 ≤ (revisionAt bytes (romPlace bytes)).major ∧ 2 ≤ (revisionAt bytes (romPlace bytes)).minor

instance (bytes : Array UInt8) : Decidable (IsDisplayImage bytes) :=
  inferInstanceAs (Decidable (_ ∧ _))

/-- Whether the three signatures are in place, each strictly inside the mapped bytes. -/
def BearsSignatures (bytes : Array UInt8) : Prop :=
  (1 < bytes.size ∧ u16 bytes 0 = 0xAA55) ∧
    (0x3A < bytes.size ∧ (bytes.extract 0x30 0x3A).toList = asciiBytes " 761295520") ∧
    0x49 < bytes.size ∧
    romPlace bytes + 8 < bytes.size ∧
      (bytes.extract (romPlace bytes + 4) (romPlace bytes + 8)).toList = asciiBytes "ATOM"

instance (bytes : Array UInt8) : Decidable (BearsSignatures bytes) :=
  inferInstanceAs (Decidable (_ ∧ _))

/-! ## The grammar -/

/-- What may be wrong with the bytes of an image, in the order in which it is reported. -/
def failures (bytes : Array UInt8) : List (Option FirmwareError) :=
  let declared := declaredSize bytes
  let revision := revisionAt bytes (objectPlace bytes)
  [if BearsSignatures bytes then none else some .notRecognized,
   if declared > bytes.size then some (.sizeMismatch declared bytes.size) else none,
   if declared = 0 then some (.outOfBounds 0x48 1) else none,
   fetchError declared (romPlace bytes) 40,
   fetchError declared (masterPlace bytes) 74,
   fetchError declared (objectPlace bytes) (if IsDisplayImage bytes then 8 else 16),
   if ¬ IsDisplayImage bytes ∧ revision.major = 1 ∧ 3 ≤ revision.minor then
     fetchError declared (objectPlace bytes) 18
   else none,
   if revision.major = 1 ∧ (if IsDisplayImage bytes then 4 else 1) ≤ revision.minor then none
   else some (.unsupportedVersion revision)]

/-- The schema that is found in the bytes of an image. -/
def schemaOf (bytes : Array UInt8) : Schema :=
  let master := masterPlace bytes
  let objects := objectPlace bytes
  if IsDisplayImage bytes then
    .displayPaths (Layout.decode (bytes.extract master (master + 74)))
      (Layout.decode (bytes.extract objects (objects + 8)))
  else
    .objectTables (Layout.decode (bytes.extract master (master + 74)))
      (if (revisionAt bytes objects).minor ≤ 2 then
        .plain (Layout.decode (bytes.extract objects (objects + 16)))
      else .withMisc (Layout.decode (bytes.extract objects (objects + 18))))

/-- What is found in the bytes of an image. -/
def reading (bytes : Array UInt8) : Context where
  image := ⟨beginning bytes (declaredSize bytes), (beginning bytes (declaredSize bytes)).partNumber⟩
  revision := revisionAt bytes (romPlace bytes)
  objectRevision := revisionAt bytes (objectPlace bytes)
  schema := schemaOf bytes

/-! ## Signatures -/

theorem bears_iff {bytes signature : Array UInt8} {offset : Nat}
    (hoffset : offset + signature.size < offsetLimit) :
    (⟨bytes⟩ : Span).bears offset signature = true ↔ offset + signature.size < bytes.size ∧
      (bytes.extract offset (offset + signature.size)).toList = signature.toList := by
  rw [Span.bears, Span.slice_eq hoffset]
  by_cases hinside : offset + signature.size < bytes.size
  · have hsize : offset + signature.size < (⟨bytes⟩ : Span).size := hinside
    rw [if_pos hsize, Array.toList_inj]
    show (bytes.extract offset (offset + signature.size) == signature) = true ↔ _
    rw [beq_iff_eq]
    exact ⟨fun h => ⟨hinside, h⟩, And.right⟩
  · have hsize : ¬ offset + signature.size < (⟨bytes⟩ : Span).size := hinside
    rw [if_neg hsize]
    exact ⟨fun h => (Bool.false_ne_true h).elim, fun h => (hinside h.1).elim⟩

theorem isRecognized_iff (bytes : Array UInt8) :
    (⟨bytes⟩ : Span).isRecognized = true ↔ BearsSignatures bytes := by
  have hvendor : (⟨bytes⟩ : Span).bears vendorSignatureOffset vendorSignature = true ↔
      0x3A < bytes.size ∧ (bytes.extract 0x30 0x3A).toList = asciiBytes " 761295520" :=
    bears_iff (by decide)
  have hrom : (⟨bytes⟩ : Span).bears (romPlace bytes + romSignatureOffset) romSignature = true ↔
      romPlace bytes + 8 < bytes.size ∧
        (bytes.extract (romPlace bytes + 4) (romPlace bytes + 8)).toList = asciiBytes "ATOM" := by
    have hplace : romPlace bytes < 0x10000 := u16_lt bytes 0x48
    have hlimit : romPlace bytes + romSignatureOffset + romSignature.size < offsetLimit := by
      show romPlace bytes + 4 + 4 < 18446744073709551616
      omega
    exact bears_iff hlimit
  unfold Span.isRecognized
  by_cases hsize : 0x49 < bytes.size
  · obtain ⟨magic, hmagic, hvalue⟩ : ∃ word, (⟨bytes⟩ : Span).word 0 = .ok word ∧
        word.toNat = u16 bytes 0 :=
      Span.word_of_lt (Nat.lt_trans (by decide) hsize) (by decide)
    obtain ⟨pointer, hpointer, hplace⟩ : ∃ word, (⟨bytes⟩ : Span).word romHeaderPointer = .ok word ∧
        word.toNat = romPlace bytes :=
      Span.word_of_lt hsize (by decide)
    have hword : magic = imageMagic ↔ u16 bytes 0 = 0xAA55 := by
      rw [← UInt16.toNat_inj, hvalue]
      rfl
    rw [hmagic, hpointer]
    show (magic == imageMagic && (⟨bytes⟩ : Span).bears vendorSignatureOffset vendorSignature &&
      (⟨bytes⟩ : Span).bears (pointer.toNat + romSignatureOffset) romSignature) = true ↔ _
    rw [Bool.and_eq_true, Bool.and_eq_true, beq_iff_eq, hplace, hword, hvendor, hrom,
      BearsSignatures]
    constructor
    · rintro ⟨⟨hfirst, hsecond⟩, hthird⟩
      exact ⟨⟨by omega, hfirst⟩, hsecond, hsize, hthird⟩
    · rintro ⟨⟨-, hfirst⟩, hsecond, -, hthird⟩
      exact ⟨⟨hfirst, hsecond⟩, hthird⟩
  · have hpointer : (⟨bytes⟩ : Span).word romHeaderPointer = .error _ :=
      Span.word_of_le (Nat.le_of_not_lt hsize) (by decide)
    rw [hpointer]
    constructor
    · intro h
      cases hmagic : (⟨bytes⟩ : Span).word 0 <;> rw [hmagic] at h <;>
        exact (Bool.false_ne_true h).elim
    · rintro ⟨-, -, h, -⟩
      exact (hsize h).elim

/-! ## The image and its tables -/

theorem and_six_bits (byte : UInt8) : byte &&& 0x3F = UInt8.ofNat (byte.toNat % 64) := by
  have hbyte : byte.toNat % 64 < 2 ^ 8 := by omega
  rw [← UInt8.toNat_inj, UInt8.toNat_and, UInt8.toNat_ofNat', Nat.mod_eq_of_lt hbyte]
  exact Nat.and_two_pow_sub_one_eq_mod byte.toNat 6

theorem revision_extract (bytes : Array UInt8) (start : Nat) {length : Nat} (h : 3 < length) :
    (TableHeader.ofBytes (bytes.extract start (start + length))).revision =
      revisionAt bytes start := by
  show Revision.mk (Layout.byteAt _ 2 &&& 0x3F) (Layout.byteAt _ 3 &&& 0x3F) = _
  rw [byteAt_extract bytes start (by omega), byteAt_extract bytes start h, and_six_bits,
    and_six_bits]
  rfl

/-- Opening an image checks the signatures, then the size. -/
theorem image_ofBytes_eq (bytes : Array UInt8) :
    Image.ofBytes bytes =
      if BearsSignatures bytes then
        if declaredSize bytes > bytes.size then
          .error (.sizeMismatch (declaredSize bytes) bytes.size)
        else .ok (reading bytes).image
      else .error .notRecognized := by
  rw [Image.ofBytes]
  by_cases hsigned : BearsSignatures bytes
  · rw [if_pos ((isRecognized_iff bytes).mpr hsigned), if_pos hsigned]
    have hinside : sizeOffset < bytes.size := by
      obtain ⟨-, -, hsize, -⟩ := hsigned
      show 2 < bytes.size
      omega
    have hunits : (⟨bytes⟩ : Span).byte sizeOffset = .ok (bytes.getD 2 0) :=
      Span.byte_of_lt hinside
    have hdeclared : (bytes.getD 2 0).toNat * sizeUnit = declaredSize bytes := Nat.mul_comm _ _
    rw [hunits]
    show (if (bytes.getD 2 0).toNat * sizeUnit > bytes.size then _ else _) = _
    rw [hdeclared]
    rfl
  · rw [if_neg fun h => hsigned ((isRecognized_iff bytes).mp h), if_neg hsigned]

/-- An image opens if it has the signatures and its declared size is there. -/
theorem image_ofBytes_eq_ok_iff {bytes : Array UInt8} {image : Image} :
    Image.ofBytes bytes = .ok image ↔ BearsSignatures bytes ∧ declaredSize bytes ≤ bytes.size ∧
      (reading bytes).image = image := by
  rw [image_ofBytes_eq]
  constructor
  · intro h
    split at h
    · next hsigned =>
      split at h
      · cases h
      · next hfits => exact ⟨hsigned, Nat.not_lt.mp hfits, Except.ok.inj h⟩
    · cases h
  · rintro ⟨hsigned, hfits, rfl⟩
    rw [if_pos hsigned, if_neg (Nat.not_lt.mpr hfits)]

/-- An image that opens is cut to its declared size. -/
theorem span_of_image_ofBytes {bytes : Array UInt8} {image : Image}
    (h : Image.ofBytes bytes = .ok image) :
    declaredSize bytes ≤ bytes.size ∧ image.span = beginning bytes (declaredSize bytes) := by
  obtain ⟨-, hfits, rfl⟩ := image_ofBytes_eq_ok_iff.mp h
  exact ⟨hfits, rfl⟩

theorem size_of_image_ofBytes {bytes : Array UInt8} {image : Image}
    (h : Image.ofBytes bytes = .ok image) : image.span.size = declaredSize bytes := by
  obtain ⟨hfits, hspan⟩ := span_of_image_ofBytes h
  rw [hspan, size_beginning hfits]

/-- A table of an image that cannot be fetched. -/
theorem image_table_of_some {bytes : Array UInt8} (hdeclared : declaredSize bytes ≤ bytes.size)
    (α : Type) [Layout α] {offset size : Nat} (hoffset : offset + size < offsetLimit)
    {error : FirmwareError} (h : fetchError (declaredSize bytes) offset size = some error)
    (hsize : Layout.size α = size) :
    (reading bytes).image.span.table α offset = .error error := by
  subst hsize
  show (beginning bytes (declaredSize bytes)).table α offset = .error error
  rw [table_beginning hdeclared hoffset, h]

/-- A table of an image that can be fetched. -/
theorem image_table_of_none {bytes : Array UInt8} (hdeclared : declaredSize bytes ≤ bytes.size)
    (α : Type) [Layout α] {offset size : Nat} (hoffset : offset + size < offsetLimit)
    (h : fetchError (declaredSize bytes) offset size = none) (hsize : Layout.size α = size) :
    (reading bytes).image.span.table α offset =
      .ok (Layout.decode (bytes.extract offset (offset + size))) := by
  subst hsize
  show (beginning bytes (declaredSize bytes)).table α offset = _
  rw [table_beginning hdeclared hoffset, h]

theorem u16_add_lt_offsetLimit (bytes : Array UInt8) (place : Nat) {size : Nat}
    (h : size < 0x10000) : u16 bytes place + size < offsetLimit := by
  have hplace := u16_lt bytes place
  show u16 bytes place + size < 18446744073709551616
  omega

theorem declaredSize_lt_offsetLimit (bytes : Array UInt8) : declaredSize bytes < offsetLimit := by
  have hunits : u8 bytes 2 < 256 := (bytes.getD 2 0).toNat_lt
  show 512 * u8 bytes 2 < 18446744073709551616
  omega

/-- The display path schema below the master list of an image. -/
theorem displayPathSchema_eq {bytes : Array UInt8} (hdeclared : declaredSize bytes ≤ bytes.size) :
    (reading bytes).image.span.displayPathSchema (masterPlace bytes) =
      match fetchError (declaredSize bytes) (masterPlace bytes) 74 with
      | some error => .error error
      | none =>
        match fetchError (declaredSize bytes) (objectPlace bytes) 8 with
        | some error => .error error
        | none =>
          if (revisionAt bytes (objectPlace bytes)).major = 1 ∧
              4 ≤ (revisionAt bytes (objectPlace bytes)).minor then
            .ok (.displayPaths
              (Layout.decode (bytes.extract (masterPlace bytes) (masterPlace bytes + 74)))
              (Layout.decode (bytes.extract (objectPlace bytes) (objectPlace bytes + 8))),
              revisionAt bytes (objectPlace bytes))
          else .error (.unsupportedVersion (revisionAt bytes (objectPlace bytes))) := by
  have hmaster : masterPlace bytes + 74 < offsetLimit :=
    u16_add_lt_offsetLimit bytes _ (by decide)
  have hobjects : objectPlace bytes + 8 < offsetLimit :=
    u16_add_lt_offsetLimit bytes _ (by decide)
  have hplace : (Layout.decode (bytes.extract (masterPlace bytes) (masterPlace bytes + 74)) :
      DisplayMasterList).displayObjectInfo.toNat = objectPlace bytes :=
    toNat_wordAt_extract bytes _ (by decide)
  have hrevision : (Layout.decode (bytes.extract (objectPlace bytes) (objectPlace bytes + 8)) :
      DisplayObjectInfo).header.revision = revisionAt bytes (objectPlace bytes) :=
    revision_extract bytes _ (by decide)
  rw [Span.displayPathSchema]
  cases hfirst : fetchError (declaredSize bytes) (masterPlace bytes) 74 with
  | some error =>
    rw [image_table_of_some hdeclared DisplayMasterList hmaster hfirst rfl]
    rfl
  | none =>
    rw [image_table_of_none hdeclared DisplayMasterList hmaster hfirst rfl]
    dsimp only [bind, Except.bind]
    rw [hplace]
    cases hsecond : fetchError (declaredSize bytes) (objectPlace bytes) 8 with
    | some error =>
      rw [image_table_of_some hdeclared DisplayObjectInfo hobjects hsecond rfl]
    | none =>
      rw [image_table_of_none hdeclared DisplayObjectInfo hobjects hsecond rfl]
      dsimp only
      rw [hrevision]
      rfl

/-- The legacy schema below the master list of an image. -/
theorem objectTableSchema_eq {bytes : Array UInt8} (hdeclared : declaredSize bytes ≤ bytes.size) :
    (reading bytes).image.span.objectTableSchema (masterPlace bytes) =
      match fetchError (declaredSize bytes) (masterPlace bytes) 74 with
      | some error => .error error
      | none =>
        match fetchError (declaredSize bytes) (objectPlace bytes) 16 with
        | some error => .error error
        | none =>
          if (revisionAt bytes (objectPlace bytes)).major = 1 ∧
              1 ≤ (revisionAt bytes (objectPlace bytes)).minor then
            if (revisionAt bytes (objectPlace bytes)).minor ≤ 2 then
              .ok (.objectTables
                (Layout.decode (bytes.extract (masterPlace bytes) (masterPlace bytes + 74)))
                (.plain
                  (Layout.decode (bytes.extract (objectPlace bytes) (objectPlace bytes + 16)))),
                revisionAt bytes (objectPlace bytes))
            else
              match fetchError (declaredSize bytes) (objectPlace bytes) 18 with
              | some error => .error error
              | none =>
                .ok (.objectTables
                  (Layout.decode (bytes.extract (masterPlace bytes) (masterPlace bytes + 74)))
                  (.withMisc
                    (Layout.decode (bytes.extract (objectPlace bytes) (objectPlace bytes + 18)))),
                  revisionAt bytes (objectPlace bytes))
          else .error (.unsupportedVersion (revisionAt bytes (objectPlace bytes))) := by
  have hmaster : masterPlace bytes + 74 < offsetLimit :=
    u16_add_lt_offsetLimit bytes _ (by decide)
  have hobjects : objectPlace bytes + 16 < offsetLimit :=
    u16_add_lt_offsetLimit bytes _ (by decide)
  have hextended : objectPlace bytes + 18 < offsetLimit :=
    u16_add_lt_offsetLimit bytes _ (by decide)
  have hplace : (Layout.decode (bytes.extract (masterPlace bytes) (masterPlace bytes + 74)) :
      LegacyMasterList).objectHeader.toNat = objectPlace bytes :=
    toNat_wordAt_extract bytes _ (by decide)
  have hrevision : (Layout.decode (bytes.extract (objectPlace bytes) (objectPlace bytes + 16)) :
      ObjectHeader).header.revision = revisionAt bytes (objectPlace bytes) :=
    revision_extract bytes _ (by decide)
  rw [Span.objectTableSchema]
  cases hfirst : fetchError (declaredSize bytes) (masterPlace bytes) 74 with
  | some error =>
    rw [image_table_of_some hdeclared LegacyMasterList hmaster hfirst rfl]
    rfl
  | none =>
    rw [image_table_of_none hdeclared LegacyMasterList hmaster hfirst rfl]
    dsimp only [bind, Except.bind]
    rw [hplace]
    cases hsecond : fetchError (declaredSize bytes) (objectPlace bytes) 16 with
    | some error =>
      rw [image_table_of_some hdeclared ObjectHeader hobjects hsecond rfl]
    | none =>
      rw [image_table_of_none hdeclared ObjectHeader hobjects hsecond rfl]
      dsimp only
      rw [hrevision]
      cases hthird : fetchError (declaredSize bytes) (objectPlace bytes) 18 with
      | some error =>
        rw [image_table_of_some hdeclared ObjectHeaderWithMisc hextended hthird rfl]
        rfl
      | none =>
        rw [image_table_of_none hdeclared ObjectHeaderWithMisc hextended hthird rfl]
        rfl

/-! ## Parsing -/

theorem hasDisplayPaths_iff (bytes : Array UInt8) :
    (revisionAt bytes (romPlace bytes)).hasDisplayPaths = true ↔ IsDisplayImage bytes := by
  rw [Revision.hasDisplayPaths, Bool.and_eq_true, decide_eq_true_iff, decide_eq_true_iff]
  rfl

/-- The place of the ROM header of an image that is not empty. -/
theorem word_romHeaderPointer {bytes : Array UInt8} (hdeclared : declaredSize bytes ≤ bytes.size)
    (hempty : declaredSize bytes ≠ 0) :
    ∃ word, (reading bytes).image.span.word romHeaderPointer = .ok word ∧
      word.toNat = romPlace bytes := by
  have hinside : romHeaderPointer + 1 < declaredSize bytes := by
    show 0x48 + 1 < 512 * u8 bytes 2
    rw [declaredSize] at hempty
    omega
  obtain ⟨word, hword, hplace⟩ : ∃ word,
      (beginning bytes (declaredSize bytes)).word romHeaderPointer = .ok word ∧
      word.toNat = u16 (beginning bytes (declaredSize bytes)).bytes romHeaderPointer :=
    Span.word_of_lt (by rw [size_beginning hdeclared]; exact hinside) (by decide)
  rw [u16_beginning hinside] at hplace
  exact ⟨word, hword, hplace⟩

/-- What parsing does with an image that is not empty. -/
theorem ofBytes_of_image {bytes : Array UInt8} (hsigned : BearsSignatures bytes)
    (hdeclared : declaredSize bytes ≤ bytes.size) (hempty : declaredSize bytes ≠ 0) :
    Context.ofBytes bytes =
      match fetchError (declaredSize bytes) (romPlace bytes) 40 with
      | some error => .error error
      | none =>
        (if IsDisplayImage bytes then
          (reading bytes).image.span.displayPathSchema (masterPlace bytes)
        else (reading bytes).image.span.objectTableSchema (masterPlace bytes)).map fun found =>
          { reading bytes with schema := found.1, objectRevision := found.2 } := by
  obtain ⟨word, hword, hplace⟩ := word_romHeaderPointer hdeclared hempty
  have hrom : romPlace bytes + 40 < offsetLimit := u16_add_lt_offsetLimit bytes _ (by decide)
  have hmaster : (Layout.decode (bytes.extract (romPlace bytes) (romPlace bytes + 40)) :
      RomHeader).masterDataTableOffset.toNat = masterPlace bytes :=
    toNat_wordAt_extract bytes _ (by decide)
  have hrevision : (Layout.decode (bytes.extract (romPlace bytes) (romPlace bytes + 40)) :
      RomHeader).header.revision = revisionAt bytes (romPlace bytes) :=
    revision_extract bytes _ (by decide)
  rw [Context.ofBytes, image_ofBytes_eq, if_pos hsigned, if_neg (Nat.not_lt.mpr hdeclared)]
  dsimp only [bind, Except.bind]
  rw [hword]
  dsimp only
  rw [hplace]
  cases hfetch : fetchError (declaredSize bytes) (romPlace bytes) 40 with
  | some error =>
    rw [image_table_of_some hdeclared RomHeader hrom hfetch rfl]
  | none =>
    rw [image_table_of_none hdeclared RomHeader hrom hfetch rfl]
    dsimp only
    rw [hrevision, hmaster]
    by_cases hdisplay : IsDisplayImage bytes
    · rw [if_pos ((hasDisplayPaths_iff bytes).mpr hdisplay), if_pos hdisplay]
      cases (reading bytes).image.span.displayPathSchema (masterPlace bytes) <;> rfl
    · rw [if_neg fun h => hdisplay ((hasDisplayPaths_iff bytes).mp h), if_neg hdisplay]
      cases (reading bytes).image.span.objectTableSchema (masterPlace bytes) <;> rfl

/-- Parsing an image that leads to display paths. -/
theorem ofBytes_of_display {bytes : Array UInt8} (hsigned : BearsSignatures bytes)
    (hdeclared : declaredSize bytes ≤ bytes.size) (hempty : declaredSize bytes ≠ 0)
    (hdisplay : IsDisplayImage bytes) :
    Context.ofBytes bytes =
      match (failures bytes).findSome? id with
      | some error => .error error
      | none => .ok (reading bytes) := by
  have hschema : (reading bytes).schema = .displayPaths
      (Layout.decode (bytes.extract (masterPlace bytes) (masterPlace bytes + 74)))
      (Layout.decode (bytes.extract (objectPlace bytes) (objectPlace bytes + 8))) :=
    if_pos hdisplay
  have hfailures : failures bytes =
      [none, none, none, fetchError (declaredSize bytes) (romPlace bytes) 40,
        fetchError (declaredSize bytes) (masterPlace bytes) 74,
        fetchError (declaredSize bytes) (objectPlace bytes) 8, none,
        if (revisionAt bytes (objectPlace bytes)).major = 1 ∧
          4 ≤ (revisionAt bytes (objectPlace bytes)).minor then none
        else some (.unsupportedVersion (revisionAt bytes (objectPlace bytes)))] := by
    simp only [failures, hsigned, hdisplay, hempty, Nat.not_lt.mpr hdeclared, if_true, if_false,
      not_true, false_and]
  rw [ofBytes_of_image hsigned hdeclared hempty, if_pos hdisplay, displayPathSchema_eq hdeclared,
    hfailures]
  cases fetchError (declaredSize bytes) (romPlace bytes) 40 with
  | some error => rfl
  | none =>
    cases fetchError (declaredSize bytes) (masterPlace bytes) 74 with
    | some error => rfl
    | none =>
      cases fetchError (declaredSize bytes) (objectPlace bytes) 8 with
      | some error => rfl
      | none =>
        by_cases hrevision : (revisionAt bytes (objectPlace bytes)).major = 1 ∧
            4 ≤ (revisionAt bytes (objectPlace bytes)).minor
        · rw [if_pos hrevision, if_pos hrevision]
          dsimp only [Except.map]
          rw [← hschema]
          rfl
        · rw [if_neg hrevision, if_neg hrevision]
          rfl

theorem three_le_iff {minor : UInt8} : 3 ≤ minor ↔ ¬ minor ≤ 2 := by
  rw [UInt8.le_iff_toNat_le, UInt8.le_iff_toNat_le]
  show 3 ≤ minor.toNat ↔ ¬ minor.toNat ≤ 2
  omega

/-- Parsing an image that leads to legacy object tables. -/
theorem ofBytes_of_legacy {bytes : Array UInt8} (hsigned : BearsSignatures bytes)
    (hdeclared : declaredSize bytes ≤ bytes.size) (hempty : declaredSize bytes ≠ 0)
    (hdisplay : ¬ IsDisplayImage bytes) :
    Context.ofBytes bytes =
      match (failures bytes).findSome? id with
      | some error => .error error
      | none => .ok (reading bytes) := by
  have hschema : (reading bytes).schema = .objectTables
      (Layout.decode (bytes.extract (masterPlace bytes) (masterPlace bytes + 74)))
      (if (revisionAt bytes (objectPlace bytes)).minor ≤ 2 then
        .plain (Layout.decode (bytes.extract (objectPlace bytes) (objectPlace bytes + 16)))
      else
        .withMisc (Layout.decode (bytes.extract (objectPlace bytes) (objectPlace bytes + 18)))) :=
    if_neg hdisplay
  have hfailures : failures bytes =
      [none, none, none, fetchError (declaredSize bytes) (romPlace bytes) 40,
        fetchError (declaredSize bytes) (masterPlace bytes) 74,
        fetchError (declaredSize bytes) (objectPlace bytes) 16,
        if (revisionAt bytes (objectPlace bytes)).major = 1 ∧
          3 ≤ (revisionAt bytes (objectPlace bytes)).minor then
          fetchError (declaredSize bytes) (objectPlace bytes) 18
        else none,
        if (revisionAt bytes (objectPlace bytes)).major = 1 ∧
          1 ≤ (revisionAt bytes (objectPlace bytes)).minor then none
        else some (.unsupportedVersion (revisionAt bytes (objectPlace bytes)))] := by
    simp only [failures, hsigned, hdisplay, hempty, Nat.not_lt.mpr hdeclared, if_true, if_false,
      not_false_iff, true_and]
  rw [ofBytes_of_image hsigned hdeclared hempty, if_neg hdisplay, objectTableSchema_eq hdeclared,
    hfailures]
  cases fetchError (declaredSize bytes) (romPlace bytes) 40 with
  | some error => rfl
  | none =>
    cases fetchError (declaredSize bytes) (masterPlace bytes) 74 with
    | some error => rfl
    | none =>
      cases fetchError (declaredSize bytes) (objectPlace bytes) 16 with
      | some error => rfl
      | none =>
        by_cases hrevision : (revisionAt bytes (objectPlace bytes)).major = 1 ∧
            1 ≤ (revisionAt bytes (objectPlace bytes)).minor
        · rw [if_pos hrevision, if_pos hrevision]
          by_cases hplain : (revisionAt bytes (objectPlace bytes)).minor ≤ 2
          · rw [if_pos hplain] at hschema ⊢
            rw [if_neg fun h => three_le_iff.mp h.2 hplain]
            dsimp only [Except.map]
            rw [← hschema]
            rfl
          · rw [if_neg hplain] at hschema ⊢
            rw [if_pos ⟨hrevision.1, three_le_iff.mpr hplain⟩]
            cases fetchError (declaredSize bytes) (objectPlace bytes) 18 with
            | some error => rfl
            | none =>
              dsimp only [Except.map]
              rw [← hschema]
              rfl
        · have hold : ¬ ((revisionAt bytes (objectPlace bytes)).major = 1 ∧
              3 ≤ (revisionAt bytes (objectPlace bytes)).minor) :=
            fun h => hrevision ⟨h.1, UInt8.le_trans (by decide) h.2⟩
          rw [if_neg hrevision, if_neg hrevision, if_neg hold]
          rfl

/-- **Parsing reports the first failure that applies**, and without one it finds what the bytes
say. -/
theorem Context.ofBytes_eq (bytes : Array UInt8) :
    Context.ofBytes bytes =
      match (failures bytes).findSome? id with
      | some error => .error error
      | none => .ok (reading bytes) := by
  by_cases hsigned : BearsSignatures bytes
  · by_cases hdeclared : declaredSize bytes > bytes.size
    · rw [Context.ofBytes, image_ofBytes_eq, failures, if_pos hsigned, if_pos hsigned,
        if_pos hdeclared, if_pos hdeclared]
      rfl
    · have hfits : declaredSize bytes ≤ bytes.size := Nat.not_lt.mp hdeclared
      by_cases hempty : declaredSize bytes = 0
      · have hword : (reading bytes).image.span.word romHeaderPointer =
            .error (.outOfBounds romHeaderPointer 1) := by
          have hsize : (reading bytes).image.span.size = 0 := by
            rw [← hempty]
            exact size_beginning hfits
          have hsmall : (reading bytes).image.span.size ≤ romHeaderPointer := by
            rw [hsize]
            exact Nat.zero_le _
          rw [Span.word_of_le (Nat.le_succ_of_le hsmall) (by decide), if_pos hsmall]
        rw [Context.ofBytes, image_ofBytes_eq, failures, if_pos hsigned, if_pos hsigned,
          if_neg hdeclared, if_neg hdeclared, if_pos hempty]
        dsimp only [bind, Except.bind]
        rw [hword]
        rfl
      · by_cases hdisplay : IsDisplayImage bytes
        · exact ofBytes_of_display hsigned hfits hempty hdisplay
        · exact ofBytes_of_legacy hsigned hfits hempty hdisplay
  · rw [Context.ofBytes, image_ofBytes_eq, failures, if_neg hsigned, if_neg hsigned]
    rfl

end GpuI2c.Firmware
