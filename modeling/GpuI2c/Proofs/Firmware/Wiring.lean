import GpuI2c.Proofs.Firmware.Lookup
import GpuI2c.Proofs.Firmware.ObjectId

/-!
# The wiring of a connector

A connector is found at an index of the list of connectors: the connector table of a legacy image,
or the display paths. Its wiring is looked up by its object id alone. So a connector gets its own
wiring where the look-up goes through this list and meets no earlier object with the same id, and
the latter is the case if firmware ids occur once and the id has a driver number. An encoder among
the display paths gets that of the first path that has it as its encoder, which is its own where
this path is the one that displays it (`i2cInfo_connector`). Without a driver number, or where the
look-up goes elsewhere, a connector may get the wiring of another object or none
(`i2cInfo_of_another`).
-/

namespace GpuI2c.Firmware

variable {bytes : Array UInt8} {firmware : Context}

/-! ## The list of connectors -/

/-- Where the object header keeps the distance to the connector table. -/
def connectorField : Nat := 6

/-- The length of the list of connectors. -/
def listLength (bytes : Array UInt8) : Nat :=
  u8 bytes (if IsDisplayImage bytes then objectPlace bytes + 6
    else tablePlace bytes connectorField)

/-- Where the object with the given index in the list of connectors is. -/
def listedPlace (bytes : Array UInt8) (index : Nat) : Nat :=
  if IsDisplayImage bytes then pathPlace bytes index
  else entryPlace (tablePlace bytes connectorField) index

/-- The firmware id of the object with the given index in the list of connectors. -/
def listedId (bytes : Array UInt8) (index : Nat) : UInt16 :=
  UInt16.ofNat (u16 bytes (listedPlace bytes index))

/-- Where the records of the object with the given index in the list of connectors start. -/
def listedRecords (bytes : Array UInt8) (index : Nat) : Nat :=
  objectPlace bytes +
    u16 bytes (listedPlace bytes index + if IsDisplayImage bytes then 2 else 4)

/-- The list of connectors has an object with the given index, strictly inside the declared size. -/
structure Lists (bytes : Array UInt8) (index : Nat) : Prop where
  counted : index < listLength bytes
  inside : listedPlace bytes index + (if IsDisplayImage bytes then 16 else 8) < declaredSize bytes

/-- No firmware id occurs twice in the list of connectors. -/
def DistinctIds (bytes : Array UInt8) : Prop :=
  ∀ i j, Lists bytes i → Lists bytes j → listedId bytes i = listedId bytes j → i = j

theorem lists_iff {index : Nat} : Lists bytes index ↔ index < listLength bytes ∧
    listedPlace bytes index + (if IsDisplayImage bytes then 16 else 8) < declaredSize bytes :=
  ⟨fun h => ⟨h.counted, h.inside⟩, fun h => ⟨h.1, h.2⟩⟩

theorem distinctIds_of_length {length : Nat} (hlength : listLength bytes = length)
    (hids : ∀ i < length, ∀ j < length, listedId bytes i = listedId bytes j → i = j) :
    DistinctIds bytes := by
  intro i j hi hj
  exact hids i (hlength ▸ hi.counted) j (hlength ▸ hj.counted)

/-- An encoder that some display path has as its encoder. It is looked up by this, before what the
paths display. -/
structure IsPathEncoder (bytes : Array UInt8) (id : ObjectId) : Prop where
  paths : IsDisplayImage bytes
  encoder : id.objectType = .encoder
  named : ∃ i, PathNames bytes encoderField id i

/-- The wiring of the object with the given index in the list of connectors is looked up in this
list. -/
inductive SearchedInList (bytes : Array UInt8) (index : Nat) (id : ObjectId) : Prop where
  /-- On a legacy image, the table for its type is the connector table. -/
  | entries {field : Nat} (hlegacy : ¬ IsDisplayImage bytes)
      (hfield : tableField? bytes id.objectType = some field)
      (hsame : tablePlace bytes field = tablePlace bytes connectorField)
  /-- On an image with display paths, it is a connector or a generic object, or an encoder of which
  the first path that has it as its encoder, if any, is the one at the index. The path at the index
  may well display its own encoder. -/
  | paths (hpaths : IsDisplayImage bytes)
      (htype : id.objectType = .connector ∨ id.objectType = .generic ∨ id.objectType = .encoder ∧
        ∀ first, IsLeast {i | PathNames bytes encoderField id i} first → first = index)

/-- An object of type connector is looked up there. -/
theorem searchedInList_of_connector {index : Nat} {id : ObjectId}
    (h : id.objectType = .connector) : SearchedInList bytes index id := by
  by_cases hdisplay : IsDisplayImage bytes
  · exact .paths hdisplay (.inl h)
  · exact .entries hdisplay (by rw [h]; rfl) rfl

/-! ## Connectors are listed -/

/-- An entry of the connector table is found where it lies inside the declared size. -/
theorem toOption_objectEntry_eq_some_iff (h : Accepted bytes) {index : Nat}
    {entry : ObjectEntry} :
    ((beginning bytes (declaredSize bytes)).objectEntry (tablePlace bytes connectorField)
      index).toOption = some entry ↔
    entryPlace (tablePlace bytes connectorField) index + 8 < declaredSize bytes ∧
      tableAt ObjectEntry bytes (entryPlace (tablePlace bytes connectorField) index) = entry := by
  have hplace : entryPlace (tablePlace bytes connectorField) index ≠ 0 := by
    rw [entryPlace]
    omega
  rw [toOption_eq_some_iff]
  exact (table_eq_ok_iff h.fits).trans (and_iff_right hplace)

/-- A display path is found where it lies inside the declared size. -/
theorem toOption_displayPath_eq_some_iff (h : Accepted bytes) {master : DisplayMasterList}
    (hmaster : master.displayObjectInfo.toNat = objectPlace bytes) {index : Nat}
    {path : DisplayPath} :
    ((beginning bytes (declaredSize bytes)).displayPath master index).toOption = some path ↔
      pathPlace bytes index + 16 < declaredSize bytes ∧
        tableAt DisplayPath bytes (pathPlace bytes index) = path := by
  have hplace : pathPlace bytes index ≠ 0 := by
    rw [pathPlace]
    omega
  rw [toOption_eq_some_iff, Span.displayPath, hmaster]
  exact (table_eq_ok_iff h.fits).trans (and_iff_right hplace)

/-- The connector table is found where its header lies inside the declared size. -/
theorem connectorTable_eq (h : Accepted bytes) {objects : LegacyObjects}
    (htables : ∀ objectType, (objects.tableFor? objectType).map UInt16.toNat =
      (tableField? bytes objectType).map fun field => u16 bytes (objectPlace bytes + field)) :
    (reading bytes).image.span.objectTable (tableAt LegacyMasterList bytes (masterPlace bytes))
        objects.shared.connectorTable =
      if tablePlace bytes connectorField + 4 < declaredSize bytes then
        .ok (tablePlace bytes connectorField,
          tableAt ObjectTableHeader bytes (tablePlace bytes connectorField))
      else .error (.outOfBounds (tablePlace bytes connectorField) 4) :=
  objectTable_eq h (toNat_objectHeader bytes) (Option.some.inj (htables .connector))

/-- On a legacy image, the connectors are the entries of the connector table that decode. -/
theorem connectorId?_eq_some_iff_of_legacy (haccepted : Accepted bytes)
    (hlegacy : ¬ IsDisplayImage bytes) {index : Nat} {id : ObjectId} :
    (reading bytes).connectorId? index = some id ↔
      Lists bytes index ∧ ObjectId.ofFirmware? (listedId bytes index) = some id := by
  obtain ⟨objects, hschema, htables⟩ := schema_of_legacy hlegacy
  simp only [lists_iff, listLength, listedId, listedPlace, if_neg hlegacy]
  rw [Context.connectorId?, hschema]
  dsimp only
  rw [connectorTable_eq haccepted htables]
  constructor
  · intro hid
    obtain ⟨found, hfound, hid⟩ := Option.bind_eq_some_iff.mp hid
    split at hfound
    · obtain rfl := Option.some.inj hfound
      dsimp only at hid
      rw [toNat_count, Option.ite_none_right_eq_some] at hid
      obtain ⟨hindex, hid⟩ := hid
      obtain ⟨entry, hentry, hid⟩ := Option.bind_eq_some_iff.mp hid
      obtain ⟨hinside, rfl⟩ := (toOption_objectEntry_eq_some_iff haccepted).mp hentry
      rw [objectId_tableAt] at hid
      exact ⟨⟨hindex, hinside⟩, hid⟩
    · cases hfound
  · rintro ⟨⟨hindex, hinside⟩, hid⟩
    have hheader : tablePlace bytes connectorField + 4 < declaredSize bytes := by
      unfold entryPlace at hinside
      omega
    have hentry := (toOption_objectEntry_eq_some_iff haccepted).mpr ⟨hinside, rfl⟩
    rw [if_pos hheader]
    refine Option.bind_eq_some_iff.mpr ⟨_, rfl, ?_⟩
    dsimp only
    rw [toNat_count, if_pos hindex]
    refine Option.bind_eq_some_iff.mpr ⟨_, hentry, ?_⟩
    rw [objectId_tableAt]
    exact hid

theorem path_of_connectorId? (haccepted : Accepted bytes) (hdisplay : IsDisplayImage bytes)
    {index : Nat} {id : ObjectId} (hid : (reading bytes).connectorId? index = some id) :
    Lists bytes index ∧ ObjectId.ofFirmware? (listedId bytes index) = some id := by
  have hobject : (tableAt DisplayPath bytes (pathPlace bytes index)).displayObject =
      UInt16.ofNat (u16 bytes (pathPlace bytes index)) := wordAt_extract bytes _ (by decide)
  simp only [lists_iff, listLength, listedId, listedPlace, if_pos hdisplay]
  rw [Context.connectorId?, schema_of_display hdisplay] at hid
  dsimp only at hid
  rw [toNat_numberOfPath, Option.ite_none_right_eq_some] at hid
  obtain ⟨hindex, hid⟩ := hid
  obtain ⟨path, hpath, hid⟩ := Option.bind_eq_some_iff.mp hid
  obtain ⟨hinside, rfl⟩ := (toOption_displayPath_eq_some_iff haccepted
    (toNat_displayObjectInfo bytes)).mp hpath
  rw [Option.ite_none_left_eq_some, hobject] at hid
  exact ⟨⟨hindex, hinside⟩, hid.2⟩

/-- The id of a connector is the one that the list of connectors has at its index. -/
theorem listed_of_connectorId? (h : Context.ofBytes bytes = .ok firmware) {index : Nat}
    {id : ObjectId} (hid : firmware.connectorId? index = some id) :
    Lists bytes index ∧ ObjectId.ofFirmware? (listedId bytes index) = some id := by
  obtain ⟨haccepted, rfl⟩ := ofBytes_eq_ok_iff.mp h
  by_cases hdisplay : IsDisplayImage bytes
  · exact path_of_connectorId? haccepted hdisplay hid
  · exact (connectorId?_eq_some_iff_of_legacy haccepted hdisplay).mp hid

/-! ## Looking up a connector -/

/-- The first display path that has an encoder as its encoder. -/
theorem IsPathEncoder.exists_first {id : ObjectId} (h : IsPathEncoder bytes id) :
    ∃ first, IsLeast {i | PathNames bytes encoderField id i} first := by
  classical
  exact ⟨_, Nat.isLeast_find h.named⟩

/-- The path of an object is the first that displays it, unless it is looked up as an encoder. -/
theorem pathOf_of_not_isPathEncoder {index : Nat} {id : ObjectId} (hpaths : IsDisplayImage bytes)
    (htype : id.objectType = .connector ∨ id.objectType = .generic ∨ id.objectType = .encoder)
    (hencodes : ¬ IsPathEncoder bytes id)
    (hfirst : IsLeast {i | PathNames bytes displayField id i} index) : PathOf bytes id index := by
  refine .display (htype.imp_right fun htype => htype.imp_right fun hencoder => ?_) hfirst
  exact ⟨hencoder, fun i hi => hencodes ⟨hpaths, hencoder, i, hi⟩⟩

/-- A look-up through the list of connectors finds the first object with the id, or the path of an
encoder. -/
theorem recordsAt_listed {index : Nat} {id : ObjectId} (hlisted : Lists bytes index)
    (hid : ObjectId.ofFirmware? (listedId bytes index) = some id)
    (hfirst : IsPathEncoder bytes id ∨
      ∀ i < index, Lists bytes i → ObjectId.ofFirmware? (listedId bytes i) ≠ some id)
    (hsearched : SearchedInList bytes index id) :
    RecordsAt bytes id (listedRecords bytes index) := by
  cases hsearched with
  | @entries field hlegacy hfield hsame =>
    have hearlier := hfirst.resolve_left fun h => hlegacy h.paths
    simp only [lists_iff, listLength, listedId, listedPlace, listedRecords, if_neg hlegacy] at *
    rw [← hsame] at hlisted hid hearlier ⊢
    have htable : tablePlace bytes field + 4 < declaredSize bytes := by
      have := hlisted.2
      unfold entryPlace at this
      omega
    exact .entry hlegacy hfield htable (isLeast_of_forall_lt ⟨hlisted.1, hlisted.2, hid⟩
      fun i hi hnames => hearlier i hi ⟨hnames.counted, hnames.inside⟩ hnames.named)
  | paths hpaths htype =>
    simp only [lists_iff, listLength, listedId, listedPlace, listedRecords, if_pos hpaths] at *
    refine .path hpaths ?_
    by_cases hencodes : IsPathEncoder bytes id
    · -- The first path that has it as its encoder is the one at the index.
      obtain ⟨first, hleast⟩ := hencodes.exists_first
      simp only [hencodes.encoder, reduceCtorEq, false_or, true_and] at htype
      exact .encoder hencodes.encoder (htype first hleast ▸ hleast)
    · have hearlier := hfirst.resolve_left hencodes
      exact pathOf_of_not_isPathEncoder hpaths
        (htype.imp_right fun htype => htype.imp_right And.left) hencodes
        (isLeast_of_forall_lt ⟨hlisted.1, hlisted.2, hid⟩
          fun i hi hnames => hearlier i hi ⟨hnames.counted, hnames.inside⟩ hnames.named)

/-- **A connector gets its own wiring.** If no firmware id occurs twice in the list of connectors,
and the look-up goes through this list, then the wiring of a connector whose id has a driver number
is found by walking its own records. Without a driver number, it is if no object before it has the
same id, or if it is looked up as the encoder of a path. -/
theorem i2cInfo_connector (h : Context.ofBytes bytes = .ok firmware)
    (hdistinct : DistinctIds bytes) {index : Nat} {id : ObjectId}
    (hid : firmware.connectorId? index = some id)
    (hnumber : id.id ≠ 0 ∨ IsPathEncoder bytes id ∨
      ∀ i < index, Lists bytes i → ObjectId.ofFirmware? (listedId bytes i) ≠ some id)
    (hsearched : SearchedInList bytes index id) :
    firmware.i2cInfo id = firmware.walkFrom (listedRecords bytes index) := by
  obtain ⟨hlisted, hdecodes⟩ := listed_of_connectorId? h hid
  have hfirst : IsPathEncoder bytes id ∨ ∀ i < index, Lists bytes i →
      ObjectId.ofFirmware? (listedId bytes i) ≠ some id := by
    obtain hnumber | hfirst := hnumber
    · refine .inr fun i hi hlistedi hsame => ?_
      have := hdistinct i index hlistedi hlisted (ObjectId.eq_of_ofFirmware? hsame hdecodes hnumber)
      omega
    · exact hfirst
  rw [i2cInfo_eq_bind, (records_eq_ok_iff h).mpr (recordsAt_listed hlisted hdecodes hfirst
    hsearched)]
  rfl

/-! ## Connectors that share an id -/

/-- A legacy image with four entries in its connector table: two connectors without a driver number,
a DisplayPort connector, and an encoder. Its encoder table is empty. -/
def sharedIds : Array UInt8 :=
  imageWith 1
    -- The object header and the table of connectors.
    [(0x100, [0x10, 0, 1, 1, 0, 0, 0x20, 0, 0, 0, 0xE0, 0]), (0x120, [4]),
     (0x124, [0x06, 0x31, 0, 0, 0x48, 0]), (0x12C, [0x07, 0x31, 0, 0, 0x50, 0]),
     (0x134, [0x13, 0x31, 0, 0, 0x58, 0]), (0x13C, [0x1E, 0x21, 0, 0, 0x58, 0]),
     -- Their records, and the GPIO table.
     (0x148, [1, 4, 0x91, 0, 0xFF]), (0x150, [1, 4, 0x92, 0, 0xFF]),
     (0x158, [1, 4, 0x93, 0, 0xFF]), (0xC8, [0x60, 1]), (0x160, [0x70, 0, 1, 1])]

theorem whole_sharedIds : Whole sharedIds :=
  ⟨by decide +kernel, by decide +kernel⟩

theorem distinctIds_sharedIds : DistinctIds sharedIds :=
  distinctIds_of_length (show listLength sharedIds = 4 by decide +kernel) (by decide +kernel)

/-- An image with one display path, which displays the encoder that it leads from. -/
def ownEncoder : Array UInt8 :=
  imageWith 2
    -- The display object info and its path.
    [(0x100, [0x18, 0, 1, 4, 0, 0, 1, 0]), (0x108, [0x1E, 0x21, 0x40, 0, 0x1E, 0x21]),
     -- Its records, and the pin look-up table.
     (0x140, [1, 4, 0x91, 0, 0xFF]), (0xCC, [0x60, 1]), (0x160, [0x0C, 0, 1, 1]), (0x16A, [0x91])]

theorem whole_ownEncoder : Whole ownEncoder :=
  ⟨by decide +kernel, by decide +kernel⟩

/-- The DisplayPort connector has a driver number, and so has the encoder of the one path. -/
theorem i2cInfo_connector_sharedIds :
    (∃ firmware, Context.ofBytes sharedIds = .ok firmware ∧
      firmware.connectorId? 2 = some ⟨19, 1, .connector⟩ ∧
      firmware.i2cInfo ⟨19, 1, .connector⟩ = firmware.walkFrom (listedRecords sharedIds 2) ∧
      (firmware.walkFrom (listedRecords sharedIds 2)).toOption.map Wiring.line = some 3) ∧
    ∃ firmware, Context.ofBytes ownEncoder = .ok firmware ∧
      firmware.connectorId? 0 = some ⟨13, 1, .encoder⟩ ∧
      firmware.i2cInfo ⟨13, 1, .encoder⟩ = firmware.walkFrom (listedRecords ownEncoder 0) ∧
      (firmware.walkFrom (listedRecords ownEncoder 0)).toOption.map Wiring.line = some 1 := by
  constructor
  · have hid : (reading sharedIds).connectorId? 2 = some ⟨19, 1, .connector⟩ := by
      rw [whole_sharedIds.reading_eq]
      decide +kernel
    have hline : ((reading sharedIds).walkFrom (listedRecords sharedIds 2)).toOption.map
        Wiring.line = some 3 := by
      rw [whole_sharedIds.reading_eq]
      decide +kernel
    have hnumber : (⟨19, 1, .connector⟩ : ObjectId).id ≠ 0 := by decide
    have htype : (⟨19, 1, .connector⟩ : ObjectId).objectType = .connector := rfl
    have hparse := whole_sharedIds.parses
    have hown := i2cInfo_connector hparse distinctIds_sharedIds hid (.inl hnumber)
      (searchedInList_of_connector htype)
    exact ⟨_, hparse, hid, hown, hline⟩
  · have hid : (reading ownEncoder).connectorId? 0 = some ⟨13, 1, .encoder⟩ := by
      rw [whole_ownEncoder.reading_eq]
      decide +kernel
    have hline : ((reading ownEncoder).walkFrom (listedRecords ownEncoder 0)).toOption.map
        Wiring.line = some 1 := by
      rw [whole_ownEncoder.reading_eq]
      decide +kernel
    have hdistinct : DistinctIds ownEncoder :=
      distinctIds_of_length (show listLength ownEncoder = 1 by decide +kernel) (by decide +kernel)
    have hnumber : (⟨13, 1, .encoder⟩ : ObjectId).id ≠ 0 := by decide
    -- The only path that has it as its encoder is the one that displays it.
    have hone : u8 ownEncoder (objectPlace ownEncoder + 6) = 1 := by decide +kernel
    have hsearched : SearchedInList ownEncoder 0 ⟨13, 1, .encoder⟩ :=
      .paths (by decide +kernel) (.inr (.inr ⟨rfl, fun first hfirst =>
        Nat.lt_one_iff.mp (hone ▸ hfirst.1.counted)⟩))
    have hparse := whole_ownEncoder.parses
    have hown := i2cInfo_connector hparse hdistinct hid (.inl hnumber) hsearched
    exact ⟨_, hparse, hid, hown, hline⟩

/-- An image with two display paths. The first leads from a UNIPHY encoder to a VGA connector; the
second displays this encoder. -/
def sharedEncoder : Array UInt8 :=
  imageWith 2
    -- The display object info and its paths.
    [(0x100, [0x28, 0, 1, 4, 0, 0, 2, 0]), (0x108, [0x05, 0x31, 0x40, 0, 0x1E, 0x21]),
     (0x118, [0x1E, 0x21, 0x48, 0, 0x20, 0x21]),
     -- Their records, and the pin look-up table.
     (0x140, [1, 4, 0x91, 0, 0xFF]), (0x148, [1, 4, 0x92, 0, 0xFF]), (0xCC, [0x60, 1]),
     (0x160, [0x14, 0, 1, 1]), (0x16A, [0x91]), (0x172, [0x92])]

theorem whole_sharedEncoder : Whole sharedEncoder :=
  ⟨by decide +kernel, by decide +kernel⟩

/-- A connector gets the wiring of an earlier one that decodes to the same id, an encoder in the
table of connectors gets none, since it is looked up among the encoders, and an encoder that a path
displays gets the wiring of the path that it is the encoder of. -/
theorem i2cInfo_of_another :
    (DistinctIds sharedIds ∧ ∃ firmware, Context.ofBytes sharedIds = .ok firmware ∧
      (firmware.connectorId? 1 = some ⟨0, 1, .connector⟩ ∧
        (firmware.i2cInfo ⟨0, 1, .connector⟩).toOption.map Wiring.line = some 1 ∧
        (firmware.walkFrom (listedRecords sharedIds 1)).toOption.map Wiring.line = some 2) ∧
      firmware.connectorId? 3 = some ⟨13, 1, .encoder⟩ ∧
        firmware.i2cInfo ⟨13, 1, .encoder⟩ = .error .objectNotFound ∧
        (firmware.walkFrom (listedRecords sharedIds 3)).toOption.map Wiring.line = some 3) ∧
    DistinctIds sharedEncoder ∧ ∃ firmware, Context.ofBytes sharedEncoder = .ok firmware ∧
      firmware.connectorId? 1 = some ⟨13, 1, .encoder⟩ ∧
        (firmware.i2cInfo ⟨13, 1, .encoder⟩).toOption.map Wiring.line = some 1 ∧
        (firmware.walkFrom (listedRecords sharedEncoder 1)).toOption.map Wiring.line = some 2 := by
  have hdistinct : DistinctIds sharedEncoder :=
    distinctIds_of_length (show listLength sharedEncoder = 2 by decide +kernel) (by decide +kernel)
  refine ⟨⟨distinctIds_sharedIds, _, whole_sharedIds.parses, ?_⟩, hdistinct, _,
    whole_sharedEncoder.parses, ?_⟩
  · rw [whole_sharedIds.reading_eq]
    decide +kernel
  · rw [whole_sharedEncoder.reading_eq]
    decide +kernel

end GpuI2c.Firmware
