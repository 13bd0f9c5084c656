import Mathlib.Data.Nat.Find
import Mathlib.Order.Nat
import GpuI2c.Firmware.Records
import GpuI2c.Proofs.Firmware.Accepted

/-!
# Finding an object

Where the records of an object start, said about the bytes of an image alone (`RecordsAt`). On a
legacy image they are those of the first entry with the object's id, in the table for its type. On
an image with display paths they are those of the first path with the id, where the encoder of a
path counts before what the path displays.

**The wiring of an object is found by walking the records that start there**, and an object without
records is not found (`i2cInfo_eq`).
-/

namespace GpuI2c.Firmware

/-! ## The first table that passes a test -/

/-- A number that satisfies `P`, as none below it does, is the least one. -/
theorem isLeast_of_forall_lt {P : Nat → Prop} {index : Nat} (hindex : P index)
    (hbefore : ∀ i < index, ¬ P i) : IsLeast {i | P i} index :=
  ⟨hindex, fun i hi => Nat.le_of_not_lt fun hlower => hbefore i hlower hi⟩

theorem find?_range_eq_some_iff {count index : Nat} {test : Nat → Bool} :
    (List.range count).find? test = some index ↔
      IsLeast {i | i < count ∧ test i = true} index := by
  rw [List.find?_range_eq_some, List.mem_range]
  constructor
  · rintro ⟨hindex, hlt, hbefore⟩
    refine isLeast_of_forall_lt ⟨hlt, hindex⟩ fun i hi hpasses => ?_
    have hfalse := hbefore i hi
    rw [hpasses.2] at hfalse
    exact absurd hfalse (by decide)
  · rintro ⟨⟨hlt, hindex⟩, hleast⟩
    refine ⟨hindex, hlt, fun i hi => ?_⟩
    by_contra hfound
    have hle : index ≤ i := hleast ⟨by omega, by simpa using hfound⟩
    omega

/-! ## Tables of an image -/

variable {bytes : Array UInt8}

/-- The table at a place among some bytes. -/
def tableAt (α : Type) [Layout α] (bytes : Array UInt8) (place : Nat) : α :=
  Layout.decode (bytes.extract place (place + Layout.size α))

/-- A table that is not at offset zero is found where it ends strictly inside the declared size. -/
theorem table_of_ne_zero (hfits : declaredSize bytes ≤ bytes.size) {α : Type} [Layout α]
    {place : Nat} (hzero : place ≠ 0) :
    (beginning bytes (declaredSize bytes)).table α place =
      if place + Layout.size α < declaredSize bytes then .ok (tableAt α bytes place)
      else .error (.outOfBounds place (Layout.size α)) := by
  by_cases hinside : place + Layout.size α < declaredSize bytes
  · have hfetch : fetchError (declaredSize bytes) place (Layout.size α) = none :=
      fetchError_eq_none_iff.mpr ⟨hzero, hinside⟩
    rw [table_beginning hfits (hinside.trans (declaredSize_lt_offsetLimit bytes)), hfetch,
      if_pos hinside]
    rfl
  · have hsize : (beginning bytes (declaredSize bytes)).size ≤ place + Layout.size α := by
      rw [size_beginning hfits]
      exact Nat.not_lt.mp hinside
    rw [Span.table, if_neg hzero, Span.slice_of_le hsize, if_neg hinside]
    rfl

/-- A table is found just if it is not at offset zero and ends strictly inside the declared size. -/
theorem table_eq_ok_iff (hfits : declaredSize bytes ≤ bytes.size) {α : Type} [Layout α]
    {place : Nat} {table : α} :
    (beginning bytes (declaredSize bytes)).table α place = .ok table ↔
      place ≠ 0 ∧ place + Layout.size α < declaredSize bytes ∧ tableAt α bytes place = table := by
  by_cases hzero : place = 0
  · rw [Span.table, if_pos hzero]
    constructor
    · intro h
      cases h
    · intro h
      exact (h.1 hzero).elim
  · rw [table_of_ne_zero hfits hzero]
    by_cases hinside : place + Layout.size α < declaredSize bytes
    · rw [if_pos hinside]
      exact ⟨fun h => ⟨hzero, hinside, Except.ok.inj h⟩, fun h => congrArg _ h.2.2⟩
    · rw [if_neg hinside]
      constructor
      · intro h
        cases h
      · intro h
        exact (hinside h.2.1).elim

theorem outside_of_table_eq_error (hfits : declaredSize bytes ≤ bytes.size) {α : Type} [Layout α]
    {place : Nat} {error : FirmwareError}
    (h : (beginning bytes (declaredSize bytes)).table α place = .error error) :
    place = 0 ∨ declaredSize bytes ≤ place + Layout.size α := by
  by_contra hnot
  obtain ⟨hplace, hinside⟩ := not_or.mp hnot
  rw [(table_eq_ok_iff hfits).mpr ⟨hplace, Nat.lt_of_not_le hinside, rfl⟩] at h
  cases h

theorem toOption_eq_some_iff {ε α : Type} {result : Except ε α} {value : α} :
    result.toOption = some value ↔ result = .ok value := by
  cases result with
  | error error => exact ⟨nofun, nofun⟩
  | ok found =>
    exact ⟨fun h => congrArg _ (Option.some.inj h), fun h => congrArg _ (Except.ok.inj h)⟩

/-- Of tables at several places, the first one inside the declared size that passes a test. -/
theorem find?_tables (hfits : declaredSize bytes ≤ bytes.size) {α : Type} [Layout α] {count : Nat}
    {place : Nat → Nat} (hplace : ∀ i, place i ≠ 0) {test : α → Bool} {table : α} :
    ((List.range count).filterMap fun i =>
        ((beginning bytes (declaredSize bytes)).table α (place i)).toOption).find? test =
        some table ↔
      ∃ index, IsLeast {i | i < count ∧ place i + Layout.size α < declaredSize bytes ∧
        test (tableAt α bytes (place i)) = true} index ∧ tableAt α bytes (place index) = table := by
  have hfetch (i : Nat) (found : α) :
      ((beginning bytes (declaredSize bytes)).table α (place i)).toOption = some found ↔
        place i + Layout.size α < declaredSize bytes ∧ tableAt α bytes (place i) = found := by
    rw [toOption_eq_some_iff, table_eq_ok_iff hfits]
    exact and_iff_right (hplace i)
  have hset : {i | i < count ∧ Option.any test
        ((beginning bytes (declaredSize bytes)).table α (place i)).toOption = true} =
      {i | i < count ∧ place i + Layout.size α < declaredSize bytes ∧
        test (tableAt α bytes (place i)) = true} := by
    ext i
    refine and_congr_right fun _ => ?_
    rw [Option.any_eq_true]
    constructor
    · rintro ⟨found, hfound, htest⟩
      obtain ⟨hinside, rfl⟩ := (hfetch i found).mp hfound
      exact ⟨hinside, htest⟩
    · rintro ⟨hinside, htest⟩
      exact ⟨_, (hfetch i _).mpr ⟨hinside, rfl⟩, htest⟩
  rw [List.find?_filterMap, Option.bind_eq_some_iff]
  refine exists_congr fun index => ?_
  rw [find?_range_eq_some_iff, hset, hfetch]
  exact and_congr_right fun hleast => and_iff_right hleast.1.2.1

/-! ## Legacy object tables -/

/-- Where an object header keeps the distance to the table of a type of objects, if there is one.
Generic objects have a table from revision 1.3 on. -/
def tableField? (bytes : Array UInt8) : ObjectType → Option Nat
  | .connector => some 6
  | .router => some 8
  | .encoder => some 10
  | .generic => if 3 ≤ (revisionAt bytes (objectPlace bytes)).minor then some 16 else none
  | .gpu | .unknown => none

/-- Where the table is whose distance is kept in a field of the object header. -/
def tablePlace (bytes : Array UInt8) (field : Nat) : Nat :=
  objectPlace bytes + u16 bytes (objectPlace bytes + field)

/-- Where the entry with the given index of the table at a place is. -/
def entryPlace (table index : Nat) : Nat :=
  table + 4 + index * 8

/-- The entry with the given index of the table at a place has an object's id: it is one of the
table's, lies strictly inside the declared size, and its firmware id decodes to the object's. -/
structure EntryNames (bytes : Array UInt8) (table : Nat) (id : ObjectId) (index : Nat) : Prop where
  counted : index < u8 bytes table
  inside : entryPlace table index + 8 < declaredSize bytes
  named : ObjectId.ofFirmware? (UInt16.ofNat (u16 bytes (entryPlace table index))) = some id

/-! ## Display paths -/

/-- Where the display path with the given index is. -/
def pathPlace (bytes : Array UInt8) (index : Nat) : Nat :=
  objectPlace bytes + 8 + index * 16

/-- The display path with the given index has an object's id in a field: it is one of the image's,
lies strictly inside the declared size, and the firmware id there decodes to the object's. -/
structure PathNames (bytes : Array UInt8) (field : Nat) (id : ObjectId) (index : Nat) : Prop where
  counted : index < u8 bytes (objectPlace bytes + 6)
  inside : pathPlace bytes index + 16 < declaredSize bytes
  named : ObjectId.ofFirmware? (UInt16.ofNat (u16 bytes (pathPlace bytes index + field))) = some id

/-- Where a display path keeps the id of what it displays. -/
def displayField : Nat := 0

/-- Where a display path keeps the id of its encoder. -/
def encoderField : Nat := 4

/-- The display path with the given index is the one of an object. -/
inductive PathOf (bytes : Array UInt8) (id : ObjectId) (index : Nat) : Prop where
  /-- That of an encoder is the first that has it as its encoder. -/
  | encoder (htype : id.objectType = .encoder)
      (hfirst : IsLeast {i | PathNames bytes encoderField id i} index)
  /-- That of any other object, or of an encoder that no path has as its encoder, is the first that
  displays it. -/
  | display (htype : id.objectType = .connector ∨ id.objectType = .generic ∨
        id.objectType = .encoder ∧ ∀ i, ¬ PathNames bytes encoderField id i)
      (hfirst : IsLeast {i | PathNames bytes displayField id i} index)

/-! ## Where records start -/

/-- The records of an object start at a place. -/
inductive RecordsAt (bytes : Array UInt8) (id : ObjectId) : Nat → Prop where
  /-- On a legacy image, those of the first entry with its id in the table for its type. -/
  | entry {field index : Nat} (hlegacy : ¬ IsDisplayImage bytes)
      (hfield : tableField? bytes id.objectType = some field)
      (htable : tablePlace bytes field + 4 < declaredSize bytes)
      (hfirst : IsLeast {i | EntryNames bytes (tablePlace bytes field) id i} index) :
      RecordsAt bytes id
        (objectPlace bytes + u16 bytes (entryPlace (tablePlace bytes field) index + 4))
  /-- On an image with display paths, those of its display path. -/
  | path {index : Nat} (hpaths : IsDisplayImage bytes) (hpath : PathOf bytes id index) :
      RecordsAt bytes id (objectPlace bytes + u16 bytes (pathPlace bytes index + 2))

/-- Where a parsed image has the records of an object. -/
def Context.records (firmware : Context) (id : ObjectId) : Except FirmwareError Nat :=
  match firmware.schema with
  | .objectTables master objects => firmware.image.span.legacyRecords master objects id
  | .displayPaths master objects => firmware.image.span.pathRecords master objects id

/-- Walk the records from a place on, and resolve them as the image does. -/
def Context.walkFrom (firmware : Context) (start : Nat) : Except FirmwareError Wiring :=
  let span := firmware.image.span
  match firmware.schema with
  | .objectTables master _ => span.walkRecords (span.resolveLine master) start none
  | .displayPaths master _ => span.walkRecords (span.resolvePin master) start none

theorem i2cInfo_eq_bind (firmware : Context) (id : ObjectId) :
    firmware.i2cInfo id = firmware.records id >>= firmware.walkFrom := by
  unfold Context.i2cInfo Context.records Context.walkFrom
  cases firmware.schema <;> rfl

/-! ## Looking up legacy tables -/

/-- A number inside a table, as the table holds it. -/
theorem wordAt_extract (bytes : Array UInt8) (start : Nat) {length place : Nat}
    (h : place + 1 < length) :
    Layout.wordAt (bytes.extract start (start + length)) place =
      UInt16.ofNat (u16 bytes (start + place)) := by
  rw [← toNat_wordAt_extract bytes start h, UInt16.ofNat_toNat]

/-- The distances in an object header of either revision. -/
theorem toNat_tableFor? (bytes : Array UInt8) (objectType : ObjectType) :
    ((if (revisionAt bytes (objectPlace bytes)).minor ≤ 2 then
        LegacyObjects.plain (tableAt ObjectHeader bytes (objectPlace bytes))
      else .withMisc (tableAt ObjectHeaderWithMisc bytes (objectPlace bytes))).tableFor?
        objectType).map UInt16.toNat =
      (tableField? bytes objectType).map fun field => u16 bytes (objectPlace bytes + field) := by
  by_cases hplain : (revisionAt bytes (objectPlace bytes)).minor ≤ 2
  · rw [if_pos hplain]
    cases objectType with
    | generic =>
      rw [tableField?, if_neg fun h => three_le_iff.mp h hplain]
      rfl
    | connector | router | encoder => exact congrArg some (toNat_wordAt_extract bytes _ (by decide))
    | gpu | unknown => rfl
  · rw [if_neg hplain]
    cases objectType with
    | generic =>
      rw [tableField?, if_pos (three_le_iff.mpr hplain)]
      exact congrArg some (toNat_wordAt_extract bytes _ (by decide))
    | connector | router | encoder => exact congrArg some (toNat_wordAt_extract bytes _ (by decide))
    | gpu | unknown => rfl

/-- The schema of a legacy image, and the distances to its object tables. -/
theorem schema_of_legacy (hlegacy : ¬ IsDisplayImage bytes) : ∃ objects,
    (reading bytes).schema =
        .objectTables (tableAt LegacyMasterList bytes (masterPlace bytes)) objects ∧
      ∀ objectType, (objects.tableFor? objectType).map UInt16.toNat =
        (tableField? bytes objectType).map fun field => u16 bytes (objectPlace bytes + field) :=
  ⟨_, if_neg hlegacy, toNat_tableFor? bytes⟩

/-- The schema of an image with display paths. -/
theorem schema_of_display (hdisplay : IsDisplayImage bytes) :
    (reading bytes).schema = .displayPaths (tableAt DisplayMasterList bytes (masterPlace bytes))
      (tableAt DisplayObjectInfo bytes (objectPlace bytes)) :=
  if_pos hdisplay

theorem toNat_objectHeader (bytes : Array UInt8) :
    (tableAt LegacyMasterList bytes (masterPlace bytes)).objectHeader.toNat = objectPlace bytes :=
  toNat_wordAt_extract bytes _ (by decide)

theorem toNat_displayObjectInfo (bytes : Array UInt8) :
    (tableAt DisplayMasterList bytes (masterPlace bytes)).displayObjectInfo.toNat =
      objectPlace bytes :=
  toNat_wordAt_extract bytes _ (by decide)

theorem toNat_numberOfPath (bytes : Array UInt8) :
    (tableAt DisplayObjectInfo bytes (objectPlace bytes)).numberOfPath.toNat =
      u8 bytes (objectPlace bytes + 6) :=
  congrArg UInt8.toNat (byteAt_extract bytes _ (by decide))

theorem toNat_count (bytes : Array UInt8) (place : Nat) :
    (tableAt ObjectTableHeader bytes place).count.toNat = u8 bytes place :=
  congrArg UInt8.toNat (byteAt_extract bytes _ (by decide))

theorem objectId_tableAt (bytes : Array UInt8) (place : Nat) :
    (tableAt ObjectEntry bytes place).objectId = UInt16.ofNat (u16 bytes place) :=
  wordAt_extract bytes _ (by decide)

/-- The header of a legacy table is found where it lies inside the declared size. -/
theorem objectTable_eq (h : Accepted bytes) {master : LegacyMasterList}
    (hmaster : master.objectHeader.toNat = objectPlace bytes) {distance : UInt16} {field : Nat}
    (hdistance : distance.toNat = u16 bytes (objectPlace bytes + field)) :
    (beginning bytes (declaredSize bytes)).objectTable master distance =
      if tablePlace bytes field + 4 < declaredSize bytes then
        .ok (tablePlace bytes field, tableAt ObjectTableHeader bytes (tablePlace bytes field))
      else .error (.outOfBounds (tablePlace bytes field) 4) := by
  have hzero : tablePlace bytes field ≠ 0 := by
    have hobjects := h.objectPlace_ne_zero
    rw [tablePlace]
    omega
  have hheader : (beginning bytes (declaredSize bytes)).table ObjectTableHeader
      (tablePlace bytes field) =
      if tablePlace bytes field + 4 < declaredSize bytes then
        .ok (tableAt ObjectTableHeader bytes (tablePlace bytes field))
      else .error (.outOfBounds (tablePlace bytes field) 4) :=
    table_of_ne_zero h.fits hzero
  rw [Span.objectTable, hmaster, hdistance]
  show (do
    let header ← (beginning bytes (declaredSize bytes)).table ObjectTableHeader
      (tablePlace bytes field)
    return (tablePlace bytes field, header)) = _
  rw [hheader]
  split <;> rfl

/-- An entry of a legacy table, by what stands in its bytes. -/
theorem find?_entries (h : Accepted bytes) (id : ObjectId) {field : Nat} {entry : ObjectEntry} :
    ((List.range (u8 bytes (tablePlace bytes field))).filterMap fun index =>
        ((beginning bytes (declaredSize bytes)).objectEntry (tablePlace bytes field)
          index).toOption).find?
        (fun entry => decide (ObjectId.ofFirmware? entry.objectId = some id)) = some entry ↔
      ∃ index, IsLeast {i | EntryNames bytes (tablePlace bytes field) id i} index ∧
        tableAt ObjectEntry bytes (entryPlace (tablePlace bytes field) index) = entry := by
  have hplace (i : Nat) : entryPlace (tablePlace bytes field) i ≠ 0 := by
    rw [entryPlace]
    omega
  have hset : {i | EntryNames bytes (tablePlace bytes field) id i} =
      {i | i < u8 bytes (tablePlace bytes field) ∧
        entryPlace (tablePlace bytes field) i + Layout.size ObjectEntry < declaredSize bytes ∧
        decide (ObjectId.ofFirmware? (tableAt ObjectEntry bytes
          (entryPlace (tablePlace bytes field) i)).objectId = some id) = true} := by
    ext i
    show EntryNames bytes (tablePlace bytes field) id i ↔ _ ∧ _ ∧ decide _ = true
    rw [objectId_tableAt, decide_eq_true_iff]
    exact ⟨fun hi => ⟨hi.counted, hi.inside, hi.named⟩, fun hi => ⟨hi.1, hi.2.1, hi.2.2⟩⟩
  rw [hset]
  exact find?_tables h.fits hplace

/-- Where a legacy image has the records of an object. -/
theorem legacyRecords_eq_ok_iff (h : Accepted bytes) (hlegacy : ¬ IsDisplayImage bytes)
    {master : LegacyMasterList} (hmaster : master.objectHeader.toNat = objectPlace bytes)
    {objects : LegacyObjects} (htables : ∀ objectType,
      (objects.tableFor? objectType).map UInt16.toNat =
        (tableField? bytes objectType).map fun field => u16 bytes (objectPlace bytes + field))
    {id : ObjectId} {start : Nat} :
    (beginning bytes (declaredSize bytes)).legacyRecords master objects id = .ok start ↔
      RecordsAt bytes id start := by
  have hoffset (place : Nat) : (tableAt ObjectEntry bytes place).recordOffset.toNat =
      u16 bytes (place + 4) := toNat_wordAt_extract bytes _ (by decide)
  have hdistance := htables id.objectType
  rw [Span.legacyRecords]
  constructor
  · intro hstart
    cases hfield : tableField? bytes id.objectType with
    | none =>
      rw [hfield] at hdistance
      rw [Option.map_eq_none_iff.mp hdistance] at hstart
      cases hstart
    | some field =>
      rw [hfield] at hdistance
      obtain ⟨distance, htable, hdistance⟩ := Option.map_eq_some_iff.mp hdistance
      rw [htable] at hstart
      dsimp only at hstart
      rw [objectTable_eq h hmaster hdistance] at hstart
      by_cases hinside : tablePlace bytes field + 4 < declaredSize bytes
      · rw [if_pos hinside] at hstart
        dsimp only at hstart
        rw [toNat_count] at hstart
        split at hstart
        · cases hstart
        · next entry hfound =>
          obtain ⟨index, hfirst, rfl⟩ := (find?_entries h id).mp hfound
          rw [hmaster, hoffset] at hstart
          obtain rfl := Except.ok.inj hstart
          exact .entry hlegacy hfield hinside hfirst
      · rw [if_neg hinside] at hstart
        cases hstart
  · intro hrecords
    cases hrecords with
    | path hpaths => exact (hlegacy hpaths).elim
    | @entry field index _ hfield hinside hfirst =>
      rw [hfield] at hdistance
      obtain ⟨distance, htable, hdistance⟩ := Option.map_eq_some_iff.mp hdistance
      rw [htable]
      dsimp only
      rw [objectTable_eq h hmaster hdistance, if_pos hinside]
      dsimp only
      rw [toNat_count, (find?_entries h id).mpr ⟨index, hfirst, rfl⟩]
      dsimp only
      rw [hmaster, hoffset]

/-! ## Looking up display paths -/

/-- The first display path that has an object's id in a field. -/
theorem find?_paths (h : Accepted bytes) (id : ObjectId) {master : DisplayMasterList}
    (hmaster : master.displayObjectInfo.toNat = objectPlace bytes) {objects : DisplayObjectInfo}
    (hcount : objects.numberOfPath.toNat = u8 bytes (objectPlace bytes + 6))
    (select : DisplayPath → UInt16) {field : Nat} (hselect : ∀ place,
      select (tableAt DisplayPath bytes place) = UInt16.ofNat (u16 bytes (place + field)))
    (path : DisplayPath) :
    ((beginning bytes (declaredSize bytes)).displayPaths master objects).find?
        (fun path => decide (ObjectId.ofFirmware? (select path) = some id)) = some path ↔
      ∃ index, IsLeast {i | PathNames bytes field id i} index ∧
        tableAt DisplayPath bytes (pathPlace bytes index) = path := by
  have hplace (i : Nat) : pathPlace bytes i ≠ 0 := by
    rw [pathPlace]
    omega
  have hset : {i | PathNames bytes field id i} =
      {i | i < u8 bytes (objectPlace bytes + 6) ∧
        pathPlace bytes i + Layout.size DisplayPath < declaredSize bytes ∧
        decide (ObjectId.ofFirmware? (select (tableAt DisplayPath bytes (pathPlace bytes i))) =
          some id) = true} := by
    ext i
    show PathNames bytes field id i ↔ _ ∧ _ ∧ decide _ = true
    rw [hselect, decide_eq_true_iff]
    exact ⟨fun hi => ⟨hi.counted, hi.inside, hi.named⟩, fun hi => ⟨hi.1, hi.2.1, hi.2.2⟩⟩
  rw [hset, Span.displayPaths, hcount]
  simp only [Span.displayPath, hmaster]
  exact find?_tables h.fits hplace

/-- There is no first path with an object's id in a field just if no path has it there. -/
theorem find?_eq_none_iff_of_first {paths : List DisplayPath} {test : DisplayPath → Bool}
    {field : Nat} {id : ObjectId} (hfirst : ∀ path, paths.find? test = some path ↔
      ∃ index, IsLeast {i | PathNames bytes field id i} index ∧
        tableAt DisplayPath bytes (pathPlace bytes index) = path) :
    paths.find? test = none ↔ ∀ i, ¬ PathNames bytes field id i := by
  classical
  constructor
  · intro hnone i hi
    have hfound := (hfirst _).mpr ⟨_, Nat.isLeast_find ⟨i, hi⟩, rfl⟩
    rw [hnone] at hfound
    cases hfound
  · intro hnames
    cases hfound : paths.find? test with
    | none => rfl
    | some path =>
      obtain ⟨index, hleast, -⟩ := (hfirst path).mp hfound
      exact (hnames index hleast.1).elim

/-- The display path of an object. -/
theorem displayPath_find?_eq_some_iff (h : Accepted bytes) (id : ObjectId)
    {master : DisplayMasterList} (hmaster : master.displayObjectInfo.toNat = objectPlace bytes)
    {objects : DisplayObjectInfo}
    (hcount : objects.numberOfPath.toNat = u8 bytes (objectPlace bytes + 6)) (path : DisplayPath) :
    DisplayPath.find? ((beginning bytes (declaredSize bytes)).displayPaths master objects) id =
        some path ↔
      ∃ index, PathOf bytes id index ∧
        tableAt DisplayPath bytes (pathPlace bytes index) = path := by
  have hencoder := find?_paths h id hmaster hcount DisplayPath.encoderObject
    (show ∀ place, _ = UInt16.ofNat (u16 bytes (place + encoderField)) from
      fun place => wordAt_extract bytes place (by decide))
  have hdisplay := find?_paths h id hmaster hcount DisplayPath.displayObject
    (show ∀ place, _ = UInt16.ofNat (u16 bytes (place + displayField)) from
      fun place => wordAt_extract bytes place (by decide))
  have hnone := find?_eq_none_iff_of_first hencoder
  rw [DisplayPath.find?]
  cases htype : id.objectType with
  | encoder =>
    dsimp only
    rw [Option.or_eq_some_iff, hencoder, hdisplay, hnone]
    constructor
    · rintro (⟨index, hfirst, rfl⟩ | ⟨hnames, index, hfirst, rfl⟩)
      · exact ⟨index, .encoder htype hfirst, rfl⟩
      · exact ⟨index, .display (.inr (.inr ⟨htype, hnames⟩)) hfirst, rfl⟩
    · rintro ⟨index, ⟨-, hfirst⟩ | ⟨hcase, hfirst⟩, rfl⟩
      · exact .inl ⟨index, hfirst, rfl⟩
      · simp only [htype, reduceCtorEq, false_or, true_and] at hcase
        exact .inr ⟨hcase, index, hfirst, rfl⟩
  | connector | generic =>
    dsimp only
    rw [hdisplay]
    constructor
    · rintro ⟨index, hfirst, rfl⟩
      exact ⟨index, .display (by simp [htype]) hfirst, rfl⟩
    · rintro ⟨index, ⟨hcase, -⟩ | ⟨-, hfirst⟩, rfl⟩
      · rw [htype] at hcase
        cases hcase
      · exact ⟨index, hfirst, rfl⟩
  | gpu | router | unknown =>
    refine ⟨nofun, ?_⟩
    rintro ⟨index, ⟨hcase, -⟩ | ⟨hcase, -⟩, -⟩ <;> simp [htype] at hcase

/-- Where an image with display paths has the records of an object. -/
theorem pathRecords_eq_ok_iff (h : Accepted bytes) (hpaths : IsDisplayImage bytes)
    {master : DisplayMasterList} (hmaster : master.displayObjectInfo.toNat = objectPlace bytes)
    {objects : DisplayObjectInfo}
    (hcount : objects.numberOfPath.toNat = u8 bytes (objectPlace bytes + 6)) {id : ObjectId}
    {start : Nat} :
    (beginning bytes (declaredSize bytes)).pathRecords master objects id = .ok start ↔
      RecordsAt bytes id start := by
  have hoffset (index : Nat) : (tableAt DisplayPath bytes
      (pathPlace bytes index)).displayRecordOffset.toNat = u16 bytes (pathPlace bytes index + 2) :=
    toNat_wordAt_extract bytes _ (by decide)
  have hfind := displayPath_find?_eq_some_iff h id hmaster hcount
  rw [Span.pathRecords]
  constructor
  · intro hstart
    split at hstart
    · cases hstart
    · next path hfound =>
      obtain ⟨index, hpath, rfl⟩ := (hfind path).mp hfound
      rw [hmaster, hoffset] at hstart
      obtain rfl := Except.ok.inj hstart
      exact .path hpaths hpath
  · intro hrecords
    cases hrecords with
    | entry hlegacy => exact (hlegacy hpaths).elim
    | @path index _ hpath =>
      rw [(hfind _).mpr ⟨index, hpath, rfl⟩]
      dsimp only
      rw [hmaster, hoffset]

/-! ## The wiring of an object -/

/-- Where a parsed image has the records of an object, by its bytes. -/
theorem records_eq_ok_iff {firmware : Context} (h : Context.ofBytes bytes = .ok firmware)
    {id : ObjectId} {start : Nat} :
    firmware.records id = .ok start ↔ RecordsAt bytes id start := by
  obtain ⟨haccepted, rfl⟩ := ofBytes_eq_ok_iff.mp h
  rw [Context.records]
  by_cases hdisplay : IsDisplayImage bytes
  · rw [schema_of_display hdisplay]
    exact pathRecords_eq_ok_iff haccepted hdisplay (toNat_displayObjectInfo bytes)
      (toNat_numberOfPath bytes)
  · obtain ⟨objects, hschema, htables⟩ := schema_of_legacy hdisplay
    rw [hschema]
    exact legacyRecords_eq_ok_iff haccepted hdisplay (toNat_objectHeader bytes) htables

theorem eq_objectNotFound_of_records {firmware : Context} {id : ObjectId} {error : FirmwareError}
    (h : firmware.records id = .error error) : error = .objectNotFound := by
  rw [Context.records] at h
  split at h
  · rw [Span.legacyRecords] at h
    split at h
    · exact (Except.error.inj h).symm
    · split at h
      · exact (Except.error.inj h).symm
      · dsimp only at h
        split at h
        · exact (Except.error.inj h).symm
        · cases h
  · rw [Span.pathRecords] at h
    split at h
    · exact (Except.error.inj h).symm
    · cases h

/-- **The wiring of an object is found by walking its records.** Where the bytes of an image have
records for an object, its wiring is what the walk from there finds; where they have none, the
object is not found. -/
theorem i2cInfo_eq {firmware : Context} (h : Context.ofBytes bytes = .ok firmware)
    (id : ObjectId) :
    (∀ start, RecordsAt bytes id start → firmware.i2cInfo id = firmware.walkFrom start) ∧
      ((∀ start, ¬ RecordsAt bytes id start) → firmware.i2cInfo id = .error .objectNotFound) := by
  rw [i2cInfo_eq_bind]
  constructor
  · intro start hrecords
    rw [(records_eq_ok_iff h).mpr hrecords]
    rfl
  · intro hnone
    cases hrecords : firmware.records id with
    | ok start => exact (hnone start ((records_eq_ok_iff h).mp hrecords)).elim
    | error error =>
      rw [eq_objectNotFound_of_records hrecords]
      rfl

/-- Records of a legacy image are walked with its GPIO table. -/
theorem walkFrom_of_legacy (hlegacy : ¬ IsDisplayImage bytes) (start : Nat) :
    (reading bytes).walkFrom start = (beginning bytes (declaredSize bytes)).walkRecords
      ((beginning bytes (declaredSize bytes)).resolveLine
        (tableAt LegacyMasterList bytes (masterPlace bytes))) start none := by
  obtain ⟨objects, hschema, -⟩ := schema_of_legacy hlegacy
  rw [Context.walkFrom, hschema]
  rfl

/-- The one connector of an image, and a GPU, which no table lists. -/
theorem i2cInfo_eq_oneConnector :
    ∃ firmware, Context.ofBytes oneConnector = .ok firmware ∧
      firmware.i2cInfo ⟨19, 1, .connector⟩ = firmware.walkFrom 0x140 ∧
      (firmware.walkFrom 0x140).toOption.map Wiring.line = some 3 ∧
      firmware.i2cInfo ⟨1, 1, .gpu⟩ = .error .objectNotFound := by
  have hlegacy : ¬ IsDisplayImage oneConnector := by
    decide +kernel
  have hnamed : EntryNames oneConnector (tablePlace oneConnector 6) ⟨19, 1, .connector⟩ 0 :=
    ⟨by decide +kernel, by decide +kernel, by decide +kernel⟩
  have hstart : objectPlace oneConnector +
      u16 oneConnector (entryPlace (tablePlace oneConnector 6) 0 + 4) = 0x140 := by
    decide +kernel
  have hrecords : RecordsAt oneConnector ⟨19, 1, .connector⟩ 0x140 := by
    rw [← hstart]
    exact .entry hlegacy rfl (by decide +kernel) ⟨hnamed, fun _ _ => Nat.zero_le _⟩
  have hnone : ∀ start, ¬ RecordsAt oneConnector ⟨1, 1, .gpu⟩ start := by
    rintro start (⟨-, hfield, -⟩ | ⟨hpaths, -⟩)
    · cases hfield
    · exact hlegacy hpaths
  have hline : ((reading oneConnector).walkFrom 0x140).toOption.map Wiring.line = some 3 := by
    rw [walkFrom_of_legacy hlegacy, whole_oneConnector.beginning_eq]
    decide +kernel
  have hparse := whole_oneConnector.parses
  exact ⟨_, hparse, (i2cInfo_eq hparse _).1 _ hrecords, hline, (i2cInfo_eq hparse _).2 hnone⟩

end GpuI2c.Firmware
