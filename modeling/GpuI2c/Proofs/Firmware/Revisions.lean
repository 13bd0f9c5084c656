import GpuI2c.Proofs.Firmware.Clock
import GpuI2c.Proofs.Firmware.Gpio

/-!
# What hangs on revisions

Only the lower six bits of the two revision bytes of a table count, the upper two are reserved.
Parsing and the clock keep to this: two images that agree in the bytes that are read of them and in
the lower six bits of their revisions parse alike, have the same layouts, and have the same clock
(`AlikeInSixBits`).

The GPIO tables do not: a table is refused if the whole byte of its content revision is not one
(`RefusesTable`), so a reserved bit that is set is enough. Where a table is refused, no line and no
I2C record resolves, and looking for the wiring of an object ends in `unsupported` just if its list
of records comes to an end and holds an I2C record. `reserved_bits_decide` says both.
-/

namespace GpuI2c.Firmware

/-! ## Parsing and the clock -/

/-- The layouts that the tables of an image may have. -/
inductive SchemaLayout where
  | plainObjects
  | objectsWithMisc
  | displayPaths
  deriving DecidableEq

/-- The layouts that a schema stands for. -/
def Schema.layout : Schema → SchemaLayout
  | .objectTables _ (.plain _) => .plainObjects
  | .objectTables _ (.withMisc _) => .objectsWithMisc
  | .displayPaths .. => .displayPaths

/-- The first places and lengths of the runs of bytes that parsing and the clock go by, revisions
aside: the signatures and the size, where the tables are, and the clock itself. -/
def readRuns (bytes : Array UInt8) : List (Nat × Nat) :=
  [(0, 2), (2, 1), (0x30, 10), (0x48, 2), (romPlace bytes + 4, 4), (romPlace bytes + 32, 2),
    (masterPlace bytes + 12, 2), (masterPlace bytes + 48, 2), (masterPlace bytes + 58, 2),
    (infoPlace bytes + 82, 2), (dcePlace bytes + 12, 2)]

/-- Two images of one size that agree in the bytes that parsing and the clock go by, and in the
lower six bits of the revisions of their ROM header, object info and firmware info. -/
structure AlikeInSixBits (a b : Array UInt8) : Prop where
  size_eq : a.size = b.size
  extract_eq : ∀ run ∈ readRuns a,
    a.extract run.1 (run.1 + run.2) = b.extract run.1 (run.1 + run.2)
  revision_eq : ∀ table ∈ [romPlace a, objectPlace a, infoPlace a],
    revisionAt a table = revisionAt b table

theorem layout_reading (bytes : Array UInt8) :
    (reading bytes).schema.layout =
      if IsDisplayImage bytes then .displayPaths
      else if (revisionAt bytes (objectPlace bytes)).minor ≤ 2 then .plainObjects
      else .objectsWithMisc := by
  rw [reading, schemaOf]
  by_cases hdisplay : IsDisplayImage bytes
  · rw [if_pos hdisplay, if_pos hdisplay]
    rfl
  · rw [if_neg hdisplay, if_neg hdisplay]
    by_cases hplain : (revisionAt bytes (objectPlace bytes)).minor ≤ 2
    · rw [if_pos hplain, if_pos hplain]
      rfl
    · rw [if_neg hplain, if_neg hplain]
      rfl

namespace AlikeInSixBits

variable {a b : Array UInt8} (h : AlikeInSixBits a b)
include h

theorem u16_eq {place : Nat} (hplace : (place, 2) ∈ readRuns a) : u16 a place = u16 b place := by
  have hrun : a.extract place (place + 2) = b.extract place (place + 2) := h.extract_eq _ hplace
  have hnumber (bytes : Array UInt8) :
      (Layout.wordAt (bytes.extract place (place + 2)) 0).toNat = u16 bytes place :=
    toNat_wordAt_extract bytes place (by decide)
  rw [← hnumber a, hrun, hnumber b]

theorem declaredSize_eq : declaredSize a = declaredSize b := by
  have hrun : a.extract 2 3 = b.extract 2 3 := h.extract_eq (2, 1) (by simp [readRuns])
  have hunits (bytes : Array UInt8) :
      (Layout.byteAt (bytes.extract 2 (2 + 1)) 0).toNat = u8 bytes 2 :=
    congrArg UInt8.toNat (byteAt_extract bytes 2 (by decide))
  rw [declaredSize, declaredSize, ← hunits a, hrun, hunits b]

theorem romPlace_eq : romPlace a = romPlace b :=
  h.u16_eq (by simp [readRuns])

theorem masterPlace_eq : masterPlace a = masterPlace b := by
  rw [masterPlace, masterPlace, ← h.romPlace_eq]
  exact h.u16_eq (by simp [readRuns])

theorem objectPlace_eq : objectPlace a = objectPlace b := by
  rw [objectPlace, objectPlace, ← h.masterPlace_eq]
  exact h.u16_eq (by simp [readRuns])

theorem infoPlace_eq : infoPlace a = infoPlace b := by
  rw [infoPlace, infoPlace, ← h.masterPlace_eq]
  exact h.u16_eq (by simp [readRuns])

theorem dcePlace_eq : dcePlace a = dcePlace b := by
  rw [dcePlace, dcePlace, ← h.masterPlace_eq]
  exact h.u16_eq (by simp [readRuns])

theorem romRevision_eq : revisionAt a (romPlace a) = revisionAt b (romPlace b) := by
  rw [← h.romPlace_eq]
  exact h.revision_eq _ (by simp)

theorem objectRevision_eq : revisionAt a (objectPlace a) = revisionAt b (objectPlace b) := by
  rw [← h.objectPlace_eq]
  exact h.revision_eq _ (by simp)

theorem infoRevision_eq : infoRevision a = infoRevision b := by
  rw [infoRevision, infoRevision, ← h.infoPlace_eq]
  exact h.revision_eq _ (by simp)

theorem isDisplayImage_iff : IsDisplayImage a ↔ IsDisplayImage b := by
  rw [IsDisplayImage, IsDisplayImage, h.romRevision_eq]

theorem bearsSignatures_iff : BearsSignatures a ↔ BearsSignatures b := by
  have hvendor : a.extract 0x30 0x3A = b.extract 0x30 0x3A :=
    h.extract_eq (0x30, 10) (by simp [readRuns])
  have hatom : a.extract (romPlace a + 4) (romPlace a + 8) =
      b.extract (romPlace a + 4) (romPlace a + 8) :=
    h.extract_eq (romPlace a + 4, 4) (by simp [readRuns])
  have hmagic : u16 a 0 = u16 b 0 := h.u16_eq (by simp [readRuns])
  rw [BearsSignatures, BearsSignatures, h.size_eq, hmagic, hvendor, hatom, h.romPlace_eq]

/-- The same is wrong with both images. -/
theorem failures_eq : failures a = failures b := by
  rw [failures, h.objectRevision_eq]
  simp only [failures, h.bearsSignatures_iff, h.size_eq, h.declaredSize_eq, h.romPlace_eq,
    h.masterPlace_eq, h.objectPlace_eq, h.isDisplayImage_iff]

/-- So the one parses if the other does, and otherwise for the same reason. -/
theorem ofBytes_eq_error_iff (error : FirmwareError) :
    Context.ofBytes a = .error error ↔ Context.ofBytes b = .error error := by
  rw [Context.ofBytes_eq, Context.ofBytes_eq, h.failures_eq]
  cases (failures b).findSome? id with
  | none => exact ⟨nofun, nofun⟩
  | some failure => exact Iff.rfl

theorem layout_eq : (reading a).schema.layout = (reading b).schema.layout := by
  rw [layout_reading, layout_reading, h.objectRevision_eq]
  simp only [h.isDisplayImage_iff]

theorem clock_eq : clock a = clock b := by
  have hown : u16 a (infoPlace a + 82) = u16 b (infoPlace a + 82) :=
    h.u16_eq (by simp [readRuns])
  have hdce : u16 a (dcePlace a + 12) = u16 b (dcePlace a + 12) :=
    h.u16_eq (by simp [readRuns])
  rw [clock, clock, ← h.infoRevision_eq, ← h.infoPlace_eq, ← h.dcePlace_eq]
  by_cases hdefers : (infoRevision a).DefersClock
  · rw [if_pos hdefers, hdce]
  · rw [if_neg hdefers, hown]

theorem clockError_eq : clockError a = clockError b := by
  simp only [clockError, clockTableError, h.declaredSize_eq, h.infoPlace_eq, h.infoRevision_eq,
    h.dcePlace_eq, h.isDisplayImage_iff]

end AlikeInSixBits

/-! ## GPIO tables -/

variable {bytes : Array UInt8} {firmware : Context}

/-- A table at a place is refused for its revision, if its entries have `size` bytes: the header is
there and states room for an entry, but the lower six bits of the content revision are not one, or
one of the reserved bits is set. -/
structure RefusesTable (bytes : Array UInt8) (table size : Nat) : Prop where
  table_ne_zero : table ≠ 0
  header : table + 4 < declaredSize bytes
  room : 4 + size ≤ u16 bytes table
  revision : (revisionAt bytes table).minor ≠ 1 ∨ 64 ≤ u8 bytes (table + 3)

/-- The GPIO table of an image is refused. -/
inductive RefusesGpio (bytes : Array UInt8) : Prop where
  /-- The one of lines, on a legacy image. -/
  | lines (hlegacy : ¬ IsDisplayImage bytes) (htable : RefusesTable bytes (gpioPlace bytes) 27)
  /-- The one of pins, on an image with display paths. -/
  | pins (hdisplay : IsDisplayImage bytes) (htable : RefusesTable bytes (lutPlace bytes) 8)

theorem refusesGpio_of_legacy (hlegacy : ¬ IsDisplayImage bytes) :
    RefusesGpio bytes ↔ RefusesTable bytes (gpioPlace bytes) 27 := by
  refine ⟨?_, .lines hlegacy⟩
  rintro (⟨-, htable⟩ | ⟨hdisplay, -⟩)
  · exact htable
  · exact (hlegacy hdisplay).elim

theorem refusesGpio_of_display (hdisplay : IsDisplayImage bytes) :
    RefusesGpio bytes ↔ RefusesTable bytes (lutPlace bytes) 8 := by
  refine ⟨?_, .pins hdisplay⟩
  rintro (⟨hlegacy, -⟩ | ⟨-, htable⟩)
  · exact (hlegacy hdisplay).elim
  · exact htable

/-- A whole revision byte is one just if its lower six bits are, and no other bit is set. -/
theorem revision_refused_iff (table : Nat) :
    (revisionAt bytes table).minor ≠ 1 ∨ 64 ≤ u8 bytes (table + 3) ↔
      u8 bytes (table + 3) ≠ 1 := by
  have hbyte : u8 bytes (table + 3) < 256 := (bytes.getD (table + 3) 0).toNat_lt
  have hlow : (revisionAt bytes table).minor = 1 ↔ u8 bytes (table + 3) % 64 = 1 := by
    have hminor : (revisionAt bytes table).minor.toNat = u8 bytes (table + 3) % 64 := by
      show (UInt8.ofNat (u8 bytes (table + 3) % 64)).toNat = _
      rw [UInt8.toNat_ofNat']
      omega
    rw [← UInt8.toNat_inj, hminor]
    rfl
  rw [ne_eq, hlow]
  omega

/-- The entries of a table are not counted for its revision just if it is refused. -/
theorem entryCount_eq_unsupported_iff (hfits : declaredSize bytes ≤ bytes.size)
    {table size : Nat} :
    (beginning bytes (declaredSize bytes)).entryCount table size = .error .unsupported ↔
      RefusesTable bytes table size := by
  rw [entryCount_eq hfits]
  constructor
  · intro h
    split_ifs at h with hout hshort hknown
    · cases h
    · cases h
    · obtain ⟨hplace, hinside⟩ := not_or.mp hout
      exact ⟨hplace, Nat.not_le.mp hinside, Nat.not_lt.mp hshort,
        (revision_refused_iff table).mpr hknown⟩
  · rintro ⟨hplace, hinside, hroom, hrevision⟩
    rw [if_neg (not_or.mpr ⟨hplace, Nat.not_le.mpr hinside⟩), if_neg (Nat.not_lt.mpr hroom),
      if_neg ((revision_refused_iff table).mp hrevision)]

/-- Looking up a line is refused just if its table is. -/
theorem gpioAssignment_eq_unsupported_iff (hfits : declaredSize bytes ≤ bytes.size)
    (line : UInt8) :
    (beginning bytes (declaredSize bytes)).gpioAssignment
        (tableAt LegacyMasterList bytes (masterPlace bytes)) line = .error .unsupported ↔
      RefusesTable bytes (gpioPlace bytes) 27 := by
  rw [Span.gpioAssignment, toNat_gpioI2cInfo, ← entryCount_eq_unsupported_iff hfits]
  refine bind_eq_error_iff_left fun count h => ?_
  split at h
  · split at h <;> cases h
  · cases h

/-- No I2C record resolves if the GPIO table is refused, and none is refused otherwise. -/
theorem resolve_eq_unsupported_iff (hfits : declaredSize bytes ≤ bytes.size)
    (record : I2cRecord) :
    (reading bytes).resolve record = .error .unsupported ↔ RefusesGpio bytes := by
  by_cases hdisplay : IsDisplayImage bytes
  · rw [refusesGpio_of_display hdisplay, Context.resolve, schema_of_display hdisplay]
    dsimp only
    rw [Span.resolvePin, toNat_gpioPinLut, ← entryCount_eq_unsupported_iff hfits]
    refine bind_eq_error_iff_left fun count h => ?_
    split at h <;> cases h
  · obtain ⟨objects, hschema, -⟩ := schema_of_legacy hdisplay
    rw [refusesGpio_of_legacy hdisplay, Context.resolve, hschema]
    dsimp only
    rw [Span.resolveLine, ← gpioAssignment_eq_unsupported_iff hfits]
    exact bind_eq_error_iff_left fun _ h => by cases h

/-- The query for a line is refused just if its table is, or the image has no lines. -/
theorem gpioInfo_eq_unsupported_iff (hfits : declaredSize bytes ≤ bytes.size) (line : UInt8) :
    (reading bytes).gpioInfo line = .error .unsupported ↔
      IsDisplayImage bytes ∨ RefusesGpio bytes := by
  by_cases hdisplay : IsDisplayImage bytes
  · rw [Context.gpioInfo, schema_of_display hdisplay]
    exact iff_of_true rfl (.inl hdisplay)
  · obtain ⟨objects, hschema, -⟩ := schema_of_legacy hdisplay
    rw [refusesGpio_of_legacy hdisplay, Context.gpioInfo, hschema, or_iff_right hdisplay]
    dsimp only
    rw [← gpioAssignment_eq_unsupported_iff hfits]
    exact bind_eq_error_iff_left fun _ h => by cases h

/-! ## Objects -/

/-- The records from a place on come to the end of their list at the one with the given index, and
an I2C record is among those before. -/
structure RunsOut (bytes : Array UInt8) (resolve : I2cRecord → Except FirmwareError Wiring)
    (start index : Nat) : Prop where
  before : ∀ earlier < index, Passes bytes resolve (recordPlace bytes start earlier)
  place_ne_zero : recordPlace bytes start index ≠ 0
  inside : recordPlace bytes start index + 2 < declaredSize bytes
  ended : u8 bytes (recordPlace bytes start index) = 0xFF ∨
    u8 bytes (recordPlace bytes start index + 1) = 0
  record : ∃ earlier < index, IsI2cRecord bytes (recordPlace bytes start earlier)

section

variable {resolve : I2cRecord → Except FirmwareError Wiring} {error : FirmwareError}

theorem failureAt_eq_some_iff {place : Nat} :
    failureAt bytes resolve place = some error ↔
      IsI2cRecord bytes place ∧ resolve (tableAt I2cRecord bytes place) = .error error := by
  rw [failureAt]
  by_cases hrecord : IsI2cRecord bytes place
  · rw [if_pos hrecord]
    cases resolve (tableAt I2cRecord bytes place) with
    | ok wiring =>
      constructor
      · intro h
        cases h
      · rintro ⟨-, h⟩
        cases h
    | error other =>
      exact ⟨fun h => ⟨hrecord, congrArg _ (Option.some.inj h)⟩,
        fun h => congrArg _ (Except.error.inj h.2)⟩
  · rw [if_neg hrecord]
    constructor
    · intro h
      cases h
    · exact fun h => (hrecord h.1).elim

/-- The last failure is that of one of the records. -/
theorem exists_of_lastFailure {start count : Nat}
    (h : lastFailure bytes resolve start count = some error) :
    ∃ earlier < count, failureAt bytes resolve (recordPlace bytes start earlier) = some error := by
  obtain ⟨earlier, hmem, hfailure⟩ := List.mem_filterMap.mp (List.mem_of_getLast? h)
  exact ⟨earlier, List.mem_range.mp hmem, hfailure⟩

/-- If all I2C records fail alike and there is one, this is the last failure. -/
theorem lastFailure_eq_some {start count : Nat} (hfail : ∀ record, resolve record = .error error)
    (hsome : ∃ earlier < count, IsI2cRecord bytes (recordPlace bytes start earlier)) :
    lastFailure bytes resolve start count = some error := by
  cases hlast : lastFailure bytes resolve start count with
  | none =>
    obtain ⟨earlier, hearlier, hrecord⟩ := hsome
    have hnone := List.filterMap_eq_nil_iff.mp (List.getLast?_eq_none_iff.mp hlast) earlier
      (List.mem_range.mpr hearlier)
    rw [failureAt_eq_some_iff.mpr ⟨hrecord, hfail _⟩] at hnone
    cases hnone
  | some other =>
    obtain ⟨earlier, -, hfailure⟩ := exists_of_lastFailure hlast
    obtain ⟨-, hother⟩ := failureAt_eq_some_iff.mp hfailure
    rw [hfail] at hother
    exact congrArg _ (Except.error.inj hother).symm

/-- Only the end of a list can say that something is not supported: it says what failed last. -/
theorem ended_of_unsupported {place : Nat} {failure : Option FirmwareError}
    (h : EndsAt bytes resolve place failure (.error .unsupported)) :
    failure = some .unsupported ∧ place ≠ 0 ∧ place + 2 < declaredSize bytes ∧
      (u8 bytes place = 0xFF ∨ u8 bytes (place + 1) = 0) := by
  generalize hanswer : (Except.error .unsupported : Except FirmwareError Wiring) = answer at h
  cases h with
  | absent hzero => cases hanswer
  | outside hout => cases hanswer
  | cut hplace hinside hrecord hcut => cases hanswer
  | resolved hplace hinside hrecord hresolved => cases hanswer
  | ended hplace hinside hend =>
    have hlast : failure.getD .noRecord = .unsupported := (Except.error.inj hanswer).symm
    obtain hsome | ⟨-, hnone⟩ := Option.getD_eq_iff.mp hlast
    · exact ⟨hsome, hplace, hinside, hend⟩
    · cases hnone

end

/-- A walk is refused just if the GPIO table is and the records run out. -/
theorem walkRecords_eq_unsupported_iff (hfits : declaredSize bytes ≤ bytes.size) (start : Nat) :
    (beginning bytes (declaredSize bytes)).walkRecords (reading bytes).resolve start none =
        .error .unsupported ↔
      RefusesGpio bytes ∧ ∃ index, RunsOut bytes (reading bytes).resolve start index := by
  constructor
  · intro hanswer
    obtain ⟨index, hbefore, hends⟩ := exists_endsAt hfits (reading bytes).resolve start
    rw [hanswer] at hends
    obtain ⟨hlast, hplace, hinside, hend⟩ := ended_of_unsupported hends
    obtain ⟨earlier, hearlier, hfailed⟩ := exists_of_lastFailure hlast
    obtain ⟨hrecord, hrefused⟩ := failureAt_eq_some_iff.mp hfailed
    exact ⟨(resolve_eq_unsupported_iff hfits _).mp hrefused, index,
      hbefore, hplace, hinside, hend, earlier, hearlier, hrecord⟩
  · rintro ⟨hrefused, index, hbefore, hplace, hinside, hend, hrecord⟩
    have hlast : lastFailure bytes (reading bytes).resolve start index = some .unsupported :=
      lastFailure_eq_some (fun record => (resolve_eq_unsupported_iff hfits record).mpr hrefused)
        hrecord
    calc (beginning bytes (declaredSize bytes)).walkRecords (reading bytes).resolve start none
      _ = (beginning bytes (declaredSize bytes)).walkRecords (reading bytes).resolve
          (recordPlace bytes start index) (some .unsupported) := by
        rw [walkRecords_of_passes hfits hbefore none, hlast, Option.some_or]
      _ = .error .unsupported := (EndsAt.ended hplace hinside hend).walkRecords_eq hfits

/-- **The wiring of an object is refused just if the GPIO table is** and its records run out, with
an I2C record among them. -/
theorem i2cInfo_eq_unsupported_iff (h : Context.ofBytes bytes = .ok firmware) (id : ObjectId) :
    firmware.i2cInfo id = .error .unsupported ↔ RefusesGpio bytes ∧
      ∃ start index, RecordsAt bytes id start ∧ RunsOut bytes firmware.resolve start index := by
  have hrecords (start : Nat) : firmware.records id = .ok start ↔ RecordsAt bytes id start :=
    records_eq_ok_iff h
  have hlisted : firmware.records id ≠ .error .unsupported :=
    fun hnone => nomatch eq_objectNotFound_of_records hnone
  obtain ⟨haccepted, rfl⟩ := ofBytes_eq_ok_iff.mp h
  rw [i2cInfo_eq_bind, bind_eq_error_iff, or_iff_right hlisted]
  constructor
  · rintro ⟨start, hstart, hwalk⟩
    rw [walkFrom_eq] at hwalk
    obtain ⟨hrefused, index, hruns⟩ :=
      (walkRecords_eq_unsupported_iff haccepted.fits start).mp hwalk
    exact ⟨hrefused, start, index, (hrecords start).mp hstart, hruns⟩
  · rintro ⟨hrefused, start, index, hstart, hruns⟩
    refine ⟨start, (hrecords start).mpr hstart, ?_⟩
    rw [walkFrom_eq]
    exact (walkRecords_eq_unsupported_iff haccepted.fits start).mpr ⟨hrefused, index, hruns⟩

/-! ## The main statement -/

/-- **Reserved bits of revisions do not matter to parsing and the clock, but to the GPIO tables they
do.** Of two images that agree in the bytes that parsing and the clock go by and in the lower six
bits of their revisions, one parses if the other does, and otherwise for the same reason; and then
the revisions, the layouts and the clock are the same. But a GPIO table is refused also for a
reserved bit of its content revision: in any image that parses and has lines, this is when a line is
unsupported, and the wiring of an object is just if moreover its list of records comes to an end and
has an I2C record. -/
theorem reserved_bits_decide (bytes : Array UInt8) :
    (∀ other, AlikeInSixBits bytes other →
      (∀ error, Context.ofBytes bytes = .error error ↔ Context.ofBytes other = .error error) ∧
      ∀ first second, Context.ofBytes bytes = .ok first → Context.ofBytes other = .ok second →
        first.revision = second.revision ∧ first.objectRevision = second.objectRevision ∧
          first.schema.layout = second.schema.layout ∧
          first.crystalFrequency = second.crystalFrequency) ∧
    ∀ firmware, Context.ofBytes bytes = .ok firmware →
      (∀ line, firmware.gpioInfo line = .error .unsupported ↔
        IsDisplayImage bytes ∨ RefusesGpio bytes) ∧
      ∀ id, firmware.i2cInfo id = .error .unsupported ↔ RefusesGpio bytes ∧
        ∃ start index, RecordsAt bytes id start ∧ RunsOut bytes firmware.resolve start index := by
  refine ⟨fun other halike => ⟨halike.ofBytes_eq_error_iff, fun first second hfirst hsecond => ?_⟩,
    fun firmware h => ⟨fun line => ?_, i2cInfo_eq_unsupported_iff h⟩⟩
  · obtain ⟨haccepted, rfl⟩ := ofBytes_eq_ok_iff.mp hfirst
    obtain ⟨hother, rfl⟩ := ofBytes_eq_ok_iff.mp hsecond
    refine ⟨halike.romRevision_eq, halike.objectRevision_eq, halike.layout_eq, ?_⟩
    rw [crystalFrequency_eq haccepted.fits, crystalFrequency_eq hother.fits, halike.clockError_eq,
      halike.clock_eq]
  · obtain ⟨haccepted, rfl⟩ := ofBytes_eq_ok_iff.mp h
    exact gpioInfo_eq_unsupported_iff haccepted.fits line

/-! ## An image with reserved bits -/

/-- A legacy image with one connector, which is wired to line 0, and with a clock of 27 MHz. All
tables have revision 1.1, with `marks` over it in the ROM header, the object info and the firmware
info, and `gpioMarks` over the content revision of the GPIO table. -/
def markedImage (marks gpioMarks : UInt8) : Array UInt8 :=
  imageWith (1 ||| marks)
    [(0xBC, [0x80, 1]), (0xC8, [0x60, 1]),
     -- The object header, the table of connectors and the records of its entry.
     (0x100, [0x10, 0, 1 ||| marks, 1 ||| marks, 0, 0, 0x20, 0]), (0x120, [1]),
     (0x124, [0x13, 0x31, 0, 0, 0x40, 0]), (0x140, [1, 4, 0x90, 0, 0xFF]),
     -- The GPIO table with its one entry, and the firmware info.
     (0x160, [0x1F, 0, 1, 1 ||| gpioMarks]),
     (0x180, [0x59, 0, 1 ||| marks, 1 ||| marks]), (0x1D2, [0x8C, 0x0A])]

theorem whole_plain : Whole (markedImage 0 0) :=
  ⟨by decide +kernel, by decide +kernel⟩

theorem whole_marked : Whole (markedImage 0xC0 0xC0) :=
  ⟨by decide +kernel, by decide +kernel⟩

theorem refusesGpio_marked : RefusesGpio (markedImage 0xC0 0xC0) :=
  .lines (by decide +kernel)
    ⟨by decide +kernel, by decide +kernel, by decide +kernel, .inr (by decide +kernel)⟩

theorem layout_and_clock_plain : (reading (markedImage 0 0)).schema.layout = .plainObjects ∧
    (reading (markedImage 0 0)).crystalFrequency = .ok 27000 := by
  have hfound : clockError (markedImage 0 0) = none := by decide +kernel
  have hclock : clock (markedImage 0 0) = 2700 := by decide +kernel
  rw [layout_reading, crystalFrequency_eq whole_plain.accepted.fits, hfound, hclock]
  exact ⟨by decide +kernel, rfl⟩

theorem recordsAt_marked : RecordsAt (markedImage 0xC0 0xC0) ⟨19, 1, .connector⟩ 0x140 := by
  have hnamed : EntryNames (markedImage 0xC0 0xC0) (tablePlace (markedImage 0xC0 0xC0) 6)
      ⟨19, 1, .connector⟩ 0 :=
    ⟨by decide +kernel, by decide +kernel, by decide +kernel⟩
  have hstart : objectPlace (markedImage 0xC0 0xC0) + u16 (markedImage 0xC0 0xC0)
      (entryPlace (tablePlace (markedImage 0xC0 0xC0) 6) 0 + 4) = 0x140 := by
    decide +kernel
  rw [← hstart]
  exact .entry (by decide +kernel) rfl (by decide +kernel) ⟨hnamed, fun _ _ => Nat.zero_le _⟩

/-- The one record is of an I2C line, and the mark of the end follows it. -/
theorem runsOut_marked : RunsOut (markedImage 0xC0 0xC0)
    (reading (markedImage 0xC0 0xC0)).resolve 0x140 1 where
  before := by
    intro earlier hearlier
    obtain rfl : earlier = 0 := Nat.lt_one_iff.mp hearlier
    exact ⟨by decide +kernel, by decide +kernel, by decide +kernel, by decide +kernel,
      fun _ => ⟨by decide +kernel, .unsupported,
        (resolve_eq_unsupported_iff whole_marked.accepted.fits _).mpr refusesGpio_marked⟩⟩
  place_ne_zero := by decide +kernel
  inside := by decide +kernel
  ended := by decide +kernel
  record := ⟨0, Nat.zero_lt_one, by decide +kernel⟩

/-- With both reserved bits set everywhere, the image still has the layout and the clock of the one
without. But its only line is unsupported, and so is its connector. -/
theorem reserved_bits_decide_marked :
    AlikeInSixBits (markedImage 0 0) (markedImage 0xC0 0xC0) ∧
      ∃ firmware, Context.ofBytes (markedImage 0xC0 0xC0) = .ok firmware ∧
        firmware.schema.layout = .plainObjects ∧ firmware.crystalFrequency = .ok 27000 ∧
        firmware.gpioInfo 0 = .error .unsupported ∧
        firmware.i2cInfo ⟨19, 1, .connector⟩ = .error .unsupported := by
  have halike : AlikeInSixBits (markedImage 0 0) (markedImage 0xC0 0xC0) :=
    ⟨by decide +kernel, by decide +kernel, by decide +kernel⟩
  have hparse := whole_marked.parses
  obtain ⟨-, -, hlayout, hclock⟩ :=
    ((reserved_bits_decide (markedImage 0 0)).1 _ halike).2 _ _ whole_plain.parses hparse
  obtain ⟨hline, hobject⟩ := (reserved_bits_decide (markedImage 0xC0 0xC0)).2 _ hparse
  exact ⟨halike, _, hparse, hlayout.symm.trans layout_and_clock_plain.1,
    hclock.symm.trans layout_and_clock_plain.2, (hline 0).mpr (.inr refusesGpio_marked),
    (hobject _).mpr ⟨refusesGpio_marked, 0x140, 1, recordsAt_marked, runsOut_marked⟩⟩

/-- Reserved bits decide: the GPIO table of the image is there, has room for its entry, and has
content revision one in its lower six bits. Where the other two are clear, its line is found and the
connector is wired to it; where they are set, neither is supported. -/
theorem reserved_bits_refuse_line :
    gpioPlace (markedImage 0 0xC0) ≠ 0 ∧
      gpioPlace (markedImage 0 0xC0) + 4 < declaredSize (markedImage 0 0xC0) ∧
      4 + 27 ≤ u16 (markedImage 0 0xC0) (gpioPlace (markedImage 0 0xC0)) ∧
      (revisionAt (markedImage 0 0xC0) (gpioPlace (markedImage 0 0xC0))).minor = 1 ∧
      (∃ firmware info wiring, Context.ofBytes (markedImage 0 0) = .ok firmware ∧
        firmware.gpioInfo 0 = .ok info ∧
        firmware.i2cInfo ⟨19, 1, .connector⟩ = .ok wiring ∧ wiring.line = 0) ∧
      ∃ firmware, Context.ofBytes (markedImage 0 0xC0) = .ok firmware ∧
        firmware.gpioInfo 0 = .error .unsupported ∧
        firmware.i2cInfo ⟨19, 1, .connector⟩ = .error .unsupported := by
  have hwhole : Whole (markedImage 0 0xC0) := ⟨by decide +kernel, by decide +kernel⟩
  have hinfo : ((reading (markedImage 0 0)).gpioInfo 0).toOption.isSome := by
    rw [whole_plain.reading_eq]
    decide +kernel
  have hwiring : ((reading (markedImage 0 0)).i2cInfo ⟨19, 1, .connector⟩).toOption.map
      Wiring.line = some 0 := by
    rw [whole_plain.reading_eq]
    decide +kernel
  obtain ⟨info, hinfo⟩ := Option.isSome_iff_exists.mp hinfo
  obtain ⟨wiring, hwiring, hline⟩ := Option.map_eq_some_iff.mp hwiring
  refine ⟨by decide +kernel, by decide +kernel, by decide +kernel, by decide +kernel,
    ⟨_, info, wiring, whole_plain.parses, toOption_eq_some_iff.mp hinfo,
      toOption_eq_some_iff.mp hwiring, hline⟩, _, hwhole.parses, ?_⟩
  rw [hwhole.reading_eq]
  decide +kernel

end GpuI2c.Firmware
