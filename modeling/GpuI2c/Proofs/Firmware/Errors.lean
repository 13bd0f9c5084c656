import Mathlib.Tactic.SplitIfs
import GpuI2c.Firmware.Clock
import GpuI2c.Proofs.Firmware.Lookup

/-!
# Which errors a query may give

A fetch fails because a table is absent or because it would leave the image, and each layer above
says something else about it: parsing and the clock pass it on, the GPIO tables call it a bad table,
and the look-up of an object calls the object not found. `FailsOnly` says which errors a computation
may end with; it is closed under sequencing, so each function is looked at once. The main statement
is `errors_of_queries`.
-/

namespace GpuI2c.Firmware

/-! ## Computations that may fail -/

section

variable {ε α β : Type} {P Q : ε → Prop}

/-- If a computation fails, then with an error that satisfies `P`. -/
def FailsOnly (P : ε → Prop) (result : Except ε α) : Prop :=
  ∀ error, result = .error error → P error

namespace FailsOnly

theorem ok (value : α) : FailsOnly P (.ok value) :=
  nofun

theorem error {failure : ε} (h : P failure) : FailsOnly P (.error failure : Except ε α) := by
  intro other hother
  rwa [← Except.error.inj hother]

theorem bind {first : Except ε α} {next : α → Except ε β} (hfirst : FailsOnly P first)
    (hnext : ∀ value, first = .ok value → FailsOnly P (next value)) :
    FailsOnly P (first >>= next) := by
  cases first with
  | error failure => exact .error (hfirst failure rfl)
  | ok value => exact hnext value rfl

theorem map {result : Except ε α} {f : α → β} (h : FailsOnly P result) :
    FailsOnly P (result.map f) := by
  cases result with
  | error failure => exact .error (h failure rfl)
  | ok value => exact .ok (f value)

theorem mono (h : ∀ error, P error → Q error) {result : Except ε α} (hresult : FailsOnly P result) :
    FailsOnly Q result :=
  fun error herror => h error (hresult error herror)

end FailsOnly

end

/-! ## The errors of each layer -/

/-- The errors of a fetch from a span of `size` bytes. A fetch that is out of bounds does reach the
end of the span. -/
inductive FetchError (size : Nat) : FirmwareError → Prop
  | tableAbsent : FetchError size .tableAbsent
  | outOfBounds {offset length : Nat} (h : size ≤ offset + length) :
      FetchError size (.outOfBounds offset length)

/-- The errors of fetching tables of a known revision from a span of `size` bytes. -/
inductive TableError (size : Nat) : FirmwareError → Prop
  | fetch {error : FirmwareError} (h : FetchError size error) : TableError size error
  | unsupportedVersion (revision : Revision) : TableError size (.unsupportedVersion revision)

/-- The errors of parsing bytes. -/
inductive ParseError (bytes : Array UInt8) : FirmwareError → Prop
  | notRecognized : ParseError bytes .notRecognized
  | sizeMismatch (h : bytes.size < declaredSize bytes) :
      ParseError bytes (.sizeMismatch (declaredSize bytes) bytes.size)
  | table {error : FirmwareError} (h : TableError (declaredSize bytes) error) :
      ParseError bytes error

/-- The errors of the GPIO tables. -/
inductive GpioError : FirmwareError → Prop
  | badTable : GpioError .badTable
  | unsupported : GpioError .unsupported

/-- The errors of looking for the wiring of an object. -/
inductive WiringError : FirmwareError → Prop
  | objectNotFound : WiringError .objectNotFound
  | noRecord : WiringError .noRecord
  | gpio {error : FirmwareError} (h : GpioError error) : WiringError error

/-- The errors of looking for the clock in an image of `size` bytes. -/
inductive ClockError (size : Nat) : FirmwareError → Prop
  | table {error : FirmwareError} (h : TableError size error) : ClockError size error
  | unsupported : ClockError size .unsupported

/-! ## Fetches -/

namespace Span

variable {span : Span}

theorem byte_fails (offset : Nat) : FailsOnly (FetchError span.size) (span.byte offset) := by
  rw [byte]
  cases hbyte : span.bytes[offset]? with
  | some byte => exact .ok byte
  | none =>
    have hend : span.size ≤ offset := Array.getElem?_eq_none_iff.mp hbyte
    exact .error (.outOfBounds (by omega))

theorem word_fails (hsize : span.size < offsetLimit) (offset : Nat) :
    FailsOnly (FetchError span.size) (span.word offset) := by
  refine .bind (byte_fails offset) fun low _ => ?_
  by_cases hlimit : offset + 1 < offsetLimit
  · rw [advance?_of_lt hlimit]
    exact .bind (byte_fails _) fun high _ => .ok _
  · rw [advance?, if_neg hlimit]
    exact .error (.outOfBounds (by omega))

theorem slice_fails (hsize : span.size < offsetLimit) (offset length : Nat) :
    FailsOnly (FetchError span.size) (span.slice offset length) := by
  by_cases hlimit : offset + length < offsetLimit
  · rw [slice_eq hlimit]
    by_cases hinside : offset + length < span.size
    · rw [if_pos hinside]
      exact .ok _
    · rw [if_neg hinside]
      exact .error (.outOfBounds (Nat.le_of_not_lt hinside))
  · rw [slice, advance?, if_neg hlimit]
    exact .error (.outOfBounds (by omega))

theorem table_fails (hsize : span.size < offsetLimit) (α : Type) [Layout α] (offset : Nat) :
    FailsOnly (TableError span.size) (span.table α offset) := by
  rw [table]
  by_cases hzero : offset = 0
  · rw [if_pos hzero]
    exact .error (.fetch .tableAbsent)
  · rw [if_neg hzero]
    exact (slice_fails hsize offset _).map.mono fun _ => .fetch

/-! ## GPIO tables -/

theorem entryCount_fails (span : Span) (offset entrySize : Nat) :
    FailsOnly GpioError (span.entryCount offset entrySize) := by
  rw [entryCount]
  cases span.table TableHeader offset with
  | error _ => exact .error .badTable
  | ok header =>
    dsimp only
    by_cases hroom : Layout.size TableHeader + entrySize > header.structureSize.toNat
    · rw [if_pos hroom]
      exact .error .badTable
    · rw [if_neg hroom]
      by_cases hrevision : header.contentRevision ≠ 1
      · rw [if_pos hrevision]
        exact .error .unsupported
      · rw [if_neg hrevision]
        exact .ok _

theorem gpioAssignment_fails (span : Span) (master : LegacyMasterList) (line : UInt8) :
    FailsOnly GpioError (span.gpioAssignment master line) := by
  refine .bind (span.entryCount_fails _ _) fun count _ => ?_
  by_cases hline : line.toNat < count
  · rw [if_pos hline]
    cases span.table GpioAssignment _ with
    | error _ => exact .error .badTable
    | ok assignment => exact .ok assignment
  · rw [if_neg hline]
    exact .error .badTable

theorem resolveLine_fails (span : Span) (master : LegacyMasterList) (record : I2cRecord) :
    FailsOnly GpioError (span.resolveLine master record) :=
  .bind (span.gpioAssignment_fails master _) fun _ _ => .ok _

theorem resolvePin_fails (span : Span) (master : DisplayMasterList) (record : I2cRecord) :
    FailsOnly GpioError (span.resolvePin master record) := by
  refine .bind (span.entryCount_fails _ _) fun count _ => ?_
  cases (span.pinAssignments master.gpioPinLut.toNat count).find? _ with
  | none => exact .error .badTable
  | some pin => exact .ok _

/-! ## Records -/

/-- A walk ends with its own errors, or with that of the last record that did not resolve. -/
theorem walkRecords_fails {span : Span} {resolve : I2cRecord → Except FirmwareError Wiring}
    (hresolve : ∀ record, FailsOnly GpioError (resolve record)) (offset : Nat)
    (failure : Option FirmwareError) (hfailure : ∀ error ∈ failure, GpioError error) :
    FailsOnly WiringError (span.walkRecords resolve offset failure) := by
  fun_induction Span.walkRecords with
  | case1 | case3 => exact .error (.gpio .badTable)
  | case2 offset failure =>
    cases failure with
    | none => exact .error .noRecord
    | some error => exact .error (.gpio (hfailure error rfl))
  | case4 => exact .ok _
  | case5 offset failure header _ _ _ _ _ record _ error hrecord ih =>
    refine ih fun other hother => ?_
    rw [← Option.some.inj hother]
    exact hresolve record error hrecord
  | case6 offset failure header _ _ _ _ _ ih => exact ih hfailure

/-! ## Schemas -/

theorem displayPathSchema_fails {span : Span} (hsize : span.size < offsetLimit) (offset : Nat) :
    FailsOnly (TableError span.size) (span.displayPathSchema offset) := by
  refine .bind (table_fails hsize _ _) fun master _ => ?_
  refine .bind (table_fails hsize _ _) fun objects _ => ?_
  dsimp only
  split
  · exact .ok _
  · exact .error (.unsupportedVersion _)

theorem objectTableSchema_fails {span : Span} (hsize : span.size < offsetLimit) (offset : Nat) :
    FailsOnly (TableError span.size) (span.objectTableSchema offset) := by
  refine .bind (table_fails hsize _ _) fun master _ => ?_
  refine .bind (table_fails hsize _ _) fun header _ => ?_
  dsimp only
  split
  · split
    · exact .ok _
    · exact .bind (table_fails hsize _ _) fun extended _ => .ok _
  · exact .error (.unsupportedVersion _)

end Span

/-! ## Parsing and queries -/

theorem image_ofBytes_fails (bytes : Array UInt8) :
    FailsOnly (ParseError bytes) (Image.ofBytes bytes) := by
  rw [image_ofBytes_eq]
  by_cases hsigned : BearsSignatures bytes
  · rw [if_pos hsigned]
    by_cases hlong : declaredSize bytes > bytes.size
    · rw [if_pos hlong]
      exact .error (.sizeMismatch hlong)
    · rw [if_neg hlong]
      exact .ok _
  · rw [if_neg hsigned]
    exact .error .notRecognized

theorem ofBytes_fails (bytes : Array UInt8) :
    FailsOnly (ParseError bytes) (Context.ofBytes bytes) := by
  refine .bind (image_ofBytes_fails bytes) fun image himage => ?_
  have hspan := size_of_image_ofBytes himage
  have hsize : image.span.size < offsetLimit := hspan ▸ declaredSize_lt_offsetLimit bytes
  have htable {α : Type} {result : Except FirmwareError α}
      (h : FailsOnly (TableError image.span.size) result) :
      FailsOnly (ParseError bytes) result := by
    rw [hspan] at h
    exact h.mono fun _ => .table
  refine .bind (htable ((Span.word_fails hsize _).mono fun _ => .fetch)) fun romOffset _ => ?_
  refine .bind (htable (Span.table_fails hsize _ _)) fun rom _ => ?_
  dsimp only
  split
  · exact .bind (htable (Span.displayPathSchema_fails hsize _)) fun found _ => .ok _
  · exact .bind (htable (Span.objectTableSchema_fails hsize _)) fun found _ => .ok _

theorem gpioInfo_fails (firmware : Context) (line : UInt8) :
    FailsOnly GpioError (firmware.gpioInfo line) := by
  rw [Context.gpioInfo]
  cases firmware.schema with
  | objectTables master objects =>
    exact .bind (Span.gpioAssignment_fails _ master line) fun _ _ => .ok _
  | displayPaths master objects => exact .error .unsupported

theorem walkFrom_fails (firmware : Context) (start : Nat) :
    FailsOnly WiringError (firmware.walkFrom start) := by
  have hnone : ∀ error ∈ (none : Option FirmwareError), GpioError error :=
    fun error herror => (Option.not_mem_none error herror).elim
  rw [Context.walkFrom]
  cases firmware.schema with
  | objectTables master objects =>
    exact Span.walkRecords_fails (Span.resolveLine_fails _ master) start none hnone
  | displayPaths master objects =>
    exact Span.walkRecords_fails (Span.resolvePin_fails _ master) start none hnone

theorem i2cInfo_fails (firmware : Context) (id : ObjectId) :
    FailsOnly WiringError (firmware.i2cInfo id) := by
  rw [i2cInfo_eq_bind]
  refine .bind (fun error herror => ?_) fun start _ => walkFrom_fails firmware start
  rw [eq_objectNotFound_of_records herror]
  exact .objectNotFound

theorem crystalFrequency_fails {firmware : Context}
    (hsize : firmware.image.span.size < offsetLimit) :
    FailsOnly (ClockError firmware.image.span.size) firmware.crystalFrequency := by
  have htable (α : Type) [Layout α] (offset : Nat) :
      FailsOnly (ClockError firmware.image.span.size) (firmware.image.span.table α offset) :=
    (Span.table_fails hsize α offset).mono fun _ => .table
  refine .bind (htable _ _) fun header _ => .bind ?_ fun _ _ => .ok _
  rw [Context.referenceClock]
  split_ifs
  · exact .bind (htable _ _) fun _ _ => .ok _
  · exact .bind (htable _ _) fun _ _ => .ok _
  · exact .bind (htable _ _) fun _ _ => .ok _
  · cases firmware.schema with
    | objectTables master objects => exact .error .unsupported
    | displayPaths master objects => exact .bind (htable _ _) fun _ _ => .ok _
  · exact .error (.table (.unsupportedVersion _))

/-- **Each layer has its own errors.** Whatever the bytes, parsing them fails only as `ParseError`
says; and whatever is asked of an image that parses, looking for the wiring of an object, for that
of a line, or for the clock fails only with the errors of just that query. Lines are not looked up
at all in images with display paths. Where a fetch is reported to be out of bounds, it does reach
the end of the declared size. -/
theorem errors_of_queries (bytes : Array UInt8) :
    FailsOnly (ParseError bytes) (Context.ofBytes bytes) ∧
      ∀ firmware, Context.ofBytes bytes = .ok firmware →
        (∀ id, FailsOnly WiringError (firmware.i2cInfo id)) ∧
        (∀ line, FailsOnly GpioError (firmware.gpioInfo line)) ∧
        (IsDisplayImage bytes → ∀ line, firmware.gpioInfo line = .error .unsupported) ∧
        FailsOnly (ClockError (declaredSize bytes)) firmware.crystalFrequency := by
  refine ⟨ofBytes_fails bytes, fun firmware h => ?_⟩
  obtain ⟨haccepted, rfl⟩ := ofBytes_eq_ok_iff.mp h
  have hspan : (reading bytes).image.span.size = declaredSize bytes :=
    size_beginning haccepted.fits
  refine ⟨i2cInfo_fails _, gpioInfo_fails _, fun hdisplay line => ?_, ?_⟩
  · have hschema : (reading bytes).schema = .displayPaths _ _ := if_pos hdisplay
    rw [Context.gpioInfo, hschema]
  · rw [← hspan]
    exact crystalFrequency_fails (hspan ▸ declaredSize_lt_offsetLimit bytes)

end GpuI2c.Firmware
