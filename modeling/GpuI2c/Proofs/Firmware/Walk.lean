import Mathlib.Logic.Function.Iterate
import GpuI2c.Proofs.Firmware.Lookup

/-!
# Walking records

A record says in its second byte how long it is, and so where the next one starts
(`recordPlace`). A walk follows this chain to the first record that ends it (`EndsAt`): one whose
header leaves the declared size, an end mark or a record of size zero, an I2C record that leaves the
declared size, or one that resolves. A walk that starts at offset zero, which stands for no table,
ends there. All other records are passed over (`Passes`), each of them
taking the walk nearer to the end of the image. So every walk ends, and this is what it finds
(`walkRecords_ends`).
-/

namespace GpuI2c.Firmware

/-! ## Chains of records -/

/-- Where the record after the one at a place starts. -/
def nextRecord (bytes : Array UInt8) (place : Nat) : Nat :=
  place + u8 bytes (place + 1)

/-- Where the record with the given index is, in the chain that starts at a place. -/
def recordPlace (bytes : Array UInt8) (start index : Nat) : Nat :=
  (nextRecord bytes)^[index] start

/-- The record at a place is of the type of I2C records, and long enough for one. -/
def IsI2cRecord (bytes : Array UInt8) (place : Nat) : Prop :=
  u8 bytes place = 1 ∧ 4 ≤ u8 bytes (place + 1)

instance (bytes : Array UInt8) (place : Nat) : Decidable (IsI2cRecord bytes place) :=
  inferInstanceAs (Decidable (_ ∧ _))

section

variable (bytes : Array UInt8) (resolve : I2cRecord → Except FirmwareError Wiring)

/-- Why the record at a place does not resolve, if it is an I2C record. -/
def failureAt (place : Nat) : Option FirmwareError :=
  if IsI2cRecord bytes place then
    match resolve (tableAt I2cRecord bytes place) with
    | .ok _ => none
    | .error error => some error
  else none

/-- Why the last one does not resolve of the I2C records among the first `count` of a chain. -/
def lastFailure (start count : Nat) : Option FirmwareError :=
  ((List.range count).filterMap fun index =>
    failureAt bytes resolve (recordPlace bytes start index)).getLast?

/-- A walk ends at the record at a place, and with what answer, where `failure` is the error of the
last I2C record before. -/
inductive EndsAt (place : Nat) (failure : Option FirmwareError) :
    Except FirmwareError Wiring → Prop
  /-- There is no table at offset zero. -/
  | absent (hzero : place = 0) : EndsAt place failure (.error .badTable)
  /-- The two bytes of its header do not lie strictly inside the declared size. -/
  | outside (hout : declaredSize bytes ≤ place + 2) : EndsAt place failure (.error .badTable)
  /-- The record is an end mark, or of size zero. -/
  | ended (hplace : place ≠ 0) (hinside : place + 2 < declaredSize bytes)
      (hend : u8 bytes place = 0xFF ∨ u8 bytes (place + 1) = 0) :
    EndsAt place failure (.error (failure.getD .noRecord))
  /-- It is an I2C record, whose four bytes do not lie strictly inside the declared size. -/
  | cut (hplace : place ≠ 0) (hinside : place + 2 < declaredSize bytes)
      (hrecord : IsI2cRecord bytes place) (hcut : declaredSize bytes ≤ place + 4) :
    EndsAt place failure (.error .badTable)
  /-- It is an I2C record that resolves. -/
  | resolved (hplace : place ≠ 0) (hinside : place + 4 < declaredSize bytes)
      (hrecord : IsI2cRecord bytes place) {wiring : Wiring}
      (hresolved : resolve (tableAt I2cRecord bytes place) = .ok wiring) :
    EndsAt place failure (.ok wiring)

/-- A walk goes on after the record at a place. -/
structure Passes (place : Nat) : Prop where
  place_ne_zero : place ≠ 0
  inside : place + 2 < declaredSize bytes
  notMark : u8 bytes place ≠ 0xFF
  size_ne_zero : u8 bytes (place + 1) ≠ 0
  unresolved : IsI2cRecord bytes place → place + 4 < declaredSize bytes ∧
    ∃ error, resolve (tableAt I2cRecord bytes place) = .error error

end

variable {bytes : Array UInt8} {resolve : I2cRecord → Except FirmwareError Wiring}

theorem recordPlace_succ (start index : Nat) :
    recordPlace bytes start (index + 1) = recordPlace bytes (nextRecord bytes start) index :=
  Function.iterate_succ_apply _ _ _

theorem lastFailure_succ (start count : Nat) :
    lastFailure bytes resolve start (count + 1) =
      (lastFailure bytes resolve (nextRecord bytes start) count).or
        (failureAt bytes resolve start) := by
  have hstart : recordPlace bytes start 0 = start := rfl
  simp only [lastFailure, List.range_succ_eq_map, List.filterMap_cons, List.filterMap_map,
    Function.comp_def, Nat.succ_eq_add_one, recordPlace_succ, hstart]
  cases failureAt bytes resolve start with
  | none => simp
  | some error => simp [List.getLast?_cons]

/-- Where a walk goes on, it does not end. -/
theorem Passes.not_endsAt {place : Nat} (h : Passes bytes resolve place)
    (failure : Option FirmwareError) (answer : Except FirmwareError Wiring) :
    ¬ EndsAt bytes resolve place failure answer := by
  rintro (hzero | hout | ⟨-, -, hend⟩ | ⟨-, -, hrecord, hcut⟩ | ⟨-, -, hrecord, hresolved⟩)
  · exact h.place_ne_zero hzero
  · exact Nat.not_le.mpr h.inside hout
  · exact hend.elim h.notMark h.size_ne_zero
  · have hinside := (h.unresolved hrecord).1
    omega
  · obtain ⟨-, error, hfailed⟩ := h.unresolved hrecord
    rw [hfailed] at hresolved
    cases hresolved

/-- At every record, a walk goes on or ends. -/
theorem passes_or_endsAt (bytes : Array UInt8)
    (resolve : I2cRecord → Except FirmwareError Wiring) (place : Nat)
    (failure : Option FirmwareError) :
    Passes bytes resolve place ∨ ∃ answer, EndsAt bytes resolve place failure answer := by
  by_cases hplace : place = 0
  · exact .inr ⟨_, .absent hplace⟩
  by_cases hout : declaredSize bytes ≤ place + 2
  · exact .inr ⟨_, .outside hout⟩
  by_cases hend : u8 bytes place = 0xFF ∨ u8 bytes (place + 1) = 0
  · exact .inr ⟨_, .ended hplace (by omega) hend⟩
  obtain ⟨hmark, hsize⟩ := not_or.mp hend
  by_cases hrecord : IsI2cRecord bytes place
  · by_cases hcut : declaredSize bytes ≤ place + 4
    · exact .inr ⟨_, .cut hplace (by omega) hrecord hcut⟩
    · cases hresolved : resolve (tableAt I2cRecord bytes place) with
      | ok wiring => exact .inr ⟨_, .resolved hplace (by omega) hrecord hresolved⟩
      | error error =>
        exact .inl ⟨hplace, by omega, hmark, hsize, fun _ => ⟨by omega, error, hresolved⟩⟩
  · exact .inl ⟨hplace, by omega, hmark, hsize, fun h => (hrecord h).elim⟩

/-! ## Steps of a walk -/

theorem recordType_tableAt (place : Nat) :
    (tableAt RecordHeader bytes place).recordType.toNat = u8 bytes place :=
  congrArg UInt8.toNat (byteAt_extract bytes place (by decide))

theorem recordSize_tableAt (place : Nat) :
    (tableAt RecordHeader bytes place).recordSize.toNat = u8 bytes (place + 1) :=
  congrArg UInt8.toNat (byteAt_extract bytes place (by decide))

theorem stops_iff (place : Nat) :
    (tableAt RecordHeader bytes place).recordType = endRecordType ∨
        (tableAt RecordHeader bytes place).recordSize = 0 ↔
      u8 bytes place = 0xFF ∨ u8 bytes (place + 1) = 0 := by
  rw [← UInt8.toNat_inj, ← UInt8.toNat_inj, recordType_tableAt, recordSize_tableAt]
  rfl

theorem isI2cRecord_iff (place : Nat) :
    (tableAt RecordHeader bytes place).recordType = i2cRecordType ∧
        Layout.size I2cRecord ≤ (tableAt RecordHeader bytes place).recordSize.toNat ↔
      IsI2cRecord bytes place := by
  rw [← UInt8.toNat_inj, recordType_tableAt, recordSize_tableAt]
  rfl

/-- What a walk does at a record, by the bytes there. -/
theorem walkRecords_eq (hfits : declaredSize bytes ≤ bytes.size) (place : Nat)
    (failure : Option FirmwareError) :
    (beginning bytes (declaredSize bytes)).walkRecords resolve place failure =
      if place = 0 ∨ declaredSize bytes ≤ place + 2 then .error .badTable
      else if u8 bytes place = 0xFF ∨ u8 bytes (place + 1) = 0 then
        .error (failure.getD .noRecord)
      else if IsI2cRecord bytes place then
        if declaredSize bytes ≤ place + 4 then .error .badTable
        else match resolve (tableAt I2cRecord bytes place) with
          | .ok wiring => .ok wiring
          | .error error => (beginning bytes (declaredSize bytes)).walkRecords resolve
              (nextRecord bytes place) (some error)
      else (beginning bytes (declaredSize bytes)).walkRecords resolve (nextRecord bytes place)
        failure := by
  rw [Span.walkRecords]
  split
  · next error htable =>
    have hout : place = 0 ∨ declaredSize bytes ≤ place + 2 :=
      outside_of_table_eq_error hfits htable
    rw [if_pos hout]
  · next header htable =>
    obtain ⟨hplace, hinside, rfl⟩ := (table_eq_ok_iff hfits).mp htable
    have hin : ¬ (place = 0 ∨ declaredSize bytes ≤ place + 2) :=
      not_or.mpr ⟨hplace, Nat.not_le.mpr hinside⟩
    rw [if_neg hin]
    by_cases hend : u8 bytes place = 0xFF ∨ u8 bytes (place + 1) = 0
    · rw [dif_pos ((stops_iff place).mpr hend), if_pos hend]
    · rw [dif_neg (mt (stops_iff place).mp hend), if_neg hend]
      dsimp only
      by_cases hrecord : IsI2cRecord bytes place
      · rw [if_pos ((isI2cRecord_iff place).mpr hrecord), if_pos hrecord, recordSize_tableAt]
        split
        · next error htable =>
          obtain hzero | hcut := outside_of_table_eq_error hfits htable
          · exact (hplace hzero).elim
          · exact (if_pos hcut).symm
        · next record htable =>
          obtain ⟨-, hwhole, rfl⟩ := (table_eq_ok_iff hfits).mp htable
          exact (if_neg (Nat.not_le.mpr hwhole)).symm
      · rw [if_neg (mt (isI2cRecord_iff place).mp hrecord), if_neg hrecord, recordSize_tableAt]
        rfl

/-- A record that ends a walk gives its answer. -/
theorem EndsAt.walkRecords_eq (hfits : declaredSize bytes ≤ bytes.size) {place : Nat}
    {failure : Option FirmwareError} {answer : Except FirmwareError Wiring}
    (h : EndsAt bytes resolve place failure answer) :
    (beginning bytes (declaredSize bytes)).walkRecords resolve place failure = answer := by
  rw [Firmware.walkRecords_eq hfits]
  cases h with
  | absent hzero => rw [if_pos (.inl hzero)]
  | outside hout => rw [if_pos (.inr hout)]
  | ended hplace hinside hend => rw [if_neg (by omega), if_pos hend]
  | cut hplace hinside hrecord hcut =>
    have hgoes : ¬ (u8 bytes place = 0xFF ∨ u8 bytes (place + 1) = 0) := by
      unfold IsI2cRecord at hrecord
      omega
    rw [if_neg (by omega), if_neg hgoes, if_pos hrecord, if_pos hcut]
  | resolved hplace hinside hrecord hresolved =>
    have hgoes : ¬ (u8 bytes place = 0xFF ∨ u8 bytes (place + 1) = 0) := by
      unfold IsI2cRecord at hrecord
      omega
    rw [if_neg (by omega), if_neg hgoes, if_pos hrecord, if_neg (by omega), hresolved]

/-- From any other record, the walk goes on to the next one. -/
theorem Passes.walkRecords_eq (hfits : declaredSize bytes ≤ bytes.size) {place : Nat}
    (h : Passes bytes resolve place) (failure : Option FirmwareError) :
    (beginning bytes (declaredSize bytes)).walkRecords resolve place failure =
      (beginning bytes (declaredSize bytes)).walkRecords resolve (nextRecord bytes place)
        ((failureAt bytes resolve place).or failure) := by
  obtain ⟨hplace, hinside, hmark, hsize, hunresolved⟩ := h
  rw [Firmware.walkRecords_eq hfits, if_neg (by omega), if_neg (not_or.mpr ⟨hmark, hsize⟩),
    failureAt]
  by_cases hrecord : IsI2cRecord bytes place
  · obtain ⟨hwhole, error, hfailed⟩ := hunresolved hrecord
    rw [if_pos hrecord, if_neg (by omega), if_pos hrecord, hfailed]
    rfl
  · rw [if_neg hrecord, if_neg hrecord]
    rfl

theorem EndsAt.unique (hfits : declaredSize bytes ≤ bytes.size) {place : Nat}
    {failure : Option FirmwareError} {answer other : Except FirmwareError Wiring}
    (h : EndsAt bytes resolve place failure answer)
    (hother : EndsAt bytes resolve place failure other) : answer = other :=
  (h.walkRecords_eq hfits).symm.trans (hother.walkRecords_eq hfits)

/-! ## Whole walks -/

/-- Records that a walk passes over leave it at the next one, with the last error among them. -/
theorem walkRecords_of_passes (hfits : declaredSize bytes ≤ bytes.size) {start index : Nat}
    (h : ∀ earlier < index, Passes bytes resolve (recordPlace bytes start earlier))
    (failure : Option FirmwareError) :
    (beginning bytes (declaredSize bytes)).walkRecords resolve start failure =
      (beginning bytes (declaredSize bytes)).walkRecords resolve (recordPlace bytes start index)
        ((lastFailure bytes resolve start index).or failure) := by
  induction index generalizing start failure with
  | zero => rfl
  | succ index ih =>
    have hfirst : Passes bytes resolve start := h 0 (Nat.zero_lt_succ index)
    have hrest : ∀ earlier < index,
        Passes bytes resolve (recordPlace bytes (nextRecord bytes start) earlier) := by
      intro earlier hearlier
      rw [← recordPlace_succ]
      exact h (earlier + 1) (Nat.succ_lt_succ hearlier)
    rw [hfirst.walkRecords_eq hfits, ih hrest, recordPlace_succ, lastFailure_succ, Option.or_assoc]

/-- Each record that is passed over has a size, so the chain moves on with it. -/
theorem add_le_recordPlace {start index : Nat}
    (h : ∀ earlier < index, Passes bytes resolve (recordPlace bytes start earlier)) :
    start + index ≤ recordPlace bytes start index := by
  induction index with
  | zero => exact Nat.le_refl start
  | succ index ih =>
    have hplace := ih fun earlier hearlier => h earlier (Nat.lt_succ_of_lt hearlier)
    have hsize := (h index (Nat.lt_succ_self index)).size_ne_zero
    have hnext : recordPlace bytes start (index + 1) =
        nextRecord bytes (recordPlace bytes start index) :=
      Function.iterate_succ_apply' _ _ _
    rw [hnext, nextRecord]
    omega

/-- So a walk passes over no more records than there are bytes. -/
theorem le_declaredSize_of_passes {start index : Nat}
    (h : ∀ earlier < index, Passes bytes resolve (recordPlace bytes start earlier)) :
    index ≤ declaredSize bytes := by
  cases index with
  | zero => exact Nat.zero_le _
  | succ index =>
    have hplace := add_le_recordPlace fun earlier hearlier => h earlier (Nat.lt_succ_of_lt hearlier)
    have hinside := (h index (Nat.lt_succ_self index)).inside
    omega

/-- A walk passes over some records of the chain and ends at the next one. -/
theorem exists_endsAt (hfits : declaredSize bytes ≤ bytes.size)
    (resolve : I2cRecord → Except FirmwareError Wiring) (start : Nat) :
    ∃ index, (∀ earlier < index, Passes bytes resolve (recordPlace bytes start earlier)) ∧
      EndsAt bytes resolve (recordPlace bytes start index)
        (lastFailure bytes resolve start index)
        ((beginning bytes (declaredSize bytes)).walkRecords resolve start none) := by
  classical
  have hstops : ∃ index, ¬ Passes bytes resolve (recordPlace bytes start index) := by
    by_contra hnone
    have hall (index : Nat) : Passes bytes resolve (recordPlace bytes start index) :=
      not_not.mp fun h => hnone ⟨index, h⟩
    have hle : declaredSize bytes + 1 ≤ declaredSize bytes :=
      le_declaredSize_of_passes fun earlier _ => hall earlier
    omega
  have hbefore : ∀ earlier < Nat.find hstops,
      Passes bytes resolve (recordPlace bytes start earlier) :=
    fun earlier hearlier => not_not.mp (Nat.find_min hstops hearlier)
  obtain hpasses | ⟨answer, hends⟩ := passes_or_endsAt bytes resolve
    (recordPlace bytes start (Nat.find hstops)) (lastFailure bytes resolve start (Nat.find hstops))
  · exact (Nat.find_spec hstops hpasses).elim
  · refine ⟨Nat.find hstops, hbefore, ?_⟩
    rw [walkRecords_of_passes hfits hbefore, Option.or_none, hends.walkRecords_eq hfits]
    exact hends

/-- Records never start at offset zero, where there is no table. -/
theorem ne_zero_of_records {firmware : Context} (h : Context.ofBytes bytes = .ok firmware)
    {id : ObjectId} {start : Nat} (hstart : firmware.records id = .ok start) : start ≠ 0 := by
  have hobjects := (ofBytes_eq_ok_iff.mp h).1.objectPlace_ne_zero
  cases (records_eq_ok_iff h).mp hstart with
  | entry => omega
  | path => omega

/-- **Every walk ends, at the first record of the chain that ends it.** In the bytes of any image,
whatever the place where a walk starts and however records resolve, the chain of records has one
that ends the walk, after no more records than the image has bytes. The answer is the one that the
first such record gives: a bad table where a header or an I2C record leaves the declared size, the
error of the last I2C record before it that does not resolve, or that there is no record, where the
list ends, and the wiring of a record that resolves. Records that end nothing are passed over by
their own size. Offset zero stands for no table, but the records of an object never start there. -/
theorem walkRecords_ends {image : Image} (h : Image.ofBytes bytes = .ok image)
    (resolve : I2cRecord → Except FirmwareError Wiring) (start : Nat) :
    (∃ index ≤ declaredSize bytes,
      (∀ earlier < index, ∀ failure answer,
        ¬ EndsAt bytes resolve (recordPlace bytes start earlier) failure answer) ∧
      ∀ answer, EndsAt bytes resolve (recordPlace bytes start index)
        (lastFailure bytes resolve start index) answer ↔
          image.span.walkRecords resolve start none = answer) ∧
    ∀ firmware id place, Context.ofBytes bytes = .ok firmware →
      firmware.records id = .ok place → place ≠ 0 := by
  obtain ⟨hfits, hspan⟩ := span_of_image_ofBytes h
  obtain ⟨index, hbefore, hends⟩ := exists_endsAt hfits resolve start
  rw [← hspan] at hends
  refine ⟨⟨index, le_declaredSize_of_passes hbefore,
    fun earlier hearlier => (hbefore earlier hearlier).not_endsAt, fun answer => ?_⟩,
    fun firmware id place hparse => ne_zero_of_records hparse⟩
  constructor
  · intro hanswer
    exact hends.unique hfits hanswer
  · rintro rfl
    exact hends

/-- The records of the one connector of an image, where no record resolves. The walk passes over the
I2C record and ends at the end mark after it. -/
theorem walkRecords_ends_oneConnector :
    ∃ image, Image.ofBytes oneConnector = .ok image ∧
      image.span.walkRecords (fun _ => .error .unsupported) 0x140 none = .error .unsupported := by
  have himage : Image.ofBytes oneConnector = .ok (reading oneConnector).image := by
    have haccepted := whole_oneConnector.accepted
    rw [image_ofBytes_eq, if_pos haccepted.signed, if_neg (Nat.not_lt.mpr haccepted.fits)]
  have hpasses : Passes oneConnector (fun _ => .error .unsupported) 0x140 :=
    ⟨by decide, by decide +kernel, by decide +kernel, by decide +kernel,
      fun _ => ⟨by decide +kernel, _, rfl⟩⟩
  have hmark (failure : Option FirmwareError) :
      EndsAt oneConnector (fun _ => .error .unsupported) (recordPlace oneConnector 0x140 1) failure
        (.error (failure.getD .noRecord)) :=
    .ended (by decide +kernel) (by decide +kernel) (by decide +kernel)
  have hfailure : lastFailure oneConnector (fun _ => .error .unsupported) 0x140 1 =
      some .unsupported := by
    decide +kernel
  obtain ⟨⟨index, -, hbefore, hanswer⟩, -⟩ :=
    walkRecords_ends himage (fun _ => .error .unsupported) 0x140
  obtain rfl : index = 1 := by
    obtain hlower | rfl | hhigher := Nat.lt_trichotomy index 1
    · obtain rfl := Nat.lt_one_iff.mp hlower
      exact (hpasses.not_endsAt _ _ ((hanswer _).mpr rfl)).elim
    · rfl
    · exact (hbefore 1 hhigher none _ (hmark none)).elim
  refine ⟨_, himage, (hanswer _).mp ?_⟩
  have hends := hmark (lastFailure oneConnector (fun _ => .error .unsupported) 0x140 1)
  rw [hfailure] at hends ⊢
  exact hends

end GpuI2c.Firmware
