import Mathlib.Data.Nat.Bitwise
import Mathlib.Tactic.SplitIfs
import GpuI2c.Proofs.Firmware.Walk
import GpuI2c.Proofs.Firmware.Wiring

/-!
# Resolving lines and pins

The two GPIO tables are a header and entries of one size. An entry is there if the size that the
table states covers it, it lies strictly inside the declared size, and the revision of the table is
known (`HasSlot`). A line of the legacy table is looked up by its index, a pin of the look-up table
by its id byte.

An object has the wiring of the first I2C record that resolves (`i2cInfo_eq_ok_iff`), and on a
legacy image a record resolves as the query for its line does (`resolve_eq_ok_iff_of_legacy`). So
the two queries agree, and both say what stands in the entries (`gpio_resolution`).
-/

namespace GpuI2c.Firmware

theorem bind_eq_ok_iff {ε α β : Type} {first : Except ε α} {next : α → Except ε β} {value : β} :
    first >>= next = .ok value ↔ ∃ found, first = .ok found ∧ next found = .ok value := by
  cases first with
  | error error =>
    refine ⟨nofun, ?_⟩
    rintro ⟨found, hfound, -⟩
    cases hfound
  | ok found =>
    refine ⟨fun h => ⟨found, rfl, h⟩, ?_⟩
    rintro ⟨other, hfound, h⟩
    rwa [Except.ok.inj hfound]

theorem bind_eq_error_iff {ε α β : Type} {first : Except ε α} {next : α → Except ε β}
    {failure : ε} :
    first >>= next = .error failure ↔
      first = .error failure ∨ ∃ found, first = .ok found ∧ next found = .error failure := by
  cases first with
  | error error =>
    constructor
    · intro h
      exact .inl (congrArg _ (Except.error.inj h))
    · rintro (h | ⟨found, hfound, -⟩)
      · exact congrArg _ (Except.error.inj h)
      · cases hfound
  | ok found =>
    constructor
    · intro h
      exact .inr ⟨found, rfl, h⟩
    · rintro (h | ⟨other, hfound, h⟩)
      · cases h
      · rwa [Except.ok.inj hfound]

/-- A failure that cannot come later came first. -/
theorem bind_eq_error_iff_left {ε α β : Type} {first : Except ε α} {next : α → Except ε β}
    {failure : ε} (h : ∀ found, next found ≠ .error failure) :
    first >>= next = .error failure ↔ first = .error failure := by
  rw [bind_eq_error_iff]
  refine or_iff_left ?_
  rintro ⟨found, -, hfailed⟩
  exact h found hfailed

variable {bytes : Array UInt8} {firmware : Context}

/-! ## Tables of entries -/

/-- Where the entry with the given index is, in a table whose entries have `size` bytes. -/
def slotPlace (table size index : Nat) : Nat :=
  table + 4 + index * size

/-- The table at a place has an entry with the given index, of `size` bytes: there is a header of a
known revision, the size that it states covers the entry, and both are strictly inside the declared
size. -/
structure HasSlot (bytes : Array UInt8) (table size index : Nat) : Prop where
  table_ne_zero : table ≠ 0
  header : table + 4 < declaredSize bytes
  revision : u8 bytes (table + 3) = 1
  covered : 4 + (index + 1) * size ≤ u16 bytes table
  inside : slotPlace table size index + size < declaredSize bytes

theorem structureSize_tableAt (place : Nat) :
    (tableAt TableHeader bytes place).structureSize.toNat = u16 bytes place :=
  toNat_wordAt_extract bytes place (by decide)

theorem contentRevision_tableAt (place : Nat) :
    (tableAt TableHeader bytes place).contentRevision = 1 ↔ u8 bytes (place + 3) = 1 := by
  have hrevision : (tableAt TableHeader bytes place).contentRevision =
      bytes.getD (place + 3) 0 := byteAt_extract bytes place (by decide)
  rw [hrevision, ← UInt8.toNat_inj]
  rfl

/-- What counting the entries of a table does, by the bytes of its header. -/
theorem entryCount_eq (hfits : declaredSize bytes ≤ bytes.size) (table size : Nat) :
    (beginning bytes (declaredSize bytes)).entryCount table size =
      if table = 0 ∨ declaredSize bytes ≤ table + 4 then .error .badTable
      else if u16 bytes table < 4 + size then .error .badTable
      else if u8 bytes (table + 3) = 1 then .ok ((u16 bytes table - 4) / size)
      else .error .unsupported := by
  rw [Span.entryCount]
  split
  · next error htable =>
    have hout : table = 0 ∨ declaredSize bytes ≤ table + 4 :=
      outside_of_table_eq_error hfits htable
    rw [if_pos hout]
  · next header htable =>
    obtain ⟨hplace, hinside, rfl⟩ := (table_eq_ok_iff hfits).mp htable
    have hin : ¬ (table = 0 ∨ declaredSize bytes ≤ table + 4) :=
      not_or.mpr ⟨hplace, Nat.not_le.mpr hinside⟩
    have hsize : Layout.size TableHeader = 4 := rfl
    dsimp only
    rw [if_neg hin, structureSize_tableAt, hsize]
    by_cases hknown : u8 bytes (table + 3) = 1
    · rw [if_neg (not_not.mpr ((contentRevision_tableAt table).mpr hknown)), if_pos hknown]
    · rw [if_pos (mt (contentRevision_tableAt table).mp hknown), if_neg hknown]

/-- The entries of a table are counted if its header is there and it has at least one. -/
theorem entryCount_eq_ok_iff (hfits : declaredSize bytes ≤ bytes.size) {table size count : Nat} :
    (beginning bytes (declaredSize bytes)).entryCount table size = .ok count ↔
      table ≠ 0 ∧ table + 4 < declaredSize bytes ∧ 4 + size ≤ u16 bytes table ∧
        u8 bytes (table + 3) = 1 ∧ (u16 bytes table - 4) / size = count := by
  rw [entryCount_eq hfits]
  constructor
  · intro h
    split_ifs at h with hout hshort hknown
    obtain ⟨hplace, hinside⟩ := not_or.mp hout
    exact ⟨hplace, Nat.not_le.mp hinside, Nat.not_lt.mp hshort, hknown, Except.ok.inj h⟩
  · rintro ⟨hplace, hinside, hlong, hknown, rfl⟩
    rw [if_neg (not_or.mpr ⟨hplace, Nat.not_le.mpr hinside⟩), if_neg (Nat.not_lt.mpr hlong),
      if_pos hknown]

/-- An entry is one of those that are counted, and is inside. -/
theorem hasSlot_iff (hfits : declaredSize bytes ≤ bytes.size) {table size index : Nat}
    (hsize : 0 < size) :
    HasSlot bytes table size index ↔
      ∃ count, (beginning bytes (declaredSize bytes)).entryCount table size = .ok count ∧
        index < count ∧ slotPlace table size index + size < declaredSize bytes := by
  have hcount : index < (u16 bytes table - 4) / size ↔
      (index + 1) * size ≤ u16 bytes table - 4 := Nat.le_div_iff_mul_le hsize
  constructor
  · intro h
    have hfirst : 1 * size ≤ (index + 1) * size := Nat.mul_le_mul_right size (by omega)
    have hcovered := h.covered
    exact ⟨_, (entryCount_eq_ok_iff hfits).mpr
      ⟨h.table_ne_zero, h.header, by omega, h.revision, rfl⟩, hcount.mpr (by omega), h.inside⟩
  · rintro ⟨count, hentries, hindex, hinside⟩
    obtain ⟨hplace, hheader, hleast, hrevision, rfl⟩ := (entryCount_eq_ok_iff hfits).mp hentries
    have hcovered := hcount.mp hindex
    exact ⟨hplace, hheader, hrevision, by omega, hinside⟩

/-! ## Signals -/

/-- The signal at a bit of a register. Only a bit below 32 has a mask. -/
def bitSignal (register shift : Nat) : GpioLine where
  register := UInt32.ofNat register
  shift := UInt8.ofNat shift
  mask := if shift < 32 then UInt32.ofNat (2 ^ shift) else 0

/-- The eight signals of the clock and data pins, in the order of their registers. -/
def GpioPins.signals (pins : GpioPins) : List GpioLine :=
  [pins.clkMask, pins.clkEn, pins.clkY, pins.clkA,
    pins.dataMask, pins.dataEn, pins.dataY, pins.dataA]

theorem one_shiftLeft {shift : UInt8} (h : shift < 32) :
    (1 : UInt32) <<< shift.toUInt32 = UInt32.ofNat (2 ^ shift.toNat) := by
  have hshift : shift.toNat < 32 := UInt8.lt_iff_toNat_lt.mp h
  rw [← UInt32.toNat_inj, UInt32.toNat_shiftLeft, UInt32.toNat_ofNat', UInt8.toNat_toUInt32,
    Nat.mod_eq_of_lt hshift]
  show 1 <<< shift.toNat % 2 ^ 32 = 2 ^ shift.toNat % 2 ^ 32
  rw [Nat.one_shiftLeft]

theorem ofShift_eq {register : UInt32} {shift : UInt8} {number bit : Nat}
    (hregister : register.toNat = number) (hshift : shift.toNat = bit) :
    GpioLine.ofShift register shift = bitSignal number bit := by
  subst hregister hshift
  have hbit : shift < 32 ↔ shift.toNat < 32 := UInt8.lt_iff_toNat_lt
  rw [GpioLine.ofShift, bitSignal, UInt32.ofNat_toNat, UInt8.ofNat_toNat]
  by_cases h : shift < 32
  · rw [if_pos h, if_pos (hbit.mp h), one_shiftLeft h]
  · rw [if_neg h, if_neg (mt hbit.mpr h)]

/-! ## Lines -/

/-- Where the legacy GPIO table is. -/
def gpioPlace (bytes : Array UInt8) : Nat :=
  u16 bytes (masterPlace bytes + 24)

/-- Where the entry of a line is. -/
def linePlace (bytes : Array UInt8) (line : UInt8) : Nat :=
  slotPlace (gpioPlace bytes) 27 line.toNat

/-- The legacy GPIO table has an entry for a line. -/
def HasLine (bytes : Array UInt8) (line : UInt8) : Prop :=
  HasSlot bytes (gpioPlace bytes) 27 line.toNat

/-- The signals of a line: eight registers of 16 bits, and their bits behind the id byte. -/
def lineSignals (bytes : Array UInt8) (line : UInt8) : List GpioLine :=
  (List.range 8).map fun k =>
    bitSignal (u16 bytes (linePlace bytes line + 2 * k)) (u8 bytes (linePlace bytes line + 17 + k))

theorem toNat_gpioI2cInfo (bytes : Array UInt8) :
    (tableAt LegacyMasterList bytes (masterPlace bytes)).gpioI2cInfo.toNat = gpioPlace bytes :=
  toNat_wordAt_extract bytes _ (by decide)

/-- An entry of a line is found where the table has it. -/
theorem gpioAssignment_eq_ok_iff (hfits : declaredSize bytes ≤ bytes.size) {line : UInt8}
    {assignment : GpioAssignment} :
    (beginning bytes (declaredSize bytes)).gpioAssignment
        (tableAt LegacyMasterList bytes (masterPlace bytes)) line = .ok assignment ↔
      HasLine bytes line ∧ tableAt GpioAssignment bytes (linePlace bytes line) = assignment := by
  have hslot : HasLine bytes line ↔ ∃ count,
      (beginning bytes (declaredSize bytes)).entryCount (gpioPlace bytes) 27 = .ok count ∧
        line.toNat < count ∧ linePlace bytes line + 27 < declaredSize bytes :=
    hasSlot_iff hfits (by decide)
  have hentry (found : GpioAssignment) : (beginning bytes (declaredSize bytes)).table GpioAssignment
      (linePlace bytes line) = .ok found ↔ linePlace bytes line ≠ 0 ∧
        linePlace bytes line + 27 < declaredSize bytes ∧
          tableAt GpioAssignment bytes (linePlace bytes line) = found :=
    table_eq_ok_iff hfits
  have hplace : linePlace bytes line ≠ 0 := by
    rw [linePlace, slotPlace]
    omega
  rw [Span.gpioAssignment, toNat_gpioI2cInfo, hslot, bind_eq_ok_iff]
  constructor
  · rintro ⟨count, hcount, h⟩
    split at h
    · next hline =>
      split at h
      · next found hfound =>
        obtain rfl := Except.ok.inj h
        obtain ⟨-, hinside, htable⟩ := (hentry found).mp hfound
        exact ⟨⟨count, hcount, hline, hinside⟩, htable⟩
      · cases h
    · cases h
  · rintro ⟨⟨count, hcount, hline, hinside⟩, rfl⟩
    have hfound : (beginning bytes (declaredSize bytes)).table GpioAssignment
        (gpioPlace bytes + Layout.size TableHeader + line.toNat * Layout.size GpioAssignment) =
        .ok (tableAt GpioAssignment bytes (linePlace bytes line)) :=
      (hentry _).mpr ⟨hplace, hinside, rfl⟩
    refine ⟨count, hcount, ?_⟩
    rw [if_pos hline, hfound]
    rfl

/-- The signals that the entry of a line describes. -/
theorem signals_ofAssignment (bytes : Array UInt8) (line : UInt8) :
    (GpioPins.ofAssignment (tableAt GpioAssignment bytes (linePlace bytes line))).signals =
      lineSignals bytes line := by
  have hsignal {field bit : Nat} (hfield : field + 1 < 27) (hbit : bit < 27) :
      GpioLine.ofShift
          (Layout.wordAt (bytes.extract (linePlace bytes line) (linePlace bytes line + 27))
            field).toUInt32
          (Layout.byteAt (bytes.extract (linePlace bytes line) (linePlace bytes line + 27)) bit) =
        bitSignal (u16 bytes (linePlace bytes line + field))
          (u8 bytes (linePlace bytes line + bit)) := by
    refine ofShift_eq ?_ (congrArg UInt8.toNat (byteAt_extract bytes _ hbit))
    rw [UInt16.toNat_toUInt32]
    exact toNat_wordAt_extract bytes _ hfield
  have hrange : List.range 8 = [0, 1, 2, 3, 4, 5, 6, 7] := rfl
  simp only [GpioPins.signals, lineSignals, hrange, List.map_cons, List.map_nil, List.cons.injEq,
    and_true]
  refine ⟨?_, ?_, ?_, ?_, ?_, ?_, ?_, ?_⟩ <;> exact hsignal (by decide) (by decide)

/-! ## Pins -/

/-- Where the pin look-up table is. -/
def lutPlace (bytes : Array UInt8) : Nat :=
  u16 bytes (masterPlace bytes + 28)

/-- Where the entry with the given index is. -/
def pinPlace (bytes : Array UInt8) (index : Nat) : Nat :=
  slotPlace (lutPlace bytes) 8 index

/-- The pin look-up table has an entry with the given index, and an id byte in it. -/
def PinNamed (bytes : Array UInt8) (i2cId : UInt8) (index : Nat) : Prop :=
  HasSlot bytes (lutPlace bytes) 8 index ∧ u8 bytes (pinPlace bytes index + 6) = i2cId.toNat

/-- The signals of a pin: the A register of the clock, which has 32 bits, and its bit. -/
def pinSignals (bytes : Array UInt8) (index : Nat) : GpioPins where
  clkA := bitSignal (u32 bytes (pinPlace bytes index)) (u8 bytes (pinPlace bytes index + 4))

theorem toNat_gpioPinLut (bytes : Array UInt8) :
    (tableAt DisplayMasterList bytes (masterPlace bytes)).gpioPinLut.toNat = lutPlace bytes :=
  toNat_wordAt_extract bytes _ (by decide)

theorem ofPin_tableAt (bytes : Array UInt8) (index : Nat) :
    GpioPins.ofPin (tableAt PinAssignment bytes (pinPlace bytes index)) =
      pinSignals bytes index :=
  congrArg (fun clkA => ({ clkA } : GpioPins)) (ofShift_eq
    (toNat_dwordAt_extract bytes _ (by decide))
    (congrArg UInt8.toNat (byteAt_extract bytes _ (by decide))))

/-- The key by which pins are told apart is the whole byte. -/
theorem and_pinKey (i2cId : UInt8) : i2cId &&& pinKey = i2cId := by
  have hkey : pinKey = -1 := by decide
  rw [hkey, UInt8.and_neg_one]

/-- The first entry with an id byte, among those that are counted. -/
theorem find?_pins (hfits : declaredSize bytes ≤ bytes.size) {count : Nat}
    (hcount : (beginning bytes (declaredSize bytes)).entryCount (lutPlace bytes) 8 = .ok count)
    {i2cId : UInt8} {pin : PinAssignment} :
    ((beginning bytes (declaredSize bytes)).pinAssignments (lutPlace bytes) count).find?
        (fun pin => decide (pin.gpioId &&& pinKey = i2cId &&& pinKey)) = some pin ↔
      ∃ index, IsLeast {i | PinNamed bytes i2cId i} index ∧
        tableAt PinAssignment bytes (pinPlace bytes index) = pin := by
  have hplace (i : Nat) : pinPlace bytes i ≠ 0 := by
    rw [pinPlace, slotPlace]
    omega
  have htest (place : Nat) : decide ((tableAt PinAssignment bytes place).gpioId &&& pinKey =
      i2cId &&& pinKey) = true ↔ u8 bytes (place + 6) = i2cId.toNat := by
    have hid : (tableAt PinAssignment bytes place).gpioId.toNat = u8 bytes (place + 6) :=
      congrArg UInt8.toNat (byteAt_extract bytes place (by decide))
    rw [decide_eq_true_iff, and_pinKey, and_pinKey, ← UInt8.toNat_inj, hid]
  have hset : {i | PinNamed bytes i2cId i} =
      {i | i < count ∧ pinPlace bytes i + 8 < declaredSize bytes ∧
        decide ((tableAt PinAssignment bytes (pinPlace bytes i)).gpioId &&& pinKey =
          i2cId &&& pinKey) = true} := by
    ext i
    refine Iff.trans ?_ (and_congr_right' (and_congr_right' (htest _).symm))
    constructor
    · rintro ⟨hslot, hnamed⟩
      obtain ⟨other, hentries, hindex, hinside⟩ := (hasSlot_iff hfits (by decide)).mp hslot
      obtain rfl := Except.ok.inj (hcount.symm.trans hentries)
      exact ⟨hindex, hinside, hnamed⟩
    · rintro ⟨hindex, hinside, hnamed⟩
      exact ⟨(hasSlot_iff hfits (by decide)).mpr ⟨count, hcount, hindex, hinside⟩, hnamed⟩
  rw [hset]
  exact find?_tables hfits hplace

/-- A record resolves to the first entry of the pin look-up table with its id byte. -/
theorem resolvePin_eq_ok_iff (hfits : declaredSize bytes ≤ bytes.size) {record : I2cRecord}
    {wiring : Wiring} :
    (beginning bytes (declaredSize bytes)).resolvePin
        (tableAt DisplayMasterList bytes (masterPlace bytes)) record = .ok wiring ↔
      ∃ index, IsLeast {i | PinNamed bytes record.i2cId i} index ∧
        .ofId record.i2cId record.slaveAddress (pinSignals bytes index) = wiring := by
  rw [Span.resolvePin, toNat_gpioPinLut, bind_eq_ok_iff]
  constructor
  · rintro ⟨count, hcount, h⟩
    split at h
    · next pin hfound =>
      obtain ⟨index, hleast, rfl⟩ := (find?_pins hfits hcount).mp hfound
      refine ⟨index, hleast, ?_⟩
      rw [← ofPin_tableAt]
      exact Except.ok.inj h
    · cases h
  · rintro ⟨index, hleast, rfl⟩
    obtain ⟨count, hcount, -, -⟩ := (hasSlot_iff hfits (by decide)).mp hleast.1.1
    refine ⟨count, hcount, ?_⟩
    rw [(find?_pins hfits hcount).mpr ⟨index, hleast, rfl⟩, ← ofPin_tableAt]
    rfl

/-! ## Id bytes -/

theorem toNat_lineOfId (i2cId : UInt8) : (lineOfId i2cId).toNat = i2cId.toNat % 16 := by
  rw [lineOfId, UInt8.toNat_and]
  exact Nat.and_two_pow_sub_one_eq_mod i2cId.toNat 4

theorem toNat_engine_ofId (i2cId address : UInt8) (gpio : GpioPins) :
    (Wiring.ofId i2cId address gpio).engine.toNat = i2cId.toNat / 16 % 8 := by
  show ((i2cId &&& 0x70) >>> 4).toNat = i2cId.toNat / 2 ^ 4 % 2 ^ 3
  rw [UInt8.toNat_shiftRight, UInt8.toNat_and]
  show (i2cId.toNat &&& 0x70) >>> 4 = i2cId.toNat / 2 ^ 4 % 2 ^ 3
  rw [Nat.shiftRight_and_distrib, Nat.shiftRight_eq_div_pow]
  exact Nat.and_two_pow_sub_one_eq_mod (i2cId.toNat / 2 ^ 4) 3

theorem toNat_hwAssist_ofId (i2cId address : UInt8) (gpio : GpioPins) :
    (Wiring.ofId i2cId address gpio).hwAssist.toNat = i2cId.toNat / 128 := by
  have hbyte : i2cId.toNat < 2 ^ 8 := i2cId.toNat_lt
  have hbit : (i2cId &&& 0x80).toNat = i2cId.toNat / 128 % 2 * 128 := by
    rw [UInt8.toNat_and]
    show i2cId.toNat &&& 2 ^ 7 = i2cId.toNat / 2 ^ 7 % 2 * 2 ^ 7
    rw [Nat.and_two_pow, Nat.toNat_testBit]
  have hzero : i2cId &&& 0x80 = 0 ↔ i2cId.toNat / 128 = 0 := by
    rw [← UInt8.toNat_inj, hbit]
    show i2cId.toNat / 128 % 2 * 128 = 0 ↔ i2cId.toNat / 128 = 0
    omega
  show (i2cId &&& 0x80 != 0).toNat = i2cId.toNat / 128
  by_cases h : i2cId &&& 0x80 = 0
  · rw [h, hzero.mp h]
    rfl
  · rw [bne_iff_ne.mpr h]
    have hone := mt hzero.mpr h
    show 1 = i2cId.toNat / 128
    omega

/-- The parts of an id byte make up the byte. -/
theorem toNat_ofId (i2cId address : UInt8) (gpio : GpioPins) :
    let wiring := Wiring.ofId i2cId address gpio
    i2cId.toNat = wiring.line.toNat + 16 * wiring.engine.toNat + 128 * wiring.hwAssist.toNat ∧
      wiring.line.toNat < 16 ∧ wiring.engine.toNat < 8 := by
  have hline : (Wiring.ofId i2cId address gpio).line.toNat = i2cId.toNat % 16 :=
    toNat_lineOfId i2cId
  have hbyte : i2cId.toNat < 2 ^ 8 := i2cId.toNat_lt
  dsimp only
  rw [hline, toNat_engine_ofId, toNat_hwAssist_ofId]
  omega

/-! ## The record of an object -/

/-- How an image resolves an I2C record. -/
def Context.resolve (firmware : Context) : I2cRecord → Except FirmwareError Wiring :=
  match firmware.schema with
  | .objectTables master _ => firmware.image.span.resolveLine master
  | .displayPaths master _ => firmware.image.span.resolvePin master

theorem walkFrom_eq (firmware : Context) (start : Nat) :
    firmware.walkFrom start = firmware.image.span.walkRecords firmware.resolve start none := by
  unfold Context.walkFrom Context.resolve
  cases firmware.schema <;> rfl

/-- The record at a place gives an object its wiring: it is the first of the object's records that
ends a walk, and it is an I2C record that resolves. -/
inductive WiresAt (bytes : Array UInt8) (resolve : I2cRecord → Except FirmwareError Wiring)
    (id : ObjectId) (wiring : Wiring) : Nat → Prop where
  | record {start index : Nat} (hrecords : RecordsAt bytes id start)
      (hbefore : ∀ earlier < index, Passes bytes resolve (recordPlace bytes start earlier))
      (hplace : recordPlace bytes start index ≠ 0)
      (hinside : recordPlace bytes start index + 4 < declaredSize bytes)
      (hrecord : IsI2cRecord bytes (recordPlace bytes start index))
      (hresolved : resolve (tableAt I2cRecord bytes (recordPlace bytes start index)) =
        .ok wiring) :
      WiresAt bytes resolve id wiring (recordPlace bytes start index)

/-- **An object has a wiring just if one of its records gives it.** -/
theorem i2cInfo_eq_ok_iff (h : Context.ofBytes bytes = .ok firmware) {id : ObjectId}
    {wiring : Wiring} :
    firmware.i2cInfo id = .ok wiring ↔ ∃ place, WiresAt bytes firmware.resolve id wiring place := by
  obtain ⟨haccepted, rfl⟩ := ofBytes_eq_ok_iff.mp h
  have hfits := haccepted.fits
  rw [i2cInfo_eq_bind, bind_eq_ok_iff]
  simp only [records_eq_ok_iff h, walkFrom_eq]
  constructor
  · rintro ⟨start, hrecords, hwalk⟩
    obtain ⟨index, hbefore, hends⟩ := exists_endsAt hfits (reading bytes).resolve start
    have hwiring : (beginning bytes (declaredSize bytes)).walkRecords (reading bytes).resolve start
        none = .ok wiring := hwalk
    rw [hwiring] at hends
    cases hends with
    | resolved hplace hinside hrecord hresolved =>
      exact ⟨_, .record hrecords hbefore hplace hinside hrecord hresolved⟩
  · rintro ⟨_, @⟨start, index, hrecords, hbefore, hplace, hinside, hrecord, hresolved⟩⟩
    refine ⟨start, hrecords, ?_⟩
    exact (walkRecords_of_passes hfits hbefore none).trans
      ((EndsAt.resolved hplace hinside hrecord hresolved).walkRecords_eq hfits)

/-! ## Both queries -/

/-- On a legacy image, a record resolves as the query for its line does. -/
theorem resolve_eq_ok_iff_of_legacy (hlegacy : ¬ IsDisplayImage bytes) {record : I2cRecord}
    {wiring : Wiring} :
    (reading bytes).resolve record = .ok wiring ↔
      ∃ info, (reading bytes).gpioInfo (lineOfId record.i2cId) = .ok info ∧
        .ofId record.i2cId record.slaveAddress info.gpio = wiring := by
  obtain ⟨objects, hschema, -⟩ := schema_of_legacy hlegacy
  rw [Context.resolve, Context.gpioInfo, hschema]
  dsimp only
  rw [Span.resolveLine, bind_eq_ok_iff]
  simp only [bind_eq_ok_iff]
  constructor
  · rintro ⟨assignment, hassignment, hwiring⟩
    exact ⟨_, ⟨assignment, hassignment, rfl⟩, Except.ok.inj hwiring⟩
  · rintro ⟨_, ⟨assignment, hassignment, hinfo⟩, rfl⟩
    obtain rfl := Except.ok.inj hinfo
    exact ⟨assignment, hassignment, rfl⟩

/-- The query for a line finds its entry. -/
theorem gpioInfo_eq_ok_iff (hfits : declaredSize bytes ≤ bytes.size)
    (hlegacy : ¬ IsDisplayImage bytes) {line : UInt8} {info : Wiring} :
    (reading bytes).gpioInfo line = .ok info ↔
      HasLine bytes line ∧
        .ofId (tableAt GpioAssignment bytes (linePlace bytes line)).i2cId 0
          (.ofAssignment (tableAt GpioAssignment bytes (linePlace bytes line))) = info := by
  obtain ⟨objects, hschema, -⟩ := schema_of_legacy hlegacy
  have hentry (assignment : GpioAssignment) :
      (reading bytes).image.span.gpioAssignment
          (tableAt LegacyMasterList bytes (masterPlace bytes)) line = .ok assignment ↔
        HasLine bytes line ∧ tableAt GpioAssignment bytes (linePlace bytes line) = assignment :=
    gpioAssignment_eq_ok_iff hfits
  rw [Context.gpioInfo, hschema]
  dsimp only
  rw [bind_eq_ok_iff]
  constructor
  · rintro ⟨assignment, hassignment, hinfo⟩
    obtain ⟨hline, rfl⟩ := (hentry assignment).mp hassignment
    exact ⟨hline, Except.ok.inj hinfo⟩
  · rintro ⟨hline, rfl⟩
    exact ⟨_, (hentry _).mpr ⟨hline, rfl⟩, rfl⟩

/-- Where there are display paths, a record resolves through the pin look-up table. -/
theorem resolve_eq_ok_iff_of_display (hfits : declaredSize bytes ≤ bytes.size)
    (hdisplay : IsDisplayImage bytes) {record : I2cRecord} {wiring : Wiring} :
    (reading bytes).resolve record = .ok wiring ↔
      ∃ index, IsLeast {i | PinNamed bytes record.i2cId i} index ∧
        .ofId record.i2cId record.slaveAddress (pinSignals bytes index) = wiring := by
  rw [Context.resolve, schema_of_display hdisplay]
  exact resolvePin_eq_ok_iff hfits

/-- However a record resolves, all of its wiring but the signals is what its id byte names. -/
theorem ofId_of_resolve (hfits : declaredSize bytes ≤ bytes.size) {record : I2cRecord}
    {wiring : Wiring} (h : (reading bytes).resolve record = .ok wiring) :
    ∃ gpio, Wiring.ofId record.i2cId record.slaveAddress gpio = wiring := by
  by_cases hdisplay : IsDisplayImage bytes
  · obtain ⟨index, -, hwiring⟩ := (resolve_eq_ok_iff_of_display hfits hdisplay).mp h
    exact ⟨_, hwiring⟩
  · obtain ⟨info, -, hwiring⟩ := (resolve_eq_ok_iff_of_legacy hdisplay).mp h
    exact ⟨_, hwiring⟩

/-- **Lines and pins are resolved exactly, and the two queries agree.** On a legacy image, the
signals in the wiring of an object are those that the query for its line gives. This query finds a
line just if the GPIO table has an entry for it, and then gives the eight signals of the entry.
Where there are display paths, a record resolves to the first entry of the pin look-up table with
its id byte, and has the clock's A signal from there and no other. On either image, the record that
gives an object its wiring has an id byte made up of its line, engine and assistance. -/
theorem gpio_resolution (h : Context.ofBytes bytes = .ok firmware) :
    (¬ IsDisplayImage bytes →
      (∀ id wiring, firmware.i2cInfo id = .ok wiring →
        ∃ info, firmware.gpioInfo wiring.line = .ok info ∧ info.gpio = wiring.gpio) ∧
      ∀ line, ((∃ info, firmware.gpioInfo line = .ok info) ↔ HasLine bytes line) ∧
        ∀ info, firmware.gpioInfo line = .ok info → info.gpio.signals = lineSignals bytes line) ∧
    (IsDisplayImage bytes → ∀ record wiring, firmware.resolve record = .ok wiring ↔
      ∃ index, IsLeast {i | PinNamed bytes record.i2cId i} index ∧
        .ofId record.i2cId record.slaveAddress (pinSignals bytes index) = wiring) ∧
    ∀ id wiring, firmware.i2cInfo id = .ok wiring →
      ∃ place, WiresAt bytes firmware.resolve id wiring place ∧
        u8 bytes (place + 2) =
          wiring.line.toNat + 16 * wiring.engine.toNat + 128 * wiring.hwAssist.toNat ∧
        wiring.line.toNat < 16 ∧ wiring.engine.toNat < 8 := by
  have hwires (id : ObjectId) (wiring : Wiring) (hinfo : firmware.i2cInfo id = .ok wiring) :=
    (i2cInfo_eq_ok_iff h).mp hinfo
  obtain ⟨haccepted, rfl⟩ := ofBytes_eq_ok_iff.mp h
  have hfits := haccepted.fits
  refine ⟨fun hlegacy => ⟨fun id wiring hinfo => ?_, fun line => ⟨?_, fun info hinfo => ?_⟩⟩,
    fun hdisplay record wiring => resolve_eq_ok_iff_of_display hfits hdisplay,
    fun id wiring hinfo => ?_⟩
  · obtain ⟨place, ⟨-, -, -, -, -, hresolved⟩⟩ := hwires id wiring hinfo
    obtain ⟨info, hline, rfl⟩ := (resolve_eq_ok_iff_of_legacy hlegacy).mp hresolved
    exact ⟨info, hline, rfl⟩
  · constructor
    · rintro ⟨info, hinfo⟩
      exact ((gpioInfo_eq_ok_iff hfits hlegacy).mp hinfo).1
    · intro hline
      exact ⟨_, (gpioInfo_eq_ok_iff hfits hlegacy).mpr ⟨hline, rfl⟩⟩
  · obtain ⟨-, rfl⟩ := (gpioInfo_eq_ok_iff hfits hlegacy).mp hinfo
    exact signals_ofAssignment bytes line
  · obtain ⟨place, hplace⟩ := hwires id wiring hinfo
    refine ⟨place, hplace, ?_⟩
    obtain ⟨-, -, -, -, -, hresolved⟩ := hplace
    obtain ⟨gpio, rfl⟩ := ofId_of_resolve hfits hresolved
    have hid (place : Nat) : (tableAt I2cRecord bytes place).i2cId.toNat = u8 bytes (place + 2) :=
      congrArg UInt8.toNat (byteAt_extract bytes place (by decide))
    rw [← hid]
    exact toNat_ofId _ _ gpio

/-- The one connector of a legacy image, which is wired to line 3, and a record of an image with
display paths, which has the id byte of the second pin. -/
theorem gpio_resolution_oneConnector :
    (∃ firmware wiring info, Context.ofBytes oneConnector = .ok firmware ∧
      firmware.i2cInfo ⟨19, 1, .connector⟩ = .ok wiring ∧ wiring.line = 3 ∧
      firmware.gpioInfo 3 = .ok info ∧ info.gpio = wiring.gpio ∧
      info.gpio.signals = lineSignals oneConnector 3) ∧
    ∃ firmware, Context.ofBytes sharedEncoder = .ok firmware ∧
      firmware.resolve ⟨⟨1, 4⟩, 0x92, 0⟩ = .ok (.ofId 0x92 0 (pinSignals sharedEncoder 1)) := by
  constructor
  · have hparse := whole_oneConnector.parses
    have hlegacy : ¬ IsDisplayImage oneConnector := by decide +kernel
    have hfound : ((reading oneConnector).i2cInfo ⟨19, 1, .connector⟩).toOption.map Wiring.line =
        some 3 := by
      rw [whole_oneConnector.reading_eq]
      decide +kernel
    obtain ⟨wiring, hwiring, hthree⟩ := Option.map_eq_some_iff.mp hfound
    have hinfo := toOption_eq_some_iff.mp hwiring
    obtain ⟨hagree, hlines⟩ := (gpio_resolution hparse).1 hlegacy
    obtain ⟨info, hline, hsignals⟩ := hagree _ wiring hinfo
    rw [hthree] at hline
    exact ⟨_, wiring, info, hparse, hinfo, hthree, hline, hsignals, (hlines 3).2 info hline⟩
  · have hdisplay : IsDisplayImage sharedEncoder := by decide +kernel
    have hsecond : PinNamed sharedEncoder 0x92 1 :=
      ⟨⟨by decide +kernel, by decide +kernel, by decide +kernel, by decide +kernel,
        by decide +kernel⟩, by decide +kernel⟩
    have hfirst : ¬ PinNamed sharedEncoder 0x92 0 := by
      rintro ⟨-, hnamed⟩
      exact absurd hnamed (by decide +kernel)
    have hleast : IsLeast {i | PinNamed sharedEncoder 0x92 i} 1 := by
      refine ⟨hsecond, fun i hi => Nat.one_le_iff_ne_zero.mpr ?_⟩
      rintro rfl
      exact hfirst hi
    have hparse := whole_sharedEncoder.parses
    exact ⟨_, hparse, ((gpio_resolution hparse).2.1 hdisplay _ _).mpr ⟨1, hleast, rfl⟩⟩

end GpuI2c.Firmware
