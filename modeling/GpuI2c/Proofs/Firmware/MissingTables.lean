import GpuI2c.Proofs.Firmware.Wiring

/-!
# Missing object tables

A legacy image keeps zero for the distance to an object table that it does not have. But distances
count from the object header, and only the sum of the two is looked at: it is never zero, and a
table is missing just if its header leaves the declared size (`connectorCount_of_legacy`). The main
statement is `zero_distance_reads_header`: at distance zero the object header itself is read as the
table, whose count is then the low byte of the header's size, and whose entries start at its fourth
byte.
-/

namespace GpuI2c.Firmware

variable {bytes : Array UInt8}

/-- On a legacy image, the connectors are counted by the connector table, if its header lies inside
the declared size. -/
theorem connectorCount_of_legacy (haccepted : Accepted bytes) (hlegacy : ¬ IsDisplayImage bytes) :
    (reading bytes).connectorCount =
      if tablePlace bytes connectorField + 4 < declaredSize bytes then
        u8 bytes (tablePlace bytes connectorField)
      else 0 := by
  obtain ⟨objects, hschema, htables⟩ := schema_of_legacy hlegacy
  rw [Context.connectorCount, hschema]
  dsimp only
  rw [connectorTable_eq haccepted htables]
  by_cases hinside : tablePlace bytes connectorField + 4 < declaredSize bytes
  · rw [if_pos hinside, if_pos hinside]
    exact toNat_count bytes _
  · rw [if_neg hinside, if_neg hinside]

/-- **At distance zero the object header is read as the table.** On a legacy image that keeps zero
for the distance to the table of some type of objects, this table is not missing: if it is that of
connectors, they are counted by the low byte of the header's size, and read from the header's fourth
byte on; and the wiring of an object of the type is that of the first entry there with its id. -/
theorem zero_distance_reads_header {firmware : Context}
    (h : Context.ofBytes bytes = .ok firmware) (hlegacy : ¬ IsDisplayImage bytes)
    {objectType : ObjectType} {field : Nat} (hfield : tableField? bytes objectType = some field)
    (hzero : u16 bytes (objectPlace bytes + field) = 0) :
    let header := objectPlace bytes
    (objectType = .connector → firmware.connectorCount = u8 bytes header ∧
      ∀ index id, firmware.connectorId? index = some id ↔ EntryNames bytes header id index) ∧
    ∀ id, id.objectType = objectType →
      (∀ index, IsLeast {i | EntryNames bytes header id i} index →
        firmware.i2cInfo id =
          firmware.walkFrom (header + u16 bytes (entryPlace header index + 4))) ∧
      ((∀ index, ¬ EntryNames bytes header id index) →
        firmware.i2cInfo id = .error .objectNotFound) := by
  intro header
  obtain ⟨haccepted, rfl⟩ := ofBytes_eq_ok_iff.mp h
  have hplace : tablePlace bytes field = header := by
    rw [tablePlace, hzero]
    rfl
  have hinside : tablePlace bytes field + 4 < declaredSize bytes := by
    have hobject := haccepted.object_lt.2
    rw [if_neg hlegacy] at hobject
    rw [hplace]
    omega
  refine ⟨fun htype => ?_, fun id htype => ⟨fun index hfirst => ?_, fun hnone => ?_⟩⟩
  · subst htype
    obtain rfl : connectorField = field := Option.some.inj hfield
    refine ⟨?_, fun index id => ?_⟩
    · rw [connectorCount_of_legacy haccepted hlegacy, if_pos hinside, hplace]
    · rw [connectorId?_eq_some_iff_of_legacy haccepted hlegacy]
      simp only [lists_iff, listLength, listedId, listedPlace, if_neg hlegacy, hplace]
      exact ⟨fun hentry => ⟨hentry.1.1, hentry.1.2, hentry.2⟩,
        fun hentry => ⟨⟨hentry.counted, hentry.inside⟩, hentry.named⟩⟩
  · subst htype
    rw [← hplace] at hfirst
    have hrecords := (records_eq_ok_iff h).mpr (.entry hlegacy hfield hinside hfirst)
    rw [hplace] at hrecords
    rw [i2cInfo_eq_bind, hrecords]
    rfl
  · subst htype
    rw [i2cInfo_eq_bind]
    cases hrecords : (reading bytes).records id with
    | error error =>
      rw [eq_objectNotFound_of_records hrecords]
      rfl
    | ok start =>
      cases (records_eq_ok_iff h).mp hrecords with
      | path hpaths => exact (hlegacy hpaths).elim
      | @entry other index _ hother _ hfirst =>
        obtain rfl : field = other := Option.some.inj (hfield.symm.trans hother)
        rw [hplace] at hfirst
        exact (hnone index hfirst.1).elim

/-! ## An object header that lists a connector -/

/-- A legacy image without object tables: its object header has zero for the distances to all of
them but that of routers. Read as a table, it lists a DisplayPort connector. -/
def noConnectors : Array UInt8 :=
  imageWith 1
    [(0x100, [0x10, 0, 1, 1, 0x13, 0x31, 0, 0, 0x40, 0]), (0x140, [1, 4, 0x93, 0, 0xFF]),
     -- The GPIO table.
     (0xC8, [0x60, 1]), (0x160, [0x70, 0, 1, 1])]

theorem whole_noConnectors : Whole noConnectors :=
  ⟨by decide +kernel, by decide +kernel⟩

/-- The sixteen connectors are the size of the object header, and the first is its first field. -/
theorem zero_distance_reads_header_noConnectors :
    ∃ firmware, Context.ofBytes noConnectors = .ok firmware ∧ firmware.connectorCount = 16 ∧
      firmware.connectorId? 0 = some ⟨19, 1, .connector⟩ ∧
      firmware.i2cInfo ⟨19, 1, .connector⟩ = firmware.walkFrom 0x140 := by
  have hlegacy : ¬ IsDisplayImage noConnectors := by decide +kernel
  have hzero : u16 noConnectors (objectPlace noConnectors + connectorField) = 0 := by
    decide +kernel
  have hcount : u8 noConnectors (objectPlace noConnectors) = 16 := by decide +kernel
  have hentry : EntryNames noConnectors (objectPlace noConnectors) ⟨19, 1, .connector⟩ 0 :=
    ⟨by decide +kernel, by decide +kernel, by decide +kernel⟩
  have hstart : objectPlace noConnectors +
      u16 noConnectors (entryPlace (objectPlace noConnectors) 0 + 4) = 0x140 := by
    decide +kernel
  have hfield : tableField? noConnectors .connector = some connectorField := by rfl
  have hparse := whole_noConnectors.parses
  obtain ⟨hconnectors, hobjects⟩ := zero_distance_reads_header hparse hlegacy hfield hzero
  obtain ⟨hlength, hids⟩ := hconnectors rfl
  obtain ⟨hwiring, -⟩ := hobjects ⟨19, 1, .connector⟩ rfl
  refine ⟨_, hparse, hlength.trans hcount, (hids _ _).mpr hentry, ?_⟩
  rw [hwiring 0 ⟨hentry, fun _ _ => Nat.zero_le _⟩, hstart]

/-- A table at distance zero is not missing: the image has zero for the distance to its connector
table, and yet sixteen connectors are counted, the first of them is found, and so is its wiring. -/
theorem noConnectors_lists_connector :
    u16 noConnectors (objectPlace noConnectors + connectorField) = 0 ∧
      ∃ firmware, Context.ofBytes noConnectors = .ok firmware ∧
        firmware.connectorCount ≠ 0 ∧ firmware.connectorId? 0 ≠ none ∧
        firmware.i2cInfo ⟨19, 1, .connector⟩ ≠ .error .objectNotFound := by
  refine ⟨by decide +kernel, _, whole_noConnectors.parses, ?_⟩
  rw [whole_noConnectors.reading_eq]
  decide +kernel

end GpuI2c.Firmware
