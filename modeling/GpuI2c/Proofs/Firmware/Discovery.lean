import GpuI2c.Adapter.Create
import GpuI2c.Device
import GpuI2c.Proofs.Firmware.Accepted

/-!
# Which connectors are counted

Connectors are looked for, and logged, at the indices below `Context.connectorCount`
(`events_logFirmware`). On a legacy image the count is the size of the connector table, and every
connector is found there. On an image with display paths the count is that of the paths in use,
while a connector keeps the index of its path: so one is found just if no more paths before it are
unused than paths after it are in use (`lt_connectorCount_iff`).
-/

namespace GpuI2c.Firmware

/-! ## Paths in use -/

/-- Whether there is a display path with the given index inside the image, and it has an encoder. -/
def Span.usesPath (span : Span) (master : DisplayMasterList) (index : Nat) : Bool :=
  (span.displayPath master index).toOption.any fun path => path.encoderObject ≠ 0

/-- The number of unused display paths before the one with the given index. -/
def Context.unusedBefore (firmware : Context) (index : Nat) : Nat :=
  match firmware.schema with
  | .objectTables .. => 0
  | .displayPaths master _ =>
    (List.range index).countP fun i => !firmware.image.span.usesPath master i

/-- The number of display paths in use after the one with the given index. -/
def Context.usedAfter (firmware : Context) (index : Nat) : Nat :=
  match firmware.schema with
  | .objectTables .. => 0
  | .displayPaths master objects =>
    (List.range (objects.numberOfPath.toNat - (index + 1))).countP fun i =>
      firmware.image.span.usesPath master (index + 1 + i)

/-- A number that passes a test lies below the number of those below `count` that do, just if no
more numbers before it fail the test than numbers after it pass. -/
theorem lt_countP_range_iff {test : Nat → Bool} {count index : Nat} (hindex : index < count)
    (htest : test index = true) :
    index < (List.range count).countP test ↔
      (List.range index).countP (fun i => !test i) ≤
        (List.range (count - (index + 1))).countP fun i => test (index + 1 + i) := by
  obtain ⟨after, rfl⟩ := Nat.exists_eq_add_of_lt hindex
  have hsplit : (List.range (index + after + 1)).countP test =
      (List.range index).countP test + 1 +
        (List.range after).countP fun i => test (index + 1 + i) := by
    rw [show index + after + 1 = index + 1 + after by omega, List.range_add, List.countP_append,
      List.range_succ, List.countP_append, List.countP_singleton, if_pos htest, List.countP_map]
    rfl
  have hbefore : index =
      (List.range index).countP test + (List.range index).countP (fun i => !test i) := by
    have hlength := List.length_eq_countP_add_countP test (l := List.range index)
    simpa using hlength
  rw [hsplit, show index + after + 1 - (index + 1) = after by omega]
  omega

/-! ## Counting -/

variable {firmware : Context}

/-- On a legacy image, a connector is counted. -/
theorem lt_connectorCount_of_objectTables {master : LegacyMasterList} {objects : LegacyObjects}
    (hschema : firmware.schema = .objectTables master objects) {index : Nat}
    (h : firmware.connectorId? index ≠ none) : index < firmware.connectorCount := by
  rw [Context.connectorId?, hschema] at h
  rw [Context.connectorCount, hschema]
  cases htable : firmware.image.span.objectTable master objects.shared.connectorTable with
  | error error =>
    simp only [htable] at h
    exact (h rfl).elim
  | ok found =>
    simp only [htable] at h ⊢
    exact Decidable.of_not_not fun hnot => h (if_neg hnot)

/-- The display path of a connector is in use. -/
theorem usesPath_of_connectorId? {master : DisplayMasterList} {objects : DisplayObjectInfo}
    (hschema : firmware.schema = .displayPaths master objects) {index : Nat}
    (h : firmware.connectorId? index ≠ none) :
    index < objects.numberOfPath.toNat ∧ firmware.image.span.usesPath master index = true := by
  rw [Context.connectorId?, hschema] at h
  by_cases hindex : index < objects.numberOfPath.toNat
  · refine ⟨hindex, ?_⟩
    simp only [if_pos hindex] at h
    rw [Span.usesPath]
    cases hpath : (firmware.image.span.displayPath master index).toOption with
    | none =>
      rw [hpath] at h
      exact (h rfl).elim
    | some path =>
      rw [hpath] at h
      rw [Option.any_some, decide_eq_true_iff]
      rintro hunused
      exact h (if_pos (.inl hunused))
  · exact (h (if_neg hindex)).elim

/-- The connectors of an image with display paths are counted by the paths in use. -/
theorem connectorCount_of_displayPaths {master : DisplayMasterList} {objects : DisplayObjectInfo}
    (hschema : firmware.schema = .displayPaths master objects) :
    firmware.connectorCount =
      (List.range objects.numberOfPath.toNat).countP (firmware.image.span.usesPath master) := by
  have hcount : (firmware.image.span.displayPaths master objects).countP
        (fun path => path.encoderObject ≠ 0) =
      (List.range objects.numberOfPath.toNat).countP (firmware.image.span.usesPath master) := by
    rw [Span.displayPaths, List.countP_filterMap]
    refine List.countP_congr fun index _ => ?_
    rw [Span.usesPath]
    cases (firmware.image.span.displayPath master index).toOption <;> exact Iff.rfl
  have hbyte : objects.numberOfPath.toNat ≤ 255 := Nat.le_of_lt_succ objects.numberOfPath.toNat_lt
  have hle : (List.range objects.numberOfPath.toNat).countP
      (firmware.image.span.usesPath master) ≤ objects.numberOfPath.toNat := by
    simpa using List.countP_le_length (p := firmware.image.span.usesPath master)
      (l := List.range objects.numberOfPath.toNat)
  rw [Context.connectorCount, hschema]
  dsimp only
  rw [hcount]
  omega

/-- **A connector is counted** just if no more display paths before it are unused than display paths
after it are in use. On a legacy image there are neither, and every connector is counted. -/
theorem lt_connectorCount_iff (firmware : Context) {index : Nat}
    (h : firmware.connectorId? index ≠ none) :
    index < firmware.connectorCount ↔ firmware.unusedBefore index ≤ firmware.usedAfter index := by
  cases hschema : firmware.schema with
  | objectTables master objects =>
    simp only [lt_connectorCount_of_objectTables hschema h, Context.unusedBefore,
      Context.usedAfter, hschema, Nat.le_refl]
  | displayPaths master objects =>
    obtain ⟨hindex, huses⟩ := usesPath_of_connectorId? hschema h
    rw [connectorCount_of_displayPaths hschema, lt_countP_range_iff hindex huses,
      Context.unusedBefore, Context.usedAfter, hschema]

/-! ## Discovery -/

/-- The connectors at some indices, with their indices. -/
def Context.connectorsAt (firmware : Context) (indices : List Nat) : List (Nat × ObjectId) :=
  indices.filterMap fun index => (firmware.connectorId? index).map (index, ·)

/-- The connectors that are looked for: those at the indices that are counted. -/
def Context.discovered (firmware : Context) : List (Nat × ObjectId) :=
  firmware.connectorsAt (List.range firmware.connectorCount)

/-- What is seen when a connector is logged. -/
def connectorEvent (firmware : Context) (connector : Nat × ObjectId) : Event :=
  .log ⟨.debug, Adapter.connectorLine firmware connector.1 connector.2⟩

/-- The connectors at some indices are logged one by one. -/
theorem events_logConnectors {σ : Type} (device : Device σ) (indices : List Nat)
    (world : World σ) :
    ((Adapter.logConnectors firmware indices).run device world).events =
      (firmware.connectorsAt indices).map (connectorEvent firmware) := by
  induction indices with
  | nil => rfl
  | cons index rest ih =>
    rw [Adapter.logConnectors, Context.connectorsAt, List.filterMap_cons]
    cases firmware.connectorId? index with
    | none => exact ih
    | some id => exact congrArg (_ :: ·) ih

/-- **The connectors of an image that are logged are those at the indices that are counted.** -/
theorem events_logFirmware {σ : Type} (firmware : Context) (device : Device σ) (world : World σ) :
    ((Adapter.logFirmware firmware).run device world).events =
      .log ⟨.info, Adapter.firmwareLine firmware⟩ ::
        firmware.discovered.map (connectorEvent firmware) :=
  congrArg (_ :: ·) (events_logConnectors device _ world)

/-- A connector is discovered just if its index is counted. -/
theorem mem_discovered_iff {index : Nat} {id : ObjectId} :
    (index, id) ∈ firmware.discovered ↔
      index < firmware.connectorCount ∧ firmware.connectorId? index = some id := by
  rw [Context.discovered, Context.connectorsAt, List.mem_filterMap]
  constructor
  · rintro ⟨i, hi, hfound⟩
    obtain ⟨_, hid, hpair⟩ := Option.map_eq_some_iff.mp hfound
    cases hpair
    exact ⟨List.mem_range.mp hi, hid⟩
  · rintro ⟨hindex, hid⟩
    refine ⟨index, List.mem_range.mpr hindex, ?_⟩
    rw [hid]
    rfl

/-- An image with three display paths, the first of them unused. The second has a VGA connector and
the third a DisplayPort one. -/
def unusedFirstPath : Array UInt8 :=
  imageWith 2
    [(0x100, [0x38, 0, 1, 4, 0, 0, 3, 0]), (0x108, [0x0C, 0x31]),
     (0x118, [0x05, 0x31, 0, 0, 0x1E, 0x21]), (0x128, [0x13, 0x31, 0, 0, 0x20, 0x21])]

theorem whole_unusedFirstPath : Whole unusedFirstPath :=
  ⟨by decide +kernel, by decide +kernel⟩

/-- The VGA connector is counted: there is one unused path before it, and one in use after it. -/
theorem lt_connectorCount_iff_unusedFirstPath :
    let firmware := reading unusedFirstPath
    firmware.connectorId? 1 = some ⟨5, 1, .connector⟩ ∧ firmware.unusedBefore 1 = 1 ∧
      1 < firmware.connectorCount := by
  intro firmware
  have hid : firmware.connectorId? 1 = some ⟨5, 1, .connector⟩ := by
    rw [show firmware = _ from whole_unusedFirstPath.reading_eq]
    decide +kernel
  have hpaths : firmware.unusedBefore 1 = 1 ∧ firmware.usedAfter 1 = 1 := by
    rw [show firmware = _ from whole_unusedFirstPath.reading_eq]
    decide +kernel
  obtain ⟨hunused, hused⟩ := hpaths
  have hne : firmware.connectorId? 1 ≠ none := by
    rw [hid]
    exact Option.some_ne_none _
  exact ⟨hid, hunused,
    (lt_connectorCount_iff firmware hne).mpr (Nat.le_of_eq (hunused.trans hused.symm))⟩

/-- The DisplayPort connector is not counted. The loop over the indices that are counted leaves it
out, and logs the VGA connector alone. -/
theorem connectorCount_misses_last :
    ∃ firmware, Context.ofBytes unusedFirstPath = .ok firmware ∧
      firmware.connectorId? 2 = some ⟨19, 1, .connector⟩ ∧ firmware.connectorCount = 2 ∧
      (∀ id, (2, id) ∉ firmware.discovered) ∧
      firmware.discovered = [(1, ⟨5, 1, .connector⟩)] := by
  refine ⟨_, whole_unusedFirstPath.parses, ?_⟩
  rw [whole_unusedFirstPath.reading_eq]
  refine ⟨by decide +kernel, by decide +kernel, fun id hmem => ?_, by decide +kernel⟩
  exact absurd (mem_discovered_iff.mp hmem).1 (by decide +kernel)

end GpuI2c.Firmware
