import Mathlib.Data.List.Forall2
import GpuI2c.Adapter.Create
import GpuI2c.Proofs.Adapter.Closing
import GpuI2c.Proofs.Firmware.Accepted

/-!
# Building adapters

Building an adapter touches no register: `create` only reports, and what it ends with is settled by
the identity of the board and its firmware image (`made`). So building several adapters is building
each by itself. The main statement is `createAll_builds_first_supported`: the outcome is that of the
first two supported boards, taken in order up to the first failure, and no candidate is looked at
once the outcome is known.
-/

namespace GpuI2c

/-! ## Steps in a row -/

section

variable {ε α β : Type} {f : α → Except ε β} {input : α} {rest : List α}

theorem mapM_cons_of_error {failure : ε} (h : f input = .error failure) :
    (input :: rest).mapM f = .error failure := by
  rw [List.mapM_cons, h]
  rfl

theorem mapM_cons_of_ok {result : β} (h : f input = .ok result) :
    (input :: rest).mapM f = (rest.mapM f).map (result :: ·) := by
  rw [List.mapM_cons, h]
  cases rest.mapM f <;> rfl

/-- Steps in a row succeed if each does, with the result of each. -/
theorem mapM_eq_ok_iff {inputs : List α} {results : List β} :
    inputs.mapM f = .ok results ↔
      List.Forall₂ (fun input result => f input = .ok result) inputs results := by
  induction inputs generalizing results with
  | nil =>
    rw [List.mapM_nil, List.forall₂_nil_left_iff]
    exact ⟨fun h => (Except.ok.inj h).symm, fun h => congrArg Except.ok h.symm⟩
  | cons input rest ih =>
    rw [List.forall₂_cons_left_iff]
    simp only [← ih]
    cases hinput : f input with
    | error failure => simp [mapM_cons_of_error hinput]
    | ok result =>
      rw [mapM_cons_of_ok hinput]
      cases rest.mapM f <;> simp [Except.map, eq_comm]

/-- The first place in a list where `Q` holds, with `P` before it: the head, or a later one. -/
theorem exists_split_cons {α : Type} {P Q : α → Prop} {head : α} {rest : List α} :
    (∃ before found after, head :: rest = before ++ found :: after ∧ (∀ a ∈ before, P a) ∧
        Q found) ↔
      Q head ∨ P head ∧ ∃ before found after, rest = before ++ found :: after ∧
        (∀ a ∈ before, P a) ∧ Q found := by
  simp only [List.cons_eq_append_iff]
  constructor
  · rintro ⟨before, found, after, ⟨rfl, h⟩ | ⟨before, rfl, rfl⟩, hbefore, hfound⟩
    · cases h
      exact .inl hfound
    · obtain ⟨hhead, hbefore⟩ := List.forall_mem_cons.mp hbefore
      exact .inr ⟨hhead, before, found, after, rfl, hbefore, hfound⟩
  · rintro (hhead | ⟨hhead, before, found, after, rfl, hbefore, hfound⟩)
    · exact ⟨[], head, rest, .inl ⟨rfl, rfl⟩, List.forall_mem_nil _, hhead⟩
    · exact ⟨head :: before, found, after, .inr ⟨before, rfl, rfl⟩,
        List.forall_mem_cons.mpr ⟨hhead, hbefore⟩, hfound⟩

/-- They fail as the first of them that does. -/
theorem mapM_eq_error_iff {inputs : List α} {failure : ε} :
    inputs.mapM f = .error failure ↔
      ∃ before failing after, inputs = before ++ failing :: after ∧
        (∀ input ∈ before, ∃ result, f input = .ok result) ∧ f failing = .error failure := by
  induction inputs with
  | nil => simp [pure, Except.pure]
  | cons input rest ih =>
    rw [exists_split_cons, ← ih]
    cases hinput : f input with
    | error first => simp [mapM_cons_of_error hinput]
    | ok result =>
      rw [mapM_cons_of_ok hinput]
      cases rest.mapM f <;> simp [Except.map]

/-- Adding one item and then more is adding all of them. -/
theorem map_append_singleton (built : List α) (first : α) (more : Except ε (List α)) :
    more.map (built ++ [first] ++ ·) = (more.map (first :: ·)).map (built ++ ·) := by
  cases more with
  | error failure => rfl
  | ok more => exact congrArg Except.ok (List.append_cons ..).symm

end

/-! ## Boards -/

namespace Board

/-- The identities of the supported boards. -/
def ids : List PciDevice :=
  table.map Board.id

theorem find?_eq_none_iff {device : PciDevice} : find? device = none ↔ device ∉ ids := by
  simp [find?, ids, List.find?_eq_none]

theorem exists_find? {device : PciDevice} (h : device ∈ ids) :
    ∃ board, find? device = some board :=
  Option.ne_none_iff_exists'.mp fun hnone => find?_eq_none_iff.mp hnone h

/-- No two supported boards have the same identity. -/
theorem find?_id {board : Board} (h : board ∈ table) : find? board.id = some board := by
  have hfind : ∀ board ∈ table, find? board.id = some board := by decide
  exact hfind board h

end Board

namespace Adapter

/-! ## One board -/

/-- The engine settings that firmware gives: the usual ones, with its reference clock if it has
one. -/
def configFor (firmware : Firmware.Context) : Engine.Config :=
  match firmware.crystalFrequency with
  | .ok clock => Engine.Config.default.withReferenceClock clock
  | .error _ => .default

/-- The adapter of a board whose bus the firmware describes. -/
def framedFor (block : Chip.RegisterBlock) (profile : Chip.Profile)
    (firmware : Firmware.Context) : FramedAdapter where
  engine := ⟨block, configFor firmware⟩
  firmware
  profile
  wiring := (firmware.gpioInfo profile.busLine).toOption

/-- What the building of an adapter for a supported board ends with. -/
def madeFor (board : Board) (image : Array UInt8) : Except AdapterError Adapter :=
  match board.family.registerBlock? with
  | none => .error (.unsupportedFamily board.family)
  | some block =>
    match board.family.profile.driveMode with
    | .firmwareTable =>
      match Firmware.Context.ofBytes image with
      | .error cause => .error (.firmware cause)
      | .ok firmware => .ok (.framed (framedFor block board.family.profile firmware))
    | .directRegister =>
      .ok (.direct { engine := ⟨block, .default⟩, profile := board.family.profile })

/-- What the building of an adapter ends with. -/
def made (device : PciDevice) (image : Array UInt8) : Except AdapterError Adapter :=
  match Board.find? device with
  | none => .error .deviceNotFound
  | some board => madeFor board image

/-- What building the adapter of a device may end with. -/
inductive Creates (device : PciDevice) (image : Array UInt8) : Except AdapterError Adapter → Prop
  | deviceNotFound (h : device ∉ Board.ids) : Creates device image (.error .deviceNotFound)
  | unsupportedFamily {board : Board} (hboard : board ∈ Board.table) (hid : board.id = device)
      (hblock : board.family.registerBlock? = none) :
      Creates device image (.error (.unsupportedFamily board.family))
  /-- The image is looked at only where the firmware describes the bus. -/
  | firmware {board : Board} {block : Chip.RegisterBlock} {cause : Firmware.FirmwareError}
      (hboard : board ∈ Board.table) (hid : board.id = device)
      (hblock : board.family.registerBlock? = some block)
      (hmode : board.family.profile.driveMode = .firmwareTable)
      (himage : Firmware.Context.ofBytes image = .error cause) :
      Creates device image (.error (.firmware cause))
  /-- A bus line or a clock that the firmware does not describe is done without. -/
  | framed {board : Board} {block : Chip.RegisterBlock} {firmware : Firmware.Context}
      (hboard : board ∈ Board.table) (hid : board.id = device)
      (hblock : board.family.registerBlock? = some block)
      (hmode : board.family.profile.driveMode = .firmwareTable)
      (himage : Firmware.Context.ofBytes image = .ok firmware) :
      Creates device image (.ok (.framed (framedFor block board.family.profile firmware)))
  | direct {board : Board} {block : Chip.RegisterBlock}
      (hboard : board ∈ Board.table) (hid : board.id = device)
      (hblock : board.family.registerBlock? = some block)
      (hmode : board.family.profile.driveMode = .directRegister) :
      Creates device image
        (.ok (.direct { engine := ⟨block, .default⟩, profile := board.family.profile }))

theorem reports_logConnectors (firmware : Firmware.Context) (indices : List Nat) :
    (logConnectors firmware indices).Reports () := by
  induction indices with
  | nil => exact .done ()
  | cons index rest ih =>
    rw [logConnectors]
    cases firmware.connectorId? index with
    | none => exact ih
    | some id => exact .log _ ih

theorem reports_logFirmware (firmware : Firmware.Context) : (logFirmware firmware).Reports () :=
  .log _ (reports_logConnectors firmware _)

theorem reports_findWiring (firmware : Firmware.Context) (line : UInt8) :
    (findWiring firmware line).Reports (firmware.gpioInfo line).toOption := by
  rw [findWiring]
  cases firmware.gpioInfo line with
  | ok wiring => exact .log _ (.done (some wiring))
  | error error => exact .log _ (.done none)

theorem reports_findConfig (firmware : Firmware.Context) :
    (findConfig firmware).Reports (configFor firmware) := by
  rw [findConfig, configFor]
  cases firmware.crystalFrequency with
  | ok clock => exact .done _
  | error error => exact .log _ (.done _)

theorem reports_create (device : PciDevice) (image : Array UInt8) :
    (create device image).Reports (made device image) := by
  rw [create, made]
  cases Board.find? device with
  | none => exact .done _
  | some board =>
    dsimp only [madeFor]
    cases board.family.registerBlock? with
    | none => exact .done _
    | some block =>
      refine .log _ ?_
      dsimp only
      cases board.family.profile.driveMode with
      | directRegister => exact .done _
      | firmwareTable =>
        show (createFramed block board.family.profile image).Reports _
        rw [createFramed]
        cases Firmware.Context.ofBytes image with
        | error cause => exact .done _
        | ok firmware =>
          exact (reports_logFirmware firmware).bind ((reports_findWiring firmware _).bind
            ((reports_findConfig firmware).bind (.done _)))

theorem made_of_mem {board : Board} (h : board ∈ Board.table) (image : Array UInt8) :
    made board.id image = madeFor board image := by
  rw [made, Board.find?_id h]

theorem creates_made (device : PciDevice) (image : Array UInt8) :
    Creates device image (made device image) := by
  by_cases hmem : device ∈ Board.ids
  · obtain ⟨board, hboard, rfl⟩ := List.mem_map.mp hmem
    rw [made_of_mem hboard, madeFor]
    cases hblock : board.family.registerBlock? with
    | none => exact .unsupportedFamily hboard rfl hblock
    | some block =>
      dsimp only
      cases hmode : board.family.profile.driveMode with
      | directRegister => exact .direct hboard rfl hblock hmode
      | firmwareTable =>
        dsimp only
        cases himage : Firmware.Context.ofBytes image with
        | error cause => exact .firmware hboard rfl hblock hmode himage
        | ok firmware => exact .framed hboard rfl hblock hmode himage
  · rw [made, Board.find?_eq_none_iff.mpr hmem]
    exact .deviceNotFound hmem

/-- **Building an adapter ends in just one way.** -/
theorem made_eq_iff {device : PciDevice} {image : Array UInt8}
    {result : Except AdapterError Adapter} :
    made device image = result ↔ Creates device image result := by
  constructor
  · rintro rfl
    exact creates_made device image
  · intro h
    cases h with
    | deviceNotFound h => rw [made, Board.find?_eq_none_iff.mpr h]
    | unsupportedFamily hboard hid hblock => rw [← hid, made_of_mem hboard, madeFor, hblock]
    | firmware hboard hid hblock hmode himage | framed hboard hid hblock hmode himage =>
      rw [← hid, made_of_mem hboard, madeFor, hblock]
      dsimp only
      rw [hmode]
      dsimp only
      rw [himage]
    | direct hboard hid hblock hmode =>
      rw [← hid, made_of_mem hboard, madeFor, hblock]
      dsimp only
      rw [hmode]

/-! ## Several boards -/

section

variable {β : Type}

/-- The candidates that are supported boards. -/
def supported (candidates : List (Candidate β)) : List (Candidate β) :=
  candidates.filter fun candidate => candidate.device ∈ Board.ids

/-- What building the adapter of a candidate ends with, the handle of its registers beside it. -/
def Candidate.made (candidate : Candidate β) : Except AdapterError (Adapter × β) :=
  (Adapter.made candidate.device candidate.image).map fun adapter => (adapter, candidate.backend)

theorem Candidate.made_eq_ok_iff {candidate : Candidate β} {built : Adapter × β} :
    candidate.made = .ok built ↔
      Adapter.made candidate.device candidate.image = .ok built.1 ∧
        candidate.backend = built.2 := by
  rw [Candidate.made]
  cases Adapter.made candidate.device candidate.image <;> simp [Except.map, Prod.ext_iff]

theorem Candidate.made_eq_error_iff {candidate : Candidate β} {error : AdapterError} :
    candidate.made = .error error ↔
      Adapter.made candidate.device candidate.image = .error error := by
  rw [Candidate.made]
  cases Adapter.made candidate.device candidate.image <;> simp [Except.map]

theorem Candidate.exists_made_eq_ok_iff {candidate : Candidate β} :
    (∃ built, candidate.made = .ok built) ↔
      ∃ adapter, Adapter.made candidate.device candidate.image = .ok adapter := by
  simp [Candidate.made_eq_ok_iff]

/-- Building goes on after some candidates were seen: there is room for another adapter, and none
of the boards among them failed. -/
def GoesOn (room : Nat) (seen : List (Candidate β)) : Prop :=
  (supported seen).length < room ∧
    ∀ candidate ∈ supported seen, ∃ adapter, made candidate.device candidate.image = .ok adapter

/-- Of some candidates, the first `visited` are looked at: those that building reaches. -/
def Visits (room : Nat) (candidates : List (Candidate β)) (visited : Nat) : Prop :=
  ∀ index, index < visited ↔
    index < candidates.length ∧ GoesOn room (candidates.take index)

variable {candidate : Candidate β} {rest seen : List (Candidate β)} {room visited : Nat}

theorem supported_cons_of_mem (h : candidate.device ∈ Board.ids) :
    supported (candidate :: rest) = candidate :: supported rest :=
  List.filter_cons_of_pos (by simpa using h)

theorem supported_cons_of_not_mem (h : candidate.device ∉ Board.ids) :
    supported (candidate :: rest) = supported rest :=
  List.filter_cons_of_neg (by simpa using h)

theorem goesOn_nil : GoesOn room ([] : List (Candidate β)) ↔ 0 < room := by
  simp [GoesOn, supported]

theorem goesOn_cons_of_not_mem (h : candidate.device ∉ Board.ids) :
    GoesOn room (candidate :: seen) ↔ GoesOn room seen := by
  rw [GoesOn, supported_cons_of_not_mem h, GoesOn]

theorem goesOn_cons_of_mem (h : candidate.device ∈ Board.ids) :
    GoesOn (room + 1) (candidate :: seen) ↔
      (∃ adapter, made candidate.device candidate.image = .ok adapter) ∧ GoesOn room seen := by
  rw [GoesOn, supported_cons_of_mem h, List.length_cons, Nat.succ_lt_succ_iff,
    List.forall_mem_cons, GoesOn, and_left_comm]

theorem visits_nil : Visits room ([] : List (Candidate β)) 0 := by
  simp [Visits]

/-- The first candidate is looked at, and after it those that building reaches then. -/
theorem visits_cons (hroom : 0 < room) (h : ∀ index, index < visited ↔
      index < rest.length ∧ GoesOn room (candidate :: rest.take index)) :
    Visits room (candidate :: rest) (visited + 1) := by
  intro index
  cases index with
  | zero => simp [goesOn_nil, hroom]
  | succ index =>
    rw [Nat.succ_lt_succ_iff, h, List.length_cons, Nat.succ_lt_succ_iff, List.take_succ_cons]

/-- Nothing is looked at after a failure, nor after the last adapter there is room for. -/
theorem visits_last (hmem : candidate.device ∈ Board.ids)
    (h : (∃ adapter, made candidate.device candidate.image = .ok adapter) → room = 0) :
    Visits (room + 1) (candidate :: rest) 1 := by
  refine visits_cons (Nat.succ_pos room) fun index => ?_
  rw [goesOn_cons_of_mem hmem]
  constructor
  · intro hindex
    exact (Nat.not_lt_zero _ hindex).elim
  · rintro ⟨-, hmade, hroom, -⟩
    rw [h hmade] at hroom
    exact (Nat.not_lt_zero _ hroom).elim

/-! ### One candidate after another -/

variable {built : List (Adapter × β)} {adapter : Adapter} {error : AdapterError}
  {result : Except AdapterError (List (Adapter × β))}

theorem reports_skip (hmem : candidate.device ∉ Board.ids)
    (hrest : (createFrom built rest).Reports (result, visited)) :
    (createFrom built (candidate :: rest)).Reports (result, visited + 1) := by
  rw [createFrom, Board.find?_eq_none_iff.mpr hmem]
  exact hrest.bind (.done _)

theorem reports_failure (hmem : candidate.device ∈ Board.ids)
    (hmade : made candidate.device candidate.image = .error error) :
    (createFrom built (candidate :: rest)).Reports (.error error, 1) := by
  obtain ⟨board, hfind⟩ := Board.exists_find? hmem
  have hcreate := reports_create candidate.device candidate.image
  rw [hmade] at hcreate
  rw [createFrom, hfind]
  exact hcreate.bind (.log _ (.done _))

theorem reports_last (hmem : candidate.device ∈ Board.ids)
    (hmade : made candidate.device candidate.image = .ok adapter)
    (hfull : built.length + 1 = maxAdapters) :
    (createFrom built (candidate :: rest)).Reports
      (.ok (built ++ [(adapter, candidate.backend)]), 1) := by
  obtain ⟨board, hfind⟩ := Board.exists_find? hmem
  have hcreate := reports_create candidate.device candidate.image
  have hlength : (built ++ [(adapter, candidate.backend)]).length ≥ maxAdapters := by
    simp [← hfull]
  rw [hmade] at hcreate
  rw [createFrom, hfind]
  refine hcreate.bind ?_
  dsimp only
  rw [if_pos hlength]
  exact .done _

theorem reports_next (hmem : candidate.device ∈ Board.ids)
    (hmade : made candidate.device candidate.image = .ok adapter)
    (hroom : built.length + 1 < maxAdapters)
    (hrest : (createFrom (built ++ [(adapter, candidate.backend)]) rest).Reports
      (result, visited)) :
    (createFrom built (candidate :: rest)).Reports (result, visited + 1) := by
  obtain ⟨board, hfind⟩ := Board.exists_find? hmem
  have hcreate := reports_create candidate.device candidate.image
  have hlength : ¬ (built ++ [(adapter, candidate.backend)]).length ≥ maxAdapters := by
    simpa using hroom
  rw [hmade] at hcreate
  rw [createFrom, hfind]
  refine hcreate.bind ?_
  dsimp only
  rw [if_neg hlength]
  exact hrest.bind (.done _)

/-- **Building in a row is building each by itself**: the outcome is that of the first supported
candidates there is room for. -/
theorem reports_createFrom (candidates : List (Candidate β)) (built : List (Adapter × β))
    (hroom : built.length + (room + 1) = maxAdapters) : ∃ visited,
      (createFrom built candidates).Reports
        ((((supported candidates).take (room + 1)).mapM Candidate.made).map (built ++ ·), visited) ∧
      Visits (room + 1) candidates visited := by
  induction candidates generalizing built room with
  | nil =>
    have hvalue : ((((supported ([] : List (Candidate β))).take (room + 1)).mapM
        Candidate.made).map (built ++ ·)) = .ok built :=
      congrArg Except.ok (List.append_nil built)
    rw [hvalue]
    exact ⟨0, .done _, visits_nil⟩
  | cons candidate rest ih =>
    by_cases hmem : candidate.device ∈ Board.ids
    · rw [supported_cons_of_mem hmem, List.take_succ_cons]
      cases hmade : made candidate.device candidate.image with
      | error error =>
        rw [mapM_cons_of_error (Candidate.made_eq_error_iff.mpr hmade)]
        exact ⟨1, reports_failure hmem hmade, visits_last hmem (by simp [hmade])⟩
      | ok adapter =>
        have hcandidate : candidate.made = .ok (adapter, candidate.backend) :=
          Candidate.made_eq_ok_iff.mpr ⟨hmade, rfl⟩
        rw [mapM_cons_of_ok hcandidate]
        cases room with
        | zero => exact ⟨1, reports_last hmem hmade hroom, visits_last hmem fun _ => rfl⟩
        | succ room =>
          have hleft : (built ++ [(adapter, candidate.backend)]).length + (room + 1) =
              maxAdapters := by
            simp only [List.length_append, List.length_singleton]
            omega
          obtain ⟨visited, hreports, hvisits⟩ := ih _ hleft
          rw [← map_append_singleton]
          refine ⟨visited + 1, reports_next hmem hmade (by omega) hreports,
            visits_cons (Nat.succ_pos _) fun index => ?_⟩
          rw [goesOn_cons_of_mem hmem, hvisits index]
          simp [hmade]
    · obtain ⟨visited, hreports, hvisits⟩ := ih built hroom
      rw [supported_cons_of_not_mem hmem]
      refine ⟨visited + 1, reports_skip hmem hreports, visits_cons (Nat.succ_pos _) fun index => ?_⟩
      rw [goesOn_cons_of_not_mem hmem]
      exact hvisits index

/-- **The first two supported boards get their adapters, and nothing touches hardware.** Building
adapters for some candidates ends well if building does so for each of the first two supported
boards by itself, and then with just these adapters; otherwise it ends as the first of them that
fails. A candidate is looked at only while an adapter is missing and none has failed. Building a
single adapter ends as `Creates` says. -/
theorem createAll_builds_first_supported {σ τ : Type} (candidates : List (Candidate β))
    (hardware : Device σ) (world : World σ) (other : Device τ) (apart : World τ) :
    let outcome := (createAll candidates).run hardware world
    let wanted := (supported candidates).take maxAdapters
    let alone := fun candidate : Candidate β =>
      ((create candidate.device candidate.image).run other apart).value
    (∀ adapters, outcome.value.1 = .ok adapters ↔
        List.Forall₂ (fun candidate built =>
          alone candidate = .ok built.1 ∧ candidate.backend = built.2) wanted adapters) ∧
      (∀ error, outcome.value.1 = .error error ↔
        ∃ before failing after, wanted = before ++ failing :: after ∧
          (∀ candidate ∈ before, ∃ adapter, alone candidate = .ok adapter) ∧
          alone failing = .error error) ∧
      (∀ index, index < outcome.value.2 ↔
        index < candidates.length ∧
          (supported (candidates.take index)).length < maxAdapters ∧
          ∀ candidate ∈ supported (candidates.take index),
            ∃ adapter, alone candidate = .ok adapter) ∧
      outcome.world = world ∧ Untouched outcome.events ∧
      ∀ device image,
        let single := (create device image).run hardware world
        (∀ result, single.value = result ↔ Creates device image result) ∧
          single.world = world ∧ Untouched single.events := by
  intro outcome wanted alone
  have halone : alone = fun candidate => made candidate.device candidate.image := by
    funext candidate
    exact ((reports_create candidate.device candidate.image).run other apart).1
  have hroom : ([] : List (Adapter × β)).length + (1 + 1) = maxAdapters := rfl
  obtain ⟨visited, hreports, hvisits⟩ := reports_createFrom candidates [] hroom
  obtain ⟨hvalue, hworld, hevents⟩ := hreports.run hardware world
  have hresult : outcome.value.1 = wanted.mapM Candidate.made := by
    show ((createFrom [] candidates).run hardware world).value.1 = wanted.mapM Candidate.made
    rw [hvalue]
    show (wanted.mapM Candidate.made).map ([] ++ ·) = wanted.mapM Candidate.made
    cases wanted.mapM Candidate.made <;> rfl
  have hvisited : outcome.value.2 = visited := congrArg Prod.snd hvalue
  rw [halone]
  refine ⟨fun adapters => ?_, fun error => ?_, fun index => ?_, hworld, hevents,
    fun device image => ?_⟩
  · rw [hresult, mapM_eq_ok_iff]
    simp only [Candidate.made_eq_ok_iff]
  · rw [hresult, mapM_eq_error_iff]
    simp only [Candidate.made_eq_error_iff, Candidate.exists_made_eq_ok_iff]
  · rw [hvisited]
    exact hvisits index
  · obtain ⟨hsingle, hsame, hlines⟩ := (reports_create device image).run hardware world
    refine ⟨fun result => ?_, hsame, hlines⟩
    rw [hsingle]
    exact made_eq_iff

end

end Adapter

end GpuI2c
