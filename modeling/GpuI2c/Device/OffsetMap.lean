/-!
# Maps on offsets

A finite map from offsets to values. Its entries stand in ascending order of offset, one for each
offset that was set, so that the contents can be listed; what an offset without an entry stands
for is the reader's choice. `get?_set` says how reading follows from setting.
-/

namespace GpuI2c

/-- A finite map from offsets, as a list of entries in ascending order of offset. -/
structure OffsetMap (α : Type) where
  entries : List (Nat × α) := []
  ascending : entries.Pairwise (fun a b => a.1 < b.1) := by simp

namespace OffsetMap

variable {α : Type}

/-- The map without entries. -/
def empty : OffsetMap α := {}

/-- The value at `offset`, if one was set. -/
def get? (map : OffsetMap α) (offset : Nat) : Option α :=
  map.entries.lookup offset

/-- Put an entry at its place in an ascending list, over an earlier entry of the same offset. -/
def place (offset : Nat) (value : α) : List (Nat × α) → List (Nat × α)
  | [] => [(offset, value)]
  | entry :: rest =>
    if offset < entry.1 then (offset, value) :: entry :: rest
    else if offset = entry.1 then (offset, value) :: rest
    else entry :: place offset value rest

/-! ## Order -/

theorem offset_of_mem_place {offset : Nat} {value : α} {entries : List (Nat × α)}
    {entry : Nat × α} (h : entry ∈ place offset value entries) :
    entry.1 = offset ∨ entry ∈ entries := by
  induction entries with
  | nil => simp_all [place]
  | cons head rest ih =>
    unfold place at h
    split at h
    · simp only [List.mem_cons] at h ⊢
      obtain rfl | h := h
      · exact .inl rfl
      · exact .inr h
    · split at h
      · simp only [List.mem_cons] at h ⊢
        obtain rfl | h := h
        · exact .inl rfl
        · exact .inr (.inr h)
      · simp only [List.mem_cons] at h ⊢
        obtain rfl | h := h
        · exact .inr (.inl rfl)
        · exact (ih h).imp_right .inr

theorem pairwise_place (offset : Nat) (value : α) {entries : List (Nat × α)}
    (h : entries.Pairwise fun a b => a.1 < b.1) :
    (place offset value entries).Pairwise fun a b => a.1 < b.1 := by
  induction entries with
  | nil => simp [place]
  | cons head rest ih =>
    have ⟨least, sorted⟩ := List.pairwise_cons.mp h
    unfold place
    split
    · next before =>
      refine List.pairwise_cons.mpr ⟨fun entry mem => ?_, h⟩
      obtain rfl | mem := List.mem_cons.mp mem
      · exact before
      · exact Nat.lt_trans before (least entry mem)
    · split
      · next same =>
        exact List.pairwise_cons.mpr ⟨fun entry mem => same ▸ least entry mem, sorted⟩
      · next notBefore other =>
        refine List.pairwise_cons.mpr ⟨fun entry mem => ?_, ih sorted⟩
        obtain rfl | mem := offset_of_mem_place mem
        · omega
        · exact least entry mem

/-- Set the value at `offset`. -/
def set (map : OffsetMap α) (offset : Nat) (value : α) : OffsetMap α :=
  ⟨place offset value map.entries, pairwise_place offset value map.ascending⟩

/-! ## Reading back -/

@[simp] theorem get?_empty (offset : Nat) : (empty : OffsetMap α).get? offset = none := rfl

theorem lookup_cons (key other : Nat) (value : α) (rest : List (Nat × α)) :
    ((key, value) :: rest).lookup other =
      if other = key then some value else rest.lookup other := by
  by_cases h : other = key
  · simp [h]
  · rw [List.lookup_cons, beq_false_of_ne h, if_neg h]

theorem lookup_place (offset other : Nat) (value : α) (entries : List (Nat × α)) :
    (place offset value entries).lookup other =
      if other = offset then some value else entries.lookup other := by
  induction entries with
  | nil => simp [place, lookup_cons]
  | cons entry rest ih =>
    obtain ⟨key, old⟩ := entry
    unfold place
    split
    · rw [lookup_cons]
    · split
      · next same =>
        obtain rfl : offset = key := same
        by_cases h : other = offset <;> simp [lookup_cons, h]
      · next differs =>
        by_cases h : other = offset
        · subst h
          rw [lookup_cons, if_neg differs, ih]
          simp
        · simp [lookup_cons, ih, h]

/-- Setting an offset changes what is read there and nowhere else. -/
@[simp] theorem get?_set (map : OffsetMap α) (offset other : Nat) (value : α) :
    (map.set offset value).get? other = if other = offset then some value else map.get? other :=
  lookup_place offset other value map.entries

end OffsetMap

end GpuI2c
