import GpuI2c.Register.Field

/-!
# Batches of fields

A batch is one mask and one value, and yet it acts like its fields put in place one after the
other (`apply_ofFields`). So what a field reads as after a batch is settled by the last field of
the batch that shares a bit with it: fields that share none do not matter
(`extract_insert_of_apart`), and the field itself reads as the part of its value that its mask can
hold (`extract_insert_self`). Bits outside all of its fields are left alone by a batch
(`sameOutside_apply_ofFields`).
-/

namespace GpuI2c.Register

/-- Two raw values that differ in the bits of `mask` at most. -/
def SameOutside (mask a b : UInt32) : Prop :=
  a &&& ~~~mask = b &&& ~~~mask

instance (mask a b : UInt32) : Decidable (SameOutside mask a b) :=
  inferInstanceAs (Decidable (_ = _))

namespace SameOutside

variable {mask a b c : UInt32}

theorem of_eq (h : a = b) : SameOutside mask a b :=
  congrArg (· &&& ~~~mask) h

theorem trans (hab : SameOutside mask a b) (hbc : SameOutside mask b c) : SameOutside mask a c :=
  Eq.trans hab hbc

/-- Any two values agree outside all bits. -/
theorem all (a b : UInt32) : SameOutside 0xFFFFFFFF a b := by
  have hnone : ~~~(0xFFFFFFFF : UInt32) = 0 := by decide
  rw [SameOutside, hnone, UInt32.and_zero, UInt32.and_zero]

end SameOutside

theorem eq_of_bits {a b : UInt32}
    (h : ∀ i (hi : i < 32), a.toBitVec[i] = b.toBitVec[i]) : a = b :=
  UInt32.toBitVec_inj.1 (BitVec.eq_of_getElem_eq h)

/-! ## Single fields -/

namespace Field

/-- The part of a value that a field can hold. -/
def clip (field : Field) (value : UInt32) : UInt32 :=
  (field.mask &&& (value <<< field.shift.toUInt32)) >>> field.shift.toUInt32

/-- Two fields that share no bit. -/
def Apart (f g : Field) : Prop :=
  f.mask &&& g.mask = 0

instance (f g : Field) : Decidable (Apart f g) :=
  inferInstanceAs (Decidable (_ = _))

/-- A field that has no bit outside `mask`. -/
def Within (field : Field) (mask : UInt32) : Prop :=
  ~~~mask &&& field.mask = 0

instance (field : Field) (mask : UInt32) : Decidable (field.Within mask) :=
  inferInstanceAs (Decidable (_ = _))

@[simp] theorem within_holding {field : Field} {value mask : UInt32} :
    (field.holding value).Within mask ↔ field.Within mask := Iff.rfl

theorem insert_and_mask (field : Field) (raw : UInt32) :
    field.insert raw &&& field.mask =
      field.mask &&& (field.value <<< field.shift.toUInt32) := by
  apply eq_of_bits
  intro i hi
  simp only [insert, UInt32.toBitVec_and, UInt32.toBitVec_or, UInt32.toBitVec_not,
    BitVec.getElem_and, BitVec.getElem_or, BitVec.getElem_not]
  cases field.mask.toBitVec[i] <;> simp

/-- No bit is in the masks of two fields that are apart. -/
theorem Apart.getElem_and {f g : Field} (h : f.Apart g) {i : Nat} (hi : i < 32) :
    (f.mask.toBitVec[i] && g.mask.toBitVec[i]) = false := by
  have hmask := congrArg (fun word : UInt32 => word.toBitVec[i]) h
  simpa using hmask

theorem insert_and_of_apart {f g : Field} (h : f.Apart g) (raw : UInt32) :
    g.insert raw &&& f.mask = raw &&& f.mask := by
  apply eq_of_bits
  intro i hi
  have hbit := h.getElem_and hi
  simp only [insert, UInt32.toBitVec_and, UInt32.toBitVec_or, UInt32.toBitVec_not,
    BitVec.getElem_and, BitVec.getElem_or, BitVec.getElem_not]
  cases hf : f.mask.toBitVec[i] with
  | false => simp
  | true =>
    rw [hf, Bool.true_and] at hbit
    simp [hbit]

/-- A field reads as what its mask holds of the value it was given. -/
theorem extract_insert_self (field : Field) (value raw : UInt32) :
    field.extract ((field.holding value).insert raw) = field.clip value :=
  congrArg (· >>> field.shift.toUInt32) ((field.holding value).insert_and_mask raw)

/-- A field does not change when one that is apart from it is put in place. -/
theorem extract_insert_of_apart {f g : Field} (h : f.Apart g) (value raw : UInt32) :
    f.extract ((g.holding value).insert raw) = f.extract raw := by
  have happart : f.Apart (g.holding value) := h
  unfold extract
  rw [insert_and_of_apart happart]

theorem Within.sameOutside_insert {field : Field} {mask : UInt32} (h : field.Within mask)
    (raw : UInt32) : SameOutside mask (field.insert raw) raw := by
  have happart : Apart ⟨~~~mask, 0, 0⟩ field := h
  exact insert_and_of_apart happart raw

/-- A mask that is a run of low bits moved up to the shift holds just these bits of a value. -/
theorem clip_eq_and {field : Field} {low : UInt32}
    (hmask : field.mask = low <<< field.shift.toUInt32)
    (hlow : (low <<< field.shift.toUInt32) >>> field.shift.toUInt32 = low) (value : UInt32) :
    field.clip value = low &&& value := by
  unfold clip
  rw [hmask, ← UInt32.shiftLeft_and]
  generalize field.shift.toUInt32 = s at *
  apply eq_of_bits
  intro i hi
  have hbit := congrArg (fun word : UInt32 => word.toBitVec[i]) hlow
  simp only [UInt32.toBitVec_shiftRight, UInt32.toBitVec_shiftLeft, UInt32.toBitVec_and] at hbit ⊢
  simp only [BitVec.ushiftRight_eq', BitVec.shiftLeft_eq', BitVec.getElem_ushiftRight,
    BitVec.getElem_and, BitVec.getLsbD_shiftLeft, Nat.add_sub_cancel_left,
    BitVec.getLsbD_eq_getElem hi] at hbit ⊢
  rw [← Bool.and_assoc, hbit]

end Field

/-! ## Batches -/

namespace Batch

theorem apply_add (batch : Batch) (field : Field) (raw : UInt32) :
    (batch.add field).apply raw = field.insert (batch.apply raw) := by
  apply eq_of_bits
  intro i hi
  simp only [apply, add, Field.insert, UInt32.toBitVec_and, UInt32.toBitVec_or,
    UInt32.toBitVec_not, BitVec.getElem_and, BitVec.getElem_or, BitVec.getElem_not]
  cases field.mask.toBitVec[i] <;> simp

/-- **A batch acts like its fields one by one**, in the order of the list. -/
theorem apply_ofFields (fields : List Field) (raw : UInt32) :
    (ofFields fields).apply raw = fields.foldl (fun word field => field.insert word) raw := by
  have hfold (batch : Batch) : (fields.foldl add batch).apply raw =
      fields.foldl (fun word field => field.insert word) (batch.apply raw) := by
    induction fields generalizing batch with
    | nil => rfl
    | cons field fields ih => rw [List.foldl_cons, ih, apply_add, List.foldl_cons]
  have hempty : ({} : Batch).apply raw = raw := by
    simp [apply]
  rw [ofFields, hfold, hempty]

/-- A batch changes no bit outside its fields. -/
theorem sameOutside_apply_ofFields {mask : UInt32} {fields : List Field}
    (h : ∀ field ∈ fields, field.Within mask) (raw : UInt32) :
    SameOutside mask ((ofFields fields).apply raw) raw := by
  rw [apply_ofFields]
  induction fields generalizing raw with
  | nil => exact .of_eq rfl
  | cons field fields ih =>
    obtain ⟨hfield, hfields⟩ := List.forall_mem_cons.mp h
    exact (ih hfields (field.insert raw)).trans (hfield.sameOutside_insert raw)

end Batch

end GpuI2c.Register
