import Mathlib.Data.List.Pairwise
import GpuI2c.Device.RegisterFile
import GpuI2c.Proofs.Register.Batch
import GpuI2c.Register.Access

/-!
# Updates of several fields

An update writes a register once, and what it writes is what its fields make of the register one
after the other (`update_in_order`).

Fields that share no bit do not get in each other's way: each one holds what its mask can hold of
its value (`extract_apply_ofFields`), and their order does not matter (`apply_ofFields_perm`). So on
a register that returns what is written to it, reading them back after an update gives their
values (`update_get`).
-/

namespace GpuI2c

namespace Register

/-! ## Fields that share no bit -/

namespace Field

instance : Std.Symm Apart where
  symm f g h := by
    rw [Apart, UInt32.and_comm]
    exact h

/-- A field that shares no bit with another lies outside its mask. -/
theorem Apart.within_not {f g : Field} (h : f.Apart g) : g.Within (~~~f.mask) := by
  rw [Within, UInt32.not_not]
  exact h

/-- Fields that share no bit may be put in place in either order. -/
theorem insert_comm {f g : Field} (h : f.Apart g) (raw : UInt32) :
    g.insert (f.insert raw) = f.insert (g.insert raw) := by
  apply eq_of_bits
  intro i hi
  have hbit := h.getElem_and hi
  simp only [insert, UInt32.toBitVec_and, UInt32.toBitVec_or, UInt32.toBitVec_not,
    BitVec.getElem_and, BitVec.getElem_or, BitVec.getElem_not]
  cases hf : f.mask.toBitVec[i] with
  | false => simp
  | true =>
    rw [hf, Bool.true_and] at hbit
    simp [hbit]

/-- The value, moved up to its place without losing a bit, lies inside the mask. -/
def Fits (field : Field) : Prop :=
  field.mask.toNat &&& field.value.toNat <<< (field.shift.toNat % 32) =
    field.value.toNat <<< (field.shift.toNat % 32)

instance (field : Field) : Decidable field.Fits :=
  inferInstanceAs (Decidable (_ = _))

/-- A field holds all of a value that fits. -/
theorem clip_of_fits {field : Field} (h : field.Fits) : field.clip field.value = field.value := by
  have hshift : field.shift.toUInt32.toNat % 32 = field.shift.toNat % 32 := by
    rw [UInt8.toNat_toUInt32]
  have hinside : field.value.toNat <<< (field.shift.toNat % 32) < 2 ^ 32 := by
    rw [← h]
    exact Nat.lt_of_le_of_lt Nat.and_le_left field.mask.toNat_lt
  have hplaced : (field.value <<< field.shift.toUInt32).toNat =
      field.value.toNat <<< (field.shift.toNat % 32) := by
    rw [UInt32.toNat_shiftLeft, hshift, Nat.mod_eq_of_lt hinside]
  rw [← UInt32.toNat_inj, clip, UInt32.toNat_shiftRight, UInt32.toNat_and, hplaced, hshift, h,
    Nat.shiftLeft_shiftRight]

end Field

/-- The bits of all fields together. -/
def covered (fields : List Field) : UInt32 :=
  fields.foldr (fun field mask => field.mask ||| mask) 0

theorem within_covered {fields : List Field} {field : Field} (h : field ∈ fields) :
    field.Within (covered fields) := by
  induction fields with
  | nil => exact absurd h List.not_mem_nil
  | cons first fields ih =>
    apply eq_of_bits
    intro i hi
    have hcovered : covered (first :: fields) = first.mask ||| covered fields := rfl
    simp only [hcovered, UInt32.toBitVec_and, UInt32.toBitVec_or, UInt32.toBitVec_not,
      BitVec.getElem_and, BitVec.getElem_or, BitVec.getElem_not]
    obtain rfl | hrest := List.mem_cons.mp h
    · cases field.mask.toBitVec[i] <;> simp
    · have hbit := congrArg (fun word : UInt32 => word.toBitVec[i]) (ih hrest)
      simp only [UInt32.toBitVec_and, UInt32.toBitVec_not, BitVec.getElem_and,
        BitVec.getElem_not] at hbit
      rw [Bool.not_or, Bool.and_assoc, hbit]
      simp

namespace Batch

variable {fields : List Field}

/-- Fields that are apart from another one leave what it holds alone. -/
theorem extract_apply_ofFields_of_apart {field : Field} (h : ∀ other ∈ fields, field.Apart other)
    (raw : UInt32) : field.extract ((ofFields fields).apply raw) = field.extract raw := by
  have hsame : SameOutside (~~~field.mask) ((ofFields fields).apply raw) raw :=
    sameOutside_apply_ofFields (fun other hother => (h other hother).within_not) raw
  rw [SameOutside, UInt32.not_not] at hsame
  rw [Field.extract, hsame, Field.extract]

/-- **A field of several that share no bit holds what its mask can hold of its value.** -/
theorem extract_apply_ofFields (h : fields.Pairwise Field.Apart) {field : Field}
    (hfield : field ∈ fields) (raw : UInt32) :
    field.extract ((ofFields fields).apply raw) = field.clip field.value := by
  induction fields generalizing raw with
  | nil => exact absurd hfield List.not_mem_nil
  | cons first fields ih =>
    obtain ⟨hfirst, hrest⟩ := List.pairwise_cons.mp h
    have hstep : (ofFields (first :: fields)).apply raw =
        (ofFields fields).apply (first.insert raw) := by
      rw [apply_ofFields, apply_ofFields, List.foldl_cons]
    rw [hstep]
    obtain rfl | hmem := List.mem_cons.mp hfield
    · rw [extract_apply_ofFields_of_apart hfirst]
      exact Field.extract_insert_self field field.value raw
    · exact ih hrest hmem (first.insert raw)

/-- Fields that share no bit make the same of a register in every order. -/
theorem apply_ofFields_perm (h : fields.Pairwise Field.Apart) {others : List Field}
    (hperm : others.Perm fields) (raw : UInt32) :
    (ofFields others).apply raw = (ofFields fields).apply raw := by
  have hcomm : ∀ f ∈ fields, ∀ g ∈ fields, ∀ word : UInt32,
      g.insert (f.insert word) = f.insert (g.insert word) := by
    intro f hf g hg word
    by_cases hsame : f = g
    · rw [hsame]
    · exact Field.insert_comm (h.forall hf hg hsame) word
  rw [apply_ofFields, apply_ofFields]
  exact (hperm.symm.foldl_eq' hcomm raw).symm

end Batch

/-! ## Updates -/

/-- **Fields are put in place in order, by a single write.** Whatever the fields, and whichever bits
they share, an update reads its register once and writes it once, and it writes what the fields make
of the value read, one after the other. Setting does the same to a value that it is given, and reads
nothing. -/
theorem update_in_order (register : UInt32) (fields : List Field) :
    (update register fields = .read register fun current =>
      let updated := fields.foldl (fun word field => field.insert word) current
      .command (.write register updated) (.done updated)) ∧
    ∀ initial, set register initial fields =
      let updated := fields.foldl (fun word field => field.insert word) initial
      .command (.write register updated) (.done updated) := by
  refine ⟨?_, fun initial => ?_⟩
  · have hupdate : update register fields = .read register fun current =>
        .command (.write register ((Batch.ofFields fields).apply current))
          (.done ((Batch.ofFields fields).apply current)) := rfl
    simp only [hupdate, Batch.apply_ofFields]
  · have hset : set register initial fields =
        .command (.write register ((Batch.ofFields fields).apply initial))
          (.done ((Batch.ofFields fields).apply initial)) := rfl
    simp only [hset, Batch.apply_ofFields]

end Register

/-! ## Reading back -/

open Register

/-- In a state of a device, a register returns whatever is written to it. -/
def Device.Returns {σ : Type} (device : Device σ) (register : UInt32) (state : σ) : Prop :=
  ∀ value, (device.load register (device.store register value state).1).1 = value

/-- **Fields that share no bit are read back as they were put in place.** On a register that returns
what is written to it, whatever it held: after an update, each field reads as what its mask can hold
of its value, which is all of a value that fits; the bits of no field are as before; and the update
is the same in every order of its fields. -/
theorem update_get {σ : Type} {device : Device σ} {register : UInt32} {fields : List Field}
    (hapart : fields.Pairwise Field.Apart) {world : World σ}
    (hreturns : device.Returns register (device.load register world.device).2.1) :
    let before := (device.load register world.device).1
    let updated := (update register fields).run device world
    let found := (get register fields).run device updated.world
    found.value.2 = fields.map (fun field => field.holding (field.clip field.value)) ∧
      (∀ field ∈ fields, field.Fits → field.clip field.value = field.value) ∧
      SameOutside (covered fields) found.value.1 before ∧
      ∀ others, others.Perm fields → update register others = update register fields := by
  intro before updated found
  have hraw : found.value.1 = (Batch.ofFields fields).apply before := hreturns _
  refine ⟨?_, fun field _ hfits => Field.clip_of_fits hfits, ?_, fun others hperm => ?_⟩
  · have hfound : found.value.2 = fields.map (Field.reading found.value.1) := rfl
    rw [hfound, hraw]
    refine List.map_congr_left fun field hfield => ?_
    rw [Field.reading, Batch.extract_apply_ofFields hapart hfield]
  · rw [hraw]
    exact Batch.sameOutside_apply_ofFields (fun field hfield => within_covered hfield) before
  · have hbatch : (Batch.ofFields others).apply = (Batch.ofFields fields).apply :=
      funext (Batch.apply_ofFields_perm hapart hperm)
    rw [update, update, hbatch]

/-- A register behind the index and data registers, and two of its fields in either order. -/
theorem update_get_indirect :
    let device := RegisterFile.device 0x100 true
    let low : Field := ⟨0x0F, 0, 5⟩
    let high : Field := ⟨0xF0, 4, 3⟩
    let world : World RegisterFile := ⟨RegisterFile.load {} [(0x4000, 0xA0000F77)] [], false⟩
    let updated := (update 0x1000 [low, high]).run device world
    [low, high].Pairwise Field.Apart ∧
      device.Returns 0x1000 (device.load 0x1000 world.device).2.1 ∧
      low.Fits ∧ high.Fits ∧ updated.value = 0xA0000F35 ∧
      ((get 0x1000 [low, high]).run device updated.world).value.2 = [low, high] ∧
      update 0x1000 [high, low] = update 0x1000 [low, high] := by
  intro device low high world updated
  have hapart : [low, high].Pairwise Field.Apart := by decide
  have hreturns : device.Returns 0x1000 (device.load 0x1000 world.device).2.1 := fun _ => rfl
  have hlow : low.Fits := by decide
  have hhigh : high.Fits := by decide
  obtain ⟨hfound, hfits, -, hperm⟩ := update_get hapart hreturns
  refine ⟨hapart, hreturns, hlow, hhigh, by decide +kernel, ?_, hperm _ (List.Perm.swap _ _ _)⟩
  refine hfound.trans ?_
  simp only [List.map_cons, List.map_nil, hfits low (by simp) hlow, hfits high (by simp) hhigh]
  rfl

end GpuI2c
