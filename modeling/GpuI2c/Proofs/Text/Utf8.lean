import GpuI2c.Text

/-!
# The text that bytes begin with

The bytes of a text are those of its characters, one after the other (`encoded`). Bytes begin with
those of a text just if the text is a beginning of their leading text (`encoded_prefix_iff`), so the
leading text is the longest one (`isLongestText_leadingText`).
-/

namespace GpuI2c.Text

/-! ## Characters -/

/-- The bytes of a text in UTF-8. -/
def encoded (text : List Char) : List UInt8 :=
  text.flatMap String.utf8EncodeChar

@[simp] theorem encoded_nil : encoded [] = [] := rfl

@[simp] theorem encoded_cons (c : Char) (text : List Char) :
    encoded (c :: text) = String.utf8EncodeChar c ++ encoded text := rfl

/-- The first character of a text is decoded whatever follows it. -/
theorem utf8DecodeChar?_append (c : Char) (rest : List UInt8) :
    (String.utf8EncodeChar c ++ rest).toByteArray.utf8DecodeChar? 0 = some c := by
  rw [List.toByteArray_append]
  exact ByteArray.utf8DecodeChar?_utf8EncodeChar_append

/-- Bytes begin with those of the character that is decoded from them. -/
theorem eq_append_of_utf8DecodeChar? {bytes : List UInt8} {c : Char}
    (h : bytes.toByteArray.utf8DecodeChar? 0 = some c) :
    bytes = String.utf8EncodeChar c ++ bytes.drop c.utf8Size := by
  obtain ⟨rest, hrest⟩ := ByteArray.exists_of_utf8DecodeChar?_eq_some h
  have hbytes : bytes = String.utf8EncodeChar c ++ rest.data.toList := by
    have hdata := congrArg (fun array => array.data.toList) hrest
    simpa using hdata
  have hdrop : bytes.drop c.utf8Size = rest.data.toList := by
    rw [hbytes, ← String.length_utf8EncodeChar, List.drop_left]
  rw [hdrop]
  exact hbytes

/-! ## Texts -/

theorem leadingText_utf8EncodeChar_append (c : Char) (rest : List UInt8) :
    leadingText (String.utf8EncodeChar c ++ rest) = c :: leadingText rest := by
  have hne : String.utf8EncodeChar c ++ rest ≠ [] :=
    List.append_ne_nil_of_left_ne_nil String.utf8EncodeChar_ne_nil rest
  rw [leadingText, if_neg hne, utf8DecodeChar?_append]
  show c :: leadingText ((String.utf8EncodeChar c ++ rest).drop c.utf8Size) = _
  rw [← String.length_utf8EncodeChar, List.drop_left]

/-- A text is decoded whatever follows it. -/
theorem leadingText_append (text : List Char) (rest : List UInt8) :
    leadingText (encoded text ++ rest) = text ++ leadingText rest := by
  induction text with
  | nil => rfl
  | cons c text ih =>
    rw [encoded_cons, List.append_assoc, leadingText_utf8EncodeChar_append, ih, List.cons_append]

theorem isPrefix_encoded_leadingText (bytes : List UInt8) :
    encoded (leadingText bytes) <+: bytes := by
  fun_induction leadingText bytes with
  | case1 => exact List.nil_prefix
  | case2 bytes hne hnone => exact List.nil_prefix
  | case3 bytes hne c hsome ih =>
    have hparts := (List.prefix_append_right_inj (String.utf8EncodeChar c)).mpr ih
    rwa [← eq_append_of_utf8DecodeChar? hsome] at hparts

/-- Bytes begin with those of a text just if it is a beginning of their leading text. -/
theorem encoded_prefix_iff {text : List Char} {bytes : List UInt8} :
    encoded text <+: bytes ↔ text <+: leadingText bytes := by
  constructor
  · rintro ⟨rest, rfl⟩
    rw [leadingText_append]
    exact List.prefix_append _ _
  · rintro ⟨later, hlater⟩
    refine List.IsPrefix.trans ?_ (isPrefix_encoded_leadingText bytes)
    rw [← hlater, encoded, encoded, List.flatMap_append]
    exact List.prefix_append _ _

/-! ## The longest text -/

/-- The bytes of a string. -/
def bytesOf (text : String) : List UInt8 :=
  text.toByteArray.data.toList

theorem bytesOf_eq_encoded (text : String) : bytesOf text = encoded text.toList := by
  rw [bytesOf, ← String.utf8Encode_toList, List.utf8Encode, List.toList_data_toByteArray, encoded]

/-- A text that some bytes begin with, and that continues every other such text by whole
characters. -/
def IsLongestText (text : String) (bytes : List UInt8) : Prop :=
  bytesOf text <+: bytes ∧ ∀ other : String, bytesOf other <+: bytes → other.toList <+: text.toList

theorem IsLongestText.unique {first second : String} {bytes : List UInt8}
    (hfirst : IsLongestText first bytes) (hsecond : IsLongestText second bytes) :
    first = second := by
  have hle : first.toList <+: second.toList := hsecond.2 first hfirst.1
  have hge : second.toList <+: first.toList := hfirst.2 second hsecond.1
  exact String.toList_inj.mp (hle.eq_of_length (Nat.le_antisymm hle.length_le hge.length_le))

/-- **The leading text is the longest one.** -/
theorem isLongestText_leadingText (bytes : List UInt8) :
    IsLongestText (String.ofList (leadingText bytes)) bytes := by
  rw [IsLongestText, bytesOf_eq_encoded, String.toList_ofList]
  refine ⟨isPrefix_encoded_leadingText bytes, fun other hother => ?_⟩
  rwa [bytesOf_eq_encoded, encoded_prefix_iff] at hother

/-- A text that fits is kept. -/
theorem fitting_of_le {capacity : Nat} {text : List Char} (h : (encoded text).length ≤ capacity) :
    fitting capacity text = text := by
  induction text generalizing capacity with
  | nil => rfl
  | cons c text ih =>
    rw [encoded_cons, List.length_append, String.length_utf8EncodeChar] at h
    rw [fitting, if_pos (by omega), ih (by omega)]

end GpuI2c.Text
