import Mathlib.Data.List.Basic

/-!
# UTF-8, a piece at a time

Text arrives in pieces, and a piece may end inside a character.  Bytes are `Viable` if some text
begins with them, and `Partial` if they are the beginning of one character.  By
`Viable.split` viable bytes are a text and then nothing or the beginning of a character,
and `viable_append` and `valid_append` say that the text before a piece does not matter.
-/

namespace Utf8

/-- The bytes of a text. -/
def encode (s : String) : List UInt8 := s.toList.flatMap String.utf8EncodeChar

/-- The bytes are those of a text. -/
def Valid (b : List UInt8) : Prop := ∃ s : String, encode s = b

/-- The bytes are the beginning of a text. -/
def Viable (b : List UInt8) : Prop := ∃ more, Valid (b ++ more)

/-- The bytes are the beginning of one character, without its end. -/
def Partial (b : List UInt8) : Prop :=
  ∃ c more, b ≠ [] ∧ more ≠ [] ∧ b ++ more = String.utf8EncodeChar c

@[simp] theorem encode_empty : encode "" = [] := rfl

theorem encode_append (s t : String) : encode (s ++ t) = encode s ++ encode t := by
  rw [encode, String.toList_append, List.flatMap_append]
  rfl

theorem encode_ofList (cs : List Char) :
    encode (String.ofList cs) = cs.flatMap String.utf8EncodeChar := by
  rw [encode, String.toList_ofList]

/-- The first character of some bytes is the only one. -/
theorem char_unique {c d : Char} {b b' : List UInt8}
    (h : String.utf8EncodeChar c ++ b = String.utf8EncodeChar d ++ b') : c = d ∧ b = b' := by
  have hdecode : ∀ (c : Char) (b : List UInt8),
      (String.utf8EncodeChar c ++ b).toByteArray.utf8DecodeChar? 0 = some c := by
    intro c b
    rw [List.toByteArray_append]
    exact ByteArray.utf8DecodeChar?_utf8EncodeChar_append
  have hc : c = d := by
    have hsome := hdecode c b
    rw [h, hdecode d b'] at hsome
    exact (Option.some.inj hsome).symm
  subst hc
  exact ⟨rfl, List.append_cancel_left h⟩

theorem chars_injective {cs ds : List Char}
    (h : cs.flatMap String.utf8EncodeChar = ds.flatMap String.utf8EncodeChar) : cs = ds := by
  induction cs generalizing ds with
  | nil =>
      cases ds with
      | nil => rfl
      | cons d ds =>
          rw [List.flatMap_cons] at h
          exact absurd (List.append_eq_nil_iff.1 h.symm).1 String.utf8EncodeChar_ne_nil
  | cons c cs ih =>
      cases ds with
      | nil =>
          rw [List.flatMap_cons] at h
          exact absurd (List.append_eq_nil_iff.1 h).1 String.utf8EncodeChar_ne_nil
      | cons d ds =>
          rw [List.flatMap_cons, List.flatMap_cons] at h
          obtain ⟨rfl, hrest⟩ := char_unique h
          rw [ih hrest]

/-- Different texts have different bytes. -/
theorem encode_injective : Function.Injective encode :=
  fun _ _ h ↦ String.toList_injective (chars_injective h)

theorem valid_iff {b : List UInt8} :
    Valid b ↔ ∃ cs : List Char, cs.flatMap String.utf8EncodeChar = b := by
  constructor
  · rintro ⟨s, rfl⟩
    exact ⟨s.toList, rfl⟩
  · rintro ⟨cs, rfl⟩
    exact ⟨String.ofList cs, encode_ofList cs⟩

theorem valid_encode (s : String) : Valid (encode s) := ⟨s, rfl⟩

/-- A text begins with the first byte of a character. -/
theorem Valid.head {b : UInt8} {bs : List UInt8} (h : Valid (b :: bs)) : b.IsUTF8FirstByte := by
  obtain ⟨cs, hcs⟩ := valid_iff.1 h
  cases cs with
  | nil => cases hcs
  | cons c cs =>
      have hfirst := @UInt8.isUTF8FirstByte_getElem_zero_utf8EncodeChar c
      rw [List.flatMap_cons] at hcs
      cases hc : String.utf8EncodeChar c with
      | nil => exact absurd hc String.utf8EncodeChar_ne_nil
      | cons b' bs' =>
          rw [hc] at hcs
          cases hcs
          simp only [hc] at hfirst
          exact hfirst

theorem valid_chars_append {cs : List Char} {b : List UInt8} :
    Valid (cs.flatMap String.utf8EncodeChar ++ b) ↔ Valid b := by
  induction cs with
  | nil => rfl
  | cons c cs ih =>
      rw [← ih, List.flatMap_cons, List.append_assoc, valid_iff, valid_iff]
      constructor
      · rintro ⟨ds, h⟩
        cases ds with
        | nil =>
            exact absurd (List.append_eq_nil_iff.1 h.symm).1 String.utf8EncodeChar_ne_nil
        | cons d ds =>
            rw [List.flatMap_cons] at h
            exact ⟨ds, (char_unique h).2⟩
      · rintro ⟨ds, h⟩
        exact ⟨c :: ds, by rw [List.flatMap_cons, h]⟩

/-- **The text before some bytes does not matter.** -/
theorem valid_append {s : String} {b : List UInt8} : Valid (encode s ++ b) ↔ Valid b :=
  valid_chars_append

theorem viable_append {s : String} {b : List UInt8} : Viable (encode s ++ b) ↔ Viable b := by
  constructor
  · rintro ⟨more, h⟩
    rw [List.append_assoc, valid_append] at h
    exact ⟨more, h⟩
  · rintro ⟨more, h⟩
    refine ⟨more, ?_⟩
    rw [List.append_assoc, valid_append]
    exact h

theorem Valid.viable {b : List UInt8} (h : Valid b) : Viable b := ⟨[], by rwa [List.append_nil]⟩

theorem Partial.viable {b : List UInt8} (h : Partial b) : Viable b := by
  obtain ⟨c, more, -, -, h⟩ := h
  refine ⟨more, valid_iff.2 ⟨[c], ?_⟩⟩
  rw [h, List.flatMap_singleton]

/-- The beginning of a character is no text. -/
theorem Partial.not_valid {b : List UInt8} (h : Partial b) : ¬ Valid b := by
  obtain ⟨c, more, hb, hmore, h⟩ := h
  rw [valid_iff]
  rintro ⟨cs, rfl⟩
  cases cs with
  | nil => exact hb rfl
  | cons d cs =>
      rw [List.flatMap_cons, List.append_assoc, ← List.append_nil (String.utf8EncodeChar c)] at h
      exact hmore (List.append_eq_nil_iff.1 (char_unique h).2).2

theorem viable_chars {cs : List Char} {b more : List UInt8}
    (h : b ++ more = cs.flatMap String.utf8EncodeChar) :
    ∃ s t, b = encode s ++ t ∧ (t = [] ∨ Partial t) := by
  induction cs generalizing b with
  | nil => exact ⟨"", [], (List.append_eq_nil_iff.1 h).1, .inl rfl⟩
  | cons c cs ih =>
      rw [List.flatMap_cons] at h
      rcases List.append_eq_append_iff.1 h with ⟨more', hc, -⟩ | ⟨b', hb, hmore⟩
      · by_cases hnil : b = []
        · exact ⟨"", [], hnil, .inl rfl⟩
        · by_cases hend : more' = []
          · refine ⟨String.ofList [c], [], ?_, .inl rfl⟩
            rw [encode_ofList, List.flatMap_singleton, hc, hend, List.append_nil, List.append_nil]
          · exact ⟨"", b, rfl, .inr ⟨c, more', hnil, hend, hc.symm⟩⟩
      · obtain ⟨s, t, rfl, ht⟩ := ih hmore.symm
        refine ⟨String.ofList [c] ++ s, t, ?_, ht⟩
        rw [hb, encode_append, encode_ofList, List.flatMap_singleton, List.append_assoc]

/-- **Viable bytes** are a text, and then nothing or the beginning of a character. -/
theorem Viable.split {b : List UInt8} (h : Viable b) :
    ∃ s t, b = encode s ++ t ∧ (t = [] ∨ Partial t) := by
  obtain ⟨more, h⟩ := h
  obtain ⟨cs, h⟩ := valid_iff.1 h
  exact viable_chars h.symm

end Utf8
