import RecordQuery.Text.Character

/-! Classes of characters that are small enough to go through: decimal digits and white space. What
holds of each of them is decided on their code points. A text without white space is not
trimmed, and none in front of the first character that is no white space. -/

namespace RecordQuery.Text

theorem notMem_of_all_not {p : Char → Bool} {chars : List Char} {c : Char}
    (hall : chars.all (!p ·) = true) (h : p c = true) : c ∉ chars := by
  intro hc
  have hnot := List.all_eq_true.1 hall c hc
  rw [h] at hnot
  cases hnot

/-- What holds of the ten code points of decimal digits holds of every digit. -/
theorem forall_digit {p : Char → Prop} (h : ∀ n < 10, p (Char.ofNat (48 + n))) {c : Char}
    (hc : c.isDigit = true) : p c := by
  simp only [Char.isDigit, Bool.and_eq_true, decide_eq_true_eq, UInt32.le_iff_toNat_le] at hc
  have hlo : 48 ≤ c.toNat := hc.1
  have hhi : c.toNat ≤ 57 := hc.2
  have h := h (c.toNat - 48) (by omega)
  rwa [show 48 + (c.toNat - 48) = c.toNat by omega, Char.ofNat_toNat] at h

/-- The code points of spans, one by one. -/
def Span.codes (spans : List Span) : List Nat :=
  spans.flatMap fun span => (List.range (span.last + 1 - span.first)).map (span.first + ·)

theorem Span.mem_codes {spans : List Span} {code : Nat} (h : anyHolds spans code = true) :
    code ∈ codes spans := by
  simp only [anyHolds, holds, List.any_eq_true, Bool.and_eq_true, decide_eq_true_eq] at h
  obtain ⟨span, hmem, hlo, hhi⟩ := h
  simp only [codes, List.mem_flatMap, List.mem_map, List.mem_range]
  exact ⟨span, hmem, code - span.first, by omega, by omega⟩

/-- What holds of the code points of white space holds of every blank. -/
theorem forall_blank {p : Char → Prop}
    (h : ∀ n ∈ Span.codes Properties.blanks, p (Char.ofNat n)) {c : Char}
    (hc : isBlank c = true) : p c := by
  have h := h c.toNat (Span.mem_codes hc)
  rwa [Char.ofNat_toNat] at h

theorem not_isAlphabetic_of_isDigit {c : Char} (h : c.isDigit = true) :
    isAlphabetic c = false :=
  forall_digit (p := fun c => isAlphabetic c = false) (by decide +kernel) h

theorem isAlphanumeric_of_isDigit {c : Char} (h : c.isDigit = true) :
    isAlphanumeric c = true :=
  forall_digit (p := fun c => isAlphanumeric c = true) (by decide +kernel) h

theorem not_isBlank_of_isDigit {c : Char} (h : c.isDigit = true) : isBlank c = false :=
  forall_digit (p := fun c => isBlank c = false) (by decide +kernel) h

theorem not_isAlphanumeric_of_isBlank {c : Char} (h : isBlank c = true) :
    isAlphanumeric c = false :=
  forall_blank (p := fun c => isAlphanumeric c = false) (by decide +kernel) h

/-- A text without blanks has none at its ends. -/
theorem trim_eq_self {text : String} (h : ∀ c ∈ text.toList, isBlank c = false) :
    trim text = text := by
  have hdrop : ∀ chars : List Char, (∀ c ∈ chars, isBlank c = false) →
      chars.dropWhile isBlank = chars := by
    intro chars hchars
    cases chars with
    | nil => rfl
    | cons c chars =>
      rw [List.dropWhile_cons, hchars c List.mem_cons_self, if_neg Bool.false_ne_true]
  rw [trim, trimChars, hdrop _ h, hdrop, List.reverse_reverse, String.ofList_toList]
  intro c hc
  exact h c (List.mem_reverse.1 hc)

/-- Nothing is taken off in front of a character that is no blank. -/
theorem trimChars_cons {c : Char} (h : isBlank c = false) (chars : List Char) :
    ∃ rest, trimChars (c :: chars) = c :: rest := by
  have hc : [c].dropWhile isBlank = [c] := by
    rw [List.dropWhile_cons, h, if_neg Bool.false_ne_true]
  rw [trimChars, List.dropWhile_cons, h, if_neg Bool.false_ne_true, List.reverse_cons,
    List.dropWhile_append, hc]
  split
  · exact ⟨[], rfl⟩
  · exact ⟨_, List.reverse_append⟩

end RecordQuery.Text
