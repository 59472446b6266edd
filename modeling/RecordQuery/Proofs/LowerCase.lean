import RecordQuery.Text.Case

/-! Lower-casing and the characters below the letter A, digits and signs among them. They are their
own lower case and that of no other character, so a text of them is told from any other in lower
case (`lowerCase_eq_iff`). -/

namespace RecordQuery.Text

/-- A character below the letters, and not the one that stands for no character. -/
def IsCaseless (c : Char) : Prop := 0 < c.toNat ∧ c.toNat < 'A'.toNat

instance : DecidablePred IsCaseless := fun _ => inferInstanceAs (Decidable (_ ∧ _))

theorem toNat_ofNat (n : Nat) : (Char.ofNat n).toNat = n ∨ (Char.ofNat n).toNat = 0 := by
  rw [Char.ofNat]
  by_cases h : n.isValidChar
  · rw [dif_pos h]
    exact .inl rfl
  · rw [dif_neg h]
    exact .inr rfl

/-- No code point below the letters moves, and none is moved below the small letters. -/
theorem applyFirst_lower (code : Nat) : CaseShift.applyFirst CaseTables.lower code = code ∨
    'A'.toNat ≤ code ∧ 'a'.toNat ≤ CaseShift.applyFirst CaseTables.lower code := by
  have hall : ∀ shift ∈ CaseTables.lower, 'A'.toNat ≤ shift.first ∧
      ('a'.toNat : Int) ≤ shift.first + shift.distance := by
    decide +kernel
  unfold CaseShift.applyFirst
  cases hfind : CaseTables.lower.find? (·.moves code) with
  | none => exact .inl rfl
  | some shift =>
    obtain ⟨hfirst, hmoved⟩ := hall shift (List.mem_of_find?_eq_some hfind)
    have hmoves := List.find?_some hfind
    simp only [CaseShift.moves, Bool.and_eq_true, decide_eq_true_eq] at hmoves
    right
    simp only [CaseShift.apply]
    omega

section Lower

variable {before after chars : List Char} {c : Char}

theorem lowerChar_of_lt (h : c.toNat < 'A'.toNat) : lowerChar before c after = [c] := by
  have hsigma : c ≠ 'Σ' := by
    rintro rfl
    exact absurd h (by decide)
  have hdotted : c ≠ 'İ' := by
    rintro rfl
    exact absurd h (by decide)
  rw [lowerChar, if_neg hsigma, if_neg hdotted]
  rcases applyFirst_lower c.toNat with hsame | ⟨hle, -⟩
  · rw [hsame, Char.ofNat_toNat]
  · omega

theorem lowerChar_of_caseless (h : ∀ d ∈ lowerChar before c after, IsCaseless d) :
    lowerChar before c after = [c] := by
  unfold lowerChar at h ⊢
  split at h
  · split at h
    · exact absurd (h _ List.mem_cons_self).2 (by decide)
    · exact absurd (h _ List.mem_cons_self).2 (by decide)
  · next hsigma =>
    split at h
    · exact absurd (h _ List.mem_cons_self).2 (by decide)
    · next hdotted =>
      have hcaseless := h _ List.mem_cons_self
      rw [if_neg hsigma, if_neg hdotted]
      rcases applyFirst_lower c.toNat with hsame | ⟨-, hle⟩
      · rw [hsame, Char.ofNat_toNat]
      · -- What is moved is a letter, or it is no character at all.
        have hletters : 'A'.toNat < 'a'.toNat := by decide
        have hmoved := toNat_ofNat (CaseShift.applyFirst CaseTables.lower c.toNat)
        unfold IsCaseless at hcaseless
        omega

theorem lowerFrom_of_lt (h : ∀ c ∈ chars, c.toNat < 'A'.toNat) :
    lowerFrom before chars = chars := by
  induction chars generalizing before with
  | nil => rfl
  | cons c chars ih =>
    rw [List.forall_mem_cons] at h
    rw [lowerFrom, lowerChar_of_lt h.1, ih h.2, List.singleton_append]

theorem lowerFrom_of_caseless (h : ∀ d ∈ lowerFrom before chars, IsCaseless d) :
    lowerFrom before chars = chars := by
  induction chars generalizing before with
  | nil => rfl
  | cons c chars ih =>
    rw [lowerFrom, List.forall_mem_append] at h
    rw [lowerFrom, lowerChar_of_caseless h.1, ih h.2, List.singleton_append]

end Lower

/-- A text without letters is the lower case of itself only. -/
theorem lowerCase_eq_iff {text other : String} (h : ∀ c ∈ other.toList, IsCaseless c) :
    lowerCase text = lowerCase other ↔ text = other := by
  have hother : lowerFrom [] other.toList = other.toList := lowerFrom_of_lt fun c hc => (h c hc).2
  refine ⟨fun heq => ?_, fun heq => by rw [heq]⟩
  have hlower : lowerFrom [] text.toList = other.toList := by
    rw [← hother]
    exact String.ofList_injective heq
  have htext : lowerFrom [] text.toList = text.toList := by
    apply lowerFrom_of_caseless
    rwa [hlower]
  exact String.toList_inj.1 (htext.symm.trans hlower)

end RecordQuery.Text
