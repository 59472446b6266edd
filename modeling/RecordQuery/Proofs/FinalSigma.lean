import RecordQuery.Text.Case

/-! The lower case of a part of a text. Every character but the capital sigma has one lower case
wherever it stands; a capital sigma has a final form that depends on the characters around it, as
far as casing does not look through them. A part of a text keeps its lower case in the text,
whatever the text is, exactly if it settles the form of each of its capital sigmas
(`infix_lowerCase_iff`). -/

namespace RecordQuery.Text

/-- Whether a capital sigma between these characters, those `before` it in reverse, takes its final
form. -/
def isFinal (before after : List Char) : Bool :=
  startsCased before && !startsCased after

/-- Whether one of the characters is such that casing does not look through it, so that nothing past
them counts. -/
def stopsCasing (chars : List Char) : Bool :=
  chars.any (!isCaseIgnorable ·)

/-- Whether a capital sigma between these characters, those `before` it in reverse, has the same
form whatever stands around them. Behind a cased character its form depends on what follows, which
the characters after it must decide. Otherwise it is not final if the characters before it decide
that, or if a cased one follows. -/
def settlesSigma (before after : List Char) : Bool :=
  if startsCased before then stopsCasing after else stopsCasing before || startsCased after

/-- Whether each capital sigma among the characters that follow `before`, which is in reverse, has
the same form whatever stands around them all. -/
def isSettledFrom (before : List Char) : List Char → Bool
  | [] => true
  | c :: after => (c != 'Σ' || settlesSigma before after) && isSettledFrom (c :: before) after

/-- Whether each capital sigma of a text has the same form whatever stands around the text. -/
def isSettled (text : String) : Bool :=
  isSettledFrom [] text.toList

/-- The lower case of characters between others, those `before` them in reverse. -/
def lowerWithin (before : List Char) : (chars after : List Char) → List Char
  | [], _ => []
  | c :: chars, after =>
    lowerChar before c (chars ++ after) ++ lowerWithin (c :: before) chars after

variable {before after chars more left right : List Char} {c : Char}

/-! ### Forms of a capital sigma -/

theorem stopsCasing_of_startsCased (h : startsCased chars = true) : stopsCasing chars = true := by
  unfold startsCased at h
  unfold stopsCasing
  rw [← List.isSome_find?]
  split at h
  · next hfound => rw [hfound, Option.isSome_some]
  · cases h

theorem startsCased_eq_false (h : stopsCasing chars = false) : startsCased chars = false := by
  rw [← Bool.not_eq_true] at h ⊢
  exact mt stopsCasing_of_startsCased h

theorem startsCased_append : startsCased (chars ++ more) =
    if stopsCasing chars then startsCased chars else startsCased more := by
  unfold stopsCasing startsCased
  rw [List.find?_append, ← List.isSome_find?]
  cases chars.find? (!isCaseIgnorable ·) <;> rfl

/-- A settled form does not change with what stands around. -/
theorem isFinal_append_of_settles (h : settlesSigma before after = true) :
    isFinal (before ++ left) (after ++ right) = isFinal before after := by
  unfold settlesSigma at h
  unfold isFinal
  rw [startsCased_append, startsCased_append]
  cases hbefore : startsCased before with
  | true =>
    rw [if_pos hbefore] at h
    rw [if_pos (stopsCasing_of_startsCased hbefore), if_pos h]
  | false =>
    rw [hbefore, if_neg Bool.false_ne_true, Bool.or_eq_true] at h
    rcases h with hstops | hafter
    · rw [if_pos hstops, Bool.false_and, Bool.false_and]
    · rw [if_pos (stopsCasing_of_startsCased hafter), hafter, Bool.not_true, Bool.and_false,
        Bool.and_false]

/-- A form that is not settled changes with a cased character on one side. -/
theorem isFinal_ne_of_not_settles (h : settlesSigma before after = false) :
    (∀ letter, startsCased [letter] = true →
      isFinal before (after ++ [letter]) ≠ isFinal before after) ∨
    ∀ letter, startsCased [letter] = true →
      isFinal (before ++ [letter]) after ≠ isFinal before after := by
  unfold settlesSigma at h
  unfold isFinal
  cases hbefore : startsCased before with
  | true =>
    rw [if_pos hbefore] at h
    refine .inl fun letter hletter => ?_
    simp [startsCased_append, h, hletter, startsCased_eq_false h]
  | false =>
    rw [hbefore, if_neg Bool.false_ne_true, Bool.or_eq_false_iff] at h
    refine .inr fun letter hletter => ?_
    simp [startsCased_append, h.1, h.2, hletter]

/-! ### Lower case between other characters -/

theorem lowerChar_sigma :
    lowerChar before 'Σ' after = [if isFinal before after then 'ς' else 'σ'] := by
  rw [lowerChar, if_pos rfl]
  exact (apply_ite (fun c : Char => [c]) _ _ _).symm

theorem lowerChar_of_ne (h : c ≠ 'Σ') : lowerChar before c after = lowerChar left c right := by
  rw [lowerChar, lowerChar, if_neg h, if_neg h]

theorem length_lowerChar : (lowerChar before c after).length = (lowerChar left c right).length := by
  by_cases h : c = 'Σ'
  · rw [h, lowerChar_sigma, lowerChar_sigma, List.length_singleton, List.length_singleton]
  · rw [lowerChar_of_ne h]

theorem length_lowerWithin :
    (lowerWithin before chars after).length = (lowerWithin left chars right).length := by
  induction chars generalizing before left with
  | nil => rfl
  | cons c chars ih =>
    rw [lowerWithin, lowerWithin, List.length_append, List.length_append, length_lowerChar, ih]

theorem lowerWithin_append : lowerWithin before (chars ++ more) after =
    lowerWithin before chars (more ++ after) ++
      lowerWithin (chars.reverse ++ before) more after := by
  induction chars generalizing before with
  | nil => rfl
  | cons c chars ih =>
    rw [List.cons_append, lowerWithin, lowerWithin, ih, List.append_assoc, List.append_assoc,
      List.reverse_cons, List.append_assoc, List.singleton_append]

theorem lowerFrom_eq_lowerWithin : lowerFrom before chars = lowerWithin before chars [] := by
  induction chars generalizing before with
  | nil => rfl
  | cons c chars ih => rw [lowerFrom, lowerWithin, ih, List.append_nil]

theorem lowerFrom_append : lowerFrom before (chars ++ after) =
    lowerWithin before chars after ++ lowerFrom (chars.reverse ++ before) after := by
  rw [lowerFrom_eq_lowerWithin, lowerWithin_append, List.append_nil, lowerFrom_eq_lowerWithin]

/-- Settled characters have one lower case wherever they stand. -/
theorem lowerWithin_of_settled (h : isSettledFrom before chars = true) :
    lowerWithin (before ++ left) chars right = lowerFrom before chars := by
  induction chars generalizing before with
  | nil => rfl
  | cons c chars ih =>
    rw [isSettledFrom, Bool.and_eq_true, Bool.or_eq_true, bne_iff_ne] at h
    have hchar : lowerChar (before ++ left) c (chars ++ right) = lowerChar before c chars := by
      rcases h.1 with hne | hsettles
      · exact lowerChar_of_ne hne
      · by_cases hsigma : c = 'Σ'
        · rw [hsigma, lowerChar_sigma, lowerChar_sigma, isFinal_append_of_settles hsettles]
        · exact lowerChar_of_ne hsigma
    rw [lowerWithin, lowerFrom, hchar, ← ih h.2, List.cons_append]

/-- Characters that are not settled have a capital sigma that is not. -/
theorem exists_not_settles (h : isSettledFrom before chars = false) :
    ∃ first second, chars = first ++ 'Σ' :: second ∧
      settlesSigma (first.reverse ++ before) second = false := by
  induction chars generalizing before with
  | nil => cases h
  | cons c chars ih =>
    rw [isSettledFrom, Bool.and_eq_false_iff, Bool.or_eq_false_iff, bne_eq_false_iff_eq] at h
    rcases h with ⟨rfl, hsettles⟩ | hrest
    · exact ⟨[], chars, rfl, hsettles⟩
    · obtain ⟨first, second, rfl, hsettles⟩ := ih hrest
      refine ⟨c :: first, second, rfl, ?_⟩
      rwa [List.reverse_cons, List.append_assoc]

/-- Characters in two surroundings differ in lower case where a capital sigma differs in form. -/
theorem lowerWithin_ne {first second : List Char}
    (h : isFinal (first.reverse ++ before) (second ++ after) ≠
      isFinal (first.reverse ++ left) (second ++ right)) :
    lowerWithin before (first ++ 'Σ' :: second) after ≠
      lowerWithin left (first ++ 'Σ' :: second) right := by
  rw [lowerWithin_append, lowerWithin_append, lowerWithin, lowerWithin, lowerChar_sigma,
    lowerChar_sigma]
  intro heq
  obtain ⟨-, hforms⟩ := List.append_inj heq length_lowerWithin
  have hinjective : ∀ a b : Bool,
      (if a then 'ς' else 'σ') = (if b then 'ς' else 'σ') → a = b := by
    decide
  exact h (hinjective _ _ (List.cons.inj hforms).1)

/-! ### Parts of texts -/

section Parts

variable {α : Type} {part whole : List α} {a : α}

/-- A part that is one shorter than a whole is all of it but the first or all but the last. -/
theorem not_infix_concat (hlength : whole.length = part.length) (hne : whole ≠ part)
    (hlast : part.getLast? ≠ some a) : ¬ part <:+: whole ++ [a] := by
  rw [List.infix_concat_iff, List.suffix_concat_iff]
  rintro ((rfl | ⟨init, rfl, -⟩) | hwithin)
  · exact hne (List.length_eq_zero_iff.1 hlength)
  · exact hlast List.getLast?_concat
  · exact hne (hwithin.eq_of_length hlength.symm).symm

theorem not_infix_cons (hlength : whole.length = part.length) (hne : whole ≠ part)
    (hhead : part.head? ≠ some a) : ¬ part <:+: a :: whole := by
  rw [List.infix_cons_iff, List.prefix_cons_iff]
  rintro ((rfl | ⟨tail, rfl, -⟩) | hwithin)
  · exact hne (List.length_eq_zero_iff.1 hlength)
  · exact hhead List.head?_cons
  · exact hne (hwithin.eq_of_length hlength.symm).symm

end Parts

/-- A cased character that is its own lower case. -/
structure IsSmall (letter : Char) : Prop where
  startsCased : startsCased [letter] = true
  lowerChar_eq (before after : List Char) : lowerChar before letter after = [letter]

theorem isSmall_of_code (hcased : Text.startsCased [c] = true) (hsigma : c ≠ 'Σ')
    (hdotted : c ≠ 'İ') (hcode : CaseShift.applyFirst CaseTables.lower c.toNat = c.toNat) :
    IsSmall c where
  startsCased := hcased
  lowerChar_eq before after := by
    rw [lowerChar, if_neg hsigma, if_neg hdotted, hcode, Char.ofNat_toNat]

theorem exists_isSmall_ne (other? : Option Char) :
    ∃ letter, IsSmall letter ∧ other? ≠ some letter := by
  have hsmall : IsSmall 'a' ∧ IsSmall 'b' := by
    constructor
    all_goals exact isSmall_of_code (by decide +kernel) (by decide) (by decide) (by decide +kernel)
  by_cases h : other? = some 'a'
  · exact ⟨'b', hsmall.2, by rw [h]; decide⟩
  · exact ⟨'a', hsmall.1, h⟩

/-- The lower case of settled characters is a part of that of every text they are a part of. -/
theorem infix_lowerFrom_of_settled (h : isSettledFrom [] chars = true)
    (hwithin : chars <:+: more) : lowerFrom [] chars <:+: lowerFrom [] more := by
  obtain ⟨left, right, rfl⟩ := hwithin
  have hpart : lowerWithin (left.reverse ++ []) chars right = lowerFrom [] chars := by
    rw [List.append_nil]
    exact lowerWithin_of_settled h
  rw [List.append_assoc, lowerFrom_append, lowerFrom_append, hpart]
  exact List.infix_append' _ _ _

/-- Characters that are not settled have another lower case with any cased character on one
side. -/
theorem lowerWithin_ne_of_not_settled (h : isSettledFrom [] chars = false) :
    (∀ letter, startsCased [letter] = true →
      lowerWithin [] chars [letter] ≠ lowerWithin [] chars []) ∨
    ∀ letter, startsCased [letter] = true →
      lowerWithin [letter] chars [] ≠ lowerWithin [] chars [] := by
  obtain ⟨first, second, rfl, hsettles⟩ := exists_not_settles h
  refine (isFinal_ne_of_not_settles hsettles).imp (fun hne letter hletter => lowerWithin_ne ?_)
    fun hne letter hletter => lowerWithin_ne ?_
  · simpa using hne letter hletter
  · simpa using hne letter hletter

theorem lowerFrom_concat {letter : Char} (h : IsSmall letter) :
    lowerFrom before (chars ++ [letter]) = lowerWithin before chars [letter] ++ [letter] := by
  rw [lowerFrom_append, lowerFrom, lowerFrom, h.lowerChar_eq, List.append_nil]

theorem lowerFrom_cons {letter : Char} (h : IsSmall letter) :
    lowerFrom before (letter :: chars) = letter :: lowerWithin (letter :: before) chars [] := by
  rw [lowerFrom, h.lowerChar_eq, List.singleton_append, lowerFrom_eq_lowerWithin]

/-- Characters that are not settled are a part of a text whose lower case does not hold theirs: they
have another one beside some letter, and the letter is not at that end of theirs. -/
theorem exists_not_infix_lowerFrom (h : isSettledFrom [] chars = false) :
    ∃ more, chars <:+: more ∧ ¬ lowerFrom [] chars <:+: lowerFrom [] more := by
  rw [lowerFrom_eq_lowerWithin]
  rcases lowerWithin_ne_of_not_settled h with hafter | hbefore
  · obtain ⟨letter, hsmall, hlast⟩ := exists_isSmall_ne (lowerWithin [] chars []).getLast?
    refine ⟨chars ++ [letter], List.infix_append_left, ?_⟩
    rw [lowerFrom_concat hsmall]
    exact not_infix_concat length_lowerWithin (hafter letter hsmall.startsCased) hlast
  · obtain ⟨letter, hsmall, hhead⟩ := exists_isSmall_ne (lowerWithin [] chars []).head?
    refine ⟨letter :: chars, List.infix_cons List.infix_rfl, ?_⟩
    rw [lowerFrom_cons hsmall]
    exact not_infix_cons length_lowerWithin (hbefore letter hsmall.startsCased) hhead

/-- The lower case of a text is a part of that of every text it is a part of exactly if the text
settles the form of each of its capital sigmas. -/
theorem infix_lowerCase_iff (text : String) :
    (∀ whole : String, text.toList <:+: whole.toList →
      (lowerCase text).toList <:+: (lowerCase whole).toList) ↔ isSettled text = true := by
  simp only [lowerCase, String.toList_ofList]
  constructor
  · intro hall
    rw [← Bool.not_eq_false]
    intro hnot
    obtain ⟨more, hwithin, hlower⟩ := exists_not_infix_lowerFrom hnot
    apply hlower
    simpa using hall (String.ofList more) (by simpa using hwithin)
  · exact fun h whole => infix_lowerFrom_of_settled h

/-- A text without capital sigmas has none whose form is not settled. -/
theorem isSettledFrom_of_notMem (h : 'Σ' ∉ chars) : isSettledFrom before chars = true := by
  induction chars generalizing before with
  | nil => rfl
  | cons c chars ih =>
    rw [List.mem_cons, not_or] at h
    rw [isSettledFrom, ih h.2, Bool.and_true, Bool.or_eq_true, bne_iff_ne]
    exact .inl (Ne.symm h.1)

end RecordQuery.Text
