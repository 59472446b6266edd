import RecordQuery.Proofs.LowerCase
import RecordQuery.Proofs.RaisedText
import RecordQuery.Proofs.Record.Comparisons

/-! Queries that come back from formulas and the records that they select. A number may come back in
another spelling. Both spellings read as one decimal, and a value that is no number equals neither,
so no test tells them apart. -/

namespace RecordQuery

/-! ### Numerals -/

/-- A text of digits, points and minus signs that is read as a decimal. -/
structure IsNumeral (text : String) (d : Decimal) : Prop where
  chars : ∀ c ∈ text.toList, c.isDigit = true ∨ c = '-' ∨ c = '.'
  read : Decimal.read? text.toList = some d

section Numerals

variable {text other : String} {d : Decimal} {sign whole fraction : List Char}

theorem IsNumeral.of_digits (hsign : IsSign sign) (hwhole : IsDigits whole)
    (hfraction : ∀ c ∈ fraction, c.isDigit = true)
    (h : Decimal.read? (sign ++ whole ++ pointed fraction) = some d) :
    IsNumeral (String.ofList (sign ++ whole ++ pointed fraction)) d where
  chars c hc := by
    rw [String.toList_ofList, List.mem_append, List.mem_append] at hc
    rcases hc with (hc | hc) | hc
    · rcases hsign with rfl | rfl
      · cases hc
      · exact .inr (.inl (List.mem_singleton.1 hc))
    · exact .inl (hwhole.2 c hc)
    · unfold pointed at hc
      split at hc
      · cases hc
      · rcases List.mem_cons.1 hc with rfl | hc
        · exact .inr (.inr rfl)
        · exact .inl (hfraction c hc)
  read := by rw [String.toList_ofList, h]

theorem IsNumeral.isCaseless (h : IsNumeral text d) : ∀ c ∈ text.toList, Text.IsCaseless c := by
  intro c hc
  rcases h.chars c hc with hdigit | rfl | rfl
  · exact Text.forall_digit (p := Text.IsCaseless) (by decide) hdigit
  · exact ⟨by decide, by decide⟩
  · exact ⟨by decide, by decide⟩

/-- No blank stands in a numeral, so a record reads it as it is. -/
theorem IsNumeral.numberOfText?_eq (h : IsNumeral text d) :
    Record.numberOfText? text = some d := by
  have hblank : ∀ c ∈ text.toList, Text.isBlank c = false := by
    intro c hc
    rcases h.chars c hc with hdigit | rfl | rfl
    · exact Text.not_isBlank_of_isDigit hdigit
    · decide
    · decide
  rw [Record.numberOfText?, Text.trim_eq_self hblank, h.read]

/-- Only a number has the text of a numeral. -/
theorem IsNumeral.ne_text (h : IsNumeral text d) {value : Json}
    (hvalue : Record.number? value = none) : Record.text value ≠ text := by
  rintro rfl
  rw [← Record.numberOfText?_text, h.numberOfText?_eq] at hvalue
  cases hvalue

/-- A value equals a numeral if it is the number that the numeral writes. -/
theorem IsNumeral.equals_eq (h : IsNumeral text d) (value : Json) :
    Record.equals value text = (Record.number? value).any (·.sameValue d) := by
  rw [Record.equals, h.numberOfText?_eq]
  cases hvalue : Record.number? value with
  | some a => rfl
  | none =>
    rw [Option.any_none, beq_eq_false_iff_ne]
    intro heq
    exact h.ne_text hvalue ((Text.lowerCase_eq_iff h.isCaseless).1 heq)

/-- No comparison tells two numerals of one decimal apart. -/
theorem IsNumeral.compares_eq (h : IsNumeral text d) (h' : IsNumeral other d)
    (operator : Comparison) (value : Json) :
    Record.compares operator value text = Record.compares operator value other := by
  cases operator with
  | eq => exact (h.equals_eq value).trans (h'.equals_eq value).symm
  | ne => exact congrArg (!·) ((h.equals_eq value).trans (h'.equals_eq value).symm)
  | _ => simp only [Record.compares, h.numberOfText?_eq, h'.numberOfText?_eq]

/-- The text of an integer that a decimal can hold is a numeral of it. -/
theorem Integer.isNumeral_text {n : Int} (h : Decimal.ofInt? n = some d) :
    IsNumeral (Integer.text n) d := by
  obtain ⟨sign, hsign, -, htext⟩ := exists_text n
  have hread := Decimal.read?_of_integer hsign (isDigits_toDigits n.natAbs) (n := n) (by
    rw [← read?_text n, htext, String.toList_ofList])
  have hnumeral := IsNumeral.of_digits (d := d) hsign (isDigits_toDigits n.natAbs)
    (List.forall_mem_nil _)
  rw [append_pointed_nil] at hnumeral
  rw [htext]
  exact hnumeral (hread.trans h)

/-- The text of a decimal is a numeral of it, unless it is a zero with a sign. -/
theorem Decimal.isNumeral_text (h : d.negative = true → d.mantissa ≠ 0) :
    IsNumeral d.text d := by
  have hread := read?_text h
  obtain ⟨sign, whole, fraction, hsign, -, hwhole, hfraction, -, -, htext⟩ := d.exists_text
  rw [htext, String.toList_ofList] at hread
  rw [htext]
  exact .of_digits hsign hwhole hfraction hread

theorem Decimal.ne_zero_of_read? (hsign : IsSign sign) (hwhole : IsDigits whole)
    (hfraction : ∀ c ∈ fraction, c.isDigit = true)
    (h : read? (sign ++ whole ++ pointed fraction) = some d) :
    d.negative = true → d.mantissa ≠ 0 := by
  rw [read?_signed hsign hwhole hfraction] at h
  exact ne_zero_of_ofDigits? h

/-- An integer is lowered to a literal whose text is a numeral of the same decimal. -/
theorem Value.isNumeral_ofIntegerText (hsign : IsSign sign) (hwhole : IsDigits whole)
    (h : Decimal.read? (sign ++ whole) = some d) :
    ∃ value, Value.ofIntegerText (String.ofList (sign ++ whole)) = .ok value ∧
      IsNumeral value.raise.text d := by
  obtain ⟨n, hn, -⟩ := Integer.read?_digits hsign hwhole
  have hint := (Decimal.read?_of_integer hsign hwhole hn).symm.trans h
  have hzero := Decimal.ne_zero_of_read? (d := d) hsign hwhole (List.forall_mem_nil _)
    (by rwa [append_pointed_nil])
  rw [← String.toList_ofList (l := sign ++ whole)] at hn h
  exact Value.exists_ofIntegerText hn h (Integer.isNumeral_text hint)
    (Integer.isNumeral_text hint) (Decimal.isNumeral_text hzero)

/-- A number is lowered to a literal whose text is a numeral of the same decimal. -/
theorem Literal.isNumeral_of_lower (hsign : IsSign sign) (hwhole : IsDigits whole)
    (hfraction : ∀ c ∈ fraction, c.isDigit = true)
    (h : Decimal.read? (sign ++ whole ++ pointed fraction) = some d) :
    ∃ value, Literal.lower ⟨if fraction.isEmpty then .integer else .decimal,
        String.ofList (sign ++ whole ++ pointed fraction)⟩ = .ok value ∧
      IsNumeral value.raise.text d := by
  cases fraction with
  | nil =>
    rw [append_pointed_nil] at h ⊢
    exact Value.isNumeral_ofIntegerText hsign hwhole h
  | cons c fraction =>
    have hzero := Decimal.ne_zero_of_read? hsign hwhole hfraction h
    refine ⟨.decimal d, ?_, Decimal.isNumeral_text hzero⟩
    simp only [Literal.lower, List.isEmpty_cons, Bool.false_eq_true, if_false,
      String.toList_ofList, h]

end Numerals

/-! ### Literals and tests -/

/-- Two literals that no test tells apart: a literal and itself, or two numerals of one decimal. -/
inductive Literal.Respelled : Literal → Literal → Prop
  | same (literal : Literal) : Respelled literal literal
  | number {literal other : Literal} {d : Decimal} :
      IsNumeral literal.text d → IsNumeral other.text d → Respelled literal other

/-- A literal that can be written comes back as one that no test tells apart from it. -/
theorem Literal.WellFormed.respelled {literal : Literal} (h : literal.WellFormed) :
    literal.Respelled literal.returned := by
  by_cases hnumeric : literal.kind.isNumeric = true
  · obtain ⟨sign, whole, fraction, hsign, hwhole, hfraction, rfl, hread⟩ :=
      h.exists_digits hnumeric
    obtain ⟨d, hd⟩ := Option.isSome_iff_exists.1 hread
    obtain ⟨value, hlower, hnumeral⟩ := isNumeral_of_lower hsign hwhole hfraction hd
    rw [raise_of_lower hlower] at hnumeral
    exact .number (.of_digits hsign hwhole hfraction hd) hnumeral
  · have hself : literal.returned = literal := if_neg hnumeric
    rw [hself]
    exact .same literal

namespace Literal.Respelled

variable {literal other : Literal}

theorem compares_eq (h : literal.Respelled other) (operator : Comparison) (value : Json) :
    Record.compares operator value literal.text = Record.compares operator value other.text := by
  cases h with
  | same => rfl
  | number h h' => exact h.compares_eq h' operator value

theorem equals_eq (h : literal.Respelled other) (value : Json) :
    Record.equals value literal.text = Record.equals value other.text :=
  h.compares_eq .eq value

theorem numberOfText?_eq (h : literal.Respelled other) :
    Record.numberOfText? literal.text = Record.numberOfText? other.text := by
  cases h with
  | same => rfl
  | number h h' => rw [h.numberOfText?_eq, h'.numberOfText?_eq]

end Literal.Respelled

section Tests

variable {limits : Regex.Limits}

/-- A test is ready for the same values in either spelling. -/
theorem Test.passes_returned {test : Test} (h : test.WellFormed) :
    (test.returned.prepare limits).map ValueTest.passes =
      (test.prepare limits).map ValueTest.passes := by
  cases test with
  | compare operator operand =>
    cases operand with
    | literal literal =>
      have hrespelled : literal.Respelled literal.returned := Literal.WellFormed.respelled h
      apply congrArg Except.ok
      funext record value
      exact (hrespelled.compares_eq operator value).symm
    | field path => rfl
  | between range =>
    obtain ⟨hleft, hright, -⟩ := h
    simp only [Test.returned, Range.returned, Test.prepare, hleft.respelled.numberOfText?_eq,
      hright.respelled.numberOfText?_eq]
  | oneOf values =>
    apply congrArg Except.ok
    funext record value
    have heach : ∀ literal ∈ values, Record.equals value literal.returned.text =
        Record.equals value literal.text :=
      fun literal hmem => ((h.2 literal hmem).respelled.equals_eq value).symm
    simp only [ValueTest.passes, List.any_map]
    rw [Bool.eq_iff_iff, List.any_eq_true, List.any_eq_true]
    apply exists_congr
    intro literal
    apply and_congr_right
    intro hmem
    exact Bool.eq_iff_iff.1 (heach literal hmem)
  | _ => rfl

/-- Two predicates on one field whose tests are ready for the same values. -/
structure Predicate.SelectsAlike (predicate other : Predicate) : Prop where
  field_eq : predicate.field = other.field
  passes_eq (limits : Regex.Limits) : (predicate.test.prepare limits).map ValueTest.passes =
    (other.test.prepare limits).map ValueTest.passes

/-- A predicate that is not expanded comes back as one that selects the same records. -/
theorem Predicate.exists_returned {policy : Policy} {types : Option FieldTypes}
    {predicate : Predicate} (h : predicate.WellFormed)
    (hkept : ∀ check, predicate = ⟨.all, .is check⟩ → policy.wildcard ≠ .expand) :
    ∃ other, predicate.returned policy types = .leaf other ∧ other.SelectsAlike predicate := by
  rcases predicate with ⟨field, test⟩
  cases test with
  | complies kind pattern =>
    cases hregex : Pattern.regex kind pattern with
    | error e =>
      refine ⟨⟨field, .complies kind pattern⟩, ?_, rfl, fun _ => rfl⟩
      simp only [Predicate.returned, hregex]
    | ok regex =>
      refine ⟨⟨field, .matching regex⟩, ?_, rfl, fun limits => ?_⟩
      · simp only [Predicate.returned, hregex]
      · simp only [Test.prepare, hregex]
        rfl
  | is check =>
    cases field with
    | named path => exact ⟨_, rfl, rfl, fun _ => rfl⟩
    | all =>
      refine ⟨⟨.all, .is check⟩, ?_, rfl, fun _ => rfl⟩
      unfold Predicate.returned
      cases hw : policy.wildcard with
      | expand => exact absurd hw (hkept check rfl)
      | _ => rfl
  | _ => exact ⟨_, rfl, rfl, fun _ => Test.passes_returned h.test⟩

end Tests

/-! ### Queries -/

namespace Query

variable {limits : Regex.Limits} {query : Query} {queries : List Query} {f : Predicate → Query}

theorem Canonical.filled {p : Predicate → Prop} {place : Place} (h : Canonical p place query) :
    query.Filled := by
  induction h with
  | root hne _ ih => exact .any hne ih
  | clause hne _ _ ih => exact .all hne ih
  | leaf _ => exact .leaf
  | not _ ih => exact .not ih
  | any _ ih => exact .any (List.cons_ne_nil _ _) ih

/-- A query that selects what another does, and can take its place in a group. -/
structure Replaces (limits : Regex.Limits) (query other : Query) : Prop where
  filled : query.Filled
  selection_eq : query.selectionWithin limits = other.selectionWithin limits

section Groups

variable {g : Query → Query}

theorem filled_map (h : ∀ query ∈ queries, Replaces limits (g query) query) :
    ∀ query ∈ queries.map g, query.Filled :=
  List.forall_mem_map.2 fun query hmem => (h query hmem).filled

theorem mapM_selectionWithin_map (h : ∀ query ∈ queries, Replaces limits (g query) query) :
    (queries.map g).mapM (selectionWithin limits) = queries.mapM (selectionWithin limits) := by
  induction queries with
  | nil => rfl
  | cons query queries ih =>
    rw [List.forall_mem_cons] at h
    rw [List.map_cons, List.mapM_cons, List.mapM_cons, h.1.selection_eq, ih h.2]

theorem replaces_disjunction (hne : queries ≠ [])
    (h : ∀ query ∈ queries, Replaces limits (g query) query) :
    Replaces limits (disjunction (queries.map g)) (.any queries) := by
  have hne' : queries.map g ≠ [] := by simpa using hne
  refine ⟨filled_disjunction hne' (filled_map h), ?_⟩
  rw [selectionWithin_disjunction hne' (filled_map h), mapM_selectionWithin_map h,
    selectionWithin_any hne]

theorem replaces_conjunction (hne : queries ≠ [])
    (h : ∀ query ∈ queries, Replaces limits (g query) query) :
    Replaces limits (conjunction (queries.map g)) (.all queries) := by
  have hne' : queries.map g ≠ [] := by simpa using hne
  refine ⟨filled_conjunction hne' (filled_map h), ?_⟩
  rw [selectionWithin_conjunction hne' (filled_map h), mapM_selectionWithin_map h,
    selectionWithin_all hne]

theorem Replaces.negation {other : Query} (h : Replaces limits other query) :
    Replaces limits (negation other) (.not query) := by
  refine ⟨filled_negation h.filled, ?_⟩
  rw [selectionWithin_negation h.filled, h.selection_eq, selectionWithin_not]

end Groups

/-- A query selects what it does with other queries in place of its predicates that select what
these do. -/
theorem replaces_mapLeaves (h : query.Filled)
    (hf : ∀ predicate ∈ query.leaves, Replaces limits (f predicate) (.leaf predicate)) :
    Replaces limits (query.mapLeaves f) query := by
  induction h with
  | any hne _ ih =>
    rw [mapLeaves, mapLeavesOf_eq_map]
    apply replaces_disjunction hne
    intro branch hbranch
    apply ih branch hbranch
    intro predicate hmem
    exact hf predicate (mem_leavesOf.2 ⟨branch, hbranch, hmem⟩)
  | all hne _ ih =>
    rw [mapLeaves, mapLeavesOf_eq_map]
    apply replaces_conjunction hne
    intro child hchild
    apply ih child hchild
    intro predicate hmem
    exact hf predicate (mem_leavesOf.2 ⟨child, hchild, hmem⟩)
  | not _ ih => exact (ih hf).negation
  | leaf => exact hf _ (List.mem_singleton_self _)

/-- Lowering a parsed query and raising the formula under the same policy changes no selection,
unless a check of every field is expanded: both queries fail with the same error, or they select the
same records. -/
theorem selection_raise_lower {text : String} {policy : Policy} {types : Option FieldTypes}
    {query : Query} {formula : Formula} (hparse : parse text = .ok query)
    (hkept : ∀ check, ⟨.all, .is check⟩ ∈ query.leaves → policy.wildcard ≠ .expand)
    (hlower : query.lower policy types = .ok formula) :
    ∃ raised, formula.raise policy = .ok raised ∧ raised.selection = query.selection := by
  have hwell := wellFormed_of_parse hparse
  have hraise := raise_of_root (hwell.imp fun _ h => (Predicate.wellFormed_iff.1 h).2.2) hlower
  have hreplaces : Replaces .standard (query.mapLeaves (Predicate.returned policy types))
      query := by
    apply replaces_mapLeaves hwell.filled
    intro predicate hmem
    have hkept : ∀ check, predicate = ⟨.all, .is check⟩ → policy.wildcard ≠ .expand :=
      fun check hcheck => hkept check (hcheck ▸ hmem)
    obtain ⟨other, hreturned, hfield, hpasses⟩ :=
      @Predicate.exists_returned policy types _ (hwell.of_mem_leaves predicate hmem) hkept
    rw [hreturned]
    refine ⟨.leaf, ?_⟩
    rw [selectionWithin_leaf, selectionWithin_leaf, hfield, hpasses]
  exact ⟨_, hraise, hreplaces.selection_eq⟩

/-- A number with zeros before it and a pattern come back as other tests, the number without the
guard that was put before it. -/
theorem selection_raise_lower_of_leading_zeros :
    ∃ query formula raised, parse "f <= -007 and not (g complies 'x')" = .ok query ∧
      (∀ check, ⟨.all, .is check⟩ ∈ query.leaves → Policy.runtime.wildcard ≠ .expand) ∧
      query.lower .runtime none = .ok formula ∧ formula.raise .runtime = .ok raised ∧
      raised ≠ query ∧ raised.selection = query.selection := by
  have hparse : parse "f <= -007 and not (g complies 'x')" = .ok (.any [.all [
      .leaf ⟨.named "f", .compare .le (.literal ⟨.integer, "-007"⟩)⟩,
      .not (.any [.all [.leaf ⟨.named "g", .complies .character "x"⟩]])]]) := by
    decide +kernel
  have hlower : (Query.any [.all [
      .leaf ⟨.named "f", .compare .le (.literal ⟨.integer, "-007"⟩)⟩,
      .not (.any [.all [.leaf ⟨.named "g", .complies .character "x"⟩]])]]).lower .runtime none =
        .ok (.all [.all [Lowering.numericGuard "f",
          .compare .le (.path "f") (.literal (.int (-7)))],
          .not (.call "matches" [.path "g", .string "^x$"])]) := by
    rfl
  have hkept : ∀ check, (⟨.all, .is check⟩ : Predicate) ∈ (Query.any [.all [
      .leaf ⟨.named "f", .compare .le (.literal ⟨.integer, "-007"⟩)⟩,
      .not (.any [.all [.leaf ⟨.named "g", .complies .character "x"⟩]])]]).leaves →
        Policy.runtime.wildcard ≠ .expand := by
    intro check hmem
    simp [leaves, leavesOf] at hmem
  obtain ⟨raised, hraised, hselection⟩ := selection_raise_lower hparse hkept hlower
  refine ⟨_, _, raised, hparse, hkept, hlower, hraised, ?_, hselection⟩
  have hraise : (Formula.all [.all [Lowering.numericGuard "f",
      .compare .le (.path "f") (.literal (.int (-7)))],
      .not (.call "matches" [.path "g", .string "^x$"])]).raise .runtime = .ok (.any [.all [
        .leaf ⟨.named "f", .compare .le (.literal ⟨.integer, "-7"⟩)⟩,
        .not (.any [.all [.leaf ⟨.named "g", .matching "^x$"⟩]])]]) := by
    decide +kernel
  rintro rfl
  exact absurd (hraise.symm.trans hraised) (by decide +kernel)

end Query

end RecordQuery
