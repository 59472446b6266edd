import RecordQuery.Criteria
import RecordQuery.Proofs.Magnitudes
import RecordQuery.Proofs.Pattern.Words
import RecordQuery.Proofs.Raising
import RecordQuery.Proofs.Refusals.Basic
import RecordQuery.Proofs.Respelling

/-! Queries that have no criteria document. `Criteria.Accepts` says which predicates have one, and
`Criteria.Refuses` what the error of the others is; of a query, the first of these counts
(`Query.criteria_eq_error_iff`). -/

namespace RecordQuery

open Pattern (BracketsClose OpensAt)

/-- Whether a literal is no integer, or one of at most sixty-four bits with a sign. -/
def Literal.FitsLong (literal : Literal) : Prop :=
  literal.kind = .integer → -9223372036854775808 ≤ numeralValue literal.text.toList ∧
    numeralValue literal.text.toList ≤ 9223372036854775807

instance (literal : Literal) : Decidable literal.FitsLong :=
  inferInstanceAs (Decidable (_ → _ ∧ _))

theorem Test.WellFormed.of_mem_literals {test : Test} (h : test.WellFormed) :
    ∀ literal ∈ test.literals, literal.WellFormed := by
  cases test with
  | compare operator operand =>
    cases operand with
    | literal value => exact List.forall_mem_singleton.2 h
    | field other => exact List.forall_mem_nil _
  | between range =>
    rw [Test.literals, List.forall_mem_cons, List.forall_mem_singleton]
    exact ⟨h.1, h.2.1⟩
  | oneOf values => exact h.2
  | contains | matching | complies | is => exact List.forall_mem_nil _

namespace Criteria

variable {predicate : Predicate} {literal : Literal} {e : Error}

/-! ### Literals -/

/-- The value of an integer is looked for among those of sixty-four bits. -/
theorem literal_integer (hwell : literal.WellFormed) (hkind : literal.kind = .integer) :
    ∃ n : Int, numeralValue literal.text.toList = n ∧
      Criteria.literal literal = if Integer.fits64 n then .ok (.number (.integer n))
        else .error (.overflow literal.text) := by
  cases hwell with
  | @integer sign whole hsign hwhole _ =>
    obtain ⟨n, hn, -⟩ := Integer.read?_digits hsign hwhole
    refine ⟨n, ?_, ?_⟩
    · rw [String.toList_ofList]
      exact Integer.numeralValue_eq hsign hwhole hn
    · simp only [Criteria.literal, String.toList_ofList, Integer.read64?, hn, Option.filter_some]
      cases Integer.fits64 n <;> rfl
  | decimal | boolean | quoted => cases hkind

theorem fits64_iff_cast {n : Int} : Integer.fits64 n = true ↔
    -9223372036854775808 ≤ (n : ℚ) ∧ (n : ℚ) ≤ 9223372036854775807 := by
  rw [Integer.fits64, Bool.and_eq_true, decide_eq_true_iff, decide_eq_true_iff]
  constructor
  · rintro ⟨hlow, hhigh⟩
    exact ⟨by exact_mod_cast hlow, by exact_mod_cast hhigh⟩
  · rintro ⟨hlow, hhigh⟩
    exact ⟨by exact_mod_cast hlow, by exact_mod_cast hhigh⟩

theorem errorOf?_literal (hwell : literal.WellFormed) :
    (literal.FitsLong → errorOf? (Criteria.literal literal) = none) ∧
    (¬ literal.FitsLong → errorOf? (Criteria.literal literal) = some (.overflow literal.text)) := by
  by_cases hkind : literal.kind = .integer
  · obtain ⟨n, hvalue, hliteral⟩ := literal_integer hwell hkind
    have hfits : literal.FitsLong ↔ Integer.fits64 n = true := by
      rw [fits64_iff_cast, Literal.FitsLong, hvalue]
      exact ⟨fun h => h hkind, fun h _ => h⟩
    rw [hfits, hliteral]
    refine ⟨fun h => ?_, fun h => ?_⟩
    · rw [if_pos h]
      rfl
    · rw [if_neg h]
      rfl
  · refine ⟨fun _ => ?_, fun h => absurd (fun hinteger => absurd hinteger hkind) h⟩
    cases hwell with
    | integer => exact absurd rfl hkind
    | @decimal sign whole fraction _ _ _ hread =>
      obtain ⟨d, hd⟩ := Option.isSome_iff_exists.1 hread
      simp only [Criteria.literal, String.toList_ofList, hd]
      rfl
    | boolean | quoted => rfl

theorem literals_eq_mapM (values : List Literal) :
    literals values = values.mapM Criteria.literal := by
  induction values with
  | nil => rfl
  | cons value values ih => rw [literals, List.mapM_cons, ih]

/-! ### Predicates -/

/-- Predicates that have a document: the field is no star, nothing is asked about validity, each
integer has at most sixty-four bits, and the brackets of a pattern of words close. -/
structure Accepts (predicate : Predicate) : Prop where
  named : predicate.field ≠ .all
  untyped : predicate.test ≠ .is .valid ∧ predicate.test ≠ .is .invalid
  fits : ∀ literal ∈ predicate.test.literals, literal.FitsLong
  closed : ∀ pattern, predicate.test = .complies .word pattern → BracketsClose pattern.toList

/-- Predicates that have no document, each with its error. -/
inductive Refuses : Predicate → Error → Prop
  | validity {field : Field} {check : Check} : check = .valid ∨ check = .invalid →
      Refuses ⟨field, .is check⟩ (.unsupported .criteriaValidity)
  | star {test : Test} : test ≠ .is .valid → test ≠ .is .invalid →
      Refuses ⟨.all, test⟩ (.wildcard test.word .criteria)
  | overflow {path : String} {test : Test} {before after : List Literal} {literal : Literal} :
      test.literals = before ++ literal :: after → (∀ earlier ∈ before, earlier.FitsLong) →
      ¬ literal.FitsLong → Refuses ⟨.named path, test⟩ (.overflow literal.text)
  | bracket {path pattern : String} {place : Nat} : OpensAt pattern.toList place →
      Refuses ⟨.named path, .complies .word pattern⟩ (.unclosedBracket place pattern)

theorem exists_first_unfit {values : List Literal} (h : ∃ literal ∈ values, ¬ literal.FitsLong) :
    ∃ before first after, values = before ++ first :: after ∧
      (∀ earlier ∈ before, earlier.FitsLong) ∧ ¬ first.FitsLong := by
  have hfound : (values.find? fun literal => ¬ literal.FitsLong).isSome = true := by
    simpa using h
  obtain ⟨first, hfirst⟩ := Option.isSome_iff_exists.1 hfound
  obtain ⟨hunfit, before, after, heq, hbefore⟩ := List.find?_eq_some_iff_append.1 hfirst
  exact ⟨before, first, after, heq, by simpa using hbefore, by simpa using hunfit⟩

/-- Of a predicate with literals, only these can be refused, and from the left. -/
theorem errorOf?_predicate {path : String} {test : Test} (h : test.literals ≠ []) :
    errorOf? (Criteria.predicate ⟨.named path, test⟩) =
      test.literals.findSome? fun literal => errorOf? (Criteria.literal literal) := by
  cases test with
  | compare operator operand =>
    cases operand with
    | literal value =>
      simp only [Criteria.predicate, Test.literals, List.findSome?_singleton]
      cases Criteria.literal value <;> rfl
    | field other => exact absurd rfl h
  | between range =>
    simp only [Criteria.predicate, Test.literals, List.findSome?_cons, List.findSome?_nil]
    cases Criteria.literal range.left with
    | error e => rfl
    | ok left => cases Criteria.literal range.right <;> rfl
  | oneOf values =>
    simp only [Criteria.predicate, Test.literals, literals_eq_mapM, ← errorOf?_mapM]
    cases values.mapM Criteria.literal <;> rfl
  | contains | matching | complies | is => exact absurd rfl h

theorem Refuses.predicate_eq (hwell : predicate.WellFormed) (h : Refuses predicate e) :
    Criteria.predicate predicate = .error e := by
  cases h with
  | validity hcheck => rcases hcheck with rfl | rfl <;> rfl
  | @star test hvalid hinvalid =>
    cases test with
    | is check =>
      cases check with
      | valid => exact absurd rfl hvalid
      | invalid => exact absurd rfl hinvalid
      | null | empty => rfl
    | _ => rfl
  | @overflow path test before after literal hliterals hbefore hliteral =>
    have hwell := hwell.test.of_mem_literals
    have hne : test.literals ≠ [] := by simp [hliterals]
    rw [hliterals] at hwell
    rw [← errorOf?_eq_some, errorOf?_predicate hne, List.findSome?_eq_some_iff]
    refine ⟨before, literal, after, hliterals, ?_, fun earlier hmem => ?_⟩
    · exact (errorOf?_literal (hwell literal (by simp))).2 hliteral
    · have hwell := hwell earlier (List.mem_append_left _ hmem)
      exact (errorOf?_literal hwell).1 (hbefore earlier hmem)
  | @bracket path pattern place hopen =>
    have hne : pattern.isEmpty = false := by
      obtain ⟨before, after, heq, -⟩ := hopen
      refine Bool.eq_false_iff.2 fun hempty => ?_
      rw [String.isEmpty_iff.1 hempty] at heq
      cases before <;> cases heq
    simp only [Criteria.predicate, patternCondition, hne, hopen.regex_eq]
    rfl

theorem Accepts.exists_refusal (h : ¬ Accepts predicate) : ∃ e, Refuses predicate e := by
  obtain ⟨field, test⟩ := predicate
  by_contra hnone
  have huntyped : test ≠ .is .valid ∧ test ≠ .is .invalid := by
    constructor
    · rintro rfl
      exact hnone ⟨_, .validity (.inl rfl)⟩
    · rintro rfl
      exact hnone ⟨_, .validity (.inr rfl)⟩
  cases field with
  | all => exact hnone ⟨_, .star huntyped.1 huntyped.2⟩
  | named path =>
    refine h ⟨nofun, huntyped, ?_, ?_⟩
    · by_contra hsome
      push Not at hsome
      -- Of several integers that do not fit, the first gives the error.
      obtain ⟨before, first, after, hliterals, hbefore, hfirst⟩ := exists_first_unfit hsome
      exact hnone ⟨_, .overflow hliterals hbefore hfirst⟩
    · rintro pattern rfl
      by_contra hopen
      obtain ⟨place, hplace⟩ := Pattern.exists_opensAt hopen
      exact hnone ⟨_, .bracket hplace⟩

theorem Accepts.exists_document (hwell : predicate.WellFormed) (h : Accepts predicate) :
    ∃ document, Criteria.predicate predicate = .ok document := by
  obtain ⟨field, test⟩ := predicate
  cases field with
  | all => exact absurd rfl h.named
  | named path =>
    by_cases hliterals : test.literals = []
    · cases test with
      | compare operator operand =>
        cases operand with
        | literal => cases hliterals
        | field => exact ⟨_, rfl⟩
      | between => cases hliterals
      | oneOf values =>
        obtain rfl : values = [] := hliterals
        exact ⟨_, rfl⟩
      | contains | matching => exact ⟨_, rfl⟩
      | complies kind pattern =>
        simp only [Criteria.predicate, patternCondition]
        cases pattern.isEmpty with
        | true => exact ⟨_, rfl⟩
        | false =>
          cases kind with
          | character => exact ⟨_, rfl⟩
          | word =>
            obtain ⟨text, htext⟩ := (h.closed pattern rfl).exists_regex
            rw [htext]
            exact ⟨_, rfl⟩
      | is check =>
        cases check with
        | null | empty => exact ⟨_, rfl⟩
        | valid => exact absurd rfl h.untyped.1
        | invalid => exact absurd rfl h.untyped.2
    · have hwell := hwell.test.of_mem_literals
      rw [← errorOf?_eq_none, errorOf?_predicate hliterals, List.findSome?_eq_none_iff]
      exact fun literal hmem => (errorOf?_literal (hwell literal hmem)).1 (h.fits literal hmem)

theorem judges_predicate (hwell : predicate.WellFormed) :
    Query.Judges Criteria.predicate Accepts Refuses predicate where
  accepted h := h.exists_document hwell
  refused h := h.predicate_eq hwell
  exists_refusal := Accepts.exists_refusal

theorem exists_composite (connective : Connective) (key : String) (first : Json)
    (rest : List Json) : ∃ document, composite connective key (first :: rest) = .ok document := by
  cases rest <;> exact ⟨_, rfl⟩

end Criteria

namespace Query

theorem criteriaOfEach_eq_mapM (queries : List Query) :
    criteriaOfEach queries = queries.mapM criteria := by
  induction queries with
  | nil => rfl
  | cons query queries ih => rw [criteriaOfEach, List.mapM_cons, ih]

theorem failsByLeaf_criteria : FailsByLeaf criteria Criteria.predicate where
  leaf predicate := by rw [criteria]
  not inner := by
    rw [criteria]
    cases criteria inner <;> rfl
  any hne := by
    rw [criteria, criteriaOfEach_eq_mapM]
    exact errorOf?_mapM_bind (Criteria.exists_composite .any "$or") hne
  all hne := by
    rw [criteria, criteriaOfEach_eq_mapM]
    exact errorOf?_mapM_bind (Criteria.exists_composite .all "$and") hne

/-- A parsed query has a criteria document if and only if each of its predicates has one: no star
stands anywhere, nothing is asked about validity, all integers have at most sixty-four bits, and the
brackets of each pattern of words close. Otherwise the error is that of the first predicate that has
none: a check of validity is refused also for a star, and of several integers the first counts. -/
theorem criteria_eq_error_iff {text : String} {query : Query} (hparse : parse text = .ok query) :
    ((∃ document, query.criteria = .ok document) ↔
      ∀ predicate ∈ query.leaves, Criteria.Accepts predicate) ∧
    ∀ e, query.criteria = .error e ↔ ∃ before predicate after,
      query.leaves = before ++ predicate :: after ∧
        (∀ earlier ∈ before, Criteria.Accepts earlier) ∧ Criteria.Refuses predicate e := by
  have hwell := wellFormed_of_parse hparse
  apply failsByLeaf_criteria.first_refusal hwell.filled
  intro predicate hmem
  exact Criteria.judges_predicate (hwell.of_mem_leaves predicate hmem)

/-- The second of three integers is too large by one, before a check of validity; and the largest
and the least integer that fit. -/
theorem criteria_eq_error_of_large_integer :
    (∃ query, parse "not (a in [7, 9223372036854775808, 1]) or * is valid" = .ok query ∧
      query.criteria = .error (.overflow "9223372036854775808")) ∧
    ∃ query document,
      parse "a between [-9223372036854775808, 9223372036854775807]" = .ok query ∧
        query.criteria = .ok document := by
  constructor
  · have hparse : parse "not (a in [7, 9223372036854775808, 1]) or * is valid" = .ok (.any [
        .all [.not (.any [.all [.leaf ⟨.named "a",
          .oneOf [⟨.integer, "7"⟩, ⟨.integer, "9223372036854775808"⟩, ⟨.integer, "1"⟩]⟩]])],
        .all [.leaf ⟨.all, .is .valid⟩]]) := by
      decide +kernel
    have hrefuses : Criteria.Refuses ⟨.named "a", .oneOf [⟨.integer, "7"⟩,
        ⟨.integer, "9223372036854775808"⟩, ⟨.integer, "1"⟩]⟩ (.overflow "9223372036854775808") :=
      @Criteria.Refuses.overflow "a" (.oneOf [⟨.integer, "7"⟩, ⟨.integer, "9223372036854775808"⟩,
        ⟨.integer, "1"⟩]) [⟨.integer, "7"⟩] [⟨.integer, "1"⟩] ⟨.integer, "9223372036854775808"⟩ rfl
        (by decide +kernel) (by decide +kernel)
    exact ⟨_, hparse, ((criteria_eq_error_iff hparse).2 _).2 ⟨[], _, _, rfl, nofun, hrefuses⟩⟩
  · have hparse : parse "a between [-9223372036854775808, 9223372036854775807]" =
        .ok (.any [.all [.leaf ⟨.named "a", .between ⟨⟨.integer, "-9223372036854775808"⟩,
          ⟨.integer, "9223372036854775807"⟩, false, false⟩⟩]]) := by
      decide +kernel
    obtain ⟨document, hdocument⟩ := (criteria_eq_error_iff hparse).1.2 (by
      simp only [leaves, leavesOf, List.append_nil, List.forall_mem_singleton]
      exact ⟨nofun, ⟨nofun, nofun⟩, by decide +kernel, nofun⟩)
    exact ⟨_, document, hparse, hdocument⟩

end Query

end RecordQuery
