import RecordQuery.Proofs.Exactness
import RecordQuery.Proofs.FieldTypes
import RecordQuery.Proofs.Pattern.Words
import RecordQuery.Proofs.Refusals.Basic
import RecordQuery.Proofs.Respelling

/-! Queries that have no formula. `Lowering.Accepts` says which predicates have one, and
`Lowering.Refuses` what the error of the others is; of a query, the first of these counts
(`Query.lower_eq_error_iff`). -/

namespace RecordQuery

open Pattern (BracketsClose OpensAt)

/-- A literal that can be written has a counterpart in formulas. -/
theorem Literal.WellFormed.exists_value {literal : Literal} (h : literal.WellFormed) :
    ∃ value, literal.lower = .ok value := by
  by_cases hnumeric : literal.kind.isNumeric = true
  · obtain ⟨value, -, hlower, -⟩ := h.exists_lower hnumeric
    exact ⟨value, hlower⟩
  · cases h with
    | integer | decimal => exact absurd rfl hnumeric
    | boolean b => cases b <;> exact ⟨_, rfl⟩
    | quoted => exact ⟨_, rfl⟩

/-- Whether a policy has a formula for a check of every field: a call for each field, if any is
known, or else a call that asks for any empty or any invalid field. -/
def Policy.ChecksAll (policy : Policy) (types : Option FieldTypes) (check : Check) : Prop :=
  (policy.wildcard = .expand ∧ ∃ dictionary ∈ types, dictionary.entries ≠ []) ∨
    (policy.wildcard = .sentinel ∧ (check = .empty ∨ check = .invalid))

namespace Lowering

variable {policy : Policy} {types : Option FieldTypes} {predicate : Predicate} {e : Error}

/-- Predicates that have a formula: a star stands in checks only that the policy makes of every
field, a check of validity of a named field finds its type, and the brackets of a pattern of words
close. -/
structure Accepts (policy : Policy) (types : Option FieldTypes) (predicate : Predicate) : Prop where
  star : predicate.field = .all → ∃ check, predicate.test = .is check ∧ policy.ChecksAll types check
  typed : ∀ path check, predicate = ⟨.named path, .is check⟩ → check = .valid ∨ check = .invalid →
    ∃ dictionary ∈ types, path ∈ dictionary.names
  closed : ∀ pattern, predicate.test = .complies .word pattern → BracketsClose pattern.toList

/-- Predicates that have no formula, each with its error. -/
inductive Refuses (policy : Policy) (types : Option FieldTypes) : Predicate → Error → Prop
  | star {test : Test} : (∀ check, test ≠ .is check) →
      Refuses policy types ⟨.all, test⟩ (.wildcard test.word .predicate)
  | policy {check : Check} : policy.wildcard = .reject →
      Refuses policy types ⟨.all, .is check⟩ (.wildcard check.render .policy)
  | noExpansion {check : Check} : policy.wildcard = .sentinel → check = .null ∨ check = .valid →
      Refuses policy types ⟨.all, .is check⟩ (.wildcard check.render .noExpansion)
  | noFields {check : Check} : policy.wildcard = .expand →
      (∀ dictionary ∈ types, dictionary.entries = []) →
      Refuses policy types ⟨.all, .is check⟩ (.wildcard check.render .noFields)
  | untyped {path : String} {check : Check} : check = .valid ∨ check = .invalid →
      (∀ dictionary ∈ types, path ∉ dictionary.names) →
      Refuses policy types ⟨.named path, .is check⟩ (.unknownType path)
  | bracket {path pattern : String} {place : Nat} : OpensAt pattern.toList place →
      Refuses policy types ⟨.named path, .complies .word pattern⟩ (.unclosedBracket place pattern)

theorem Refuses.predicate_eq (hwell : predicate.WellFormed) (h : Refuses policy types predicate e) :
    Lowering.predicate policy types predicate = .error e := by
  cases h with
  | @star test hcheck =>
    cases test with
    | oneOf values =>
      have hempty : values.isEmpty = false := by simpa using hwell.test.1
      simp only [Lowering.predicate, hempty]
      rfl
    | is check => exact absurd rfl (hcheck check)
    | _ => rfl
  | @policy check hreject => simp only [Lowering.predicate, checkAll, hreject]
  | @noExpansion check hsentinel hcheck =>
    rcases hcheck with rfl | rfl
    · simp only [Lowering.predicate, checkAll, hsentinel]
    · simp only [Lowering.predicate, checkAll, hsentinel]
  | @noFields check hexpand hempty =>
    cases types with
    | none => simp only [Lowering.predicate, checkAll, hexpand]
    | some dictionary =>
      have hempty := FieldTypes.isEmpty_eq_true.2 (hempty dictionary rfl)
      simp only [Lowering.predicate, checkAll, hexpand, hempty, if_pos]
  | @untyped path check hcheck hmissing =>
    have hneeds : check.needsType = true := by rcases hcheck with rfl | rfl <;> rfl
    cases types with
    | none => simp only [Lowering.predicate, checkField, hneeds, if_pos]
    | some dictionary =>
      have hget := FieldTypes.get?_eq_none.2 (hmissing dictionary rfl)
      simp only [Lowering.predicate, checkField, hneeds, if_pos, FieldTypes.require, hget]
      rfl
  | bracket hopen =>
    simp only [Lowering.predicate, hopen.regex_eq]
    rfl

theorem Accepts.exists_refusal (h : ¬ Accepts policy types predicate) :
    ∃ e, Refuses policy types predicate e := by
  obtain ⟨field, test⟩ := predicate
  by_contra hnone
  refine h ⟨?_, ?_, ?_⟩
  · rintro ⟨⟩
    by_cases hcheck : ∃ check, test = .is check
    · obtain ⟨check, rfl⟩ := hcheck
      refine ⟨check, rfl, ?_⟩
      cases hwildcard : policy.wildcard with
      | reject => exact absurd ⟨_, .policy hwildcard⟩ hnone
      | sentinel =>
        refine .inr ⟨hwildcard, ?_⟩
        cases check with
        | empty => exact .inl rfl
        | invalid => exact .inr rfl
        | null => exact absurd ⟨_, .noExpansion hwildcard (.inl rfl)⟩ hnone
        | valid => exact absurd ⟨_, .noExpansion hwildcard (.inr rfl)⟩ hnone
      | expand =>
        refine .inl ⟨hwildcard, ?_⟩
        by_contra hempty
        push Not at hempty
        exact hnone ⟨_, .noFields hwildcard hempty⟩
    · exact absurd ⟨_, .star fun check heq => hcheck ⟨check, heq⟩⟩ hnone
  · rintro path check ⟨⟩ hcheck
    by_contra hmissing
    push Not at hmissing
    exact hnone ⟨_, .untyped hcheck hmissing⟩
  · rintro pattern rfl
    by_contra hopen
    obtain ⟨place, hplace⟩ := Pattern.exists_opensAt hopen
    cases field with
    | all => exact hnone ⟨_, .star nofun⟩
    | named path => exact hnone ⟨_, .bracket hplace⟩

theorem exists_literals {values : List Literal} (h : ∀ value ∈ values, value.WellFormed) :
    ∃ formulas, literals values = .ok formulas := by
  induction values with
  | nil => exact ⟨_, rfl⟩
  | cons value values ih =>
    rw [List.forall_mem_cons] at h
    obtain ⟨first, hfirst⟩ := h.1.exists_value
    obtain ⟨rest, hrest⟩ := ih h.2
    rw [literals, hfirst, hrest]
    exact ⟨_, rfl⟩

/-- No literal, range or list that can be written keeps a predicate from having a formula. -/
theorem Accepts.exists_formula (hwell : predicate.WellFormed)
    (h : Accepts policy types predicate) :
    ∃ formula, Lowering.predicate policy types predicate = .ok formula := by
  obtain ⟨field, test⟩ := predicate
  cases field with
  | named path =>
    obtain ⟨-, htest⟩ := hwell
    cases test with
    | compare operator operand =>
      cases operand with
      | literal literal =>
        obtain ⟨value, hvalue⟩ := Literal.WellFormed.exists_value htest
        simp only [Lowering.predicate, operand, hvalue]
        exact ⟨_, rfl⟩
      | field other => exact ⟨_, rfl⟩
    | between range =>
      obtain ⟨left, hleft⟩ := htest.1.exists_value
      obtain ⟨right, hright⟩ := htest.2.1.exists_value
      simp only [Lowering.predicate, hleft, hright]
      exact ⟨_, rfl⟩
    | oneOf values =>
      have hempty : values.isEmpty = false := by simpa using htest.1
      obtain ⟨formulas, hformulas⟩ := exists_literals htest.2
      simp only [Lowering.predicate, hempty, hformulas]
      exact ⟨_, rfl⟩
    | contains | matching => exact ⟨_, rfl⟩
    | complies kind pattern =>
      cases kind with
      | character => exact ⟨_, rfl⟩
      | word =>
        obtain ⟨text, htext⟩ := (h.closed pattern rfl).exists_regex
        simp only [Lowering.predicate, htext]
        exact ⟨_, rfl⟩
    | is check =>
      by_cases hcheck : check = .valid ∨ check = .invalid
      · obtain ⟨dictionary, hdictionary, hmem⟩ := h.typed path check rfl hcheck
        cases hdictionary
        cases hget : dictionary.get? path with
        | none => exact absurd hmem (FieldTypes.get?_eq_none.1 hget)
        | some type =>
          simp only [Lowering.predicate, checkField, FieldTypes.require, hget]
          cases check.needsType <;> exact ⟨_, rfl⟩
      · have hneeds : check.needsType = false := by
          cases check with
          | null | empty => rfl
          | valid | invalid => simp at hcheck
        simp only [Lowering.predicate, checkField, hneeds]
        exact ⟨_, rfl⟩
  | all =>
    obtain ⟨check, rfl, ⟨hexpand, dictionary, hdictionary, hne⟩ | ⟨hsentinel, rfl | rfl⟩⟩ :=
      h.star rfl
    · cases hdictionary
      exact ⟨_, FieldTypes.lower_checkAll hexpand hne check⟩
    · simp only [Lowering.predicate, checkAll, hsentinel]
      exact ⟨_, rfl⟩
    · simp only [Lowering.predicate, checkAll, hsentinel]
      exact ⟨_, rfl⟩

theorem judges_predicate (hwell : predicate.WellFormed) :
    Query.Judges (Lowering.predicate policy types) (Accepts policy types) (Refuses policy types)
      predicate where
  accepted h := h.exists_formula hwell
  refused h := h.predicate_eq hwell
  exists_refusal := Accepts.exists_refusal

theorem exists_composite (connective : Connective) (build : List Formula → Formula)
    (first : Formula) (rest : List Formula) :
    ∃ formula, composite connective build (first :: rest) = .ok formula := by
  cases rest <;> exact ⟨_, rfl⟩

end Lowering

namespace Query

variable {policy : Policy} {types : Option FieldTypes}

theorem lowerEach_eq_mapM (queries : List Query) :
    lowerEach policy types queries = queries.mapM (lower policy types) := by
  induction queries with
  | nil => rfl
  | cons query queries ih =>
    rw [lowerEach, List.mapM_cons, ih]

theorem failsByLeaf_lower :
    FailsByLeaf (lower policy types) (Lowering.predicate policy types) where
  leaf predicate := by rw [lower]
  not inner := by
    rw [lower]
    cases lower policy types inner <;> rfl
  any hne := by
    rw [lower, lowerEach_eq_mapM]
    exact errorOf?_mapM_bind (Lowering.exists_composite .any .any) hne
  all hne := by
    rw [lower, lowerEach_eq_mapM]
    exact errorOf?_mapM_bind (Lowering.exists_composite .all .all) hne

/-- A parsed query has a formula if and only if each of its predicates has one: no star stands
outside of a check that the policy makes of every field, each check of validity of a named field
finds the type of the field, and the brackets of each pattern of words close. Otherwise the error is
that of the first predicate that has none. -/
theorem lower_eq_error_iff {text : String} {query : Query} (policy : Policy)
    (types : Option FieldTypes) (hparse : parse text = .ok query) :
    ((∃ formula, query.lower policy types = .ok formula) ↔
      ∀ predicate ∈ query.leaves, Lowering.Accepts policy types predicate) ∧
    ∀ e, query.lower policy types = .error e ↔ ∃ before predicate after,
      query.leaves = before ++ predicate :: after ∧
        (∀ earlier ∈ before, Lowering.Accepts policy types earlier) ∧
        Lowering.Refuses policy types predicate e := by
  have hwell := wellFormed_of_parse hparse
  apply failsByLeaf_lower.first_refusal hwell.filled
  intro predicate hmem
  exact Lowering.judges_predicate (hwell.of_mem_leaves predicate hmem)

/-- A bracket stays open behind a check that finds its type and before a star that is refused too;
and a check of every field of a store. -/
theorem lower_eq_error_of_open_bracket :
    (∃ query, parse "a is valid and not (b wordComplies '[x') or * = 1" = .ok query ∧
      query.lower .generic (some (.ofList [("a", "T")])) = .error (.unclosedBracket 0 "[x")) ∧
    ∃ query formula, parse "not (* is empty)" = .ok query ∧
      query.lower .storage none = .ok formula := by
  constructor
  · have hparse : parse "a is valid and not (b wordComplies '[x') or * = 1" = .ok (.any [
        .all [.leaf ⟨.named "a", .is .valid⟩,
          .not (.any [.all [.leaf ⟨.named "b", .complies .word "[x"⟩]])],
        .all [.leaf ⟨.all, .compare .eq (.literal ⟨.integer, "1"⟩)⟩]]) := by
      decide +kernel
    refine ⟨_, hparse, ((lower_eq_error_iff _ _ hparse).2 _).2 ?_⟩
    refine ⟨[⟨.named "a", .is .valid⟩], ⟨.named "b", .complies .word "[x"⟩, _, rfl, ?_, ?_⟩
    · rw [List.forall_mem_singleton]
      refine ⟨nofun, ?_, nofun⟩
      rintro path check ⟨⟩ -
      exact ⟨_, rfl, by decide⟩
    · exact .bracket ⟨[], ['x'], rfl, Pattern.bracketsClose_nil, by decide, rfl⟩
  · have hparse : parse "not (* is empty)" =
        .ok (.any [.all [.not (.any [.all [.leaf ⟨.all, .is .empty⟩]])]]) := by
      decide +kernel
    obtain ⟨formula, hformula⟩ := (lower_eq_error_iff .storage none hparse).1.2
      (by
        simp only [leaves, leavesOf, List.append_nil, List.forall_mem_singleton]
        exact ⟨fun _ => ⟨.empty, rfl, .inr ⟨rfl, .inl rfl⟩⟩, nofun, nofun⟩)
    exact ⟨_, formula, hparse, hformula⟩

end Query

end RecordQuery
