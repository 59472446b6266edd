import RecordQuery.Criteria
import RecordQuery.Proofs.Patterns
import RecordQuery.Proofs.Query.Meaning
import RecordQuery.Proofs.Raising

/-! The meaning of criteria documents. A document holds where its query does, each predicate read as
the document that is written for it (`Query.holds_criteria`). A negation is written into the
condition of a field exactly around a regular expression, else around the whole document
(`Query.negate_of_regular`, `Query.negate_of_not_regular`). -/

namespace RecordQuery

open Json (single)

/-- Whether a test is written as a regular expression. -/
def Test.isRegular : Test → Bool
  | .contains _ _ => true
  | .matching text | .complies _ text => !text.isEmpty
  | _ => false

namespace Criteria

/-! ### The truth value of a document -/

/-- The truth value of the document that puts a field to a condition. -/
def fieldHolds (value : Json → Bool) (field : String) : Json → Bool
  | .object [("$not", condition)] => !fieldHolds value field condition
  | condition => value (single field condition)
termination_by structural condition => condition

mutual

/-- The truth value of a document, given those of the atomic ones: a field with a condition that is
no negation, and a comparison of two fields. -/
def holds (value : Json → Bool) : Json → Bool
  | .object [("$and", .array documents)] => allHold value documents
  | .object [("$or", .array documents)] => anyHolds value documents
  | .object [("$nor", .array documents)] => !anyHolds value documents
  | .object [(field, condition)] => fieldHolds value field condition
  | document => value document
termination_by structural document => document

/-- Whether one of several documents holds. -/
def anyHolds (value : Json → Bool) : List Json → Bool
  | [] => false
  | document :: documents => holds value document || anyHolds value documents
termination_by structural documents => documents

/-- Whether several documents all hold. -/
def allHold (value : Json → Bool) : List Json → Bool
  | [] => true
  | document :: documents => holds value document && allHold value documents
termination_by structural documents => documents

end

variable {value : Json → Bool}

theorem single_ne_array {key : String} {value : Json} (items : List Json) :
    single key value ≠ .array items := nofun

theorem holds_single {field : String} {condition : Json} (h : ∀ items, condition ≠ .array items) :
    holds value (single field condition) = fieldHolds value field condition := by
  rw [single, holds]
  all_goals exact fun items _ he => h items he

@[simp] theorem holds_nor (document : Json) :
    holds value (single "$nor" (.array [document])) = !holds value document := by
  rw [single, holds, anyHolds, anyHolds, Bool.or_false]

@[simp] theorem holds_not (field : String) (members : List (String × Json)) :
    holds value (single field (single "$not" (.object members))) =
      !holds value (single field (.object members)) := by
  rw [holds_single single_ne_array, holds_single (by nofun)]
  rfl

/-- The document of a negation holds where the negated one does not. -/
theorem holds_negate (document : Json) : holds value (negate document) = !holds value document := by
  unfold negate
  split
  · split
    · exact holds_not _ _
    · exact holds_nor _
  · exact holds_nor _

/-! ### The documents of predicates -/

/-- A condition that stands for itself: no list and no negation, and a regular expression or not. -/
structure IsCondition (regular : Bool) (condition : Json) : Prop where
  notList : ∀ items, condition ≠ .array items
  notNegated : ∀ inner, condition ≠ single "$not" inner
  regular : (condition.member? "$regex").isSome = regular

namespace IsCondition

theorem of_not_object {condition : Json} (hlist : ∀ items, condition ≠ .array items)
    (hobject : ∀ members, condition ≠ .object members) : IsCondition false condition where
  notList := hlist
  notNegated _ := hobject _
  regular := by
    unfold Json.member?
    split
    · exact absurd rfl (hobject _)
    · rfl

theorem of_string (text : String) : IsCondition false (.string text) :=
  of_not_object nofun nofun

theorem of_single {regular : Bool} {key : String} (value : Json) (hnot : key ≠ "$not")
    (hregex : ("$regex" == key) = regular) : IsCondition regular (single key value) where
  notList := single_ne_array
  notNegated inner h := by
    injection h with h
    injection h with h
    injection h with h
    exact hnot h
  regular := by
    rw [single, Json.member?, List.lookup_cons, hregex]
    cases regular <;> rfl

/-- The value of a literal is a number, a truth value or a text. -/
theorem of_literal {literal : Literal} {value : Json} (h : Criteria.literal literal = .ok value) :
    IsCondition false value := by
  unfold Criteria.literal at h
  split at h
  case h_3 | h_4 => cases h; exact of_not_object nofun nofun
  all_goals
    split at h <;> cases h
    exact of_not_object nofun nofun

theorem compareCondition {value : Json} (h : IsCondition false value) (operator : Comparison) :
    IsCondition false (compareCondition operator value) := by
  cases operator with
  | eq => exact h
  | ne | lt | gt | le | ge => exact of_single value (by decide) (by decide)

theorem regexCondition (regex : String) :
    IsCondition (!regex.isEmpty) (regexCondition regex) := by
  unfold Criteria.regexCondition
  cases regex.isEmpty with
  | true => exact of_string ""
  | false => exact of_single (.string regex) (by decide) (by decide)

theorem patternCondition {kind : PatternKind} {pattern : String} {condition : Json}
    (h : patternCondition kind pattern = .ok condition) :
    IsCondition (!pattern.isEmpty) condition := by
  unfold Criteria.patternCondition at h
  split at h
  · next hempty =>
    cases h
    rw [hempty]
    exact of_string ""
  · next hempty =>
    obtain ⟨regex, hregex, rfl⟩ := except_map_eq_ok.1 h
    have hcondition := regexCondition regex
    rwa [Pattern.isEmpty_regex hregex, ← Bool.eq_false_iff.2 hempty] at hcondition

end IsCondition

/-- What is written of a predicate: a condition on its field, or a comparison of two fields. -/
inductive Written (predicate : Predicate) : Json → Prop
  | condition {path : String} {condition : Json} :
      predicate.field = .named path → IsCondition predicate.test.isRegular condition →
      Written predicate (single path condition)
  | fields {operator : Comparison} {left right : String} :
      predicate.test.isRegular = false → Written predicate (compareFields operator left right)

theorem pathOf_eq_ok {field : Field} {keyword path : String} (h : pathOf field keyword = .ok path) :
    field = .named path := by
  cases field with
  | named => cases h; rfl
  | all => cases h

/-- The document of a predicate is what is written of it. -/
theorem written_of_predicate {predicate : Predicate} {document : Json}
    (h : Criteria.predicate predicate = .ok document) : Written predicate document := by
  obtain ⟨field, test⟩ := predicate
  cases test with
  | compare operator operand =>
    obtain ⟨path, hpath, hafter⟩ := except_bind_eq_ok.1 h
    cases operand with
    | literal value =>
      obtain ⟨value, hvalue, hend⟩ := except_bind_eq_ok.1 hafter
      cases hend
      exact .condition (pathOf_eq_ok hpath) ((IsCondition.of_literal hvalue).compareCondition _)
    | field other =>
      cases hafter
      exact .fields rfl
  | between range =>
    obtain ⟨path, hpath, hafter⟩ := except_bind_eq_ok.1 h
    obtain ⟨left, _, hafter⟩ := except_bind_eq_ok.1 hafter
    obtain ⟨right, _, hend⟩ := except_bind_eq_ok.1 hafter
    cases hend
    refine .condition (pathOf_eq_ok hpath) ⟨nofun, by simp [single], ?_⟩
    cases range.lowerOpen <;> cases range.upperOpen <;> rfl
  | oneOf values =>
    obtain ⟨path, hpath, hafter⟩ := except_bind_eq_ok.1 h
    obtain ⟨values, _, hend⟩ := except_bind_eq_ok.1 hafter
    cases hend
    exact .condition (pathOf_eq_ok hpath) (.of_single _ (by decide) rfl)
  | contains text caseSensitive =>
    obtain ⟨path, hpath, hend⟩ := except_bind_eq_ok.1 h
    cases hend
    refine .condition (pathOf_eq_ok hpath) ⟨nofun, ?_, rfl⟩
    cases caseSensitive <;> simp [containsCondition, single]
  | matching regex =>
    obtain ⟨path, hpath, hend⟩ := except_bind_eq_ok.1 h
    cases hend
    exact .condition (pathOf_eq_ok hpath) (.regexCondition regex)
  | complies kind pattern =>
    obtain ⟨path, hpath, hafter⟩ := except_bind_eq_ok.1 h
    obtain ⟨condition, hcondition, hend⟩ := except_bind_eq_ok.1 hafter
    cases hend
    exact .condition (pathOf_eq_ok hpath) (.patternCondition hcondition)
  | is check =>
    cases check with
    | null | empty =>
      obtain ⟨path, hpath, hend⟩ := except_bind_eq_ok.1 h
      cases hend
      exact .condition (pathOf_eq_ok hpath) (.of_not_object nofun nofun)
    | valid | invalid => cases h

/-- The document of a predicate is atomic. -/
theorem Written.holds_eq {predicate : Predicate} {document : Json}
    (h : Written predicate document) :
    holds value document = value document := by
  cases h with
  | @condition path condition _ hcondition =>
    rw [holds_single hcondition.notList, fieldHolds]
    exact fun inner he => hcondition.notNegated inner he
  | @fields operator left right _ =>
    rw [compareFields, holds_single single_ne_array]
    cases operator <;> rfl

/-! ### The documents of queries -/

/-- A group of one part is that part. -/
theorem composite_eq_ok {connective : Connective} {key : String} {parts : List Json}
    {document : Json} (h : composite connective key parts = .ok document) :
    parts = [document] ∨ document = single key (.array parts) := by
  unfold composite at h
  split at h
  · cases h
  · cases h
    exact .inl rfl
  · cases h
    exact .inr rfl

theorem negate_single (field : String) (condition : Json) :
    negate (single field condition) =
      if field.toList.head? != some '$' && (condition.member? "$regex").isSome then
        single field (single "$not" condition)
      else single "$nor" (.array [single field condition]) := by
  cases condition with
  | object => rfl
  | _ => simp [negate, single, Json.member?]

/-- What was negated is negated from outside. -/
theorem negate_negate (document : Json) :
    negate (negate document) = single "$nor" (.array [negate document]) := by
  have hsingle : ∃ field condition, negate document = single field condition ∧
      (condition.member? "$regex").isSome = false := by
    unfold negate
    split
    · split
      · exact ⟨_, _, rfl, rfl⟩
      · exact ⟨_, _, rfl, rfl⟩
    · exact ⟨_, _, rfl, rfl⟩
  obtain ⟨field, condition, hnegate, hregex⟩ := hsingle
  rw [hnegate, negate_single, hregex, Bool.and_false, if_neg Bool.false_ne_true]

end Criteria

open Criteria (negate)

namespace Query

variable {value : Json → Bool} {leaf : Predicate → Bool}

mutual

/-- A document holds where its query does, each predicate read as its own document. -/
theorem holds_criteria (hleaf : ∀ predicate atom, Criteria.predicate predicate = .ok atom →
    leaf predicate = value atom) : (query : Query) → (document : Json) →
    query.criteria = .ok document → Criteria.holds value document = query.holds leaf
  | .any branches, document, h => by
    obtain ⟨documents, hdocuments, hgroup⟩ := except_bind_eq_ok.1 h
    obtain ⟨hany, -⟩ := holds_criteriaOfEach hleaf branches documents hdocuments
    rw [holds, ← hany]
    rcases Criteria.composite_eq_ok hgroup with rfl | rfl
    · rw [Criteria.anyHolds, Criteria.anyHolds, Bool.or_false]
    · rfl
  | .all children, document, h => by
    obtain ⟨documents, hdocuments, hgroup⟩ := except_bind_eq_ok.1 h
    obtain ⟨-, hall⟩ := holds_criteriaOfEach hleaf children documents hdocuments
    rw [holds, ← hall]
    rcases Criteria.composite_eq_ok hgroup with rfl | rfl
    · rw [Criteria.allHold, Criteria.allHold, Bool.and_true]
    · rfl
  | .not inner, document, h => by
    obtain ⟨positive, hpositive, hend⟩ := except_bind_eq_ok.1 h
    cases hend
    rw [holds, Criteria.holds_negate, holds_criteria hleaf inner positive hpositive]
  | .leaf predicate, document, h => by
    rw [holds, hleaf predicate document h, (Criteria.written_of_predicate h).holds_eq]
termination_by structural query => query

theorem holds_criteriaOfEach (hleaf : ∀ predicate atom, Criteria.predicate predicate = .ok atom →
    leaf predicate = value atom) : (queries : List Query) → (documents : List Json) →
    criteriaOfEach queries = .ok documents →
    Criteria.anyHolds value documents = anyHolds leaf queries ∧
      Criteria.allHold value documents = allHold leaf queries
  | [], documents, h => by
    cases h
    exact ⟨rfl, rfl⟩
  | query :: queries, documents, h => by
    obtain ⟨first, hfirst, hafter⟩ := except_bind_eq_ok.1 h
    obtain ⟨rest, hrest, hend⟩ := except_bind_eq_ok.1 hafter
    cases hend
    obtain ⟨hany, hall⟩ := holds_criteriaOfEach hleaf queries rest hrest
    rw [Criteria.anyHolds, Criteria.allHold, anyHolds, allHold, hany, hall,
      holds_criteria hleaf query first hfirst]
    exact ⟨rfl, rfl⟩
termination_by structural queries => queries

end

/-! ### Where negations are written -/

/-- A query out of the groups that hold nothing else. -/
def core : Query → Query
  | .any [query] | .all [query] => core query
  | query => query
termination_by structural query => query

theorem core_ne_singleton (query inner : Query) :
    query.core ≠ .any [inner] ∧ query.core ≠ .all [inner] := by
  fun_induction core query with
  | case1 query ih | case2 query ih => exact ih
  | case3 query hany hall => exact ⟨hany inner, hall inner⟩

@[simp] theorem leaves_core (query : Query) : query.core.leaves = query.leaves := by
  fun_induction core query with
  | case1 query ih | case2 query ih => rw [ih, leaves, leavesOf_singleton]
  | case3 query => rfl

@[simp] theorem criteria_core (query : Query) : query.core.criteria = query.criteria := by
  fun_induction core query with
  | case1 query ih | case2 query ih =>
    rw [ih, criteria, criteriaOfEach, criteriaOfEach]
    cases query.criteria <;> rfl
  | case3 query => rfl

/-- A query that comes to a predicate written as a regular expression. -/
def IsRegular (query : Query) : Prop :=
  ∃ predicate, query.core = .leaf predicate ∧ predicate.test.isRegular = true

theorem length_criteriaOfEach {queries : List Query} {documents : List Json}
    (h : criteriaOfEach queries = .ok documents) : documents.length = queries.length := by
  induction queries generalizing documents with
  | nil =>
    cases h
    rfl
  | cons query queries ih =>
    obtain ⟨first, _, hafter⟩ := except_bind_eq_ok.1 h
    obtain ⟨rest, hrest, hend⟩ := except_bind_eq_ok.1 hafter
    cases hend
    rw [List.length_cons, List.length_cons, ih hrest]

/-- Negated groups are negated from outside, unless they hold one query only. -/
theorem negate_composite {connective : Connective} {key : String} {queries : List Query}
    {documents : List Json} {document : Json} (h : criteriaOfEach queries = .ok documents)
    (hgroup : Criteria.composite connective key documents = .ok document)
    (hne : ∀ query, queries ≠ [query]) :
    negate document = single "$nor" (.array [document]) := by
  rcases Criteria.composite_eq_ok hgroup with rfl | rfl
  · obtain ⟨query, hquery⟩ := List.length_eq_one_iff.1 (length_criteriaOfEach h).symm
    exact absurd hquery (hne query)
  · rw [Criteria.negate_single]
    simp [Json.member?]

section Negations

variable {inner : Query} {positive : Json}

/-- A negated regular expression stands in the condition of its field. -/
theorem negate_of_regular (hplain : ∀ predicate ∈ inner.leaves, ∀ path,
      predicate.field = .named path → path.toList.head? ≠ some '$')
    (h : inner.criteria = .ok positive) (hregular : inner.IsRegular) :
    ∃ field condition, positive = single field condition ∧
      negate positive = single field (single "$not" condition) := by
  obtain ⟨predicate, hcore, hregular⟩ := hregular
  rw [← criteria_core, hcore] at h
  rw [← leaves_core, hcore] at hplain
  cases Criteria.written_of_predicate h with
  | @condition path condition hfield hcondition =>
    have hpath := hplain predicate (List.mem_singleton_self _) path hfield
    refine ⟨path, condition, rfl, ?_⟩
    rw [Criteria.negate_single, hcondition.regular, hregular, bne_iff_ne.2 hpath, Bool.and_self,
      if_pos rfl]
  | fields hnot => rw [hnot] at hregular; cases hregular

/-- Anything else is negated from outside. -/
theorem negate_of_not_regular (h : inner.criteria = .ok positive) (hregular : ¬ inner.IsRegular) :
    negate positive = single "$nor" (.array [positive]) := by
  have hsingleton := core_ne_singleton inner
  rw [← criteria_core] at h
  cases hcore : inner.core with
  | any branches =>
    rw [hcore] at h
    obtain ⟨documents, hdocuments, hgroup⟩ := except_bind_eq_ok.1 h
    exact negate_composite hdocuments hgroup fun query he => (hsingleton query).1 (he ▸ hcore)
  | all children =>
    rw [hcore] at h
    obtain ⟨documents, hdocuments, hgroup⟩ := except_bind_eq_ok.1 h
    exact negate_composite hdocuments hgroup fun query he => (hsingleton query).2 (he ▸ hcore)
  | not negated =>
    rw [hcore] at h
    obtain ⟨document, _, hend⟩ := except_bind_eq_ok.1 h
    cases hend
    exact Criteria.negate_negate document
  | leaf predicate =>
    rw [hcore] at h
    have hnot : predicate.test.isRegular = false :=
      Bool.eq_false_iff.2 fun hp => hregular ⟨predicate, hcore, hp⟩
    cases Criteria.written_of_predicate h with
    | condition _ hcondition =>
      rw [Criteria.negate_single, hcondition.regular, hnot, Bool.and_false,
        if_neg Bool.false_ne_true]
    | fields _ =>
      rw [Criteria.compareFields, Criteria.negate_single]
      rfl

end Negations

/-- A criteria document holds where its query does, for all truth values of the atomic documents,
each predicate read as the document that is written for it. A negation is written into the condition
of a field exactly if what it negates comes to a predicate written as a regular expression, else as
"nor" over the one document. -/
theorem criteria_meaning :
    (∀ (value : Json → Bool) (leaf : Predicate → Bool) (query : Query) (document : Json),
      (∀ predicate atom, Criteria.predicate predicate = .ok atom → leaf predicate = value atom) →
      query.criteria = .ok document → Criteria.holds value document = query.holds leaf) ∧
    ∀ (inner : Query) (document : Json), (∀ predicate ∈ inner.leaves, ∀ path,
        predicate.field = .named path → path.toList.head? ≠ some '$') →
      (Query.not inner).criteria = .ok document →
      ∃ positive, inner.criteria = .ok positive ∧
        ((∃ field condition, positive = single field condition ∧
          document = single field (single "$not" condition)) ↔ inner.IsRegular) ∧
        (document = single "$nor" (.array [positive]) ↔ ¬ inner.IsRegular) := by
  refine ⟨fun value leaf query document hleaf h => holds_criteria hleaf query document h,
    fun inner document hplain h => ?_⟩
  obtain ⟨positive, hpositive, hend⟩ := except_bind_eq_ok.1 h
  cases hend
  refine ⟨positive, hpositive, ?_⟩
  by_cases hregular : inner.IsRegular
  · obtain ⟨field, condition, hsingle, hnegate⟩ := negate_of_regular hplain hpositive hregular
    refine ⟨iff_of_true ⟨field, condition, hsingle, hnegate⟩ hregular,
      iff_of_false (fun hnor => ?_) (not_not_intro hregular)⟩
    simp [hnegate, single] at hnor
  · have hnegate := negate_of_not_regular hpositive hregular
    refine ⟨iff_of_false ?_ hregular, iff_of_true hnegate hregular⟩
    rintro ⟨field, condition, -, hnot⟩
    simp [hnegate, single] at hnot

/-- A regular expression negated in the condition of its field, and a group of it and its negation
negated from outside. -/
theorem criteria_meaning_of_negated_group :
    let regular : Query := .any [.all [.leaf ⟨.named "a", .matching "x+"⟩]]
    let group : Query := .any [regular, .not regular]
    let condition := single "$regex" (.string "x+")
    let negated := single "a" (single "$not" condition)
    let document := single "$nor" (.array [single "$or" (.array [single "a" condition, negated])])
    let value : Json → Bool := fun atom => (atom.member? "a").isSome
    let leaf : Predicate → Bool := fun predicate =>
      match Criteria.predicate predicate with
      | .ok atom => value atom
      | .error _ => false
    (Query.not group).criteria = .ok document ∧
      Criteria.holds value document = (Query.not group).holds leaf ∧ ¬ group.IsRegular ∧
      (Query.not regular).criteria = .ok negated ∧ regular.IsRegular := by
  intro regular group condition negated document value leaf
  have hleaf : ∀ predicate atom, Criteria.predicate predicate = .ok atom →
      leaf predicate = value atom := fun predicate atom h => by simp only [leaf, h]
  have hgroup : (Query.not group).criteria = .ok document := rfl
  have hregular : (Query.not regular).criteria = .ok negated := rfl
  obtain ⟨hholds, hnegation⟩ := criteria_meaning
  refine ⟨hgroup, hholds value leaf _ _ hleaf hgroup, ?_, hregular, ?_⟩
  · obtain ⟨positive, hpositive, -, hnor⟩ := hnegation group document
      (by simp [group, regular, leaves, leavesOf]) hgroup
    cases hpositive
    exact hnor.1 rfl
  · obtain ⟨positive, hpositive, hnot, -⟩ := hnegation regular negated
      (by simp [regular, leaves, leavesOf]) hregular
    cases hpositive
    exact hnot.1 ⟨"a", condition, rfl, rfl⟩

end Query

end RecordQuery
