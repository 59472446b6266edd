import RecordQuery.Proofs.Query.Leaves
import RecordQuery.Proofs.Query.Meaning
import RecordQuery.Record.Selector

/-! The records that queries select. As long as no group is empty, two things decide on them
(`selectionWithin_eq`): the first predicate that cannot be made ready gives the error, and without
one a record is selected where the query holds of it. The composing functions keep the predicates in
order and the truth value, so they change no selection. -/

namespace RecordQuery

/-- Whether a record passes a predicate; none passes one that cannot be made ready. -/
def Predicate.passes (limits : Regex.Limits) (record : Json) (predicate : Predicate) : Bool :=
  match predicate.test.prepare limits with
  | .ok test => (Record.valuesOf predicate.field record).any (test.passes record)
  | .error _ => false

/-- What keeps a predicate from being made ready. -/
def Predicate.flaw? (limits : Regex.Limits) (predicate : Predicate) : Option Error :=
  match predicate.test.prepare limits with
  | .ok _ => none
  | .error e => some e

/-- A value, unless one of some predicates is flawed; of several errors the first counts. -/
def Predicate.unlessFlawed {α : Type} (limits : Regex.Limits) (predicates : List Predicate)
    (value : α) : Except Error α :=
  match predicates.findSome? (flaw? limits) with
  | some e => .error e
  | none => .ok value

namespace Selector

variable {record : Json}

theorem anyHolds_eq_any (selectors : List Selector) :
    anyHolds record selectors = selectors.any (holds record) := by
  induction selectors with
  | nil => rfl
  | cons selector selectors ih => rw [anyHolds, ih, List.any_cons]

theorem allHold_eq_all (selectors : List Selector) :
    allHold record selectors = selectors.all (holds record) := by
  induction selectors with
  | nil => rfl
  | cons selector selectors ih => rw [allHold, ih, List.all_cons]

end Selector

namespace Query

/-- A query in which no group is empty. -/
inductive Filled : Query → Prop
  | any {branches : List Query} :
      branches ≠ [] → (∀ branch ∈ branches, Filled branch) → Filled (.any branches)
  | all {children : List Query} :
      children ≠ [] → (∀ child ∈ children, Filled child) → Filled (.all children)
  | not {inner : Query} : Filled inner → Filled (.not inner)
  | leaf {predicate : Predicate} : Filled (.leaf predicate)

/-- The records that a query selects, or the error for which it cannot be made ready. -/
def selectionWithin (limits : Regex.Limits) (query : Query) : Except Error (Json → Bool) :=
  (query.selectorWithin limits).map fun selector record => selector.holds record

/-- The records that a query selects within the limits that hold where no others are asked for. -/
def selection (query : Query) : Except Error (Json → Bool) :=
  query.selector.map fun selector record => selector.holds record

variable {limits : Regex.Limits} {record : Json} {query : Query} {queries : List Query}

/-! ### Composing functions leave no group empty -/

theorem filled_singleton (h : query.Filled) : [query] ≠ [] ∧ ∀ part ∈ [query], Filled part :=
  ⟨List.cons_ne_nil _ _, List.forall_mem_singleton.2 h⟩

theorem Filled.conjuncts (h : query.Filled) :
    conjuncts query ≠ [] ∧ ∀ part ∈ conjuncts query, Filled part := by
  induction h with
  | @any branches hne hbranches ih =>
    match branches with
    | [] => exact absurd rfl hne
    | [branch] =>
      rw [Query.conjuncts]
      exact ih branch (List.mem_singleton_self _)
    | first :: second :: rest =>
      simpa only [Query.conjuncts] using filled_singleton (.any hne hbranches)
  | all hne _ ih =>
    rw [Query.conjuncts, conjunctsOf_eq_flatMap]
    exact flatMap_of_forall hne ih
  | not hinner _ => simpa only [Query.conjuncts] using filled_singleton (.not hinner)
  | leaf => simpa only [Query.conjuncts] using filled_singleton .leaf

theorem filled_conjunction (hne : queries ≠ []) (h : ∀ query ∈ queries, Filled query) :
    (conjunction queries).Filled := by
  obtain ⟨hparts, hfilled⟩ := flatMap_of_forall hne fun query hquery => (h query hquery).conjuncts
  rw [conjunction, conjunctsOf_eq_flatMap]
  exact .all hparts hfilled

theorem Filled.disjuncts (h : query.Filled) :
    disjuncts query ≠ [] ∧ ∀ part ∈ disjuncts query, Filled part := by
  induction query using disjuncts_induction with
  | any branches ih =>
    rw [Query.disjuncts, disjunctsOf_eq_flatMap]
    cases h with
    | any hne hbranches =>
      exact flatMap_of_forall hne fun branch hbranch => ih branch hbranch (hbranches branch hbranch)
  | spliced children branches hany ih =>
    rw [disjuncts_all_any hany, disjunctsOf_eq_flatMap]
    -- What the "all" comes to is one of its conjuncts, so it is filled as well.
    have hconjuncts := h.conjuncts.2
    rw [Query.conjuncts, hany, List.forall_mem_singleton] at hconjuncts
    cases hconjuncts with
    | any hne hbranches =>
      exact flatMap_of_forall hne fun branch hbranch => ih branch hbranch (hbranches branch hbranch)
  | all children hany =>
    rw [disjuncts_all hany]
    cases h with
    | all hne hchildren => exact filled_singleton (filled_conjunction hne hchildren)
  | not inner =>
    have hone : Query.disjuncts (.not inner) = [.all [.not inner]] := by simp [Query.disjuncts]
    obtain ⟨hne, hparts⟩ := filled_singleton h
    exact hone ▸ filled_singleton (.all hne hparts)
  | leaf predicate =>
    have hone : Query.disjuncts (.leaf predicate) = [.all [.leaf predicate]] := by
      simp [Query.disjuncts]
    obtain ⟨hne, hparts⟩ := filled_singleton h
    exact hone ▸ filled_singleton (.all hne hparts)

theorem filled_disjunction (hne : queries ≠ []) (h : ∀ query ∈ queries, Filled query) :
    (disjunction queries).Filled := by
  obtain ⟨hparts, hfilled⟩ := flatMap_of_forall hne fun query hquery => (h query hquery).disjuncts
  rw [disjunction, disjunctsOf_eq_flatMap]
  exact .any hparts hfilled

theorem filled_negation (h : query.Filled) : (negation query).Filled :=
  .not (filled_disjunction (filled_singleton h).1 (filled_singleton h).2)

/-! ### Selections of groups -/

section Groups

/-- Queries are made ready from the left, up to the first error. -/
theorem map_selectorsWithin :
    (selectorsWithin limits queries).map (List.map fun selector record => selector.holds record) =
      queries.mapM (selectionWithin limits) := by
  induction queries with
  | nil => rfl
  | cons query queries ih =>
    rw [List.mapM_cons, ← ih, selectorsWithin, selectionWithin]
    cases selectorWithin limits query with
    | error e => rfl
    | ok selector => cases selectorsWithin limits queries <;> rfl

theorem selectionWithin_any (hne : queries ≠ []) :
    selectionWithin limits (.any queries) =
      (queries.mapM (selectionWithin limits)).map fun tests record => tests.any (· record) := by
  have hgroup : selectorWithin limits (.any queries) =
      (do return .any (← selectorsWithin limits queries)) := by
    cases queries with
    | nil => exact absurd rfl hne
    | cons query queries => rfl
  rw [selectionWithin, hgroup, ← map_selectorsWithin]
  cases selectorsWithin limits queries with
  | error e => rfl
  | ok selectors =>
    refine congrArg Except.ok (funext fun record => ?_)
    show Selector.anyHolds record selectors = _
    simp only [Selector.anyHolds_eq_any, List.any_map, Function.comp_def]

theorem selectionWithin_all (hne : queries ≠ []) :
    selectionWithin limits (.all queries) =
      (queries.mapM (selectionWithin limits)).map fun tests record => tests.all (· record) := by
  have hgroup : selectorWithin limits (.all queries) =
      (do return .all (← selectorsWithin limits queries)) := by
    cases queries with
    | nil => exact absurd rfl hne
    | cons query queries => rfl
  rw [selectionWithin, hgroup, ← map_selectorsWithin]
  cases selectorsWithin limits queries with
  | error e => rfl
  | ok selectors =>
    refine congrArg Except.ok (funext fun record => ?_)
    show Selector.allHold record selectors = _
    simp only [Selector.allHold_eq_all, List.all_map, Function.comp_def]

theorem selectionWithin_not :
    selectionWithin limits (.not query) =
      (selectionWithin limits query).map fun test record => !test record := by
  rw [selectionWithin, selectorWithin, selectionWithin]
  cases selectorWithin limits query <;> rfl

theorem selectionWithin_leaf (predicate : Predicate) : selectionWithin limits (.leaf predicate) =
    ((predicate.test.prepare limits).map ValueTest.passes).map fun passes record =>
      (Record.valuesOf predicate.field record).any (passes record) := by
  rw [selectionWithin, selectorWithin]
  cases predicate.test.prepare limits <;> rfl

/-- A predicate whose test can be made ready selects the records of which a value passes it. -/
theorem selection_leaf {predicate : Predicate} {ready : ValueTest}
    (h : predicate.test.prepare .standard = .ok ready) : (leaf predicate).selection =
      .ok fun record => (Record.valuesOf predicate.field record).any (ready.passes record) := by
  have hwithin : (leaf predicate).selection = _ := selectionWithin_leaf predicate
  rw [hwithin, h]
  rfl

end Groups

/-! ### What decides on a selection -/

section Decisive

open Predicate (flaw? passes unlessFlawed)

variable {α β γ : Type} {predicates others : List Predicate} {a : α} {b : β}

theorem unlessFlawed_map {f : α → β} :
    (unlessFlawed limits predicates a).map f = unlessFlawed limits predicates (f a) := by
  unfold unlessFlawed
  cases predicates.findSome? (flaw? limits) <;> rfl

/-- Flaws are looked for from the left. -/
theorem unlessFlawed_append {f : α → β → γ} :
    unlessFlawed limits (predicates ++ others) (f a b) =
      (do return f (← unlessFlawed limits predicates a) (← unlessFlawed limits others b)) := by
  unfold unlessFlawed
  rw [List.findSome?_append]
  cases predicates.findSome? (flaw? limits) with
  | some e => rfl
  | none => cases others.findSome? (flaw? limits) <;> rfl

/-- The truth value of a query for each record, unless one of its predicates is flawed. -/
def verdict (limits : Regex.Limits) (query : Query) : Except Error (Json → Bool) :=
  unlessFlawed limits query.leaves fun record => query.holds (passes limits record)

/-- The verdicts of several queries are those of all their predicates in order. -/
theorem mapM_selectionWithin
    (h : ∀ query ∈ queries, query.selectionWithin limits = query.verdict limits) :
    queries.mapM (selectionWithin limits) = unlessFlawed limits (leavesOf queries)
      (queries.map fun query record => query.holds (passes limits record)) := by
  induction queries with
  | nil => rfl
  | cons query queries ih =>
    rw [List.forall_mem_cons] at h
    rw [List.mapM_cons, h.1, ih h.2, leavesOf, List.map_cons, unlessFlawed_append, verdict]

/-- The first flaw among the predicates of a query decides on its selection, and its truth value
where there is none. -/
theorem selectionWithin_eq (h : query.Filled) :
    query.selectionWithin limits = query.verdict limits := by
  induction h with
  | any hne _ ih =>
    rw [selectionWithin_any hne, mapM_selectionWithin ih, unlessFlawed_map, verdict, leaves]
    refine congrArg _ (funext fun record => ?_)
    rw [holds, anyHolds_eq_any, List.any_map]
    rfl
  | all hne _ ih =>
    rw [selectionWithin_all hne, mapM_selectionWithin ih, unlessFlawed_map, verdict, leaves]
    refine congrArg _ (funext fun record => ?_)
    rw [holds, allHold_eq_all, List.all_map]
    rfl
  | not _ ih =>
    rw [selectionWithin_not, ih, verdict, unlessFlawed_map]
    rfl
  | @leaf predicate =>
    rw [selectionWithin, selectorWithin, verdict, unlessFlawed, leaves, List.findSome?_singleton,
      flaw?]
    cases hready : predicate.test.prepare limits with
    | error e => rfl
    | ok test =>
      refine congrArg Except.ok (funext fun record => ?_)
      rw [holds, passes, hready]
      rfl

end Decisive

/-! ### Selections of composed queries -/

theorem selectionWithin_conjunction (hne : queries ≠ []) (h : ∀ query ∈ queries, Filled query) :
    (conjunction queries).selectionWithin limits =
      (queries.mapM (selectionWithin limits)).map fun tests record => tests.all (· record) := by
  rw [selectionWithin_eq (filled_conjunction hne h), ← selectionWithin_all hne,
    selectionWithin_eq (.all hne h)]
  simp only [verdict, leaves_conjunction, holds_conjunction, leaves, holds]

theorem selectionWithin_disjunction (hne : queries ≠ []) (h : ∀ query ∈ queries, Filled query) :
    (disjunction queries).selectionWithin limits =
      (queries.mapM (selectionWithin limits)).map fun tests record => tests.any (· record) := by
  rw [selectionWithin_eq (filled_disjunction hne h), ← selectionWithin_any hne,
    selectionWithin_eq (.any hne h)]
  simp only [verdict, leaves_disjunction, holds_disjunction, leaves, holds]

theorem selectionWithin_negation (h : query.Filled) :
    (negation query).selectionWithin limits =
      (query.selectionWithin limits).map fun test record => !test record := by
  rw [selectionWithin_eq (filled_negation h), ← selectionWithin_not, selectionWithin_eq (.not h)]
  simp only [verdict, leaves_negation, holds_negation, leaves, holds]

theorem selectionWithin_disjunction_singleton (h : query.Filled) :
    (disjunction [query]).selectionWithin limits = query.selectionWithin limits := by
  obtain ⟨hne, hfilled⟩ := filled_singleton h
  rw [selectionWithin_eq (filled_disjunction hne hfilled), selectionWithin_eq h]
  simp only [verdict, leaves_disjunction, leavesOf_singleton, holds_disjunction,
    anyHolds_singleton]

/-- Normal form changes no selection where no group is empty. A query and its normal form have the
same predicates in order, so that both fail at the same one and with its error, or both select the
same records. A conjunction selects the records that all its queries select, a disjunction those
that one of them selects, and a negation those that its query does not; they fail with the first
error among their queries. -/
theorem selection_normalForm :
    (∀ query : Query, query.Filled → (disjunction [query]).leaves = query.leaves ∧
      (disjunction [query]).selection = query.selection) ∧
    (∀ queries : List Query, queries ≠ [] → (∀ query ∈ queries, query.Filled) →
      (conjunction queries).selection =
        (queries.mapM selection).map (fun tests record => tests.all (· record)) ∧
      (disjunction queries).selection =
        (queries.mapM selection).map (fun tests record => tests.any (· record))) ∧
    ∀ query : Query, query.Filled →
      (negation query).selection = query.selection.map fun test record => !test record := by
  refine ⟨fun query h => ⟨?_, selectionWithin_disjunction_singleton h⟩, fun queries hne h =>
    ⟨selectionWithin_conjunction hne h, selectionWithin_disjunction hne h⟩, fun query h =>
    selectionWithin_negation h⟩
  rw [leaves_disjunction, leavesOf_singleton]

/-- An "any" in an "any", which is all that an "all" holds, and predicates outside of groups: the
second query cannot be made ready, nor can a conjunction with it. -/
theorem selection_normalForm_of_nested_groups :
    let isNull (name : String) : Query := .leaf ⟨.named name, .is .null⟩
    let nested : Query := .any [.all [.any [isNull "a", .any [isNull "b"]]], .not (isNull "c")]
    let refused : Query := .all [.not (isNull "d"), .leaf ⟨.named "e", .is .valid⟩]
    nested.Filled ∧ refused.Filled ∧ disjunction [nested] ≠ nested ∧
      (disjunction [nested]).selection = nested.selection ∧
      (conjunction [nested, refused]).selection = .error (.unsupported .recordValidity) ∧
      ∃ test, nested.selection = .ok test ∧
        (negation nested).selection = .ok fun record => !test record := by
  intro isNull nested refused
  have hnested : nested.Filled := by
    refine .any (List.cons_ne_nil _ _) (List.forall_mem_cons.2 ⟨?_, ?_⟩)
    · have hpair : (Query.any [isNull "a", .any [isNull "b"]]).Filled :=
        .any (List.cons_ne_nil _ _) (List.forall_mem_cons.2 ⟨.leaf, List.forall_mem_singleton.2
          (.any (List.cons_ne_nil _ _) (List.forall_mem_singleton.2 .leaf))⟩)
      exact .all (List.cons_ne_nil _ _) (List.forall_mem_singleton.2 hpair)
    · exact List.forall_mem_singleton.2 (.not .leaf)
  have hrefused : refused.Filled :=
    .all (List.cons_ne_nil _ _)
      (List.forall_mem_cons.2 ⟨.not .leaf, List.forall_mem_singleton.2 .leaf⟩)
  have hboth : ∀ query ∈ [nested, refused], query.Filled :=
    List.forall_mem_cons.2 ⟨hnested, List.forall_mem_singleton.2 hrefused⟩
  obtain ⟨hsingle, hgroups, hnegation⟩ := selection_normalForm
  refine ⟨hnested, hrefused, ?_, (hsingle nested hnested).2, ?_, _, rfl, hnegation nested hnested⟩
  · decide +kernel
  · exact (hgroups _ (List.cons_ne_nil _ _) hboth).1

end Query

end RecordQuery
