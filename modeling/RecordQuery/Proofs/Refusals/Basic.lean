import Mathlib.Tactic.ByContra
import RecordQuery.Proofs.Selection
import RecordQuery.Query.Printer

/-! Readings of queries that may fail. A reading that fails only where a predicate does has the
error of the first predicate that is refused (`FailsByLeaf.first_refusal`), so what is left is to
say which predicates are refused, and with which errors (`Judges`). -/

namespace RecordQuery

/-- The error of a result, if it is one. -/
def errorOf? {α : Type} : Except Error α → Option Error
  | .error e => some e
  | .ok _ => none

section Results

variable {α β : Type} {x : Except Error α} {e : Error}

theorem errorOf?_eq_none : errorOf? x = none ↔ ∃ a, x = .ok a := by
  cases x with
  | error e => exact ⟨nofun, nofun⟩
  | ok a => exact iff_of_true rfl ⟨a, rfl⟩

theorem errorOf?_eq_some : errorOf? x = some e ↔ x = .error e := by
  cases x with
  | error e => simp [errorOf?]
  | ok a => exact ⟨nofun, nofun⟩

/-- A list is walked from the left, up to the first error. -/
theorem errorOf?_mapM (f : β → Except Error α) (list : List β) :
    errorOf? (list.mapM f) = list.findSome? fun b => errorOf? (f b) := by
  induction list with
  | nil => rfl
  | cons b list ih =>
    rw [List.mapM_cons, List.findSome?_cons, ← ih]
    cases f b with
    | error e => rfl
    | ok a => cases list.mapM f <;> rfl

/-- A group that is refused only if it is empty adds no errors to those of its parts. -/
theorem errorOf?_mapM_bind {f : β → Except Error α} {group : List α → Except Error α}
    {list : List β} (hgroup : ∀ first rest, ∃ a, group (first :: rest) = .ok a) (hne : list ≠ []) :
    errorOf? (list.mapM f >>= group) = list.findSome? fun b => errorOf? (f b) := by
  rw [← errorOf?_mapM]
  cases list with
  | nil => exact absurd rfl hne
  | cons b list =>
    rw [List.mapM_cons]
    cases f b with
    | error e => rfl
    | ok first =>
      cases list.mapM f with
      | error e => rfl
      | ok rest =>
        obtain ⟨a, ha⟩ := hgroup first rest
        exact errorOf?_eq_none.2 ⟨a, ha⟩

end Results

/-! ### The first predicate that is refused -/

namespace Query

/-- A reading of queries that fails only where a predicate does: a negation fails as what it
negates, and a group that is not empty as the first of its parts that fails. -/
structure FailsByLeaf {α : Type} (run : Query → Except Error α)
    (leaf : Predicate → Except Error α) : Prop where
  leaf predicate : run (.leaf predicate) = leaf predicate
  not inner : errorOf? (run (.not inner)) = errorOf? (run inner)
  any {branches : List Query} : branches ≠ [] →
    errorOf? (run (.any branches)) = branches.findSome? fun branch => errorOf? (run branch)
  all {children : List Query} : children ≠ [] →
    errorOf? (run (.all children)) = children.findSome? fun child => errorOf? (run child)

/-- What a reading of predicates accepts, and with which errors it refuses the others. -/
structure Judges {α : Type} (leaf : Predicate → Except Error α) (accepts : Predicate → Prop)
    (refuses : Predicate → Error → Prop) (predicate : Predicate) : Prop where
  accepted : accepts predicate → ∃ a, leaf predicate = .ok a
  refused {e : Error} : refuses predicate e → leaf predicate = .error e
  exists_refusal : ¬ accepts predicate → ∃ e, refuses predicate e

section Leaves

variable {α : Type} {run : Query → Except Error α} {leaf : Predicate → Except Error α}
  {accepts : Predicate → Prop} {refuses : Predicate → Error → Prop} {predicate : Predicate}
  {query : Query} {queries : List Query}

theorem findSome?_leavesOf {f : Query → Option Error} {g : Predicate → Option Error}
    (h : ∀ query ∈ queries, f query = query.leaves.findSome? g) :
    queries.findSome? f = (leavesOf queries).findSome? g := by
  induction queries with
  | nil => rfl
  | cons query queries ih =>
    rw [List.forall_mem_cons] at h
    rw [List.findSome?_cons, h.1, ih h.2, leavesOf, List.findSome?_append]
    cases query.leaves.findSome? g <;> rfl

theorem FailsByLeaf.errorOf?_eq (hrun : FailsByLeaf run leaf) (h : query.Filled) :
    errorOf? (run query) = query.leaves.findSome? fun predicate => errorOf? (leaf predicate) := by
  induction h with
  | any hne _ ih => rw [hrun.any hne, findSome?_leavesOf ih, leaves]
  | all hne _ ih => rw [hrun.all hne, findSome?_leavesOf ih, leaves]
  | not _ ih => rw [hrun.not, ih, leaves]
  | leaf => rw [hrun.leaf, leaves, List.findSome?_singleton]

theorem Judges.errorOf?_eq_none_iff (h : Judges leaf accepts refuses predicate) :
    errorOf? (leaf predicate) = none ↔ accepts predicate := by
  refine ⟨fun hnone => ?_, fun haccepts => errorOf?_eq_none.2 (h.accepted haccepts)⟩
  by_contra haccepts
  obtain ⟨e, he⟩ := h.exists_refusal haccepts
  rw [h.refused he] at hnone
  cases hnone

theorem Judges.errorOf?_eq_some_iff (h : Judges leaf accepts refuses predicate) {e : Error} :
    errorOf? (leaf predicate) = some e ↔ refuses predicate e := by
  refine ⟨fun hsome => ?_, fun hrefuses => errorOf?_eq_some.2 (h.refused hrefuses)⟩
  have haccepts : ¬ accepts predicate := fun haccepts => by
    rw [h.errorOf?_eq_none_iff.2 haccepts] at hsome
    cases hsome
  obtain ⟨other, hother⟩ := h.exists_refusal haccepts
  rw [h.refused hother] at hsome
  cases hsome
  exact hother

/-- A reading succeeds if it accepts all predicates of a query, and fails with the error of the
first one that it refuses. -/
theorem FailsByLeaf.first_refusal (hrun : FailsByLeaf run leaf) (h : query.Filled)
    (hjudges : ∀ predicate ∈ query.leaves, Judges leaf accepts refuses predicate) :
    ((∃ a, run query = .ok a) ↔ ∀ predicate ∈ query.leaves, accepts predicate) ∧
    ∀ e, run query = .error e ↔ ∃ before predicate after,
      query.leaves = before ++ predicate :: after ∧ (∀ earlier ∈ before, accepts earlier) ∧
        refuses predicate e := by
  constructor
  · rw [← errorOf?_eq_none, hrun.errorOf?_eq h, List.findSome?_eq_none_iff]
    exact forall₂_congr fun predicate hmem => (hjudges predicate hmem).errorOf?_eq_none_iff
  · intro e
    rw [← errorOf?_eq_some, hrun.errorOf?_eq h, List.findSome?_eq_some_iff]
    constructor
    · rintro ⟨before, predicate, after, hleaves, hsome, hnone⟩
      rw [hleaves] at hjudges
      refine ⟨before, predicate, after, hleaves, fun earlier hmem => ?_, ?_⟩
      · exact (hjudges earlier (List.mem_append_left _ hmem)).errorOf?_eq_none_iff.1
          (hnone earlier hmem)
      · exact (hjudges predicate (by simp)).errorOf?_eq_some_iff.1 hsome
    · rintro ⟨before, predicate, after, hleaves, haccepts, hrefuses⟩
      rw [hleaves] at hjudges
      refine ⟨before, predicate, after, hleaves, ?_, fun earlier hmem => ?_⟩
      · exact (hjudges predicate (by simp)).errorOf?_eq_some_iff.2 hrefuses
      · exact (hjudges earlier (List.mem_append_left _ hmem)).errorOf?_eq_none_iff.2
          (haccepts earlier hmem)

end Leaves

end Query

/-- The word by which errors name a test. -/
def Test.word : Test → String
  | .compare operator _ => operator.querySymbol
  | .between _ => "between"
  | .oneOf _ => "in"
  | .contains _ _ => "contains"
  | .matching _ => "~"
  | .complies kind _ => kind.render
  | .is check => check.render

end RecordQuery
