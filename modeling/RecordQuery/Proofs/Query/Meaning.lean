import RecordQuery.Proofs.Query.Canonical

/-! The truth value of a query, given those of its predicates. Putting a query into normal form
does not change it: what a query adds to a conjunction holds together where the query holds, and
what it adds to a disjunction holds somewhere where the query holds. -/

namespace RecordQuery.Query

mutual

/-- The truth value of a query, given those of its predicates. -/
def holds (value : Predicate → Bool) : Query → Bool
  | .any branches => anyHolds value branches
  | .all children => allHold value children
  | .not inner => !holds value inner
  | .leaf predicate => value predicate
termination_by structural query => query

/-- Whether one of several queries holds. -/
def anyHolds (value : Predicate → Bool) : List Query → Bool
  | [] => false
  | query :: queries => holds value query || anyHolds value queries
termination_by structural queries => queries

/-- Whether several queries all hold. -/
def allHold (value : Predicate → Bool) : List Query → Bool
  | [] => true
  | query :: queries => holds value query && allHold value queries
termination_by structural queries => queries

end

variable {value : Predicate → Bool} {query : Query} {queries others : List Query}

theorem anyHolds_eq_any : anyHolds value queries = queries.any (holds value) := by
  induction queries with
  | nil => rfl
  | cons query queries ih => rw [anyHolds, ih, List.any_cons]

theorem allHold_eq_all : allHold value queries = queries.all (holds value) := by
  induction queries with
  | nil => rfl
  | cons query queries ih => rw [allHold, ih, List.all_cons]

@[simp] theorem anyHolds_append :
    anyHolds value (queries ++ others) = (anyHolds value queries || anyHolds value others) := by
  simp only [anyHolds_eq_any, List.any_append]

@[simp] theorem allHold_append :
    allHold value (queries ++ others) = (allHold value queries && allHold value others) := by
  simp only [allHold_eq_all, List.all_append]

@[simp] theorem anyHolds_singleton : anyHolds value [query] = holds value query :=
  Bool.or_false _

@[simp] theorem allHold_singleton : allHold value [query] = holds value query :=
  Bool.and_true _

mutual

/-- What a query adds to a conjunction holds together exactly where the query holds. -/
theorem allHold_conjuncts : (query : Query) → allHold value (conjuncts query) = holds value query
  | .all children => by rw [conjuncts, holds, allHold_conjunctsOf children]
  | .any [branch] => by rw [conjuncts, holds, anyHolds_singleton, allHold_conjuncts branch]
  | .any [] | .any (_ :: _ :: _) | .not _ | .leaf _ => by simp [conjuncts]

theorem allHold_conjunctsOf : (queries : List Query) →
    allHold value (conjunctsOf queries) = allHold value queries
  | [] => rfl
  | query :: queries => by
    rw [conjunctsOf, allHold_append, allHold_conjuncts query, allHold_conjunctsOf queries, allHold]

end

theorem anyHolds_disjunctsOf_of_forall
    (h : ∀ query ∈ queries, anyHolds value (disjuncts query) = holds value query) :
    anyHolds value (disjunctsOf queries) = anyHolds value queries := by
  induction queries with
  | nil => rw [disjunctsOf]
  | cons query queries ih =>
    rw [List.forall_mem_cons] at h
    rw [disjunctsOf, anyHolds_append, h.1, ih h.2, anyHolds]

/-- What a query adds to a disjunction holds somewhere exactly where the query holds. -/
theorem anyHolds_disjuncts (query : Query) :
    anyHolds value (disjuncts query) = holds value query := by
  induction query using disjuncts_induction with
  | any branches ih =>
    rw [disjuncts, holds]
    exact anyHolds_disjunctsOf_of_forall ih
  | spliced children branches hany ih =>
    rw [disjuncts_all_any hany, anyHolds_disjunctsOf_of_forall ih, holds, ← allHold_conjunctsOf,
      hany, allHold_singleton, holds]
  | all children hany =>
    rw [disjuncts_all hany, anyHolds_singleton, holds, holds, allHold_conjunctsOf]
  | not _ | leaf _ => simp [disjuncts, holds]

/-- A conjunction holds where all its queries hold. -/
@[simp] theorem holds_conjunction (queries : List Query) :
    holds value (conjunction queries) = allHold value queries := by
  rw [conjunction, holds, allHold_conjunctsOf]

/-- A disjunction holds where one of its queries holds. -/
@[simp] theorem holds_disjunction (queries : List Query) :
    holds value (disjunction queries) = anyHolds value queries := by
  rw [disjunction, holds]
  exact anyHolds_disjunctsOf_of_forall fun query _ => anyHolds_disjuncts query

/-- A negation holds where its query does not. -/
@[simp] theorem holds_negation (query : Query) :
    holds value (negation query) = !holds value query := by
  rw [negation, holds, holds_disjunction, anyHolds_singleton]

end RecordQuery.Query
