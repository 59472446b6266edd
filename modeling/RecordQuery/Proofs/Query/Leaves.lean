import RecordQuery.Proofs.Query.Canonical

/-! Queries with other queries in place of their predicates. `mapLeaves` puts the result into normal
form again, and leaves a canonical query as it is where no predicate changes
(`mapLeaves_eq_self`). Queries that add the same to a group are `Alike`: no group tells one from the
other. -/

namespace RecordQuery.Query

mutual

/-- The predicates of a query, in order. -/
def leaves : Query → List Predicate
  | .any branches => leavesOf branches
  | .all children => leavesOf children
  | .not inner => leaves inner
  | .leaf predicate => [predicate]
termination_by structural query => query

/-- The predicates of several queries. -/
def leavesOf : List Query → List Predicate
  | [] => []
  | query :: queries => leaves query ++ leavesOf queries
termination_by structural queries => queries

end

mutual

/-- A query with a query in place of each of its predicates, in normal form. -/
def mapLeaves (f : Predicate → Query) : Query → Query
  | .any branches => disjunction (mapLeavesOf f branches)
  | .all children => conjunction (mapLeavesOf f children)
  | .not inner => negation (mapLeaves f inner)
  | .leaf predicate => f predicate
termination_by structural query => query

/-- Several queries with a query in place of each of their predicates. -/
def mapLeavesOf (f : Predicate → Query) : List Query → List Query
  | [] => []
  | query :: queries => mapLeaves f query :: mapLeavesOf f queries
termination_by structural queries => queries

end

variable {p : Predicate → Prop} {f : Predicate → Query} {query other : Query}
  {queries others : List Query}

/-! ### Queries that add the same to a group -/

/-- Two queries add the same to a conjunction and the same to a disjunction. -/
structure Alike (query other : Query) : Prop where
  conjuncts : conjuncts query = conjuncts other
  disjuncts : disjuncts query = disjuncts other

theorem Alike.refl (query : Query) : Alike query query := ⟨rfl, rfl⟩

theorem Alike.disjunction_eq (h : Alike query other) :
    disjunction [query] = disjunction [other] := by
  simp only [disjunction, disjunctsOf, h.disjuncts]

theorem Alike.negation_eq (h : Alike query other) : negation query = negation other := by
  rw [negation, negation, h.disjunction_eq]

theorem disjuncts_all_conjuncts_any {branches : List Query}
    (h : conjuncts (.any branches) = [.any branches]) :
    disjuncts (.all (conjuncts (.any branches))) = disjuncts (.any branches) := by
  have hself : conjunctsOf [.any branches] = [.any branches] := by
    rw [conjunctsOf_singleton, h]
  rw [h, disjuncts_all_any hself, disjuncts]

/-- One query as an "all" adds the same to a disjunction. -/
theorem disjuncts_all_conjuncts : (query : Query) →
    (∀ child ∈ conjuncts query, Canonical p .child child) →
    disjuncts (.all (conjuncts query)) = disjuncts query
  | .all children, h => by
    rw [conjuncts] at h ⊢
    have hself := conjunctsOf_of_children h
    by_cases hany : ∃ branches, conjunctsOf children = [.any branches]
    · obtain ⟨branches, hany⟩ := hany
      rw [disjuncts_all_any hany, disjuncts_all_any (hself.trans hany)]
    · have hany : ∀ branches, conjunctsOf children ≠ [.any branches] :=
        fun branches he => hany ⟨branches, he⟩
      rw [disjuncts_all hany, disjuncts_all (by rwa [hself]), hself]
  | .any [branch], h => by
    rw [conjuncts] at h ⊢
    rw [disjuncts_all_conjuncts branch h]
    simp [disjuncts, disjunctsOf]
  | .any [], _ | .any (_ :: _ :: _), _ => disjuncts_all_conjuncts_any (by simp [conjuncts])
  | .not _, _ | .leaf _, _ => by
    rw [disjuncts_all (by simp [conjuncts, conjunctsOf])]
    simp [disjuncts, conjuncts, conjunctsOf]

/-- One query as an "any" adds the same to a conjunction. -/
theorem conjuncts_any_disjuncts : (query : Query) → Piece p query →
    conjuncts (.any (disjuncts query)) = conjuncts query
  | .all children, h => by
    have hchildren := h.children
    rw [conjuncts] at hchildren ⊢
    have hself := conjunctsOf_of_children hchildren
    by_cases hany : ∃ branches, conjunctsOf children = [.any branches]
    · obtain ⟨branches, hany⟩ := hany
      rw [hany] at hchildren ⊢
      cases hchildren (.any branches) (List.mem_singleton_self _) with
      | any hclauses =>
        rw [disjuncts_all_any hany, disjunctsOf_of_clauses hclauses]
        exact conjuncts_of_child (.any hclauses)
    · rw [disjuncts_all fun branches he => hany ⟨branches, he⟩, conjuncts, conjuncts, hself]
  | .any [branch], h => by
    have hconjuncts : conjuncts (.any [branch]) = conjuncts branch := by rw [conjuncts]
    have hdisjuncts : disjuncts (.any [branch]) = disjuncts branch := by
      simp [disjuncts, disjunctsOf]
    have hbranch : Piece p branch := by
      rw [← hconjuncts] at *
      exact ⟨hconjuncts ▸ h.conjuncts_ne_nil, hconjuncts ▸ h.children,
        hdisjuncts ▸ h.disjuncts_ne_nil, hdisjuncts ▸ h.clauses⟩
    rw [hdisjuncts, hconjuncts, conjuncts_any_disjuncts branch hbranch]
  | .any [], h => absurd (by simp [disjuncts, disjunctsOf]) h.disjuncts_ne_nil
  | .any (first :: second :: rest), h => by
    have hself : conjuncts (.any (first :: second :: rest)) =
      [.any (first :: second :: rest)] := by simp [conjuncts]
    have hchild := h.children
    rw [hself, List.forall_mem_singleton] at hchild
    cases hchild with
    | any hclauses => rw [disjuncts, disjunctsOf_of_clauses hclauses]
  | .not _, _ | .leaf _, _ => by simp [disjuncts, conjuncts, conjunctsOf]

theorem Piece.alike_conjunction (h : Piece p query) : Alike query (conjunction [query]) := by
  have hone : conjunction [query] = .all (conjuncts query) := by
    rw [conjunction, conjunctsOf_singleton]
  rw [hone]
  refine ⟨?_, (disjuncts_all_conjuncts query h.children).symm⟩
  conv => rhs; rw [conjuncts, conjunctsOf_of_children h.children]

theorem Piece.alike_disjunction (h : Piece p query) : Alike query (disjunction [query]) := by
  have hone : disjunction [query] = .any (disjuncts query) := by
    rw [disjunction, disjunctsOf_singleton]
  rw [hone]
  refine ⟨(conjuncts_any_disjuncts query h).symm, ?_⟩
  conv => rhs; rw [disjuncts, disjunctsOf_of_clauses h.clauses]

/-! ### Composing functions keep the predicates in order -/

@[simp] theorem leavesOf_append :
    leavesOf (queries ++ others) = leavesOf queries ++ leavesOf others := by
  induction queries with
  | nil => rfl
  | cons query queries ih => rw [List.cons_append, leavesOf, leavesOf, ih, List.append_assoc]

@[simp] theorem leavesOf_singleton : leavesOf [query] = leaves query :=
  List.append_nil _

mutual

/-- What a query adds to a conjunction has its predicates, in the same order. -/
theorem leavesOf_conjuncts : (query : Query) → leavesOf (conjuncts query) = leaves query
  | .all children => by rw [conjuncts, leaves, leavesOf_conjunctsOf children]
  | .any [branch] => by rw [conjuncts, leaves, leavesOf_singleton, leavesOf_conjuncts branch]
  | .any [] | .any (_ :: _ :: _) | .not _ | .leaf _ => by simp [conjuncts]

theorem leavesOf_conjunctsOf : (queries : List Query) →
    leavesOf (conjunctsOf queries) = leavesOf queries
  | [] => rfl
  | query :: queries => by
    rw [conjunctsOf, leavesOf_append, leavesOf_conjuncts query, leavesOf_conjunctsOf queries,
      leavesOf]

end

theorem leavesOf_disjunctsOf_of_forall
    (h : ∀ query ∈ queries, leavesOf (disjuncts query) = leaves query) :
    leavesOf (disjunctsOf queries) = leavesOf queries := by
  induction queries with
  | nil => rw [disjunctsOf]
  | cons query queries ih =>
    rw [List.forall_mem_cons] at h
    rw [disjunctsOf, leavesOf_append, h.1, ih h.2, leavesOf]

/-- What a query adds to a disjunction has its predicates, in the same order. -/
theorem leavesOf_disjuncts (query : Query) : leavesOf (disjuncts query) = leaves query := by
  induction query using disjuncts_induction with
  | any branches ih =>
    rw [disjuncts, leaves]
    exact leavesOf_disjunctsOf_of_forall ih
  | spliced children branches hany ih =>
    rw [disjuncts_all_any hany, leavesOf_disjunctsOf_of_forall ih, leaves,
      ← leavesOf_conjunctsOf children, hany, leavesOf_singleton, leaves]
  | all children hany =>
    rw [disjuncts_all hany, leavesOf_singleton, leaves, leaves, leavesOf_conjunctsOf]
  | not _ | leaf _ => simp [disjuncts, leaves]

@[simp] theorem leaves_conjunction (queries : List Query) :
    leaves (conjunction queries) = leavesOf queries := by
  rw [conjunction, leaves, leavesOf_conjunctsOf]

@[simp] theorem leaves_disjunction (queries : List Query) :
    leaves (disjunction queries) = leavesOf queries := by
  rw [disjunction, leaves]
  exact leavesOf_disjunctsOf_of_forall fun query _ => leavesOf_disjuncts query

@[simp] theorem leaves_negation (query : Query) : leaves (negation query) = leaves query := by
  rw [negation, leaves, leaves_disjunction, leavesOf_singleton]

/-! ### The predicates of canonical queries -/

theorem mem_leavesOf {predicate : Predicate} :
    predicate ∈ leavesOf queries ↔ ∃ query ∈ queries, predicate ∈ leaves query := by
  induction queries with
  | nil => simp [leavesOf]
  | cons query queries ih => simp [leavesOf, ih]

theorem Canonical.of_mem_leaves {place : Place} (h : Canonical p place query) :
    ∀ leaf ∈ leaves query, p leaf := by
  induction h with
  | root _ _ ih | any _ ih | clause _ _ _ ih =>
    intro leaf hleaf
    rw [leaves] at hleaf
    obtain ⟨part, hpart, hleaf⟩ := mem_leavesOf.1 hleaf
    exact ih part hpart leaf hleaf
  | leaf hp => exact fun leaf hleaf => List.mem_singleton.1 hleaf ▸ hp
  | not _ ih => exact ih

/-- A canonical query stays canonical if only its own predicates are looked at. -/
theorem Canonical.of_leaves {p' : Predicate → Prop} {place : Place} (h : Canonical p place query)
    (hp : ∀ leaf ∈ leaves query, p leaf → p' leaf) : Canonical p' place query := by
  induction h with
  | root hne _ ih =>
    refine .root hne fun branch hbranch => ih branch hbranch fun leaf hleaf => ?_
    exact hp leaf (mem_leavesOf.2 ⟨branch, hbranch, hleaf⟩)
  | clause hne hany _ ih =>
    refine .clause hne hany fun child hchild => ih child hchild fun leaf hleaf => ?_
    exact hp leaf (mem_leavesOf.2 ⟨child, hchild, hleaf⟩)
  | leaf h => exact .leaf (hp _ (List.mem_singleton_self _) h)
  | not _ ih => exact .not (ih hp)
  | any _ ih =>
    refine .any fun branch hbranch => ih branch hbranch fun leaf hleaf => ?_
    exact hp leaf (mem_leavesOf.2 ⟨branch, hbranch, hleaf⟩)

/-! ### Mapped queries -/

theorem mapLeavesOf_eq_map : mapLeavesOf f queries = queries.map (mapLeaves f) := by
  induction queries with
  | nil => rfl
  | cons query queries ih => rw [mapLeavesOf, ih, List.map_cons]

theorem mapLeavesOf_eq_self
    (h : ∀ query ∈ queries, (∀ leaf ∈ leaves query, f leaf = .leaf leaf) →
      mapLeaves f query = query)
    (hf : ∀ leaf ∈ leavesOf queries, f leaf = .leaf leaf) : mapLeavesOf f queries = queries := by
  rw [mapLeavesOf_eq_map]
  refine (List.map_congr_left fun query hq => ?_).trans (List.map_id queries)
  exact h query hq fun leaf hleaf => hf leaf (mem_leavesOf.2 ⟨query, hq, hleaf⟩)

/-- A canonical query whose predicates do not change is the same query. -/
theorem mapLeaves_eq_self {place : Place} (h : Canonical p place query)
    (hf : ∀ leaf ∈ leaves query, f leaf = .leaf leaf) : mapLeaves f query = query := by
  induction h with
  | root _ hclauses ih =>
    rw [leaves] at hf
    rw [mapLeaves, mapLeavesOf_eq_self ih hf, disjunction, disjunctsOf_of_clauses hclauses]
  | clause _ _ hchildren ih =>
    rw [leaves] at hf
    rw [mapLeaves, mapLeavesOf_eq_self ih hf, conjunction, conjunctsOf_of_children hchildren]
  | leaf _ => exact hf _ (List.mem_singleton_self _)
  | not hinner ih =>
    rw [leaves] at hf
    rw [mapLeaves, ih hf, negation, disjunction_of_root hinner]
  | any hclauses ih =>
    rw [leaves] at hf
    rw [mapLeaves, mapLeavesOf_eq_self ih hf, disjunction, disjunctsOf_of_clauses hclauses]

end RecordQuery.Query
