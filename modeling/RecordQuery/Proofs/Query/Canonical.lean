import RecordQuery.Query.Normal

/-! Canonical queries. A whole query is an "any" of clauses, a clause an "all" of children, and a
child a predicate, the negation of a whole query, or an "any" of two clauses or more. The composing
functions keep to this form (`canonical_disjunction`) and change nothing that is in it already
(`conjuncts_of_child`, `disjuncts_of_clause`). -/

namespace RecordQuery.Query

/-- The places of a canonical query: the whole, a branch of an "any" and a child of an "all". -/
inductive Place where
  | root
  | clause
  | child

/-- Queries that are canonical at a place, with predicates of one kind only. -/
inductive Canonical (p : Predicate → Prop) : Place → Query → Prop
  | root {branches : List Query} :
      branches ≠ [] → (∀ branch ∈ branches, Canonical p .clause branch) →
      Canonical p .root (.any branches)
  | clause {children : List Query} :
      children ≠ [] → (∀ branches, children ≠ [.any branches]) →
      (∀ child ∈ children, Canonical p .child child) → Canonical p .clause (.all children)
  | leaf {predicate : Predicate} : p predicate → Canonical p .child (.leaf predicate)
  | not {inner : Query} : Canonical p .root inner → Canonical p .child (.not inner)
  | any {first second : Query} {rest : List Query} :
      (∀ branch ∈ first :: second :: rest, Canonical p .clause branch) →
      Canonical p .child (.any (first :: second :: rest))

variable {p : Predicate → Prop} {query : Query} {queries children branches : List Query}

theorem Canonical.imp {p' : Predicate → Prop} {place : Place} (h : Canonical p place query)
    (hp : ∀ predicate, p predicate → p' predicate) : Canonical p' place query := by
  induction h with
  | root hne _ ih => exact .root hne ih
  | clause hne hany _ ih => exact .clause hne hany ih
  | leaf h => exact .leaf (hp _ h)
  | not _ ih => exact .not ih
  | any _ ih => exact .any ih

/-! ### What several queries add to a group -/

theorem conjunctsOf_eq_flatMap : conjunctsOf queries = queries.flatMap conjuncts := by
  induction queries with
  | nil => rfl
  | cons query queries ih => rw [conjunctsOf, ih, List.flatMap_cons]

theorem disjunctsOf_eq_flatMap : disjunctsOf queries = queries.flatMap disjuncts := by
  induction queries with
  | nil => rw [disjunctsOf, List.flatMap_nil]
  | cons query queries ih => rw [disjunctsOf, ih, List.flatMap_cons]

theorem conjunctsOf_singleton (query : Query) : conjunctsOf [query] = conjuncts query := by
  rw [conjunctsOf, conjunctsOf, List.append_nil]

theorem disjunctsOf_singleton (query : Query) : disjunctsOf [query] = disjuncts query := by
  rw [disjunctsOf, disjunctsOf, List.append_nil]

theorem conjunctsOf_append (queries others : List Query) :
    conjunctsOf (queries ++ others) = conjunctsOf queries ++ conjunctsOf others := by
  simp only [conjunctsOf_eq_flatMap, List.flatMap_append]

theorem disjunctsOf_append (queries others : List Query) :
    disjunctsOf (queries ++ others) = disjunctsOf queries ++ disjunctsOf others := by
  simp only [disjunctsOf_eq_flatMap, List.flatMap_append]

/-- Queries that each add something, and all of one kind, do so together. -/
theorem flatMap_of_forall {f : Query → List Query} {kind : Query → Prop} (hne : queries ≠ [])
    (h : ∀ query ∈ queries, f query ≠ [] ∧ ∀ part ∈ f query, kind part) :
    queries.flatMap f ≠ [] ∧ ∀ part ∈ queries.flatMap f, kind part := by
  constructor
  · intro hnil
    rw [List.flatMap_eq_nil_iff] at hnil
    obtain ⟨query, hquery⟩ := List.exists_mem_of_ne_nil queries hne
    exact (h query hquery).1 (hnil query hquery)
  · intro part hpart
    obtain ⟨query, hquery, hpart⟩ := List.mem_flatMap.1 hpart
    exact (h query hquery).2 part hpart

/-! ### Pieces of canonical queries -/

/-- A child adds itself to a conjunction. -/
theorem conjuncts_of_child (h : Canonical p .child query) : conjuncts query = [query] := by
  cases h <;> simp [conjuncts]

theorem conjunctsOf_eq_self (h : ∀ query ∈ queries, conjuncts query = [query]) :
    conjunctsOf queries = queries := by
  induction queries with
  | nil => simp [conjunctsOf]
  | cons query queries ih =>
    rw [List.forall_mem_cons] at h
    rw [conjunctsOf, h.1, ih h.2, List.singleton_append]

theorem disjunctsOf_eq_self (h : ∀ query ∈ queries, disjuncts query = [query]) :
    disjunctsOf queries = queries := by
  induction queries with
  | nil => rw [disjunctsOf]
  | cons query queries ih =>
    rw [List.forall_mem_cons] at h
    rw [disjunctsOf, h.1, ih h.2, List.singleton_append]

theorem conjunctsOf_of_children (h : ∀ child ∈ children, Canonical p .child child) :
    conjunctsOf children = children :=
  conjunctsOf_eq_self fun child hc => conjuncts_of_child (h child hc)

theorem disjuncts_all (hne : ∀ branches, conjunctsOf children ≠ [.any branches]) :
    disjuncts (.all children) = [.all (conjunctsOf children)] := by
  rw [disjuncts]
  split
  · next branches h => exact absurd h (hne branches)
  · rfl

theorem disjuncts_all_any (h : conjunctsOf children = [.any branches]) :
    disjuncts (.all children) = disjunctsOf branches := by
  rw [disjuncts]
  split
  · next others h' =>
    rw [h] at h'
    cases h'
    rfl
  · next hne => exact absurd h (hne branches)

/-- Induction along what a query adds to a disjunction: the branches of an "any", also of one that
is all that an "all" comes to, or a single clause. -/
theorem disjuncts_induction {motive : Query → Prop}
    (any : ∀ branches, (∀ branch ∈ branches, motive branch) → motive (.any branches))
    (spliced : ∀ children branches, conjunctsOf children = [.any branches] →
      (∀ branch ∈ branches, motive branch) → motive (.all children))
    (all : ∀ children, (∀ branches, conjunctsOf children ≠ [.any branches]) →
      motive (.all children))
    (not : ∀ inner, motive (.not inner)) (leaf : ∀ predicate, motive (.leaf predicate))
    (query : Query) : motive query := by
  match query with
  | .any branches =>
    exact any branches fun branch _ => disjuncts_induction any spliced all not leaf branch
  | .all children =>
    by_cases hany : ∃ branches, conjunctsOf children = [.any branches]
    · obtain ⟨branches, hany⟩ := hany
      exact spliced children branches hany fun branch _ =>
        disjuncts_induction any spliced all not leaf branch
    · exact all children fun branches he => hany ⟨branches, he⟩
  | .not inner => exact not inner
  | .leaf predicate => exact leaf predicate
termination_by sizeOf query
decreasing_by
  · have := List.sizeOf_lt_of_mem ‹branch ∈ branches›
    simp only [Query.any.sizeOf_spec]
    omega
  · have hmem : Query.any branches ∈ conjunctsOf children := by simp [hany]
    have := sizeOf_le_of_mem_conjunctsOf hmem
    have := List.sizeOf_lt_of_mem ‹branch ∈ branches›
    simp only [Query.any.sizeOf_spec, Query.all.sizeOf_spec] at *
    omega

/-- A clause adds itself to a disjunction. -/
theorem disjuncts_of_clause (h : Canonical p .clause query) : disjuncts query = [query] := by
  cases h with
  | clause hne hany hchildren =>
    have hself := conjunctsOf_of_children hchildren
    rw [disjuncts_all (by rwa [hself]), hself]

theorem disjunctsOf_of_clauses (h : ∀ branch ∈ branches, Canonical p .clause branch) :
    disjunctsOf branches = branches :=
  disjunctsOf_eq_self fun branch hbranch => disjuncts_of_clause (h branch hbranch)

/-- What composing functions can make canonical queries of: it adds children to a conjunction and
clauses to a disjunction, one at least. -/
structure Piece (p : Predicate → Prop) (query : Query) : Prop where
  conjuncts_ne_nil : conjuncts query ≠ []
  children : ∀ child ∈ conjuncts query, Canonical p .child child
  disjuncts_ne_nil : disjuncts query ≠ []
  clauses : ∀ branch ∈ disjuncts query, Canonical p .clause branch

theorem Piece.of_eq (hc : conjuncts query = children) (hcne : children ≠ [])
    (hchildren : ∀ child ∈ children, Canonical p .child child) (hd : disjuncts query = branches)
    (hdne : branches ≠ []) (hclauses : ∀ branch ∈ branches, Canonical p .clause branch) :
    Piece p query := by
  subst hc hd
  exact ⟨hcne, hchildren, hdne, hclauses⟩

/-- An "all" of children is a piece, also when it only holds an "any". -/
theorem piece_all (hne : children ≠ []) (h : ∀ child ∈ children, Canonical p .child child) :
    Piece p (.all children) := by
  have hself := conjunctsOf_of_children h
  have hconjuncts : conjuncts (.all children) = children := by rw [conjuncts, hself]
  by_cases hany : ∃ branches, children = [.any branches]
  · obtain ⟨branches, rfl⟩ := hany
    cases h (.any branches) (List.mem_singleton_self _) with
    | any hclauses =>
      have hdisjuncts := (disjuncts_all_any hself).trans (disjunctsOf_of_clauses hclauses)
      exact .of_eq hconjuncts hne h hdisjuncts (by simp) hclauses
  · have hany : ∀ branches, children ≠ [.any branches] := fun branches he => hany ⟨branches, he⟩
    have hdisjuncts : disjuncts (.all children) = [.all children] := by
      rw [disjuncts_all (by rwa [hself]), hself]
    exact .of_eq hconjuncts hne h hdisjuncts (by simp) (by simpa using .clause hne hany h)

/-- An "any" of clauses is a piece; one clause adds its children to a conjunction. -/
theorem piece_any (hne : branches ≠ []) (h : ∀ branch ∈ branches, Canonical p .clause branch) :
    Piece p (.any branches) := by
  have hdisjuncts : disjuncts (.any branches) = branches := by
    rw [disjuncts, disjunctsOf_of_clauses h]
  cases branches with
  | nil => exact absurd rfl hne
  | cons first rest =>
    cases rest with
    | nil =>
      have hfirst := h first (List.mem_singleton_self _)
      cases hfirst with
      | clause hcne _ hchildren =>
        refine .of_eq ?_ hcne hchildren hdisjuncts hne h
        rw [conjuncts, conjuncts, conjunctsOf_of_children hchildren]
    | cons second rest =>
      exact .of_eq (conjuncts_of_child (.any h)) (by simp) (by simpa using .any h) hdisjuncts hne h

/-- A child that is no "any" adds one clause to a disjunction, which only holds itself. -/
theorem piece_child (h : Canonical p .child query) (hany : ∀ branches, query ≠ .any branches)
    (hd : disjuncts query = [.all [query]]) : Piece p query :=
  .of_eq (conjuncts_of_child h) (by simp) (by simpa using h) hd (by simp)
    (by simpa using .clause (by simp) (by simpa using hany) (by simpa using h))

/-- A canonical query is a piece at any place. -/
theorem Canonical.piece {place : Place} (h : Canonical p place query) : Piece p query := by
  cases h with
  | root hne hclauses => exact piece_any hne hclauses
  | clause hne _ hchildren => exact piece_all hne hchildren
  | leaf hp => exact piece_child (.leaf hp) (by simp) (by simp [disjuncts])
  | not hinner => exact piece_child (.not hinner) (by simp) (by simp [disjuncts])
  | any hclauses => exact piece_any (by simp) hclauses

theorem children_of_pieces (hne : queries ≠ []) (h : ∀ query ∈ queries, Piece p query) :
    conjunctsOf queries ≠ [] ∧ ∀ child ∈ conjunctsOf queries, Canonical p .child child := by
  rw [conjunctsOf_eq_flatMap]
  exact flatMap_of_forall hne fun query hquery =>
    ⟨(h query hquery).conjuncts_ne_nil, (h query hquery).children⟩

theorem clauses_of_pieces (hne : queries ≠ []) (h : ∀ query ∈ queries, Piece p query) :
    disjunctsOf queries ≠ [] ∧ ∀ branch ∈ disjunctsOf queries, Canonical p .clause branch := by
  rw [disjunctsOf_eq_flatMap]
  exact flatMap_of_forall hne fun query hquery =>
    ⟨(h query hquery).disjuncts_ne_nil, (h query hquery).clauses⟩

theorem piece_conjunction (hne : queries ≠ []) (h : ∀ query ∈ queries, Piece p query) :
    Piece p (conjunction queries) :=
  piece_all (children_of_pieces hne h).1 (children_of_pieces hne h).2

/-- A disjunction of pieces is a canonical query. -/
theorem canonical_disjunction (hne : queries ≠ []) (h : ∀ query ∈ queries, Piece p query) :
    Canonical p .root (disjunction queries) :=
  .root (clauses_of_pieces hne h).1 (clauses_of_pieces hne h).2

/-- A whole query is its own disjunction. -/
theorem disjunction_of_root (h : Canonical p .root query) : disjunction [query] = query := by
  cases h with
  | root _ hclauses =>
    rw [disjunction, disjunctsOf_singleton, disjuncts, disjunctsOf_of_clauses hclauses]

/-- A piece by itself comes to a canonical query. -/
theorem Piece.canonical (h : Piece p query) : Canonical p .root (disjunction [query]) :=
  canonical_disjunction (List.cons_ne_nil _ _) (List.forall_mem_singleton.2 h)

/-- The negation of a piece is a child. -/
theorem canonical_negation (h : Piece p query) : Canonical p .child (negation query) :=
  .not h.canonical

end RecordQuery.Query
