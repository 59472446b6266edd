import RecordQuery.Proofs.Query.Leaves

/-! Groups within groups. What a query adds to a group adds itself and nothing else to another
(`conjuncts_of_mem_conjuncts`, `isClause_of_mem_disjuncts`). So a query is put into normal form once
and for all (`disjunction_disjunction`), and a group of whole queries within a group of its kind
adds what its members would add (`conjuncts_allOf`). -/

namespace RecordQuery.Query

variable {query branch : Query} {queries branches : List Query}

/-! ### What is added once more -/

mutual

/-- What a query adds to a conjunction adds only itself to another. -/
theorem conjuncts_of_mem_conjuncts : ∀ {query part : Query}, part ∈ conjuncts query →
    conjuncts part = [part]
  | .all children, part, h => by
    rw [conjuncts] at h
    exact conjuncts_of_mem_conjunctsOf h
  | .any [branch], part, h => by
    rw [conjuncts] at h
    exact conjuncts_of_mem_conjuncts h
  | .any [], part, h | .any (_ :: _ :: _), part, h | .not _, part, h | .leaf _, part, h => by
    simp only [conjuncts, List.mem_singleton] at h
    subst h
    simp only [conjuncts]

theorem conjuncts_of_mem_conjunctsOf : ∀ {queries : List Query} {part : Query},
    part ∈ conjunctsOf queries → conjuncts part = [part]
  | [], part, h => by simp [conjunctsOf] at h
  | query :: queries, part, h => by
    rw [conjunctsOf, List.mem_append] at h
    exact h.elim conjuncts_of_mem_conjuncts conjuncts_of_mem_conjunctsOf

end

theorem conjunctsOf_conjunctsOf (queries : List Query) :
    conjunctsOf (conjunctsOf queries) = conjunctsOf queries :=
  conjunctsOf_eq_self fun _ => conjuncts_of_mem_conjunctsOf

/-- An "all" as a query in normal form has it for a branch: its parts add only themselves to a
conjunction, and are not one "any" alone. -/
inductive IsClause : Query → Prop
  | all {parts : List Query} : conjunctsOf parts = parts → (∀ branches, parts ≠ [.any branches]) →
      IsClause (.all parts)

/-- A query by itself in an "all", unless it is an "any". -/
theorem IsClause.alone (h : conjuncts query = [query]) (hany : ∀ branches, query ≠ .any branches) :
    IsClause (.all [query]) :=
  .all (by rw [conjunctsOf_singleton, h]) (by simpa using hany)

theorem IsClause.disjuncts_eq (h : IsClause branch) : disjuncts branch = [branch] := by
  cases h with
  | all hparts hany => rw [disjuncts_all (by rwa [hparts]), hparts]

theorem disjunctsOf_of_isClause (h : ∀ branch ∈ branches, IsClause branch) :
    disjunctsOf branches = branches :=
  disjunctsOf_eq_self fun branch hbranch => (h branch hbranch).disjuncts_eq

theorem isClause_of_forall (h : ∀ query ∈ queries, ∀ branch ∈ disjuncts query, IsClause branch) :
    ∀ branch ∈ disjunctsOf queries, IsClause branch := by
  intro branch hbranch
  rw [disjunctsOf_eq_flatMap, List.mem_flatMap] at hbranch
  obtain ⟨query, hquery, hbranch⟩ := hbranch
  exact h query hquery branch hbranch

/-- What a query adds to a disjunction is clauses. -/
theorem isClause_of_mem_disjuncts (query : Query) :
    ∀ branch ∈ disjuncts query, IsClause branch := by
  induction query using disjuncts_induction with
  | any branches ih =>
    rw [disjuncts]
    exact isClause_of_forall ih
  | spliced children branches hchildren ih =>
    rw [disjuncts_all_any hchildren]
    exact isClause_of_forall ih
  | all children hany =>
    rw [disjuncts_all hany, List.forall_mem_singleton]
    exact .all (conjunctsOf_conjunctsOf children) hany
  | not inner =>
    have halone : IsClause (.all [.not inner]) := .alone (by simp only [conjuncts]) (by simp)
    simpa [disjuncts] using halone
  | leaf predicate =>
    have halone : IsClause (.all [.leaf predicate]) := .alone (by simp only [conjuncts]) (by simp)
    simpa [disjuncts] using halone

theorem isClause_of_mem_disjunctsOf (queries : List Query) :
    ∀ branch ∈ disjunctsOf queries, IsClause branch :=
  isClause_of_forall fun query _ => isClause_of_mem_disjuncts query

theorem disjunctsOf_disjunctsOf (queries : List Query) :
    disjunctsOf (disjunctsOf queries) = disjunctsOf queries :=
  disjunctsOf_of_isClause (isClause_of_mem_disjunctsOf queries)

/-! ### Queries in normal form -/

/-- A query in normal form: an "any" of clauses, or of nothing. -/
inductive IsNormal : Query → Prop
  | any {branches : List Query} : (∀ branch ∈ branches, IsClause branch) → IsNormal (.any branches)

theorem isNormal_disjunction (queries : List Query) : IsNormal (disjunction queries) :=
  .any (isClause_of_mem_disjunctsOf queries)

/-- A query in normal form is its own disjunction. -/
theorem IsNormal.disjunction_eq (h : IsNormal query) : disjunction [query] = query := by
  cases h with
  | any hclauses =>
    rw [disjunction, disjunctsOf_singleton, disjuncts, disjunctsOf_of_isClause hclauses]

/-- A query is put into normal form once and for all. -/
theorem disjunction_disjunction (queries : List Query) :
    disjunction [disjunction queries] = disjunction queries :=
  (isNormal_disjunction queries).disjunction_eq

/-- A query in normal form adds to a conjunction the parts of its only clause, or itself. -/
theorem IsNormal.conjuncts_cases (h : IsNormal query) :
    (∃ parts, query = .any [.all parts] ∧ IsClause (.all parts) ∧ conjuncts query = parts) ∨
      conjuncts query = [query] := by
  cases h with
  | @any clauses hclauses =>
    cases clauses with
    | nil => exact .inr (by simp only [conjuncts])
    | cons clause rest =>
      cases rest with
      | nil =>
        have hclause := hclauses clause (List.mem_singleton_self _)
        cases hclause with
        | @all parts hparts hany =>
          exact .inl ⟨parts, rfl, .all hparts hany, by rw [conjuncts, conjuncts, hparts]⟩
      | cons second rest => exact .inr (by simp only [conjuncts])

/-- A query in normal form that adds a single "any" to a conjunction is that "any". -/
theorem IsNormal.eq_of_conjuncts (h : IsNormal query) (hany : conjuncts query = [.any branches]) :
    query = .any branches := by
  rcases h.conjuncts_cases with ⟨parts, -, hclause, hparts⟩ | hself
  · cases hclause with
    | all _ hlone => exact absurd (hparts.symm.trans hany) (hlone branches)
  · exact List.singleton_inj.1 (hself.symm.trans hany)

/-- So it is with several of them, only one of which adds anything. -/
theorem isNormal_of_conjunctsOf (h : ∀ query ∈ queries, IsNormal query)
    (hany : conjunctsOf queries = [.any branches]) : IsNormal (.any branches) := by
  induction queries with
  | nil => simp [conjunctsOf] at hany
  | cons query queries ih =>
    rw [List.forall_mem_cons] at h
    rw [conjunctsOf, List.append_eq_singleton_iff] at hany
    rcases hany with ⟨-, hrest⟩ | ⟨hfirst, -⟩
    · exact ih h.2 hrest
    · exact h.1.eq_of_conjuncts hfirst ▸ h.1

/-! ### Groups of queries in normal form -/

/-- An "all" of queries in normal form adds to a conjunction what they add. -/
theorem conjuncts_allOf (h : ∀ query ∈ queries, IsNormal query) :
    conjuncts (allOf queries) = conjunctsOf queries := by
  have hself := conjunctsOf_conjunctsOf queries
  rw [allOf, disjunction, disjunctsOf_singleton, conjunction]
  by_cases hany : ∃ branches, conjunctsOf queries = [.any branches]
  · obtain ⟨branches, hany⟩ := hany
    obtain ⟨hclauses⟩ := isNormal_of_conjunctsOf h hany
    have hlone : conjuncts (.any branches) = [.any branches] :=
      conjuncts_of_mem_conjunctsOf (hany ▸ List.mem_singleton_self _)
    rw [disjuncts_all_any (hself.trans hany), disjunctsOf_of_isClause hclauses, hlone, hany]
  · have hany : ∀ branches, conjunctsOf queries ≠ [.any branches] :=
      fun branches he => hany ⟨branches, he⟩
    rw [disjuncts_all (by rwa [hself]), hself, conjuncts, conjuncts, hself]

/-- An "any" of queries of any shape adds to a disjunction what they add. -/
theorem disjuncts_anyOf (queries : List Query) :
    disjuncts (anyOf queries) = disjunctsOf queries := by
  rw [anyOf, disjunction, disjuncts, disjunctsOf_disjunctsOf]

/-- The "all" of one query in normal form is that query. -/
theorem IsNormal.allOf_eq (h : IsNormal query) : allOf [query] = query := by
  rw [allOf, disjunction, disjunctsOf_singleton, conjunction, conjunctsOf_singleton]
  rcases h.conjuncts_cases with ⟨parts, rfl, hclause, hparts⟩ | hself
  · rw [hparts, hclause.disjuncts_eq]
  · cases h with
    | any hclauses =>
      rw [disjuncts_all_conjuncts_any hself, disjuncts, disjunctsOf_of_isClause hclauses]

/-! ### Whole queries -/

/-- Whole queries: canonical ones, as those that are parsed are, and what the building functions
make of queries of any shape, or of none. -/
inductive Whole : Query → Prop
  | canonical {p : Predicate → Prop} {query : Query} : Canonical p .root query → Whole query
  | ofTest (field : Field) (test : Test) : Whole (ofTest field test)
  | allOf (queries : List Query) : Whole (allOf queries)
  | anyOf (queries : List Query) : Whole (anyOf queries)
  | negated (query : Query) : Whole (negated query)

theorem Whole.isNormal (h : Whole query) : IsNormal query := by
  cases h with
  | canonical h => exact disjunction_of_root h ▸ isNormal_disjunction [query]
  | ofTest | allOf | anyOf | negated => exact isNormal_disjunction _

/-- Grouping does not matter. An "all" of whole queries among the members of another can give way to
its own members, and so can an "any" of any queries in an "any"; the group of one whole query is
that query; and what has been put into normal form stays as it is. -/
theorem allOf_anyOf_regrouped :
    (∀ before queries after : List Query, (∀ query ∈ queries, query.Whole) →
      allOf (before ++ [allOf queries] ++ after) = allOf (before ++ queries ++ after)) ∧
    (∀ before queries after : List Query,
      anyOf (before ++ [anyOf queries] ++ after) = anyOf (before ++ queries ++ after)) ∧
    (∀ query : Query, query.Whole → allOf [query] = query ∧ anyOf [query] = query) ∧
    ∀ query : Query, disjunction [disjunction [query]] = disjunction [query] := by
  refine ⟨fun before queries after h => ?_, fun before queries after => ?_, fun query h => ?_,
    fun query => disjunction_disjunction [query]⟩
  · have hgroup : conjuncts (allOf queries) = conjunctsOf queries :=
      conjuncts_allOf fun query hquery => (h query hquery).isNormal
    have hsame : conjunctsOf (before ++ [allOf queries] ++ after) =
        conjunctsOf (before ++ queries ++ after) := by
      simp only [conjunctsOf_append, conjunctsOf_singleton, hgroup]
    exact congrArg (fun parts => disjunction [.all parts]) hsame
  · have hsame : disjunctsOf (before ++ [anyOf queries] ++ after) =
        disjunctsOf (before ++ queries ++ after) := by
      simp only [disjunctsOf_append, disjunctsOf_singleton, disjuncts_anyOf]
    exact congrArg Query.any hsame
  · exact ⟨h.isNormal.allOf_eq, h.isNormal.disjunction_eq⟩

/-- An "any" and a negation in an "all" in another "all", and the "any" by itself. -/
theorem allOf_anyOf_regrouped_of_nested_groups :
    let isNull (name : String) : Query := .ofTest (.named name) (.is .null)
    let either := anyOf [isNull "a", isNull "b"]
    let lacking := negated (isNull "c")
    let clause (name : String) : Query := .all [.leaf ⟨.named name, .is .null⟩]
    (∀ query ∈ [either, lacking], query.Whole) ∧
      allOf ([isNull "d"] ++ [allOf [either, lacking]] ++ [isNull "e"]) =
        allOf ([isNull "d"] ++ [either, lacking] ++ [isNull "e"]) ∧
      allOf [either] = either ∧ either = .any [clause "a", clause "b"] := by
  intro isNull either lacking clause
  obtain ⟨hall, -, hself, -⟩ := allOf_anyOf_regrouped
  have hwhole : ∀ query ∈ [either, lacking], query.Whole :=
    List.forall_mem_cons.2 ⟨.anyOf _, List.forall_mem_singleton.2 (.negated _)⟩
  exact ⟨hwhole, hall _ _ _ hwhole, (hself either (.anyOf _)).1, by decide +kernel⟩

/-- The members of a group have to be whole: an "any" of bare predicates is put into normal form by
a group of its own, and stays as it is in the group around. -/
example :
    let isNull (name : String) : Query := .leaf ⟨.named name, .is .null⟩
    let bare := Query.any [isNull "a", isNull "b"]
    allOf [isNull "c", allOf [bare]] ≠ allOf [isNull "c", bare] := by
  decide +kernel

end RecordQuery.Query
