import RecordQuery.Query.Basic

/-! Queries in normal form: an "any" of "all"s, even for a single predicate. The three composing
functions splice groups that add nothing into the query around them and keep the order of the
predicates. -/

namespace RecordQuery.Query

mutual

/-- What a query adds to a conjunction: the parts of an "all" and of an "any" with one branch, else
the query itself. -/
def conjuncts : Query → List Query
  | .all children => conjunctsOf children
  | .any [branch] => conjuncts branch
  | query => [query]
termination_by structural query => query

/-- What several queries add to a conjunction. -/
def conjunctsOf : List Query → List Query
  | [] => []
  | query :: queries => conjuncts query ++ conjunctsOf queries
termination_by structural queries => queries

end

mutual

theorem sizeOf_le_of_mem_conjuncts : ∀ {query part : Query}, part ∈ conjuncts query →
    sizeOf part ≤ sizeOf query
  | .all children, part, h => by
    have h : part ∈ conjunctsOf children := by simpa [conjuncts] using h
    have := sizeOf_le_of_mem_conjunctsOf h
    simp; omega
  | .any [branch], part, h => by
    have h : part ∈ conjuncts branch := by simpa [conjuncts] using h
    have := sizeOf_le_of_mem_conjuncts h
    simp; omega
  | .any [], part, h | .any (_ :: _ :: _), part, h | .not _, part, h | .leaf _, part, h => by
    simp only [conjuncts, List.mem_singleton] at h
    subst h
    exact Nat.le_refl _

theorem sizeOf_le_of_mem_conjunctsOf : ∀ {queries : List Query} {part : Query},
    part ∈ conjunctsOf queries → sizeOf part ≤ sizeOf queries
  | [], part, h => by simp [conjunctsOf] at h
  | query :: queries, part, h => by
    simp only [conjunctsOf, List.mem_append] at h
    rcases h with h | h
    · have := sizeOf_le_of_mem_conjuncts h
      simp; omega
    · have := sizeOf_le_of_mem_conjunctsOf h
      simp; omega

end

mutual

/-- What a query adds to a disjunction: the branches of an "any", also of one that is all an "all"
holds, else one "all" of its parts. -/
def disjuncts : Query → List Query
  | .any branches => disjunctsOf branches
  | .all children =>
    match _h : conjunctsOf children with
    | [.any branches] => disjunctsOf branches
    | parts => [.all parts]
  | query => [.all [query]]
termination_by query => sizeOf query
decreasing_by
  · simp
  · have h : Query.any branches ∈ conjunctsOf children := by
      rw [_h]
      exact List.mem_singleton_self _
    have := sizeOf_le_of_mem_conjunctsOf h
    simp only [any.sizeOf_spec, all.sizeOf_spec] at this ⊢
    omega

/-- What several queries add to a disjunction. -/
def disjunctsOf : List Query → List Query
  | [] => []
  | query :: queries => disjuncts query ++ disjunctsOf queries
termination_by queries => sizeOf queries
decreasing_by all_goals simp only [List.cons.sizeOf_spec]; omega

end

/-- All of several queries, as one "all". -/
def conjunction (queries : List Query) : Query := .all (conjunctsOf queries)

/-- Any of several queries, in normal form. -/
def disjunction (queries : List Query) : Query := .any (disjunctsOf queries)

/-- The negation of a query, which is put into normal form. -/
def negation (query : Query) : Query := .not (disjunction [query])

/-! Queries built from tests, each in normal form. -/

/-- The query that puts a field to a test. -/
def ofTest (field : Field) (test : Test) : Query := disjunction [.leaf ⟨field, test⟩]

/-- The query of all the queries of a list. -/
def allOf (queries : List Query) : Query := disjunction [conjunction queries]

/-- The query of any of the queries of a list. -/
def anyOf (queries : List Query) : Query := disjunction queries

/-- The query that holds where another does not. -/
def negated (query : Query) : Query := disjunction [negation query]

end RecordQuery.Query
