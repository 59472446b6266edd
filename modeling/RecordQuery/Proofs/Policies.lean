import RecordQuery.Proofs.Raising

/-! What a policy changes. Formulas that a query is lowered to under two policies differ in their
decorations only: guards before comparisons by order, and flags of substring tests. Each decoration
is a rewriting of the formula that the plainest policy gives (`Formula.decorated`), so policies
agree on which queries have a formula and on the error of those that have none. -/

namespace RecordQuery

namespace Formula

/-- The call that asks whether what a formula stands for looks like a number. -/
def looksNumeric (formula : Formula) : Formula :=
  .call "matches" [formula, .string Lowering.numericRegex]

/-- A comparison by order with a number or a field is put behind its guards: one for the left side,
and one for a field on the right. -/
def guardedCompare (operator : Comparison) (left right : Formula) : Formula :=
  match operator.isOrdering, right with
  | true, .literal value =>
    if value.isNumber then .all [looksNumeric left, .compare operator left right]
    else .compare operator left right
  | true, .path _ => .all [looksNumeric left, looksNumeric right, .compare operator left right]
  | _, _ => .compare operator left right

/-- A substring test without a flag is given the flag that case matters. -/
def flaggedCall (function : String) (arguments : List Formula) : Formula :=
  match arguments with
  | [field, text] =>
    if function = "contains" then .call function [field, text, .boolean true]
    else .call function [field, text]
  | arguments => .call function arguments

mutual

/-- A formula with the decorations of a policy, put in everywhere through groups and negations. -/
def decorated (policy : Policy) : Formula → Formula
  | .all operands => .all (decoratedEach policy operands)
  | .any operands => .any (decoratedEach policy operands)
  | .not operand => .not (decorated policy operand)
  | .compare operator left right =>
    if policy.numericGuard then guardedCompare operator left right
    else .compare operator left right
  | .call function arguments =>
    if policy.caseFlag = .always then flaggedCall function arguments
    else .call function arguments
  | formula => formula
termination_by structural formula => formula

/-- Several formulas with the decorations of a policy. -/
def decoratedEach (policy : Policy) : List Formula → List Formula
  | [] => []
  | formula :: formulas => decorated policy formula :: decoratedEach policy formulas
termination_by structural formulas => formulas

end

variable {policy : Policy} {formula : Formula} {formulas : List Formula}

@[simp] theorem decoratedEach_eq_map :
    decoratedEach policy formulas = formulas.map (decorated policy) := by
  induction formulas with
  | nil => rfl
  | cons formula formulas ih => rw [decoratedEach, ih, List.map_cons]

/-- Whether every comparison by order with a number or a field has its guards before it, and all
else is what queries are lowered to. -/
inductive Guarded : Formula → Prop
  | number {operator : Comparison} {left : Formula} {value : Value} :
    value.isNumber = true →
    Guarded (.all [looksNumeric left, .compare operator left (.literal value)])
  | field {operator : Comparison} {left : Formula} {path : String} :
    Guarded (.all [looksNumeric left, looksNumeric (.path path),
      .compare operator left (.path path)])
  | equality {operator : Comparison} {left right : Formula} :
    operator.isOrdering = false → Guarded (.compare operator left right)
  | text {operator : Comparison} {left : Formula} {value : Value} :
    value.isNumber = false → Guarded (.compare operator left (.literal value))
  | call {function : String} {arguments : List Formula} : Guarded (.call function arguments)
  | all {operands : List Formula} : (∀ operand ∈ operands, Guarded operand) →
    Guarded (.all operands)
  | any {operands : List Formula} : (∀ operand ∈ operands, Guarded operand) →
    Guarded (.any operands)
  | not {operand : Formula} : Guarded operand → Guarded (.not operand)

end Formula

section Predicates

variable {policy : Policy} {types : Option FieldTypes} {path : String} {formula : Formula}
  {leaf : Predicate}

theorem except_map_eq_self {ε α : Type} {x : Except ε α} {f : α → α}
    (h : ∀ a, x = .ok a → f a = a) : x.map f = x := by
  cases x with
  | error e => rfl
  | ok a => exact congrArg Except.ok (h a rfl)

theorem Formula.decorated_call {function : String} (hname : function ≠ "contains")
    (arguments : List Formula) :
    decorated policy (.call function arguments) = .call function arguments := by
  have hflagged : flaggedCall function arguments = .call function arguments := by
    unfold flaggedCall
    split
    · rw [if_neg hname]
    · rfl
  rw [decorated, hflagged, ite_self]

/-! ### Predicates -/

theorem Lowering.guarded_eq_decorated {operator : Comparison} {operand : Operand}
    {right : Formula} (h : Lowering.operand operand = .ok right) :
    guarded (if policy.numericGuard && operator.isOrdering then guards path operand else [])
      (.compare operator (.path path) right) =
    Formula.decorated policy (.compare operator (.path path) right) := by
  rw [Formula.decorated]
  cases policy.numericGuard with
  | false => rfl
  | true =>
    cases operand with
    | literal literal =>
      obtain ⟨value, hvalue, rfl⟩ := except_map_eq_ok.1 h
      have hnumber := Literal.isNumber_of_lower hvalue
      cases operator <;> cases hkind : literal.kind.isNumeric <;>
        simp [guarded, guards, Formula.guardedCompare, Comparison.isOrdering, hnumber, hkind,
          numericGuard, Formula.looksNumeric]
    | field other =>
      cases h
      cases operator <;> rfl

theorem Lowering.predicate_compare_eq_map (field : Field) (operator : Comparison)
    (right : Operand) :
    predicate policy types ⟨field, .compare operator right⟩ =
      (predicate .generic types ⟨field, .compare operator right⟩).map
        (Formula.decorated policy) := by
  cases field with
  | all => rfl
  | named path =>
    unfold predicate
    cases h : operand right with
    | error e => simp only [h]; rfl
    | ok formula =>
      simp only [h]
      exact congrArg Except.ok (guarded_eq_decorated h)

theorem Lowering.predicate_contains_eq_map (field : Field) (text : String)
    (caseSensitive : Bool) :
    predicate policy types ⟨field, .contains text caseSensitive⟩ =
      (predicate .generic types ⟨field, .contains text caseSensitive⟩).map
        (Formula.decorated policy) := by
  cases field with
  | all => rfl
  | named path =>
    unfold predicate
    refine congrArg Except.ok ?_
    rw [Formula.decorated]
    cases policy.caseFlag <;> cases caseSensitive <;> rfl

theorem Check.function_ne_contains (check : Check) : check.function ≠ "contains" := by
  cases check <;> decide

theorem Lowering.decorated_checkField {check : Check}
    (h : checkField types path check = .ok formula) : formula.decorated policy = formula := by
  unfold checkField at h
  split at h
  · split at h
    · cases h
    · obtain ⟨type, _, rfl⟩ := except_map_eq_ok.1 h
      exact Formula.decorated_call check.function_ne_contains _
  · cases h
    exact Formula.decorated_call check.function_ne_contains _

/-- The formula of a predicate that neither compares nor looks for a substring has no decoration. -/
theorem Lowering.decorated_predicate (h : predicate .generic types leaf = .ok formula)
    (hcompare : ∀ operator right, leaf.test ≠ .compare operator right)
    (hcontains : ∀ text caseSensitive, leaf.test ≠ .contains text caseSensitive) :
    formula.decorated policy = formula := by
  rcases leaf with ⟨field, test⟩
  cases test with
  | compare operator right => exact absurd rfl (hcompare operator right)
  | contains text caseSensitive => exact absurd rfl (hcontains text caseSensitive)
  | between range =>
    obtain ⟨path, rfl, hafter⟩ := pathOf_bind_eq_ok h
    obtain ⟨left, _, hrest⟩ := except_bind_eq_ok.1 hafter
    obtain ⟨right, _, hend⟩ := except_bind_eq_ok.1 hrest
    cases hend
    exact Formula.decorated_call (by decide) _
  | oneOf values =>
    cases values with
    | nil => cases h
    | cons value values =>
      obtain ⟨path, rfl, hafter⟩ := pathOf_bind_eq_ok h
      obtain ⟨arguments, _, hend⟩ := except_bind_eq_ok.1 hafter
      cases hend
      exact Formula.decorated_call (by decide) _
  | matching regex =>
    obtain ⟨path, rfl, hafter⟩ := pathOf_bind_eq_ok h
    cases hafter
    exact Formula.decorated_call (by decide) _
  | complies kind pattern =>
    obtain ⟨path, rfl, hafter⟩ := pathOf_bind_eq_ok h
    obtain ⟨regex, _, hend⟩ := except_bind_eq_ok.1 hafter
    cases hend
    exact Formula.decorated_call (by decide) _
  | is check =>
    cases field with
    | named path => exact decorated_checkField h
    | all => cases h

theorem Lowering.map_decorated_predicate (leaf : Predicate)
    (hcompare : ∀ operator right, leaf.test ≠ .compare operator right)
    (hcontains : ∀ text caseSensitive, leaf.test ≠ .contains text caseSensitive) :
    (predicate .generic types leaf).map (Formula.decorated policy) =
      predicate .generic types leaf :=
  except_map_eq_self fun _ h => decorated_predicate h hcompare hcontains

/-- A predicate that is no check of every field has the formula of the plainest policy, decorated,
or its error. -/
theorem Lowering.predicate_eq_map (h : ∀ check, leaf ≠ ⟨.all, .is check⟩) :
    Lowering.predicate policy types leaf =
      (Lowering.predicate .generic types leaf).map (Formula.decorated policy) := by
  rcases leaf with ⟨field, test⟩
  cases test with
  | compare operator right => exact predicate_compare_eq_map field operator right
  | contains text caseSensitive => exact predicate_contains_eq_map field text caseSensitive
  | is check =>
    cases field with
    | all => exact absurd rfl (h check)
    | named path =>
      exact (map_decorated_predicate ⟨.named path, .is check⟩ (by simp) (by simp)).symm
  | between range =>
    exact (map_decorated_predicate ⟨field, .between range⟩ (by simp) (by simp)).symm
  | oneOf values =>
    exact (map_decorated_predicate ⟨field, .oneOf values⟩ (by simp) (by simp)).symm
  | matching regex =>
    exact (map_decorated_predicate ⟨field, .matching regex⟩ (by simp) (by simp)).symm
  | complies kind pattern =>
    exact (map_decorated_predicate ⟨field, .complies kind pattern⟩ (by simp) (by simp)).symm

end Predicates

/-! ### Groups -/

section Groups

variable {policy : Policy} {types : Option FieldTypes} {formula : Formula}

theorem Lowering.composite_map {connective : Connective} {build : List Formula → Formula}
    {f : Formula → Formula} (hbuild : ∀ parts, f (build parts) = build (parts.map f))
    (parts : List Formula) :
    composite connective build (parts.map f) = (composite connective build parts).map f := by
  rcases parts with _ | ⟨first, _ | ⟨second, rest⟩⟩
  · rfl
  · rfl
  · exact congrArg Except.ok (hbuild (first :: second :: rest)).symm

theorem Formula.decorated_all (parts : List Formula) :
    decorated policy (.all parts) = .all (parts.map (decorated policy)) := by
  rw [decorated, decoratedEach_eq_map]

theorem Formula.decorated_any (parts : List Formula) :
    decorated policy (.any parts) = .any (parts.map (decorated policy)) := by
  rw [decorated, decoratedEach_eq_map]

mutual

theorem Query.lower_eq_map : (query : Query) →
    (∀ check, (⟨.all, .is check⟩ : Predicate) ∉ query.leaves) →
    query.lower policy types = (query.lower .generic types).map (Formula.decorated policy)
  | .any branches, h => by
    rw [lower, lower, lowerEach_eq_map branches h]
    cases lowerEach .generic types branches with
    | error e => rfl
    | ok formulas => exact Lowering.composite_map Formula.decorated_any formulas
  | .all children, h => by
    rw [lower, lower, lowerEach_eq_map children h]
    cases lowerEach .generic types children with
    | error e => rfl
    | ok formulas => exact Lowering.composite_map Formula.decorated_all formulas
  | .not inner, h => by
    rw [lower, lower, lower_eq_map inner h]
    cases lower .generic types inner <;> rfl
  | .leaf predicate, h => Lowering.predicate_eq_map fun check he => h check (by simp [leaves, he])

theorem Query.lowerEach_eq_map : (queries : List Query) →
    (∀ check, (⟨.all, .is check⟩ : Predicate) ∉ leavesOf queries) →
    lowerEach policy types queries =
      (lowerEach .generic types queries).map (List.map (Formula.decorated policy))
  | [], _ => rfl
  | query :: queries, h => by
    simp only [leavesOf, List.mem_append, not_or] at h
    rw [lowerEach, lowerEach, lower_eq_map query fun check => (h check).1,
      lowerEach_eq_map queries fun check => (h check).2]
    cases lower .generic types query with
    | error e => rfl
    | ok first => cases lowerEach .generic types queries <;> rfl

end

mutual

/-- A policy without guards that does not always flag substring tests decorates nothing. -/
theorem Formula.decorated_eq_self (hguard : policy.numericGuard = false)
    (hflag : policy.caseFlag ≠ .always) : (formula : Formula) →
    formula.decorated policy = formula
  | .all operands => by rw [decorated, decoratedEach_eq_self hguard hflag operands]
  | .any operands => by rw [decorated, decoratedEach_eq_self hguard hflag operands]
  | .not operand => by rw [decorated, decorated_eq_self hguard hflag operand]
  | .compare operator left right => by rw [decorated, if_neg (by simp [hguard])]
  | .call function arguments => by rw [decorated, if_neg hflag]
  | .path _ | .allFields | .literal _ | .arithmetic .. | .conditional .. | .switch .. | .array _
  | .assignment .. | .block _ => rfl

theorem Formula.decoratedEach_eq_self (hguard : policy.numericGuard = false)
    (hflag : policy.caseFlag ≠ .always) : (formulas : List Formula) →
    decoratedEach policy formulas = formulas
  | [] => rfl
  | formula :: formulas => by
    rw [decoratedEach, decorated_eq_self hguard hflag formula,
      decoratedEach_eq_self hguard hflag formulas]

end

/-! ### Comparisons that are guarded -/

theorem Lowering.guarded_compare {path : String} {operator : Comparison} {operand : Operand}
    {right : Formula} (h : Lowering.operand operand = .ok right) :
    (guarded (if operator.isOrdering then guards path operand else [])
      (.compare operator (.path path) right)).Guarded := by
  cases hordering : operator.isOrdering with
  | false => exact .equality hordering
  | true =>
    rw [if_pos rfl]
    cases operand with
    | literal literal =>
      obtain ⟨value, hvalue, rfl⟩ := except_map_eq_ok.1 h
      have hnumber := Literal.isNumber_of_lower hvalue
      cases hkind : literal.kind.isNumeric with
      | false =>
        rw [guards, hkind, if_neg (by simp)]
        exact .text (hnumber.trans hkind)
      | true =>
        rw [guards, hkind, if_pos rfl]
        exact .number (hnumber.trans hkind)
    | field other =>
      cases h
      exact .field

theorem Lowering.guarded_checkField {path : String} {check : Check}
    (h : checkField types path check = .ok formula) : formula.Guarded := by
  unfold checkField at h
  split at h
  · split at h
    · cases h
    · obtain ⟨type, _, rfl⟩ := except_map_eq_ok.1 h
      exact .call
  · cases h
    exact .call

theorem Lowering.guarded_expand (types : FieldTypes) (check : Check) :
    (expand types check).Guarded := by
  have hcalls : ∀ call ∈ types.entries.map fun entry => checkCall check entry.1 entry.2,
      call.Guarded := by
    rw [List.forall_mem_map]
    exact fun _ _ => .call
  cases check with
  | valid => exact .all hcalls
  | _ => exact .any hcalls

theorem Lowering.guarded_checkAll {strategy : WildcardStrategy} {check : Check}
    (h : checkAll strategy types check = .ok formula) : formula.Guarded := by
  cases strategy with
  | reject => cases h
  | sentinel =>
    cases check with
    | empty => cases h; exact .call
    | invalid => cases h; exact .call
    | _ => cases h
  | expand =>
    cases types with
    | none => cases h
    | some types =>
      unfold checkAll at h
      simp only at h
      split at h
      · cases h
      · cases h
        exact guarded_expand types check

theorem Lowering.guarded_predicate (hon : policy.numericGuard = true) {leaf : Predicate}
    (h : predicate policy types leaf = .ok formula) : formula.Guarded := by
  rcases leaf with ⟨field, test⟩
  cases test with
  | compare operator operand =>
    obtain ⟨path, rfl, hafter⟩ := pathOf_bind_eq_ok h
    obtain ⟨right, hright, hend⟩ := except_bind_eq_ok.1 hafter
    cases hend
    rw [hon, Bool.true_and]
    exact guarded_compare hright
  | between range =>
    obtain ⟨path, rfl, hafter⟩ := pathOf_bind_eq_ok h
    obtain ⟨left, _, hrest⟩ := except_bind_eq_ok.1 hafter
    obtain ⟨right, _, hend⟩ := except_bind_eq_ok.1 hrest
    cases hend
    exact .call
  | oneOf values =>
    cases values with
    | nil => cases h
    | cons value values =>
      obtain ⟨path, rfl, hafter⟩ := pathOf_bind_eq_ok h
      obtain ⟨arguments, _, hend⟩ := except_bind_eq_ok.1 hafter
      cases hend
      exact .call
  | contains text caseSensitive =>
    obtain ⟨path, rfl, hafter⟩ := pathOf_bind_eq_ok h
    cases hafter
    exact .call
  | matching regex =>
    obtain ⟨path, rfl, hafter⟩ := pathOf_bind_eq_ok h
    cases hafter
    exact .call
  | complies kind pattern =>
    obtain ⟨path, rfl, hafter⟩ := pathOf_bind_eq_ok h
    obtain ⟨regex, _, hend⟩ := except_bind_eq_ok.1 hafter
    cases hend
    exact .call
  | is check =>
    cases field with
    | named path => exact guarded_checkField h
    | all => exact guarded_checkAll h

theorem Lowering.guarded_composite {connective : Connective}
    {build : List Formula → Formula} {parts : List Formula}
    (hbuild : (∀ part ∈ parts, part.Guarded) → (build parts).Guarded)
    (h : ∀ part ∈ parts, part.Guarded) (hc : composite connective build parts = .ok formula) :
    formula.Guarded := by
  rcases composite_eq_ok hc with rfl | rfl
  · exact h formula (List.mem_singleton_self formula)
  · exact hbuild h

mutual

/-- Under a policy that guards, every comparison by order is guarded, however deep it stands. -/
theorem Query.guarded_lower (hon : policy.numericGuard = true) : (query : Query) →
    (formula : Formula) → query.lower policy types = .ok formula → formula.Guarded
  | .any branches, _, h => by
    obtain ⟨formulas, heach, hc⟩ := except_bind_eq_ok.1 h
    exact Lowering.guarded_composite .any (guarded_lowerEach hon branches formulas heach) hc
  | .all children, _, h => by
    obtain ⟨formulas, heach, hc⟩ := except_bind_eq_ok.1 h
    exact Lowering.guarded_composite .all (guarded_lowerEach hon children formulas heach) hc
  | .not inner, _, h => by
    obtain ⟨operand, hinner, hafter⟩ := except_bind_eq_ok.1 h
    cases hafter
    exact .not (guarded_lower hon inner operand hinner)
  | .leaf _, _, h => Lowering.guarded_predicate hon h

theorem Query.guarded_lowerEach (hon : policy.numericGuard = true) : (queries : List Query) →
    (formulas : List Formula) → lowerEach policy types queries = .ok formulas →
    ∀ formula ∈ formulas, formula.Guarded
  | [], _, h => by
    cases h
    exact List.forall_mem_nil _
  | query :: queries, _, h => by
    obtain ⟨first, rest, hfirst, hrest, rfl⟩ := lowerEach_cons_eq_ok.1 h
    rw [List.forall_mem_cons]
    exact ⟨guarded_lower hon query first hfirst, guarded_lowerEach hon queries rest hrest⟩

end

end Groups

/-- Policies differ in their decorations only, for queries of any shape that check no field by a
star: the formula under a policy is that under the plainest one with the decorations of the policy,
and where there is none the error is the same. So no comparison by order with a number or a field
lacks its guards under a policy that guards, and the policy of data stores changes nothing. -/
theorem lower_eq_decorated (policy : Policy) (types : Option FieldTypes) (query : Query)
    (h : ∀ check, (⟨.all, .is check⟩ : Predicate) ∉ query.leaves) :
    query.lower policy types =
      (query.lower .generic types).map (Formula.decorated policy) ∧
    (policy.numericGuard = true →
      ∀ formula, query.lower policy types = .ok formula → formula.Guarded) ∧
    query.lower .storage types = query.lower .generic types := by
  refine ⟨query.lower_eq_map h, fun hon => query.guarded_lower hon, ?_⟩
  rw [query.lower_eq_map h]
  exact except_map_eq_self fun formula _ => formula.decorated_eq_self rfl (by decide)

theorem lower_eq_decorated_of_nested_comparison :
    (Query.any [.all [.not (.any [.leaf ⟨.named "a", .compare .lt (.field "b")⟩]),
      .leaf ⟨.named "c", .contains "x" true⟩]]).lower .runtime none =
    ((Query.any [.all [.not (.any [.leaf ⟨.named "a", .compare .lt (.field "b")⟩]),
      .leaf ⟨.named "c", .contains "x" true⟩]]).lower .generic none).map
        (Formula.decorated .runtime) ∧
    (Query.any [.all [.not (.any [.leaf ⟨.named "a", .compare .lt (.field "b")⟩]),
      .leaf ⟨.named "c", .contains "x" true⟩]]).lower .generic none =
    .ok (.all [.not (.compare .lt (.path "a") (.path "b")),
      .call "contains" [.path "c", .string "x"]]) ∧
    Formula.Guarded (.all [
      .not (.all [Formula.looksNumeric (.path "a"), Formula.looksNumeric (.path "b"),
        .compare .lt (.path "a") (.path "b")]),
      .call "contains" [.path "c", .string "x", .boolean true]]) := by
  have h := lower_eq_decorated .runtime none
    (.any [.all [.not (.any [.leaf ⟨.named "a", .compare .lt (.field "b")⟩]),
      .leaf ⟨.named "c", .contains "x" true⟩]]) (by intro check; cases check <;> decide)
  exact ⟨h.1, rfl, h.2.1 rfl _ rfl⟩

end RecordQuery
