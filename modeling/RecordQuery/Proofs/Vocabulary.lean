import RecordQuery.Proofs.Shape

/-! What stands for no part of a query. A formula that is raised has no arithmetic, conditional,
switch, array or block anywhere raising looks (`Formula.Native`), and it looks everywhere but at the
type that a check of validity is told. -/

namespace RecordQuery

namespace Formula

/-- Whether a formula is built by a construct that no part of a query stands for: arithmetic, a
conditional, a switch, an array or a block. -/
def isForeign : Formula → Bool
  | .arithmetic .. | .conditional .. | .switch .. | .array _ | .block _ => true
  | _ => false

/-- The parts of a formula that raising looks at: all but the type that a check of validity is
told. -/
def regardedParts : Formula → List Formula
  | .call name [field, type] =>
    if name = "isValid" ∨ name = "isInvalid" then [field] else [field, type]
  | formula => formula.parts

/-- Whether a formula stands in another where raising looks. -/
inductive Stands (inner : Formula) : Formula → Prop
  | here : Stands inner inner
  | within {part outer : Formula} :
      part ∈ outer.regardedParts → Stands inner part → Stands inner outer

/-- No foreign construct stands in the formula. -/
def Native (formula : Formula) : Prop :=
  ∀ inner, Stands inner formula → inner.isForeign = false

theorem Native.of_regardedParts {formula : Formula} (hself : formula.isForeign = false)
    (hparts : ∀ part ∈ formula.regardedParts, part.Native) : formula.Native := by
  intro inner h
  cases h with
  | here => exact hself
  | within hpart h => exact hparts _ hpart inner h

/-- What is not a part that raising looks at is the type that a check of validity is told. -/
theorem regarded_or_type {formula part : Formula} (h : part ∈ formula.parts) :
    part ∈ formula.regardedParts ∨ ∃ (check : Check) (field : Formula), check.needsType = true ∧
      formula = .call check.function [field, part] := by
  unfold regardedParts
  split
  · next name field type =>
    rcases List.mem_pair.1 h with rfl | rfl
    · left
      split <;> simp
    · split
      · next hname =>
        right
        rcases hname with rfl | rfl
        · exact ⟨.valid, field, rfl, rfl⟩
        · exact ⟨.invalid, field, rfl, rfl⟩
      · left
        simp
  · exact .inl h

theorem mem_parts_of_mem_regardedParts {formula part : Formula}
    (h : part ∈ formula.regardedParts) : part ∈ formula.parts := by
  unfold regardedParts at h
  split at h
  · split at h
    · simp_all [parts]
    · exact h
  · exact h

theorem Native.of_parts {formula : Formula} (hself : formula.isForeign = false)
    (hparts : ∀ part ∈ formula.parts, part.Native) : formula.Native :=
  .of_regardedParts hself fun part hpart => hparts part (mem_parts_of_mem_regardedParts hpart)

/-- Whatever occurs in a formula stands where raising looks, or occurs in the type that a check of
validity is told. -/
theorem Occurs.stands_or_in_type {inner formula : Formula} (h : inner.Occurs formula) :
    inner.Stands formula ∨ ∃ (check : Check) (field type : Formula), check.needsType = true ∧
      (Formula.call check.function [field, type]).Stands formula ∧ inner.Occurs type := by
  induction h with
  | here => exact .inl .here
  | within hpart hinner ih =>
    rcases regarded_or_type hpart with hregarded | ⟨check, field, htype, rfl⟩
    · rcases ih with h | ⟨check, field, type, htype, hcall, h⟩
      · exact .inl (.within hregarded h)
      · exact .inr ⟨check, field, type, htype, .within hregarded hcall, h⟩
    · exact .inr ⟨check, field, _, htype, .here, hinner⟩

theorem native_path (path : String) : (Formula.path path).Native :=
  .of_parts rfl (List.forall_mem_nil _)

theorem native_literal (value : Value) : (Formula.literal value).Native :=
  .of_parts rfl (List.forall_mem_nil _)

end Formula

theorem Field.native_formula (field : Field) : field.formula.Native := by
  cases field with
  | named path => exact Formula.native_path path
  | all => exact .of_parts rfl (List.forall_mem_nil _)

namespace Raising

open Formula

/-! ### Single conditions -/

theorem Compared.native {operator : Comparison} {left right : Formula} {predicate : Predicate}
    (h : Compared operator left right predicate) : left.Native ∧ right.Native := by
  cases h with
  | literal => exact ⟨Field.native_formula _, native_literal _⟩
  | field => exact ⟨Field.native_formula _, native_path _⟩
  | flipped => exact ⟨native_literal _, native_path _⟩

theorem Called.native {name : String} {arguments : List Formula} {predicate : Predicate}
    (h : Called name arguments predicate) : (Formula.call name arguments).Native := by
  have hpair : ∀ {name : String} {field : Field} (values : List Value),
      (Formula.call name (field.formula :: values.map .literal)).Native := by
    intro name field values
    refine .of_parts rfl (List.forall_mem_cons.2 ⟨field.native_formula, ?_⟩)
    rw [List.forall_mem_map]
    exact fun value _ => native_literal value
  have hnone : ∀ {name : String} {arguments : List Formula},
      arguments = [] ∨ arguments = [.allFields] → (Formula.call name arguments).Native := by
    rintro name arguments (rfl | rfl)
    · exact .of_parts rfl (List.forall_mem_nil _)
    · exact .of_parts rfl (List.forall_mem_singleton.2 (Field.native_formula .all))
  cases h with
  | check => exact hpair []
  | @typedCheck check field type htype =>
    refine .of_regardedParts rfl ?_
    have hregarded : (Formula.call check.function [field.formula, type]).regardedParts =
        [field.formula] := by
      cases check with
      | valid | invalid => rfl
      | null | empty => cases htype
    rw [hregarded, List.forall_mem_singleton]
    exact field.native_formula
  | hasEmpty harguments | hasInvalid harguments => exact hnone harguments
  | matching => exact hpair [_]
  | complies => exact hpair [_]
  | contains => exact hpair [_]
  | flaggedContains => exact hpair [_, _]
  | between => exact hpair [_, _]
  | lowerBetween => exact hpair [_, _, _]
  | flaggedBetween => exact hpair [_, _, _, _]
  | oneOf => exact hpair _

theorem native_of_comparison {operator : Comparison} {left right : Formula} {query : Query}
    (h : comparison operator left right = .ok query) : left.Native ∧ right.Native := by
  obtain ⟨predicate, -, hcompared⟩ := comparison_cases h
  exact hcompared.native

theorem native_of_guardPath? {formula : Formula} {path : String}
    (h : guardPath? formula = some path) : formula.Native := by
  unfold guardPath? at h
  split at h
  · next function name regex =>
    exact .of_parts rfl (List.forall_mem_cons.2
      ⟨native_path name, List.forall_mem_singleton.2 (native_literal _)⟩)
  · cases h

/-- Guards and the comparison that they stand before have no foreign construct in them. -/
theorem native_of_guardedComparison? {operands : List Formula}
    {guarded : Comparison × Formula × Formula} (h : guardedComparison? operands = some guarded) :
    ∀ operand ∈ operands, operand.Native := by
  have hcompare : ∀ {operator : Comparison} {left right : Formula}, left.Native → right.Native →
      (Formula.compare operator left right).Native := fun hleft hright =>
    .of_parts rfl (List.forall_mem_cons.2 ⟨hleft, List.forall_mem_singleton.2 hright⟩)
  unfold guardedComparison? at h
  split at h
  · next guard operator path value =>
    obtain ⟨⟨-, -, hguard⟩, -⟩ := Option.ite_none_right_eq_some.1 h
    exact List.forall_mem_cons.2 ⟨native_of_guardPath? hguard,
      List.forall_mem_singleton.2 (hcompare (native_path path) (native_literal value))⟩
  · next first second operator left right =>
    obtain ⟨⟨-, hfirst, hsecond⟩, -⟩ := Option.ite_none_right_eq_some.1 h
    exact List.forall_mem_cons.2 ⟨native_of_guardPath? hfirst, List.forall_mem_cons.2
      ⟨native_of_guardPath? hsecond,
        List.forall_mem_singleton.2 (hcompare (native_path left) (native_path right))⟩⟩
  · cases h

theorem negationOf_eq_ok {operand : Formula} {raised : Except Error Query} {query : Query}
    (h : negationOf operand raised = .ok query) : ∃ result, raised = .ok result := by
  unfold negationOf at h
  split at h
  · cases h
  · obtain ⟨result, hresult, -⟩ := except_map_eq_ok.1 h
    exact ⟨result, hresult⟩

/-! ### Whole formulas -/

mutual

/-- No foreign construct stands in a formula that is raised. -/
theorem native_of_raise {strip : Bool} : (formula : Formula) → (query : Query) →
    raise strip formula = .ok query → formula.Native
  | .any operands, _, h => by
    obtain ⟨queries, heach, -⟩ := except_bind_eq_ok.1 h
    exact .of_parts rfl (native_of_raiseEach operands queries heach)
  | .all operands, query, h => by
    refine .of_parts rfl ?_
    unfold raise at h
    split at h
    · next hguarded =>
      split at hguarded
      · exact native_of_guardedComparison? hguarded
      · cases hguarded
    · obtain ⟨queries, heach, -⟩ := except_bind_eq_ok.1 h
      exact native_of_raiseEach operands queries heach
  | .not operand, _, h => by
    obtain ⟨result, hresult⟩ := negationOf_eq_ok h
    exact .of_parts rfl (List.forall_mem_singleton.2 (native_of_raise operand result hresult))
  | .compare _ _ _, _, h | .assignment _ _, _, h => by
    obtain ⟨hleft, hright⟩ := native_of_comparison h
    exact .of_parts rfl (List.forall_mem_cons.2 ⟨hleft, List.forall_mem_singleton.2 hright⟩)
  | .call _ arguments, _, h => by
    unfold raise at h
    split at h
    · split at h
      · next operand =>
        obtain ⟨result, hresult⟩ := negationOf_eq_ok h
        exact .of_parts rfl (List.forall_mem_singleton.2 (native_of_raise operand result hresult))
      · cases h
    · obtain ⟨predicate, -, hcalled⟩ := call_cases h
      exact hcalled.native
  | .path _, _, h | .allFields, _, h | .literal _, _, h | .arithmetic .., _, h
  | .conditional .., _, h | .switch .., _, h | .array _, _, h | .block _, _, h => nomatch h

theorem native_of_raiseEach {strip : Bool} : (formulas : List Formula) →
    (queries : List Query) → raiseEach strip formulas = .ok queries →
    ∀ formula ∈ formulas, formula.Native
  | [], _, _ => List.forall_mem_nil _
  | formula :: formulas, _, h => by
    obtain ⟨first, hfirst, hafter⟩ := except_bind_eq_ok.1 h
    obtain ⟨rest, hrest, -⟩ := except_bind_eq_ok.1 hafter
    exact List.forall_mem_cons.2
      ⟨native_of_raise formula first hfirst, native_of_raiseEach formulas rest hrest⟩

end

end Raising

/-- A formula is not raised, whatever the policy, if arithmetic, a conditional, a switch, an array
or a block stands in it anywhere raising looks. It looks at everything that occurs in the formula
but for what occurs in the type that a check of validity is told, and what that type is never makes
a difference. -/
theorem raise_fails_of_foreign (policy : Policy) (formula inner : Formula) :
    (inner.Stands formula → inner.isForeign = true → ∃ e, formula.raise policy = .error e) ∧
    (inner.Occurs formula → inner.Stands formula ∨
      ∃ (check : Check) (field type : Formula), check.needsType = true ∧
        (Formula.call check.function [field, type]).Stands formula ∧ inner.Occurs type) ∧
    ∀ (check : Check) (field type other : Formula), check.needsType = true →
      (Formula.call check.function [field, type]).raise policy =
        (Formula.call check.function [field, other]).raise policy := by
  refine ⟨fun hstands hforeign => ?_, fun h => h.stands_or_in_type, ?_⟩
  · cases hraise : formula.raise policy with
    | error e => exact ⟨e, rfl⟩
    | ok query =>
      obtain ⟨result, hresult, -⟩ := except_bind_eq_ok.1 hraise
      have hnative := Raising.native_of_raise formula result hresult inner hstands
      rw [hforeign] at hnative
      cases hnative
  · intro check field type other htype
    cases check with
    | valid | invalid => rfl
    | null | empty => cases htype

/-- A sum among the values of a list, negated, next to a comparison that could be raised. -/
theorem raise_fails_of_sum_in_list :
    let sum : Formula := .arithmetic .add (.literal (.int 1)) (.path "b")
    let list : Formula := .call "in" [.path "a", .literal (.int 2), sum]
    let formula : Formula := .any [.compare .eq (.path "a") (.literal (.int 1)), .not list]
    sum.Stands formula ∧ sum.isForeign = true ∧ ∃ e, formula.raise .runtime = .error e := by
  intro sum list formula
  have hlist : sum.Stands list :=
    .within (show sum ∈ [.path "a", .literal (.int 2), sum] by simp) .here
  have hnot : sum.Stands (.not list) := .within (List.mem_singleton_self list) hlist
  have hstands : sum.Stands formula :=
    .within (List.mem_cons_of_mem _ (List.mem_singleton_self (Formula.not list))) hnot
  exact ⟨hstands, rfl, (raise_fails_of_foreign .runtime formula sum).1 hstands rfl⟩

/-- An array in place of the type of a check of validity is let through. -/
theorem exists_foreign_raised :
    ∃ formula inner query, Formula.Occurs inner formula ∧ inner.isForeign = true ∧
      formula.raise .generic = .ok query := by
  let array : Formula := .array [.literal (.int 1)]
  let formula : Formula := .call "isValid" [.path "f", array]
  have hoccurs : array.Occurs formula :=
    .within (show array ∈ [.path "f", array] by simp) .here
  exact ⟨formula, array, .any [.all [.leaf ⟨.named "f", .is .valid⟩]], hoccurs, rfl,
    by decide +kernel⟩

end RecordQuery
