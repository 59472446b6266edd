import Mathlib.Data.List.Forall2
import RecordQuery.Proofs.Conditions
import RecordQuery.Proofs.Query.Meaning

/-! Raising keeps the meaning of a formula. Truth values are given to conditions, which are
comparisons, assignments and calls, such that all spellings of one condition have the same value
(`Formula.Uniform`); a predicate has the value of the condition that says it (`Formula.Says`). The
query that a formula is raised to then has the truth value of the formula. -/

namespace RecordQuery

/-- Whether two formulas are the same, or numbers that are the same literal of a query. -/
inductive Formula.SameLiteral : Formula → Formula → Prop
  | refl {formula : Formula} : SameLiteral formula formula
  | number {a b : Value} : a.isNumber = true → b.isNumber = true → a.raise = b.raise →
    SameLiteral (.literal a) (.literal b)

namespace Formula

mutual

/-- The truth value of a formula, given those of its conditions. -/
def holds (value : Formula → Bool) : Formula → Bool
  | .any operands => anyHolds value operands
  | .all operands => allHold value operands
  | .not operand => !holds value operand
  | .call function arguments =>
    if function = "not" then
      match arguments with
      | [operand] => !holds value operand
      | arguments => value (.call function arguments)
    else value (.call function arguments)
  | condition => value condition
termination_by structural formula => formula

/-- Whether one of several formulas holds. -/
def anyHolds (value : Formula → Bool) : List Formula → Bool
  | [] => false
  | formula :: formulas => holds value formula || anyHolds value formulas
termination_by structural formulas => formulas

/-- Whether several formulas all hold. -/
def allHold (value : Formula → Bool) : List Formula → Bool
  | [] => true
  | formula :: formulas => holds value formula && allHold value formulas
termination_by structural formulas => formulas

end

/-- Truth values of conditions that are the same for all spellings of a condition. -/
structure Uniform (value : Formula → Bool) : Prop where
  flipped (operator : Comparison) (a : Value) (path : String) :
    value (.compare operator (.literal a) (.path path)) =
      value (.compare operator.flipped (.path path) (.literal a))
  assignment (target right : Formula) :
    value (.assignment target right) = value (.compare .eq target right)
  isPresentIn (arguments : List Formula) :
    value (.call "isPresentIn" arguments) = value (.call "in" arguments)
  contains (field text : Formula) :
    value (.call "contains" [field, text]) = value (.call "contains" [field, text, .boolean true])
  closedRange (field left right : Formula) :
    value (.call "between" [field, left, right]) =
      value (.call "between" [field, left, right, .boolean false, .boolean false])
  upperClosedRange (field left right lowerOpen : Formula) :
    value (.call "between" [field, left, right, lowerOpen]) =
      value (.call "between" [field, left, right, lowerOpen, .boolean false])
  hasEmpty (arguments : List Formula) (h : arguments = [] ∨ arguments = [.allFields]) :
    value (.call "hasEmpty" arguments) = value (.call "isEmpty" [.allFields])
  hasInvalid (arguments : List Formula) (h : arguments = [] ∨ arguments = [.allFields]) :
    value (.call "hasInvalid" arguments) = value (.call "isInvalid" [.allFields])
  isValid (field type : Formula) :
    value (.call "isValid" [field, type]) = value (.call "isValid" [field])
  isInvalid (field type : Formula) :
    value (.call "isInvalid" [field, type]) = value (.call "isInvalid" [field])
  compareNumbers (operator : Comparison) {left right left' right' : Formula}
    (hleft : SameLiteral left left') (hright : SameLiteral right right') :
    value (.compare operator left right) = value (.compare operator left' right')
  callNumbers (function : String) {arguments arguments' : List Formula}
    (h : List.Forall₂ SameLiteral arguments arguments') :
    value (.call function arguments) = value (.call function arguments')

/-- Whether a condition says what a predicate says, in so many words: the field on the left, all
flags given and no type. -/
inductive Says : Formula → Predicate → Prop
  | compareLiteral {operator : Comparison} {field : Field} {a : Value} {literal : Literal} :
    a.raise = literal →
    Says (.compare operator field.formula (.literal a))
      ⟨field, .compare operator (.literal literal)⟩
  | compareField {operator : Comparison} {field : Field} {other : String} :
    Says (.compare operator field.formula (.path other)) ⟨field, .compare operator (.field other)⟩
  | between {field : Field} {a b : Value} {left right : Literal} {lowerOpen upperOpen : Bool} :
    a.raise = left → b.raise = right →
    Says (.call "between" [field.formula, .literal a, .literal b, .boolean lowerOpen,
      .boolean upperOpen]) ⟨field, .between ⟨left, right, lowerOpen, upperOpen⟩⟩
  | oneOf {field : Field} {values : List Value} {literals : List Literal} :
    values.map Value.raise = literals →
    Says (.call "in" (field.formula :: values.map .literal)) ⟨field, .oneOf literals⟩
  | contains {field : Field} {text : String} {caseSensitive : Bool} :
    Says (.call "contains" [field.formula, .string text, .boolean caseSensitive])
      ⟨field, .contains text caseSensitive⟩
  | matching {field : Field} {regex : String} :
    Says (.call "matches" [field.formula, .string regex]) ⟨field, .matching regex⟩
  | complies {field : Field} {kind : PatternKind} {pattern : String} :
    Says (.call kind.render [field.formula, .string pattern]) ⟨field, .complies kind pattern⟩
  | is {field : Field} {check : Check} :
    Says (.call check.function [field.formula]) ⟨field, .is check⟩

end Formula

/-- Whether truth values of predicates are those of the conditions that say them. -/
def Corresponds (conditions : Formula → Bool) (predicates : Predicate → Bool) : Prop :=
  ∀ condition predicate, condition.Says predicate → predicates predicate = conditions condition

section Conditions

variable {value : Formula → Bool} {predicate : Predicate} {formula other : Formula}

theorem Formula.SameLiteral.of_raise_eq {a b : Value} (h : a.raise = b.raise) :
    SameLiteral (.literal a) (.literal b) := by
  have hnumber : a.isNumber = b.isNumber := by
    rw [← Value.isNumeric_raise, ← Value.isNumeric_raise, h]
  cases ha : a.isNumber with
  | true => exact .number ha (hnumber ▸ ha) h
  | false =>
    rw [ha] at hnumber
    cases a with
    | boolean x =>
      cases b with
      | boolean y => cases x <;> cases y <;> first | exact .refl | exact absurd h (by decide)
      | string s => cases h
      | _ => cases hnumber
    | string s =>
      cases b with
      | boolean y => cases h
      | string t => cases h; exact .refl
      | _ => cases hnumber
    | _ => cases ha

theorem Formula.SameLiteral.of_map_raise_eq {as bs : List Value}
    (h : as.map Value.raise = bs.map Value.raise) :
    List.Forall₂ SameLiteral (as.map .literal) (bs.map .literal) := by
  rw [List.forall₂_map_left_iff, List.forall₂_map_right_iff]
  rw [← List.forall₂_eq_eq_eq, List.forall₂_map_left_iff, List.forall₂_map_right_iff] at h
  exact h.imp fun _ _ => .of_raise_eq

/-- All conditions that say one predicate have the same value. -/
theorem Formula.Uniform.eq_of_says (hvalue : Uniform value) (h : formula.Says predicate)
    (h' : other.Says predicate) : value formula = value other := by
  cases h with
  | compareLiteral ha =>
    cases h' with
    | compareLiteral hb => exact hvalue.compareNumbers _ .refl (.of_raise_eq (ha.trans hb.symm))
  | compareField =>
    cases h' with
    | compareField => rfl
  | between ha hb =>
    cases h' with
    | between ha' hb' =>
      exact hvalue.callNumbers "between" (.cons .refl (.cons (.of_raise_eq (ha.trans ha'.symm))
        (.cons (.of_raise_eq (hb.trans hb'.symm)) (.cons .refl (.cons .refl .nil)))))
  | oneOf hvalues =>
    cases h' with
    | oneOf hvalues' =>
      exact hvalue.callNumbers "in"
        (.cons .refl (SameLiteral.of_map_raise_eq (hvalues.trans hvalues'.symm)))
  | contains =>
    cases h' with
    | contains => rfl
  | matching =>
    cases h' with
    | matching => rfl
  | complies =>
    cases h' with
    | complies => rfl
  | is =>
    cases h' with
    | is => rfl

/-- Uniform truth values of conditions are those of predicates, too. -/
theorem Formula.Uniform.exists_corresponds (hvalue : Uniform value) :
    ∃ predicates, Corresponds value predicates := by
  classical
  refine ⟨fun predicate => decide (∃ condition : Formula,
    condition.Says predicate ∧ value condition = true), fun condition predicate h => ?_⟩
  cases hc : value condition with
  | true => exact decide_eq_true ⟨condition, h, hc⟩
  | false =>
    refine decide_eq_false fun ⟨other, hother, htrue⟩ => ?_
    rw [hvalue.eq_of_says hother h, hc] at htrue
    cases htrue

variable {predicates : Predicate → Bool}

theorem Raising.Compared.value_eq {operator : Comparison} {left right : Formula}
    (h : Compared operator left right predicate) (hvalue : Formula.Uniform value)
    (hpredicates : Corresponds value predicates) :
    predicates predicate = value (.compare operator left right) := by
  cases h with
  | literal => exact hpredicates _ _ (.compareLiteral rfl)
  | field => exact hpredicates _ _ .compareField
  | @flipped a path =>
    rw [hvalue.flipped]
    exact hpredicates (.compare operator.flipped (Field.formula (.named path)) (.literal a)) _
      (.compareLiteral rfl)

theorem Raising.Called.value_eq {name : String} {arguments : List Formula}
    (h : Called name arguments predicate) (hvalue : Formula.Uniform value)
    (hpredicates : Corresponds value predicates) :
    predicates predicate = value (.call name arguments) := by
  cases h with
  | check => exact hpredicates _ _ .is
  | @typedCheck check field type htype =>
    have hplain := hpredicates (.call check.function [field.formula]) ⟨field, .is check⟩ .is
    cases check with
    | null => cases htype
    | empty => cases htype
    | valid => exact hplain.trans (hvalue.isValid field.formula type).symm
    | invalid => exact hplain.trans (hvalue.isInvalid field.formula type).symm
  | hasEmpty harguments =>
    rw [hvalue.hasEmpty _ harguments]
    exact hpredicates (.call (Check.function .empty) [Field.formula .all]) _ .is
  | hasInvalid harguments =>
    rw [hvalue.hasInvalid _ harguments]
    exact hpredicates (.call (Check.function .invalid) [Field.formula .all]) _ .is
  | matching => exact hpredicates _ _ .matching
  | complies => exact hpredicates _ _ .complies
  | contains =>
    rw [hvalue.contains]
    exact hpredicates _ _ .contains
  | flaggedContains => exact hpredicates _ _ .contains
  | between =>
    rw [hvalue.closedRange]
    exact hpredicates _ _ (.between rfl rfl)
  | lowerBetween =>
    rw [hvalue.upperClosedRange]
    exact hpredicates _ _ (.between rfl rfl)
  | flaggedBetween => exact hpredicates _ _ (.between rfl rfl)
  | oneOf hname =>
    rcases hname with rfl | rfl
    · exact hpredicates _ _ (.oneOf rfl)
    · rw [hvalue.isPresentIn]
      exact hpredicates _ _ (.oneOf rfl)

theorem Raising.comparison_holds {operator : Comparison} {left right : Formula} {query : Query}
    (h : comparison operator left right = .ok query) (hvalue : Formula.Uniform value)
    (hpredicates : Corresponds value predicates) :
    query.holds predicates = value (.compare operator left right) := by
  obtain ⟨predicate, rfl, hcompared⟩ := comparison_cases h
  exact hcompared.value_eq hvalue hpredicates

theorem Raising.negationOf_holds {operand : Formula} {raised : Except Error Query} {query : Query}
    {truth : Bool} (h : negationOf operand raised = .ok query)
    (hraised : ∀ result, raised = .ok result → result.holds predicates = truth) :
    query.holds predicates = !truth := by
  unfold negationOf at h
  split at h
  · cases h
  · obtain ⟨result, hresult, rfl⟩ := except_map_eq_ok.1 h
    rw [Query.holds_negation, hraised result hresult]

mutual

/-- A formula has the truth value of the query that it is raised to. -/
theorem Raising.holds_of_raise (hvalue : Formula.Uniform value)
    (hpredicates : Corresponds value predicates) : (formula : Formula) → (query : Query) →
    raise false formula = .ok query → query.holds predicates = formula.holds value
  | .any operands, _, h => by
    obtain ⟨queries, heach, hend⟩ := except_bind_eq_ok.1 h
    cases hend
    rw [Query.holds_disjunction, Formula.holds]
    exact (holds_of_raiseEach hvalue hpredicates operands queries heach).1
  | .all operands, _, h => by
    obtain ⟨queries, heach, hend⟩ := except_bind_eq_ok.1 h
    cases hend
    rw [Query.holds_conjunction, Formula.holds]
    exact (holds_of_raiseEach hvalue hpredicates operands queries heach).2
  | .not operand, _, h => by
    rw [Formula.holds]
    exact negationOf_holds h (holds_of_raise hvalue hpredicates operand)
  | .compare operator left right, query, h => by
    show query.holds predicates = value (.compare operator left right)
    exact comparison_holds h hvalue hpredicates
  | .assignment target right, query, h => by
    show query.holds predicates = value (.assignment target right)
    rw [hvalue.assignment]
    exact comparison_holds h hvalue hpredicates
  | .call name arguments, query, h => by
    unfold raise at h
    unfold Formula.holds
    split at h
    · next hname =>
      rw [if_pos hname]
      split at h
      · next operand => exact negationOf_holds h (holds_of_raise hvalue hpredicates operand)
      · cases h
    · next hname =>
      rw [if_neg hname]
      obtain ⟨predicate, rfl, hcalled⟩ := call_cases h
      exact hcalled.value_eq hvalue hpredicates
  | .path _, _, h | .allFields, _, h | .literal _, _, h | .arithmetic .., _, h
  | .conditional .., _, h | .switch .., _, h | .array _, _, h | .block _, _, h => nomatch h

/-- One of several formulas holds where one of the queries does, and all hold where all do. -/
theorem Raising.holds_of_raiseEach (hvalue : Formula.Uniform value)
    (hpredicates : Corresponds value predicates) : (formulas : List Formula) →
    (queries : List Query) → raiseEach false formulas = .ok queries →
    Query.anyHolds predicates queries = Formula.anyHolds value formulas ∧
    Query.allHold predicates queries = Formula.allHold value formulas
  | [], _, h => by
    cases h
    exact ⟨rfl, rfl⟩
  | formula :: formulas, _, h => by
    obtain ⟨first, hfirst, hafter⟩ := except_bind_eq_ok.1 h
    obtain ⟨rest, hrest, hend⟩ := except_bind_eq_ok.1 hafter
    cases hend
    have hone := holds_of_raise hvalue hpredicates formula first hfirst
    obtain ⟨hany, hall⟩ := holds_of_raiseEach hvalue hpredicates formulas rest hrest
    rw [Query.anyHolds, Query.allHold, Formula.anyHolds, Formula.allHold, hone, hany, hall]
    exact ⟨rfl, rfl⟩

end

end Conditions

/-- Raising keeps the meaning of a formula, however groups and negations are nested in it. Truth
values of conditions that are the same for all spellings of a condition are truth values of
predicates as well, and the query that a formula is raised to holds where the formula does. -/
theorem raise_preserves_meaning {value : Formula → Bool} (hvalue : Formula.Uniform value) :
    (∃ predicates, Corresponds value predicates) ∧
    ∀ predicates, Corresponds value predicates →
      ∀ (formula : Formula) (query : Query), formula.raise .generic = .ok query →
        query.holds predicates = formula.holds value := by
  refine ⟨hvalue.exists_corresponds, fun predicates hpredicates formula query h => ?_⟩
  obtain ⟨result, hresult, hend⟩ := except_bind_eq_ok.1 h
  cases hend
  rw [Query.holds_disjunction, Query.anyHolds_singleton]
  exact Raising.holds_of_raise hvalue hpredicates formula result hresult

theorem raise_preserves_meaning_of_flipped_comparison :
    ∃ (value : Formula → Bool) (predicates : Predicate → Bool) (query : Query),
      Formula.Uniform value ∧ Corresponds value predicates ∧
      (Formula.any [.not (.compare .lt (.literal (.long 5)) (.path "a")),
        .all [.all [], .call "not" [.call "isPresentIn" [.path "b", .literal (.int 1)]]]]).raise
          .generic = .ok query ∧
      query.holds predicates = true := by
  have hraise : (Formula.any [.not (.compare .lt (.literal (.long 5)) (.path "a")),
      .all [.all [], .call "not" [.call "isPresentIn" [.path "b", .literal (.int 1)]]]]).raise
        .generic = .ok (.any [
      .all [.not (.any [.all [.leaf ⟨.named "a", .compare .gt (.literal ⟨.integer, "5"⟩)⟩]])],
      .all [.not (.any [.all [.leaf ⟨.named "b", .oneOf [⟨.integer, "1"⟩]⟩]])]]) := by
    decide +kernel
  -- Comparisons hold under these truth values, and calls do not.
  have huniform : Formula.Uniform fun condition => condition.precedence != 7 := by
    constructor <;> intros <;> rfl
  obtain ⟨⟨predicates, hpredicates⟩, hholds⟩ := raise_preserves_meaning huniform
  exact ⟨_, predicates, _, huniform, hpredicates, hraise, hholds predicates hpredicates _ _ hraise⟩

end RecordQuery
