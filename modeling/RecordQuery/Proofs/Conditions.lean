import RecordQuery.Proofs.Raising

/-! What single conditions are raised to: all the spellings of comparisons (`Raising.Compared`) and
of calls (`Raising.Called`) that stand for a predicate, each with its predicate. -/

namespace RecordQuery

/-- The formula that names a field. -/
def Field.formula : Field → Formula
  | .named path => .path path
  | .all => .allFields

namespace Raising

/-- The comparisons that are raised, with their predicates: of a field with a literal or a field,
and of a literal with a path. -/
inductive Compared : Comparison → Formula → Formula → Predicate → Prop
  | literal {operator : Comparison} {field : Field} {a : Value} :
    Compared operator field.formula (.literal a) ⟨field, .compare operator (.literal a.raise)⟩
  | field {operator : Comparison} {field : Field} {other : String} :
    Compared operator field.formula (.path other) ⟨field, .compare operator (.field other)⟩
  | flipped {operator : Comparison} {a : Value} {path : String} :
    Compared operator (.literal a) (.path path)
      ⟨.named path, .compare operator.flipped (.literal a.raise)⟩

/-- The calls that are raised, with their predicates. -/
inductive Called : String → List Formula → Predicate → Prop
  | check {check : Check} {field : Field} :
    Called check.function [field.formula] ⟨field, .is check⟩
  | typedCheck {check : Check} {field : Field} {type : Formula} : check.needsType = true →
    Called check.function [field.formula, type] ⟨field, .is check⟩
  | hasEmpty {arguments : List Formula} : arguments = [] ∨ arguments = [.allFields] →
    Called "hasEmpty" arguments ⟨.all, .is .empty⟩
  | hasInvalid {arguments : List Formula} : arguments = [] ∨ arguments = [.allFields] →
    Called "hasInvalid" arguments ⟨.all, .is .invalid⟩
  | matching {field : Field} {regex : String} :
    Called "matches" [field.formula, .string regex] ⟨field, .matching regex⟩
  | complies {kind : PatternKind} {field : Field} {pattern : String} :
    Called kind.render [field.formula, .string pattern] ⟨field, .complies kind pattern⟩
  | contains {field : Field} {text : String} :
    Called "contains" [field.formula, .string text] ⟨field, .contains text true⟩
  | flaggedContains {field : Field} {text : String} {caseSensitive : Bool} :
    Called "contains" [field.formula, .string text, .boolean caseSensitive]
      ⟨field, .contains text caseSensitive⟩
  | between {field : Field} {a b : Value} : checkBounds a.raise b.raise = .ok () →
    Called "between" [field.formula, .literal a, .literal b]
      ⟨field, .between ⟨a.raise, b.raise, false, false⟩⟩
  | lowerBetween {field : Field} {a b : Value} {lowerOpen : Bool} :
    checkBounds a.raise b.raise = .ok () →
    Called "between" [field.formula, .literal a, .literal b, .boolean lowerOpen]
      ⟨field, .between ⟨a.raise, b.raise, lowerOpen, false⟩⟩
  | flaggedBetween {field : Field} {a b : Value} {lowerOpen upperOpen : Bool} :
    checkBounds a.raise b.raise = .ok () →
    Called "between" [field.formula, .literal a, .literal b, .boolean lowerOpen,
      .boolean upperOpen] ⟨field, .between ⟨a.raise, b.raise, lowerOpen, upperOpen⟩⟩
  | oneOf {name : String} {field : Field} {values : List Value} :
    name = "in" ∨ name = "isPresentIn" → values ≠ [] →
    Called name (field.formula :: values.map .literal) ⟨field, .oneOf (values.map Value.raise)⟩

section Arguments

variable {function name : String} {formula : Formula} {arguments : List Formula} {field : Field}
  {query : Query}

theorem eq_formula_of_fieldOf (h : fieldOf formula = .ok field) : formula = field.formula := by
  unfold fieldOf at h
  split at h <;> cases h <;> rfl

theorem eq_literal_of_literalOf {literal : Literal} (h : literalOf function formula = .ok literal) :
    ∃ a : Value, formula = .literal a ∧ literal = a.raise := by
  unfold literalOf at h
  split at h
  · next a => cases h; exact ⟨a, rfl, rfl⟩
  · cases h

theorem eq_map_of_literalsOf {literals : List Literal}
    (h : literalsOf function arguments = .ok literals) :
    ∃ values : List Value, arguments = values.map .literal ∧ literals = values.map Value.raise := by
  induction arguments generalizing literals with
  | nil => cases h; exact ⟨[], rfl, rfl⟩
  | cons argument arguments ih =>
    obtain ⟨first, hfirst, hafter⟩ := except_bind_eq_ok.1 h
    obtain ⟨rest, hrest, hend⟩ := except_bind_eq_ok.1 hafter
    cases hend
    obtain ⟨a, rfl, rfl⟩ := eq_literal_of_literalOf hfirst
    obtain ⟨values, rfl, rfl⟩ := ih hrest
    exact ⟨a :: values, rfl, rfl⟩

theorem eq_string_of_textOf {text : String} (h : textOf function formula = .ok text) :
    formula = .string text := by
  unfold textOf at h
  split at h <;> cases h
  rfl

theorem eq_boolean_of_flagOf {default flag : Bool} {argument : Option Formula}
    (h : flagOf function default argument = .ok flag) :
    (argument = none ∧ flag = default) ∨ argument = some (.boolean flag) := by
  unfold flagOf at h
  split at h <;> cases h
  · exact .inl ⟨rfl, rfl⟩
  · exact .inr rfl

/-! ### Comparisons -/

theorem compareField_cases {operator : Comparison} {right : Formula}
    (h : compareField operator field right = .ok query) :
    ∃ predicate, query = .leaf predicate ∧ Compared operator field.formula right predicate := by
  obtain ⟨operand, hoperand, rfl⟩ := except_map_eq_ok.1 h
  unfold operandOf at hoperand
  split at hoperand
  · cases hoperand
    exact ⟨_, rfl, .literal⟩
  · cases hoperand
    exact ⟨_, rfl, .field⟩
  · cases hoperand

/-- A comparison that is raised is one of the spellings. -/
theorem comparison_cases {operator : Comparison} {left right : Formula}
    (h : comparison operator left right = .ok query) :
    ∃ predicate, query = .leaf predicate ∧ Compared operator left right predicate := by
  unfold comparison at h
  split at h
  · next path => exact compareField_cases h
  · exact compareField_cases h
  · next a path =>
    obtain ⟨operand, hoperand, rfl⟩ := except_map_eq_ok.1 h
    cases hoperand
    exact ⟨_, rfl, .flipped⟩
  · cases h
  · cases h
  · cases h

/-! ### Calls -/

theorem checkOf_cases {check : Check} (h : checkOf check formula = .ok query) :
    ∃ field : Field, formula = field.formula ∧ query = .leaf ⟨field, .is check⟩ := by
  obtain ⟨field, hfield, rfl⟩ := except_map_eq_ok.1 h
  exact ⟨field, eq_formula_of_fieldOf hfield, rfl⟩

theorem checkOfAll_cases {check : Check} (h : checkOfAll function check arguments = .ok query) :
    (arguments = [] ∨ arguments = [.allFields]) ∧ query = .leaf ⟨.all, .is check⟩ := by
  unfold checkOfAll at h
  split at h
  · cases h; exact ⟨.inl rfl, rfl⟩
  · cases h; exact ⟨.inr rfl, rfl⟩
  · cases h

theorem textPredicate_cases {build : String → Test}
    (h : textPredicate function build arguments = .ok query) :
    ∃ (field : Field) (text : String), arguments = [field.formula, .string text] ∧
      query = .leaf ⟨field, build text⟩ := by
  unfold textPredicate at h
  split at h
  · obtain ⟨field, hfield, hafter⟩ := except_bind_eq_ok.1 h
    obtain ⟨text, htext, hend⟩ := except_bind_eq_ok.1 hafter
    cases hend
    rw [eq_formula_of_fieldOf hfield, eq_string_of_textOf htext]
    exact ⟨field, text, rfl, rfl⟩
  · cases h

theorem containsCall_cases {text : Formula} {flag : Option Formula}
    (h : containsCall function formula text flag = .ok query) :
    ∃ (field : Field) (content : String) (caseSensitive : Bool), formula = field.formula ∧
      text = .string content ∧
      ((flag = none ∧ caseSensitive = true) ∨ flag = some (.boolean caseSensitive)) ∧
      query = .leaf ⟨field, .contains content caseSensitive⟩ := by
  obtain ⟨caseSensitive, hflag, hrest⟩ := except_bind_eq_ok.1 h
  obtain ⟨field, hfield, hafter⟩ := except_bind_eq_ok.1 hrest
  obtain ⟨content, htext, hend⟩ := except_bind_eq_ok.1 hafter
  cases hend
  exact ⟨field, content, caseSensitive, eq_formula_of_fieldOf hfield, eq_string_of_textOf htext,
    eq_boolean_of_flagOf hflag, rfl⟩

theorem betweenCall_cases {left right : Formula} {flags : List Formula}
    (h : betweenCall function formula left right flags = .ok query) :
    ∃ (field : Field) (a b : Value) (lowerOpen upperOpen : Bool), formula = field.formula ∧
      left = .literal a ∧ right = .literal b ∧ checkBounds a.raise b.raise = .ok () ∧
      ((flags[0]? = none ∧ lowerOpen = false) ∨ flags[0]? = some (.boolean lowerOpen)) ∧
      ((flags[1]? = none ∧ upperOpen = false) ∨ flags[1]? = some (.boolean upperOpen)) ∧
      query = .leaf ⟨field, .between ⟨a.raise, b.raise, lowerOpen, upperOpen⟩⟩ := by
  obtain ⟨_, hleft, h⟩ := except_bind_eq_ok.1 h
  obtain ⟨_, hright, h⟩ := except_bind_eq_ok.1 h
  obtain ⟨_, hbounds, h⟩ := except_bind_eq_ok.1 h
  obtain ⟨lowerOpen, hlower, h⟩ := except_bind_eq_ok.1 h
  obtain ⟨upperOpen, hupper, h⟩ := except_bind_eq_ok.1 h
  obtain ⟨field, hfield, h⟩ := except_bind_eq_ok.1 h
  obtain ⟨a, rfl, rfl⟩ := eq_literal_of_literalOf hleft
  obtain ⟨b, rfl, rfl⟩ := eq_literal_of_literalOf hright
  cases h
  exact ⟨field, a, b, lowerOpen, upperOpen, eq_formula_of_fieldOf hfield, rfl, rfl, hbounds,
    eq_boolean_of_flagOf hlower, eq_boolean_of_flagOf hupper, rfl⟩

theorem oneOfCall_cases (h : oneOfCall function arguments = .ok query) :
    ∃ (field : Field) (values : List Value), values ≠ [] ∧
      arguments = field.formula :: values.map .literal ∧
      query = .leaf ⟨field, .oneOf (values.map Value.raise)⟩ := by
  unfold oneOfCall at h
  split at h
  · next formula value more =>
    obtain ⟨literals, hliterals, h⟩ := except_bind_eq_ok.1 h
    obtain ⟨field, hfield, h⟩ := except_bind_eq_ok.1 h
    cases h
    obtain ⟨values, hvalues, rfl⟩ := eq_map_of_literalsOf hliterals
    rw [eq_formula_of_fieldOf hfield, hvalues]
    refine ⟨field, values, ?_, rfl, rfl⟩
    rintro rfl
    cases hvalues
  · cases h

/-- The names of functions. -/
inductive Function.Named : String → Function → Prop
  | check {check : Check} : Named check.function (.check check)
  | hasEmpty : Named "hasEmpty" (.checkAll .empty)
  | hasInvalid : Named "hasInvalid" (.checkAll .invalid)
  | matching : Named "matches" .matching
  | complies {kind : PatternKind} : Named kind.render (.complies kind)
  | contains : Named "contains" .contains
  | between : Named "between" .between
  | oneOf {name : String} : name = "in" ∨ name = "isPresentIn" → Named name .oneOf

theorem Function.named_of_ofName? {f : Function} (h : ofName? name = some f) : Named name f := by
  unfold ofName? at h
  rcases ite_eq_iff.1 h with ⟨rfl, hf⟩ | ⟨-, h⟩
  · cases hf; exact (.check : Named (Check.function .null) _)
  rcases ite_eq_iff.1 h with ⟨rfl, hf⟩ | ⟨-, h⟩
  · cases hf; exact (.check : Named (Check.function .empty) _)
  rcases ite_eq_iff.1 h with ⟨rfl, hf⟩ | ⟨-, h⟩
  · cases hf; exact (.check : Named (Check.function .valid) _)
  rcases ite_eq_iff.1 h with ⟨rfl, hf⟩ | ⟨-, h⟩
  · cases hf; exact (.check : Named (Check.function .invalid) _)
  rcases ite_eq_iff.1 h with ⟨rfl, hf⟩ | ⟨-, h⟩
  · cases hf; exact .hasEmpty
  rcases ite_eq_iff.1 h with ⟨rfl, hf⟩ | ⟨-, h⟩
  · cases hf; exact .hasInvalid
  rcases ite_eq_iff.1 h with ⟨rfl, hf⟩ | ⟨-, h⟩
  · cases hf; exact .matching
  rcases ite_eq_iff.1 h with ⟨rfl, hf⟩ | ⟨-, h⟩
  · cases hf; exact (.complies : Named (PatternKind.render .character) _)
  rcases ite_eq_iff.1 h with ⟨rfl, hf⟩ | ⟨-, h⟩
  · cases hf; exact (.complies : Named (PatternKind.render .word) _)
  rcases ite_eq_iff.1 h with ⟨rfl, hf⟩ | ⟨-, h⟩
  · cases hf; exact .contains
  rcases ite_eq_iff.1 h with ⟨rfl, hf⟩ | ⟨-, h⟩
  · cases hf; exact .between
  rcases ite_eq_iff.1 h with ⟨hname, hf⟩ | ⟨-, h⟩
  · cases hf; exact .oneOf (by simpa using hname)
  · cases h

/-- A call that is raised is one of the spellings. -/
theorem call_cases (h : call name arguments = .ok query) :
    ∃ predicate, query = .leaf predicate ∧ Called name arguments predicate := by
  unfold call at h
  split at h
  · cases h
  · next check hname =>
    cases Function.named_of_ofName? hname
    split at h
    · next formula =>
      obtain ⟨field, rfl, rfl⟩ := checkOf_cases h
      exact ⟨_, rfl, .check⟩
    · next formula type =>
      split at h
      · next htype =>
        obtain ⟨field, rfl, rfl⟩ := checkOf_cases h
        exact ⟨_, rfl, .typedCheck htype⟩
      · cases h
    · cases h
  · next check hname =>
    obtain ⟨harguments, rfl⟩ := checkOfAll_cases h
    cases Function.named_of_ofName? hname with
    | hasEmpty => exact ⟨_, rfl, .hasEmpty harguments⟩
    | hasInvalid => exact ⟨_, rfl, .hasInvalid harguments⟩
  · next hname =>
    cases Function.named_of_ofName? hname
    obtain ⟨field, regex, rfl, rfl⟩ := textPredicate_cases h
    exact ⟨_, rfl, .matching⟩
  · next kind hname =>
    cases Function.named_of_ofName? hname
    obtain ⟨field, pattern, rfl, rfl⟩ := textPredicate_cases h
    exact ⟨_, rfl, .complies⟩
  · next hname =>
    cases Function.named_of_ofName? hname
    split at h
    · obtain ⟨field, text, caseSensitive, rfl, rfl, hflag, rfl⟩ := containsCall_cases h
      rcases hflag with ⟨-, rfl⟩ | hflag
      · exact ⟨_, rfl, .contains⟩
      · cases hflag
    · obtain ⟨field, text, caseSensitive, rfl, rfl, hflag, rfl⟩ := containsCall_cases h
      rcases hflag with ⟨hflag, -⟩ | hflag
      · cases hflag
      · cases hflag
        exact ⟨_, rfl, .flaggedContains⟩
    · cases h
  · next hname =>
    cases Function.named_of_ofName? hname
    split at h
    · next formula left right flags =>
      split at h
      · next hlength =>
        obtain ⟨field, a, b, lowerOpen, upperOpen, rfl, rfl, rfl, hbounds, hlower, hupper, rfl⟩ :=
          betweenCall_cases h
        refine ⟨_, rfl, ?_⟩
        match flags, hlength with
        | [], _ =>
          simp only [List.getElem?_nil, true_and, reduceCtorEq, or_false] at hlower hupper
          subst hlower hupper
          exact .between hbounds
        | [first], _ =>
          simp only [List.getElem?_cons_zero, List.getElem?_cons_succ, List.getElem?_nil, true_and,
            reduceCtorEq, false_and, false_or, or_false, Option.some.injEq] at hlower hupper
          subst hlower hupper
          exact .lowerBetween hbounds
        | [first, second], _ =>
          simp only [List.getElem?_cons_zero, List.getElem?_cons_succ, reduceCtorEq, false_and,
            false_or, Option.some.injEq] at hlower hupper
          subst hlower hupper
          exact .flaggedBetween hbounds
      · cases h
    · cases h
  · next hname =>
    cases Function.named_of_ofName? hname with
    | oneOf hin =>
      obtain ⟨field, values, hne, rfl, rfl⟩ := oneOfCall_cases h
      exact ⟨_, rfl, .oneOf hin hne⟩

/-- The comparison that guards stand before is one of their group. -/
theorem mem_of_guardedComparison? {formulas : List Formula} {operator : Comparison}
    {left right : Formula} (h : guardedComparison? formulas = some (operator, left, right)) :
    .compare operator left right ∈ formulas := by
  unfold guardedComparison? at h
  split at h
  · split at h
    · cases h
      simp
    · cases h
  · split at h
    · cases h
      simp
    · cases h
  · cases h

end Arguments

end Raising

end RecordQuery
