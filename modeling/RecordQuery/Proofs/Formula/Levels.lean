import RecordQuery.Formula.Parser
import RecordQuery.Formula.Printer
import RecordQuery.Proofs.Parsing

/-! The levels at which formulas are parsed, from assignments to signed operands. `Takes` says that
the parser of a level takes tokens and makes a formula of them; there is a rule for each operator,
and what is taken at a level is taken at every looser one (`Takes.loosen`). Operators that group to
the left are taken as a chain, to which one more operator can be added (`Chained.snoc`). -/

namespace RecordQuery

open RecordQuery.Parser

/-- The sign of an arithmetic operator. -/
def Arithmetic.sign : Arithmetic → Formula.Sign
  | .add => .plus
  | .sub => .minus
  | .mul => .star
  | .div => .slash
  | .mod => .percent

/-- The sign of a comparison. -/
def Comparison.sign : Comparison → Formula.Sign
  | .eq => .equal
  | .ne => .notEqual
  | .lt => .less
  | .gt => .greater
  | .le => .lessEqual
  | .ge => .greaterEqual

namespace Formula

/-- The levels that go on at a sign: those below this number. An opening parenthesis goes on after a
name, at every level. -/
def Sign.tightness : Sign → Nat
  | .assign => 1
  | .orOr => 2
  | .andAnd => 3
  | .equal | .notEqual | .less | .greater | .lessEqual | .greaterEqual => 4
  | .plus | .minus => 5
  | .star | .slash | .percent => 6
  | .leftParen => 8
  | _ => 0

/-- Whether a sign closes what another opened. -/
def Sign.closes : Sign → Bool
  | .rightParen | .rightBracket | .rightBrace => true
  | _ => false

namespace Token

/-- The levels that go on at a token: those below this number. -/
def tightness : Token → Nat
  | .sign s => s.tightness
  | _ => 0

/-- Whether a formula can begin with this token. -/
def opens : Token → Bool
  | .literal _ | .name _ => true
  | .sign .star | .sign .bang | .sign .minus => true
  | .sign .leftParen | .sign .leftBracket | .sign .leftBrace => true
  | .keyword .if | .keyword .switch => true
  | _ => false

theorem isSign_iff {sign : Sign} {token : Token} :
    token.isSign sign = true ↔ token = .sign sign := by
  cases token <;> simp [isSign]

theorem isSign_self (sign : Sign) : (Token.sign sign).isSign sign = true := by
  simp [isSign]

/-- A level ends at a token that only looser levels go on at. -/
theorem isSign_eq_false {sign : Sign} {token : Token}
    (h : token.tightness < sign.tightness) : token.isSign sign = false := by
  refine Bool.eq_false_iff.2 fun hs => ?_
  rw [isSign_iff.1 hs] at h
  exact Nat.lt_irrefl _ h

theorem isSign_eq_false_of_opens {sign : Sign} {token : Token} (h : token.opens = true)
    (hs : sign.closes = true) : token.isSign sign = false := by
  refine Bool.eq_false_iff.2 fun hsign => ?_
  rw [isSign_iff.1 hsign] at h
  cases sign <;> first | exact absurd h (by decide) | exact absurd hs (by decide)

theorem isSign_eq_false_of_closes {sign other : Sign} (h : sign.closes = true)
    (hs : other.closes = false) : (Token.sign other).isSign sign = false := by
  refine Bool.eq_false_iff.2 fun hsign => ?_
  rw [Token.sign.inj (isSign_iff.1 hsign), h] at hs
  cases hs

end Token

theorem Sign.tightness_of_closes {sign : Sign} (h : sign.closes = true) : sign.tightness = 0 := by
  cases sign <;> first | rfl | cases h

namespace Grammar

variable {β : Type} {tokens more : List Token} {token : Token} {sign : Sign} {b : β}
  {p q : Token → Prop}

/-! ### Signs -/

theorem atSign_bind {next : Bool → Parser Token β} :
    (atSign sign >>= next) = current >>= fun t => next (t.isSign sign) :=
  funext fun _ => rfl

theorem parses_atSign_of_cons {next : Bool → Parser Token β}
    (h : Parses (next (token.isSign sign)) (token :: tokens) b p) :
    Parses (atSign sign >>= next) (token :: tokens) b p := by
  rw [atSign_bind]
  exact Parses.look h

theorem parses_atSign_of_nil {next : Bool → Parser Token β}
    (h : ∀ t, p t → Parses (next (t.isSign sign)) [] b p) :
    Parses (atSign sign >>= next) [] b p := by
  rw [atSign_bind]
  exact Parses.peek h

theorem parses_expectSign : Parses (expectSign sign) [.sign sign] () p := by
  unfold expectSign
  refine parses_atSign_of_cons ?_
  rw [Token.isSign_self]
  exact .advance

theorem parses_expectSign_bind {parser : Parser Token β} (h : Parses parser tokens b p) :
    Parses (expectSign sign >>= fun _ => parser) (.sign sign :: tokens) b p :=
  .bind_token parses_expectSign h

/-! ### Chains of operators -/

/-- Operators with their right operands, which a formula takes up one after another. -/
inductive Steps (operator? : Token → Option Arithmetic) (item : Parser Token Formula)
    (p : Token → Prop) : Formula → List Token → Formula → Prop
  | nil {left : Formula} : Steps operator? item p left [] left
  | cons {left right result : Formula} {operator : Arithmetic} {token : Token}
      {part tokens : List Token} :
      operator? token = some operator → Parses item part right p →
      Steps operator? item p (.arithmetic operator left right) tokens result →
      Steps operator? item p left (token :: (part ++ tokens)) result

/-- A first operand, and operators with their right operands behind it. -/
inductive Chained (operator? : Token → Option Arithmetic) (item : Parser Token Formula)
    (p : Token → Prop) : List Token → Formula → Prop
  | intro {first rest : List Token} {left result : Formula} :
      Parses item first left p → Steps operator? item p left rest result →
      Chained operator? item p (first ++ rest) result

section Chain

variable {operator? : Token → Option Arithmetic} {item : Parser Token Formula}
  {left right result : Formula} {part : List Token} {operator : Arithmetic}

theorem Steps.snoc (h : Steps operator? item p left tokens result)
    (ht : operator? token = some operator) (hpart : Parses item part right p) :
    Steps operator? item p left (tokens ++ token :: part) (.arithmetic operator result right) := by
  induction h with
  | @nil left =>
    have h : Steps operator? item p left (token :: (part ++ []))
        (.arithmetic operator left right) :=
      .cons ht hpart .nil
    rwa [List.append_nil] at h
  | cons ht' hpart' _ ih =>
    rw [List.cons_append, List.append_assoc]
    exact .cons ht' hpart' ih

theorem Chained.one (h : Parses item tokens result p) : Chained operator? item p tokens result := by
  have h : Chained operator? item p (tokens ++ []) result := .intro h .nil
  rwa [List.append_nil] at h

theorem Chained.snoc (h : Chained operator? item p tokens left)
    (ht : operator? token = some operator) (hpart : Parses item part right p) :
    Chained operator? item p (tokens ++ token :: part) (.arithmetic operator left right) := by
  cases h with
  | intro hfirst hsteps =>
    rw [List.append_assoc]
    exact .intro hfirst (hsteps.snoc ht hpart)

/-- Behind an operand, its chain goes on at an operator or ends. -/
theorem Steps.link {middle after : Cursor Token}
    (h : Steps operator? item p left tokens result)
    (hp : ∀ t, (operator? t).isSome = true → p t) (hq : ∀ t, q t → p t)
    (hr : middle.Reads tokens after) (ht : q after.current) : p middle.current := by
  cases h with
  | nil =>
    cases hr
    exact hq _ ht
  | cons hoperator _ _ =>
    rw [hr.current_eq]
    exact hp _ (by rw [hoperator, Option.isSome_some])

theorem Steps.parses (h : Steps operator? item p left tokens result)
    (hp : ∀ t, (operator? t).isSome = true → p t) (hq : ∀ t, q t → p t ∧ operator? t = none)
    {count : Nat} (hcount : tokens.length ≤ count) :
    Parses (chain operator? item count left) tokens result q := by
  induction h generalizing count with
  | nil =>
    cases count with
    | zero => exact .pure
    | succ count =>
      refine .peek fun t ht => ?_
      rw [(hq t ht).2]
      exact .pure
  | cons hoperator hpart hsteps ih =>
    rw [List.length_cons, List.length_append] at hcount
    cases count with
    | zero => exact absurd hcount (by omega)
    | succ count =>
      refine .look ?_
      rw [hoperator]
      exact .advance_bind (hpart.bind (ih (by omega)) (hsteps.link hp fun t ht => (hq t ht).1))

theorem Chained.parses (h : Chained operator? item p tokens result)
    (hp : ∀ t, (operator? t).isSome = true → p t) (hq : ∀ t, q t → p t ∧ operator? t = none) :
    Parses (chained operator? item) tokens result q := by
  cases h with
  | intro hfirst hsteps =>
    have hlast : ∀ t, q t → p t := fun t ht => (hq t ht).1
    refine hfirst.bind (.budget_bind fun count hcount => ?_) (hsteps.link hp hlast)
    exact hsteps.parses hp hq hcount

end Chain

/-! ### Levels -/

/-- Parses operands joined by "and". -/
def conjunction (primary : Parser Token Formula) : Parser Token Formula := do
  return collapse .all (← separated (·.isSign .andAnd) (compared primary))

/-- The operators of a level of arithmetic. -/
def operatorAt : (level : Nat) → Token → Option Arithmetic
  | 4 => additive?
  | 5 => multiplicative?
  | _ => fun _ => none

/-- The parser of each level, from assignments to signed operands; the levels are those that the
precedence of formulas counts. -/
def atLevel (primary : Parser Token Formula) : (level : Nat) → Parser Token Formula
  | 0 => expression primary
  | 1 => disjunction primary
  | 2 => conjunction primary
  | 3 => compared primary
  | 4 => sum primary
  | 5 => chained multiplicative? (unary primary)
  | _ => unary primary

theorem atLevel_precedence (primary : Parser Token Formula) (operator : Arithmetic) :
    atLevel primary operator.precedence =
      chained (operatorAt operator.precedence) (atLevel primary (operator.precedence + 1)) := by
  cases operator <;> rfl

theorem operatorAt_sign (operator : Arithmetic) :
    operatorAt operator.precedence (.sign operator.sign) = some operator := by
  cases operator <;> rfl

theorem tightness_of_operatorAt {level : Nat} (h : (operatorAt level token).isSome = true) :
    token.tightness = level + 1 := by
  unfold operatorAt at h
  split at h
  · unfold additive? at h
    split at h <;> first | rfl | cases h
  · unfold multiplicative? at h
    split at h <;> first | rfl | cases h
  · cases h

theorem operatorAt_eq_none {level : Nat} (h : token.tightness ≤ level) :
    operatorAt level token = none := by
  rw [← Option.not_isSome_iff_eq_none]
  intro hsome
  have := tightness_of_operatorAt hsome
  omega

theorem comparison?_sign (operator : Comparison) :
    comparison? (.sign operator.sign) = some operator := by
  cases operator <;> rfl

theorem comparison?_eq_none (h : token.tightness ≤ 3) : comparison? token = none := by
  unfold comparison?
  split <;> first | rfl | exact absurd h (by decide)

variable {primary : Parser Token Formula} {left right value : Formula} {level : Nat}

/-- Operands joined by a sign of the next level. -/
theorem parses_joined {build : List Formula → Formula} {item : Parser Token Formula}
    {values : List Formula} (hs : sign.tightness = level + 1)
    (h : SeparatedBy (.sign sign)
      (fun part value => Parses item part value (·.tightness ≤ level + 1)) tokens values) :
    Parses (do return collapse build (← separated (·.isSign sign) item)) tokens
      (collapse build values) (·.tightness ≤ level) := by
  have hsign : ∀ t : Token, t.tightness ≤ level →
      t.tightness ≤ level + 1 ∧ t.isSign sign = false := fun t ht =>
    ⟨Nat.le_succ_of_le ht, Token.isSign_eq_false (hs ▸ Nat.lt_succ_of_le ht)⟩
  have hself : (Token.sign sign).tightness ≤ level + 1 := Nat.le_of_eq hs
  exact (Parses.separated (Token.isSign_self sign) hself hsign h).map

theorem collapse_of_length {build : List Formula → Formula} {values : List Formula}
    (h : 2 ≤ values.length) : collapse build values = build values := by
  unfold collapse
  split
  · simp at h
  · rfl

/-- The tokens are taken at a level, and where operators group to the left, as a chain that more
operators may follow. -/
structure Takes (primary : Parser Token Formula) (level : Nat) (tokens : List Token)
    (value : Formula) : Prop where
  parses : Parses (atLevel primary level) tokens value (·.tightness ≤ level)
  chained : ∀ operator : Arithmetic, operator.precedence = level →
    Chained (operatorAt level) (atLevel primary (level + 1)) (·.tightness ≤ level + 1) tokens value

namespace Takes

theorem of_parses (hlevel : ∀ operator : Arithmetic, operator.precedence ≠ level)
    (h : Parses (atLevel primary level) tokens value (·.tightness ≤ level)) :
    Takes primary level tokens value :=
  ⟨h, fun operator ho => absurd ho (hlevel operator)⟩

theorem of_chained (operator : Arithmetic)
    (h : Chained (operatorAt operator.precedence) (atLevel primary (operator.precedence + 1))
      (·.tightness ≤ operator.precedence + 1) tokens value) :
    Takes primary operator.precedence tokens value := by
  refine ⟨?_, fun _ _ => h⟩
  rw [atLevel_precedence]
  exact h.parses (fun t ht => Nat.le_of_eq (tightness_of_operatorAt ht))
    fun t ht => ⟨Nat.le_succ_of_le ht, operatorAt_eq_none ht⟩

theorem precedence_ne_of_lt (h : level < 4) (operator : Arithmetic) :
    operator.precedence ≠ level := by
  cases operator <;> simp only [Arithmetic.precedence] <;> omega

theorem precedence_ne_of_gt (h : 5 < level) (operator : Arithmetic) :
    operator.precedence ≠ level := by
  cases operator <;> simp only [Arithmetic.precedence] <;> omega

/-- What is taken at a level is taken at the next looser one, where nothing is added to it. -/
theorem lift (h : Takes primary (level + 1) tokens value) : Takes primary level tokens value := by
  have hnext := h.parses
  match level with
  | 0 =>
    refine of_parses (precedence_ne_of_lt (by decide)) ?_
    refine hnext.bind_nil (parses_atSign_of_nil fun t ht => ?_) fun t ht => Nat.le_succ_of_le ht
    rw [Token.isSign_eq_false (Nat.lt_succ_of_le ht)]
    exact .pure
  | 1 =>
    have hone : Parses (disjunction primary) tokens (collapse .any [value]) _ :=
      parses_joined rfl (.one hnext)
    exact of_parses (precedence_ne_of_lt (by decide)) hone
  | 2 =>
    have hone : Parses (conjunction primary) tokens (collapse .all [value]) _ :=
      parses_joined rfl (.one hnext)
    exact of_parses (precedence_ne_of_lt (by decide)) hone
  | 3 =>
    refine of_parses (precedence_ne_of_lt (by decide)) ?_
    refine hnext.bind_nil (.peek fun t ht => ?_) fun t ht => Nat.le_succ_of_le ht
    rw [comparison?_eq_none ht]
    exact .pure
  | 4 => exact of_chained .add (.one hnext)
  | 5 => exact of_chained .mul (.one hnext)
  | level + 6 =>
    exact of_parses (precedence_ne_of_gt (by omega)) (hnext.mono fun t ht => Nat.le_succ_of_le ht)

/-- What is taken at a level is taken at every looser one. -/
theorem loosen {tight : Nat} (h : Takes primary tight tokens value) (hle : level ≤ tight) :
    Takes primary level tokens value := by
  induction hle with
  | refl => exact h
  | step _ ih => exact ih h.lift

/-! ### Operators -/

theorem assignment (hl : Takes primary 1 tokens left) (hr : Takes primary 1 more right) :
    Takes primary 0 (tokens ++ .sign .assign :: more) (.assignment left right) := by
  refine of_parses (precedence_ne_of_lt (by decide)) ?_
  refine hl.parses.bind_cons (parses_atSign_of_cons ?_) (by decide)
  rw [Token.isSign_self]
  exact .advance_bind (hr.parses.mono fun t ht => Nat.le_succ_of_le ht).map

theorem any {values : List Formula}
    (h : SeparatedBy (.sign .orOr) (Takes primary 2) tokens values) (hlen : 2 ≤ values.length) :
    Takes primary 1 tokens (.any values) := by
  refine of_parses (precedence_ne_of_lt (by decide)) ?_
  have hjoined : Parses (disjunction primary) tokens (collapse .any values) _ :=
    parses_joined rfl (h.imp Takes.parses)
  rwa [collapse_of_length hlen] at hjoined

theorem all {values : List Formula}
    (h : SeparatedBy (.sign .andAnd) (Takes primary 3) tokens values) (hlen : 2 ≤ values.length) :
    Takes primary 2 tokens (.all values) := by
  refine of_parses (precedence_ne_of_lt (by decide)) ?_
  have hjoined : Parses (conjunction primary) tokens (collapse .all values) _ :=
    parses_joined rfl (h.imp Takes.parses)
  rwa [collapse_of_length hlen] at hjoined

theorem compare (operator : Comparison) (hl : Takes primary 4 tokens left)
    (hr : Takes primary 4 more right) :
    Takes primary 3 (tokens ++ .sign operator.sign :: more) (.compare operator left right) := by
  refine of_parses (precedence_ne_of_lt (by decide)) ?_
  refine hl.parses.bind_cons (.look ?_) (by cases operator <;> decide)
  rw [comparison?_sign]
  exact .advance_bind (hr.parses.mono fun t ht => Nat.le_succ_of_le ht).map

theorem arithmetic (operator : Arithmetic) (hl : Takes primary operator.precedence tokens left)
    (hr : Takes primary (operator.precedence + 1) more right) :
    Takes primary operator.precedence (tokens ++ .sign operator.sign :: more)
      (.arithmetic operator left right) :=
  of_chained operator ((hl.chained operator rfl).snoc (operatorAt_sign operator) hr.parses)

end Takes

end Grammar

end Formula

end RecordQuery
