import RecordQuery.Proofs.Formula.Levels

/-! What the parser of formulas takes by itself, and formulas by their tokens. `Reads` says that
tokens are read as a formula at a level, formulas nested in it at any depth that the tokens do not
exceed; there is a rule for each kind of formula but conditionals and switches. -/

namespace RecordQuery.Formula

open RecordQuery.Parser

namespace Grammar

variable {tokens : List Token} {token : Token} {value : Formula} {p : Token → Prop}
  {primary : Parser Token Formula}

/-! ### Signed operands -/

theorem parses_unaryOf (hb : token ≠ .sign .bang) (hm : token ≠ .sign .minus)
    (h : Parses primary (token :: tokens) value p) (count : Nat) :
    Parses (unaryOf primary count) (token :: tokens) value p := by
  cases count with
  | zero => exact h
  | succ count =>
    refine .look ?_
    split
    · exact absurd rfl hb
    · exact absurd rfl hm
    · exact h

theorem parses_unary (hb : token ≠ .sign .bang) (hm : token ≠ .sign .minus)
    (h : Parses primary (token :: tokens) value p) :
    Parses (unary primary) (token :: tokens) value p :=
  .budget_bind fun count _ => parses_unaryOf hb hm h count

theorem parses_not (hb : token ≠ .sign .bang) (hm : token ≠ .sign .minus)
    (h : Parses primary (token :: tokens) value p) :
    Parses (unary primary) (.sign .bang :: token :: tokens) (.not value) p := by
  refine .budget_bind fun count hcount => ?_
  cases count with
  | zero => cases hcount
  | succ count => exact .look (.advance_bind (parses_unaryOf hb hm h count).map)

/-- A minus sign before a number makes a number of it. -/
theorem parses_minus {number : Value} (hnumber : number.isNumber = true)
    (h : Parses primary [.literal number] (.literal number) p) :
    Parses (unary primary) [.sign .minus, .literal number] (.literal number.negate) p := by
  refine .budget_bind fun count hcount => ?_
  cases count with
  | zero => cases hcount
  | succ count =>
    have hnegate : (Formula.literal number).negate = .literal number.negate := by
      rw [Formula.negate, if_pos hnumber]
    rw [← hnegate]
    exact .look (.advance_bind (.look (parses_unaryOf (by simp) (by simp) h count).map))

theorem parses_leastLong :
    Parses (unary primary) [.sign .minus, .leastLong]
      (.literal (.long (-Token.leastLongMagnitude))) p := by
  refine .budget_bind fun count hcount => ?_
  cases count with
  | zero => cases hcount
  | succ count => exact .look (.advance_bind (.look (.advance_bind .pure)))

/-! ### Lists -/

/-- An item of a list: a formula of any kind, which begins with a token that formulas begin with. -/
structure IsItem (item : Parser Token Formula) (tokens : List Token) (value : Formula) : Prop where
  opens : tokens.head?.any Token.opens = true
  parses : Parses item tokens value (·.tightness ≤ 0)

/-- No formula, or several with a separator between neighbours. -/
inductive Listed (separator : Sign) (relation : List Token → Formula → Prop) :
    List Token → List Formula → Prop
  | nil : Listed separator relation [] []
  | some {tokens : List Token} {values : List Formula} :
      SeparatedBy (.sign separator) relation tokens values →
      Listed separator relation tokens values

section List

variable {item : Parser Token Formula} {values : List Formula} {close : Sign}

/-- An item is not the end of its list. -/
theorem IsItem.not_closes (h : IsItem item tokens value) (hc : close.closes = true) :
    ∃ token rest, tokens = token :: rest ∧ token.isSign close = false := by
  have hopens := h.opens
  cases tokens with
  | nil => cases hopens
  | cons token rest => exact ⟨token, rest, rfl, Token.isSign_eq_false_of_opens hopens hc⟩

theorem parses_itemsBefore_nil (count : Nat) :
    Parses (itemsBefore item close count) [] [] (· = .sign close) := by
  cases count with
  | zero => exact .pure
  | succ count =>
    refine parses_atSign_of_nil fun t ht => ?_
    rw [ht, Token.isSign_self]
    exact .pure

theorem parses_itemsBefore (hc : close.closes = true)
    (h : SeparatedBy (.sign .comma) (IsItem item) tokens values) {count : Nat}
    (hcount : values.length ≤ count) :
    Parses (itemsBefore item close count) tokens values (· = .sign close) := by
  have hclose : (Token.sign close).tightness ≤ 0 := Nat.le_of_eq (Sign.tightness_of_closes hc)
  induction h generalizing count with
  | one hitem =>
    cases count with
    | zero => exact absurd hcount (Nat.not_succ_le_zero _)
    | succ count =>
      obtain ⟨token, rest, rfl, hfirst⟩ := hitem.not_closes hc
      refine parses_atSign_of_cons ?_
      rw [hfirst]
      refine hitem.parses.bind_nil (parses_atSign_of_nil fun t ht => ?_) fun t ht => ht ▸ hclose
      rw [ht, Token.isSign_self]
      exact (parses_itemsBefore_nil count).map
  | cons hitem _ ih =>
    cases count with
    | zero => exact absurd hcount (Nat.not_succ_le_zero _)
    | succ count =>
      obtain ⟨token, rest, rfl, hfirst⟩ := hitem.not_closes hc
      refine parses_atSign_of_cons ?_
      rw [hfirst]
      refine hitem.parses.bind_cons (parses_atSign_of_cons ?_) (by decide)
      rw [Token.isSign_eq_false_of_closes hc rfl]
      exact parses_expectSign_bind (ih (Nat.le_of_succ_le_succ hcount)).map

theorem parses_listBefore (hc : close.closes = true)
    (h : Listed .comma (IsItem item) tokens values) :
    Parses (listBefore item close) (tokens ++ [.sign close]) values p := by
  refine .budget_bind fun count hcount => ?_
  rw [List.length_append, List.length_singleton] at hcount
  have hitems : Parses (itemsBefore item close count) tokens values (· = .sign close) := by
    cases h with
    | nil => exact parses_itemsBefore_nil count
    | some h => exact parses_itemsBefore hc h (Nat.le_trans h.length_le hcount)
  exact hitems.bind_cons (parses_expectSign_bind .pure) rfl

theorem parses_blockItems_nil (count : Nat) :
    Parses (blockItems item count) [] [] (· = .sign .rightBrace) := by
  cases count with
  | zero => exact .pure
  | succ count =>
    refine parses_atSign_of_nil fun t ht => ?_
    rw [ht]
    exact .pure

theorem parses_blockItems (h : SeparatedBy (.sign .semicolon) (IsItem item) tokens values)
    {count : Nat} (hcount : values.length ≤ count) :
    Parses (blockItems item count) tokens values (· = .sign .rightBrace) := by
  induction h generalizing count with
  | one hitem =>
    cases count with
    | zero => exact absurd hcount (Nat.not_succ_le_zero _)
    | succ count =>
      obtain ⟨token, rest, rfl, hfirst⟩ := hitem.not_closes (rfl : Sign.rightBrace.closes = true)
      refine parses_atSign_of_cons ?_
      rw [hfirst]
      refine hitem.parses.bind_nil ?_ fun t ht => ht ▸ Nat.le_refl 0
      refine parses_atSign_of_nil fun t ht => parses_atSign_of_nil fun u hu => ?_
      rw [ht, hu]
      exact .pure
  | cons hitem _ ih =>
    cases count with
    | zero => exact absurd hcount (Nat.not_succ_le_zero _)
    | succ count =>
      obtain ⟨token, rest, rfl, hfirst⟩ := hitem.not_closes (rfl : Sign.rightBrace.closes = true)
      refine parses_atSign_of_cons ?_
      rw [hfirst]
      refine hitem.parses.bind_cons (parses_atSign_of_cons (parses_atSign_of_cons ?_)) (by decide)
      exact .advance_bind (ih (Nat.le_of_succ_le_succ hcount)).map

theorem parses_block (h : Listed .semicolon (IsItem item) tokens values) :
    Parses (block item) (tokens ++ [.sign .rightBrace]) (.block values) p := by
  refine .budget_bind fun count hcount => ?_
  rw [List.length_append, List.length_singleton] at hcount
  have hitems : Parses (blockItems item count) tokens values (· = .sign .rightBrace) := by
    cases h with
    | nil => exact parses_blockItems_nil count
    | some h => exact parses_blockItems h (Nat.le_trans h.length_le hcount)
  exact hitems.bind_cons (parses_expectSign_bind .pure) rfl

end List

end Grammar

/-! ### Formulas by their tokens -/

open Grammar

/-- The tokens are read as this formula at a level, formulas nested in it at any depth that the
tokens do not exceed. -/
structure Reads (level : Nat) (tokens : List Token) (value : Formula) : Prop where
  opens : tokens.head?.any Token.opens = true
  takes : ∀ depth, tokens.length ≤ depth → Takes (primary depth) level tokens value

namespace Reads

variable {level : Nat} {tokens more rest : List Token} {token : Token}
  {value left right : Formula} {values : List Formula} {separator : Sign}

theorem opens_append (h : tokens.head?.any Token.opens = true) :
    (tokens ++ more).head?.any Token.opens = true := by
  cases tokens with
  | nil => cases h
  | cons token tokens => exact h

/-- What is read at a level is read at every looser one. -/
theorem loosen {tight : Nat} (h : Reads tight tokens value) (hle : level ≤ tight) :
    Reads level tokens value :=
  ⟨h.opens, fun depth hdepth => (h.takes depth hdepth).loosen hle⟩

/-- A formula between other formulas, on either side of an operator. -/
theorem binary {below above : Nat} {operator : Token} {result : Formula}
    (hl : Reads below tokens left) (hr : Reads above more right)
    (h : ∀ depth, Takes (primary depth) below tokens left → Takes (primary depth) above more right →
      Takes (primary depth) level (tokens ++ operator :: more) result) :
    Reads level (tokens ++ operator :: more) result := by
  refine ⟨opens_append hl.opens, fun depth hdepth => ?_⟩
  rw [List.length_append, List.length_cons] at hdepth
  exact h depth (hl.takes depth (by omega)) (hr.takes depth (by omega))

theorem assignment (hl : Reads 1 tokens left) (hr : Reads 1 more right) :
    Reads 0 (tokens ++ .sign .assign :: more) (.assignment left right) :=
  hl.binary hr fun _ => Takes.assignment

theorem compare (operator : Comparison) (hl : Reads 4 tokens left) (hr : Reads 4 more right) :
    Reads 3 (tokens ++ .sign operator.sign :: more) (.compare operator left right) :=
  hl.binary hr fun _ => Takes.compare operator

theorem arithmetic (operator : Arithmetic) (hl : Reads operator.precedence tokens left)
    (hr : Reads (operator.precedence + 1) more right) :
    Reads operator.precedence (tokens ++ .sign operator.sign :: more)
      (.arithmetic operator left right) :=
  hl.binary hr fun _ => Takes.arithmetic operator

theorem opens_of_separatedBy
    (h : SeparatedBy (.sign separator) (Reads level) tokens values) :
    tokens.head?.any Token.opens = true := by
  cases h with
  | one hpart => exact hpart.opens
  | cons hpart _ => exact opens_append hpart.opens

theorem takes_of_separatedBy {depth : Nat}
    (h : SeparatedBy (.sign separator) (Reads level) tokens values)
    (hdepth : tokens.length ≤ depth) :
    SeparatedBy (.sign separator) (Takes (primary depth) level) tokens values :=
  h.bounded.imp fun hpart => hpart.2.takes depth (Nat.le_trans hpart.1 hdepth)

theorem any (h : SeparatedBy (.sign .orOr) (Reads 2) tokens values) (hlen : 2 ≤ values.length) :
    Reads 1 tokens (.any values) :=
  ⟨opens_of_separatedBy h, fun _ hdepth => .any (takes_of_separatedBy h hdepth) hlen⟩

theorem all (h : SeparatedBy (.sign .andAnd) (Reads 3) tokens values) (hlen : 2 ≤ values.length) :
    Reads 2 tokens (.all values) :=
  ⟨opens_of_separatedBy h, fun _ hdepth => .all (takes_of_separatedBy h hdepth) hlen⟩

/-! ### What needs no parentheses -/

theorem of_unary (hopens : token.opens = true)
    (h : ∀ depth, rest.length ≤ depth →
      Parses (unary (primary (depth + 1))) (token :: rest) value (·.tightness ≤ 7)) :
    Reads 7 (token :: rest) value := by
  refine ⟨hopens, fun depth hdepth => ?_⟩
  cases depth with
  | zero => cases hdepth
  | succ depth =>
    have hparses := h depth (Nat.le_of_succ_le_succ hdepth)
    exact .of_parses (Takes.precedence_ne_of_gt (by decide)) hparses

/-- What stands by itself and begins with no sign of an operand. -/
theorem of_primary (hopens : token.opens = true) (hb : token ≠ .sign .bang)
    (hm : token ≠ .sign .minus)
    (h : ∀ depth, rest.length ≤ depth →
      Parses (primary (depth + 1)) (token :: rest) value (·.tightness ≤ 7)) :
    Reads 7 (token :: rest) value :=
  of_unary hopens fun depth hdepth => parses_unary hb hm (h depth hdepth)

theorem parses_literal (depth : Nat) (value : Value) {p : Token → Prop} :
    Parses (primary (depth + 1)) [.literal value] (.literal value) p :=
  .look (.consume_bind .pure)

theorem literal (value : Value) : Reads 7 [.literal value] (.literal value) :=
  of_primary rfl (by simp) (by simp) fun depth _ => parses_literal depth value

theorem minus {number : Value} (hnumber : number.isNumber = true) :
    Reads 7 [.sign .minus, .literal number] (.literal number.negate) :=
  of_unary rfl fun depth _ => parses_minus hnumber (parses_literal depth number)

theorem leastLong :
    Reads 7 [.sign .minus, .leastLong] (.literal (.long (-Token.leastLongMagnitude))) :=
  of_unary rfl fun _ _ => parses_leastLong

theorem allFields : Reads 7 [.sign .star] .allFields :=
  of_primary rfl (by simp) (by simp) fun _ _ => .look (.consume_bind .pure)

theorem path (name : String) : Reads 7 [.name name] (.path name) := by
  refine of_primary rfl (by simp) (by simp) fun _ _ => .look (.consume_bind ?_)
  refine parses_atSign_of_nil fun t ht => ?_
  rw [Token.isSign_eq_false (Nat.lt_succ_of_le ht)]
  exact .pure

theorem isItem {depth : Nat} (h : Reads 0 tokens value) (hdepth : tokens.length ≤ depth) :
    IsItem (expression (primary depth)) tokens value :=
  ⟨h.opens, (h.takes depth hdepth).parses⟩

theorem isItem_of_listed {depth : Nat} (h : Listed separator (Reads 0) tokens values)
    (hdepth : tokens.length ≤ depth) :
    Listed separator (IsItem (expression (primary depth))) tokens values := by
  cases h with
  | nil => exact .nil
  | some h => exact .some (h.bounded.imp fun hpart => hpart.2.isItem (Nat.le_trans hpart.1 hdepth))

theorem parses_parens {depth : Nat} {p : Token → Prop} (h : Reads 0 tokens value)
    (hdepth : tokens.length ≤ depth) :
    Parses (primary (depth + 1)) (.sign .leftParen :: (tokens ++ [.sign .rightParen])) value p := by
  have hitem := (h.isItem hdepth).parses
  exact .look (.consume_bind (hitem.bind_cons (parses_expectSign_bind .pure) (by decide)))

theorem parens (h : Reads 0 tokens value) :
    Reads 7 (.sign .leftParen :: (tokens ++ [.sign .rightParen])) value :=
  of_primary rfl (by simp) (by simp) fun depth hdepth => by
    rw [List.length_append] at hdepth
    exact h.parses_parens (by omega)

theorem not (h : Reads 0 tokens value) :
    Reads 7 (.sign .bang :: .sign .leftParen :: (tokens ++ [.sign .rightParen])) (.not value) :=
  of_unary rfl fun depth hdepth => by
    rw [List.length_cons, List.length_append] at hdepth
    exact parses_not (by simp) (by simp) (h.parses_parens (by omega))

theorem call (function : String) (h : Listed .comma (Reads 0) tokens values) :
    Reads 7 (.name function :: .sign .leftParen :: (tokens ++ [.sign .rightParen]))
      (.call function values) :=
  of_primary rfl (by simp) (by simp) fun depth hdepth => by
    rw [List.length_cons, List.length_append] at hdepth
    have hitems : Listed .comma (IsItem (expression (Grammar.primary depth))) tokens values :=
      isItem_of_listed h (by omega)
    refine .look (.consume_bind (parses_atSign_of_cons ?_))
    exact .advance_bind (parses_listBefore rfl hitems).map

theorem array (h : Listed .comma (Reads 0) tokens values) :
    Reads 7 (.sign .leftBracket :: (tokens ++ [.sign .rightBracket])) (.array values) :=
  of_primary rfl (by simp) (by simp) fun depth hdepth => by
    rw [List.length_append] at hdepth
    have hitems : Listed .comma (IsItem (expression (Grammar.primary depth))) tokens values :=
      isItem_of_listed h (by omega)
    exact .look (.consume_bind (parses_listBefore rfl hitems).map)

theorem block (h : Listed .semicolon (Reads 0) tokens values) :
    Reads 7 (.sign .leftBrace :: (tokens ++ [.sign .rightBrace])) (.block values) :=
  of_primary rfl (by simp) (by simp) fun depth hdepth => by
    rw [List.length_append] at hdepth
    have hitems : Listed .semicolon (IsItem (expression (Grammar.primary depth))) tokens values :=
      isItem_of_listed h (by omega)
    exact .look (.consume_bind (parses_block hitems))

theorem parses_whole (h : Reads 0 tokens value) : Parses whole tokens value (· = .done) := by
  refine .budget_bind fun count hcount => ?_
  refine (h.takes count hcount).parses.bind_nil (.peek fun t ht => ?_) fun t ht => ?_
  · rw [ht]
    exact .pure
  · rw [ht]
    exact Nat.le_refl 0

end Reads

end RecordQuery.Formula
