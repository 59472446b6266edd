import RecordQuery.Proofs.Formula.Literals

/-! The text of a formula is parsed as that formula, for formulas of operators, functions, arrays
and blocks whose names and literals can be written. -/

namespace RecordQuery

namespace Formula

/-- Whether a formula is an assignment. -/
def isAssignment : Formula → Bool
  | .assignment _ _ => true
  | _ => false

/-- A formula that can be written: neither conditionals nor switches, names and literals that can be
written, two operands at least under "and" and "or", and no assignment as a side of another. -/
inductive Writable : Formula → Prop
  | path {name : String} : IsName name → Writable (.path name)
  | allFields : Writable .allFields
  | literal {value : Value} : value.Writable → Writable (.literal value)
  | call {function : String} {arguments : List Formula} :
      IsName function → (∀ argument ∈ arguments, Writable argument) →
      Writable (.call function arguments)
  | compare {operator : Comparison} {left right : Formula} :
      Writable left → Writable right → Writable (.compare operator left right)
  | all {operands : List Formula} :
      2 ≤ operands.length → (∀ operand ∈ operands, Writable operand) → Writable (.all operands)
  | any {operands : List Formula} :
      2 ≤ operands.length → (∀ operand ∈ operands, Writable operand) → Writable (.any operands)
  | not {operand : Formula} : Writable operand → Writable (.not operand)
  | arithmetic {operator : Arithmetic} {left right : Formula} :
      Writable left → Writable right → Writable (.arithmetic operator left right)
  | array {items : List Formula} :
      (∀ item ∈ items, Writable item) → Writable (.array items)
  | assignment {target value : Formula} :
      Writable target → Writable value → target.isAssignment = false → value.isAssignment = false →
      Writable (.assignment target value)
  | block {items : List Formula} :
      (∀ item ∈ items, Writable item) → Writable (.block items)

namespace Token

/-! ### Signs -/

theorem signs_star : Signs "*" [.sign .star] := signs_char (by decide) fun _ => rfl

theorem signs_leftParen : Signs "(" [.sign .leftParen] := signs_char (by decide) fun _ => rfl

theorem signs_rightParen : Signs ")" [.sign .rightParen] := signs_char (by decide) fun _ => rfl

theorem signs_leftBracket : Signs "[" [.sign .leftBracket] := signs_char (by decide) fun _ => rfl

theorem signs_rightBracket : Signs "]" [.sign .rightBracket] := signs_char (by decide) fun _ => rfl

theorem signs_blank : Signs " " [] := Spells.of_blank (by decide)

theorem signs_before_blank {text spaced : String} {sign : Sign} (htext : spaced = text ++ " ")
    (h : Signs text [.sign sign]) : Signs spaced [.sign sign] := by
  rw [htext]
  exact h.concat_of_all signs_blank

theorem signs_comma : Signs ", " [.sign .comma] :=
  signs_before_blank (by decide : ", " = "," ++ " ") (signs_char (by decide) fun _ => rfl)

theorem signs_semicolon : Signs "; " [.sign .semicolon] :=
  signs_before_blank (by decide : "; " = ";" ++ " ") (signs_char (by decide) fun _ => rfl)

theorem signs_leftBrace : Signs "\x7b " [.sign .leftBrace] :=
  signs_before_blank (by decide : "\x7b " = "\x7b" ++ " ") (signs_char (by decide) fun _ => rfl)

theorem signs_rightBrace : Signs " \x7d" [.sign .rightBrace] := by
  have hbrace : Signs "\x7d" [.sign .rightBrace] := signs_char (by decide) fun _ => rfl
  have htext : " \x7d" = " " ++ "\x7d" := by decide
  rw [htext]
  exact signs_blank.concat_of_all hbrace

theorem signs_bang : Signs "!(" [.sign .bang, .sign .leftParen] := by
  intro rest more hends hrest
  have hbang : Spelled read Text.isBlank ('!' :: [] ++ '(' :: rest)
      (.sign .bang :: .sign .leftParen :: more) :=
    .word (by decide) (sign_ne_done _) rfl (signs_leftParen rest more hends hrest)
  exact hbang

theorem signs_comparison (operator : Comparison) :
    Signs (" " ++ operator.formulaSymbol ++ " ") [.sign operator.sign] := by
  cases operator <;> exact signs_spaced rfl (by decide) fun _ => rfl

theorem signs_arithmetic (operator : Arithmetic) :
    Signs (" " ++ operator.symbol ++ " ") [.sign operator.sign] := by
  cases operator <;> exact signs_spaced rfl (by decide) fun _ => rfl

theorem signs_andAnd : Signs " && " [.sign .andAnd] := by
  have htext : " && " = " " ++ "&&" ++ " " := by decide
  rw [htext]
  exact signs_spaced rfl (by decide) fun _ => rfl

theorem signs_orOr : Signs " || " [.sign .orOr] := by
  have htext : " || " = " " ++ "||" ++ " " := by decide
  rw [htext]
  exact signs_spaced rfl (by decide) fun _ => rfl

theorem signs_assign : Signs " = " [.sign .assign] := by
  have htext : " = " = " " ++ "=" ++ " " := by decide
  rw [htext]
  exact signs_spaced rfl (by decide) fun _ => rfl

/-- A text between an opening and a closing one. -/
theorem writes_between {before text after : String} {opening tokens : List Token} {close : Sign}
    (hb : Spells read Text.isBlank (fun _ => true) before.toList opening)
    (ht : Writes text tokens) (ha : Signs after [.sign close])
    (hc : after.toList.head?.any endsWord = true) :
    Writes (before ++ text ++ after) (opening ++ (tokens ++ [.sign close])) := by
  rw [← List.append_assoc]
  exact (hb.concat_of_all ht).concat hc ha.of_all

end Token

open RecordQuery.Parser Token Grammar

/-- An operand as it is written at a place, in parentheses where it is too loose. -/
theorem exists_operand {r : Nat → List Token → Prop} {formula : Formula} {text : String}
    {least : Nat}
    (hloosen : ∀ {level tight : Nat} {tokens : List Token},
      r tight tokens → level ≤ tight → r level tokens)
    (hparens : ∀ {tokens : List Token},
      r 0 tokens → r 7 (.sign .leftParen :: (tokens ++ [.sign .rightParen])))
    (hleast : least ≤ 7) (h : ∃ tokens, Writes text tokens ∧ r formula.precedence tokens) :
    ∃ tokens, Writes (operandText least formula text) tokens ∧ r least tokens := by
  obtain ⟨tokens, htext, hreads⟩ := h
  unfold operandText
  by_cases hloose : formula.precedence < least
  · rw [if_pos hloose]
    exact ⟨_, writes_between signs_leftParen htext signs_rightParen (by decide +kernel),
      hloosen (hparens (hloosen hreads (Nat.zero_le _))) hleast⟩
  · rw [if_neg hloose]
    exact ⟨tokens, htext, hloosen hreads (by omega)⟩

theorem IsWritten.operand {formula : Formula} {text : String} {least : Nat} (hleast : least ≤ 7)
    (h : IsWritten formula.precedence text formula) :
    IsWritten least (operandText least formula text) formula :=
  exists_operand (r := fun level tokens => Reads level tokens formula) Reads.loosen Reads.parens
    hleast h

/-! ### Lists -/

theorem renderAll_eq_map (formulas : List Formula) : renderAll formulas = formulas.map render := by
  induction formulas with
  | nil => rfl
  | cons f fs ih => rw [renderAll, ih, List.map_cons]

theorem renderOperands_eq_map (least : Nat) (formulas : List Formula) :
    renderOperands least formulas = formulas.map fun f => operandText least f f.render := by
  induction formulas with
  | nil => rfl
  | cons f fs ih => rw [renderOperands, ih, List.map_cons]

section Joined

variable {separator : String} {sign : Sign} {formulas : List Formula}

/-- Texts that are read one by one are read with separators between them. -/
theorem exists_separated {relation : List Token → Formula → Prop} {text : Formula → String}
    (hs : Signs separator [.sign sign]) (hc : separator.toList.head?.any endsWord = true)
    (hne : formulas ≠ [])
    (h : ∀ f ∈ formulas, ∃ tokens, Writes (text f) tokens ∧ relation tokens f) :
    ∃ tokens, Writes (Text.joined separator (formulas.map text)) tokens ∧
      SeparatedBy (.sign sign) relation tokens formulas := by
  induction formulas with
  | nil => exact absurd rfl hne
  | cons f fs ih =>
    rw [List.forall_mem_cons] at h
    obtain ⟨⟨first, hfirst, hreads⟩, h⟩ := h
    cases fs with
    | nil => exact ⟨first, hfirst, .one hreads⟩
    | cons next fs =>
      obtain ⟨rest, hrest, hreadsAll⟩ := ih (by simp) h
      exact ⟨_, hfirst.separated hs hc hrest, .cons hreads hreadsAll⟩

/-- The operands of an operator, each in parentheses where it is too loose. -/
theorem exists_operands (least : Nat) (hs : Signs separator [.sign sign])
    (hc : separator.toList.head?.any endsWord = true) (hlen : 2 ≤ formulas.length)
    (hleast : least ≤ 7) (h : ∀ f ∈ formulas, IsWritten f.precedence f.render f) :
    ∃ tokens, Writes (Text.joined separator (renderOperands least formulas)) tokens ∧
      SeparatedBy (.sign sign) (Reads least) tokens formulas := by
  have hne : formulas ≠ [] := List.length_pos_iff.1 (by omega)
  rw [renderOperands_eq_map]
  exact exists_separated hs hc hne fun f hf => (h f hf).operand hleast

/-- The items of a list, if there are any. -/
theorem exists_items (hs : Signs separator [.sign sign])
    (hc : separator.toList.head?.any endsWord = true)
    (h : ∀ f ∈ formulas, IsWritten f.precedence f.render f) :
    ∃ tokens, Writes (Text.joined separator (renderAll formulas)) tokens ∧
      Listed sign (Reads 0) tokens formulas := by
  by_cases hne : formulas = []
  · subst hne
    exact ⟨[], .nil, .nil⟩
  · rw [renderAll_eq_map]
    obtain ⟨tokens, htext, hreads⟩ := exists_separated hs hc hne fun f hf =>
      (h f hf).loosen (Nat.zero_le _)
    exact ⟨tokens, htext, .some hreads⟩

end Joined

/-! ### Formulas -/

theorem one_le_precedence {formula : Formula} (h : formula.isAssignment = false) :
    1 ≤ formula.precedence := by
  cases formula with
  | arithmetic operator _ _ => cases operator <;> simp [precedence, Arithmetic.precedence]
  | assignment _ _ => cases h
  | _ => simp [precedence]

/-- Operands on both sides of an operator. -/
theorem exists_binary {below above : Nat} {left right : Formula} {textl textr separator : String}
    {sign : Sign} (hs : Signs separator [.sign sign])
    (hc : separator.toList.head?.any endsWord = true) (hl : IsWritten below textl left)
    (hr : IsWritten above textr right) :
    ∃ tokens more, Writes (textl ++ separator ++ textr) (tokens ++ .sign sign :: more) ∧
      Reads below tokens left ∧ Reads above more right := by
  obtain ⟨tokens, htokens, hreadsl⟩ := hl
  obtain ⟨more, hmore, hreadsr⟩ := hr
  exact ⟨tokens, more, htokens.separated hs hc hmore, hreadsl, hreadsr⟩

/-- The text of a formula that can be written is read as that formula, at the level of its
precedence. -/
theorem Writable.isWritten {formula : Formula} (h : formula.Writable) :
    IsWritten formula.precedence formula.render formula := by
  induction h with
  | path hname => exact ⟨_, writes_name hname, .path _⟩
  | allFields => exact ⟨_, signs_star.of_all, .allFields⟩
  | literal hvalue => exact (isSpelled_literal hvalue).isWritten
  | call hname _ ih =>
    obtain ⟨tokens, htext, hreads⟩ := exists_items signs_comma (by decide +kernel) ih
    refine ⟨_, ?_, .call _ hreads⟩
    have hopen := (writes_name hname).concat (by decide +kernel) signs_leftParen
    exact writes_between hopen htext signs_rightParen (by decide +kernel)
  | @compare operator left right _ _ ihl ihr =>
    have hleft : IsWritten 4 _ left := ihl.operand (by decide)
    have hright : IsWritten 4 _ right := ihr.operand (by decide)
    obtain ⟨tokens, more, htext, hl, hr⟩ := exists_binary (signs_comparison operator)
      (by cases operator <;> decide +kernel) hleft hright
    refine ⟨_, ?_, .compare operator hl hr⟩
    rw [render]
    simpa only [String.append_assoc] using htext
  | all hlen _ ih =>
    obtain ⟨tokens, htext, hreads⟩ :=
      exists_operands 3 signs_andAnd (by decide +kernel) hlen (by decide) ih
    exact ⟨tokens, htext, .all hreads hlen⟩
  | any hlen _ ih =>
    obtain ⟨tokens, htext, hreads⟩ :=
      exists_operands 2 signs_orOr (by decide +kernel) hlen (by decide) ih
    exact ⟨tokens, htext, .any hreads hlen⟩
  | not _ ih =>
    obtain ⟨tokens, htext, hreads⟩ := ih.loosen (Nat.zero_le _)
    exact ⟨_, writes_between signs_bang htext signs_rightParen (by decide +kernel), hreads.not⟩
  | @arithmetic operator left right _ _ ihl ihr =>
    -- A left operand of the same precedence has no parentheses: its chain goes on at the operator.
    have hleft : IsWritten operator.precedence _ left :=
      ihl.operand (by cases operator <;> decide)
    have hright : IsWritten (operator.precedence + 1) _ right :=
      ihr.operand (by cases operator <;> decide)
    obtain ⟨tokens, more, htext, hl, hr⟩ := exists_binary (signs_arithmetic operator)
      (by cases operator <;> decide +kernel) hleft hright
    refine ⟨_, ?_, .arithmetic operator hl hr⟩
    rw [render]
    simpa only [String.append_assoc] using htext
  | array _ ih =>
    obtain ⟨tokens, htext, hreads⟩ := exists_items signs_comma (by decide +kernel) ih
    exact ⟨_, writes_between signs_leftBracket htext signs_rightBracket (by decide +kernel),
      .array hreads⟩
  | assignment _ _ htarget hvalue iht ihv =>
    obtain ⟨tokens, more, htext, hl, hr⟩ := exists_binary signs_assign (by decide +kernel)
      (iht.loosen (one_le_precedence htarget)) (ihv.loosen (one_le_precedence hvalue))
    exact ⟨_, htext, .assignment hl hr⟩
  | block _ ih =>
    obtain ⟨tokens, htext, hreads⟩ := exists_items signs_semicolon (by decide +kernel) ih
    exact ⟨_, writes_between signs_leftBrace htext signs_rightBrace (by decide +kernel),
      .block hreads⟩

theorem IsWritten.parse_eq {level : Nat} {text : String} {formula : Formula}
    (h : IsWritten level text formula) : parse text = .ok formula := by
  obtain ⟨tokens, htext, hreads⟩ := h.loosen (Nat.zero_le _)
  exact hreads.parses_whole.run orderly_read (htext.spelled orderly_read .start)

/-- A formula that can be written is parsed from its text, the scales of its decimals included. -/
theorem parse_render_of_writable (formula : Formula) (h : formula.Writable) :
    parse formula.render = .ok formula :=
  h.isWritten.parse_eq

theorem parse_render_of_nested_differences :
    ∃ formula : Formula, formula.Writable ∧
      formula.render = "\x7b a = a - (-1 - 2.50); !(b.c) && (f() || *) \x7d" ∧
      parse formula.render = .ok formula := by
  have ha : IsName "a" := ⟨by decide +kernel, List.all_eq_true.1 (by decide +kernel), by decide⟩
  have hb : IsName "b.c" := ⟨by decide +kernel, List.all_eq_true.1 (by decide +kernel), by decide⟩
  have hf : IsName "f" := ⟨by decide +kernel, List.all_eq_true.1 (by decide +kernel), by decide⟩
  have hone : Value.Writable (.int (-1)) := .int (by decide)
  have hdecimal : Value.Writable (.decimal ⟨false, 250, 2, by decide, by decide⟩) :=
    .decimal (.inl (by decide))
  have hdifference : Writable (.arithmetic .sub (.path "a") (.arithmetic .sub _ _)) :=
    .arithmetic (.path ha) (.arithmetic (.literal hone) (.literal hdecimal))
  have hcall : Writable (.call "f" []) := .call hf (List.forall_mem_nil _)
  have hany : Writable (.any [.call "f" [], .allFields]) :=
    .any (by decide) (by simp [hcall, Writable.allFields])
  have hnot : Writable (.not (.path "b.c")) := .not (.path hb)
  have hall : Writable (.all [.not (.path "b.c"), .any [.call "f" [], .allFields]]) :=
    .all (by decide) (by simp [hnot, hany])
  have hassignment : Writable (.assignment (.path "a") _) :=
    .assignment (.path ha) hdifference rfl rfl
  have hblock : Writable (.block [_, _]) :=
    .block (List.forall_mem_cons.2 ⟨hassignment, List.forall_mem_singleton.2 hall⟩)
  exact ⟨_, hblock, by decide +kernel, parse_render_of_writable _ hblock⟩

end Formula

end RecordQuery
