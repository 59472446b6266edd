import RecordQuery.Proofs.Parsing
import RecordQuery.Proofs.Query.Phrase

/-! The parser of queries and its grammar. It takes the tokens of every phrase whose bounds fit and
makes the value of the phrase (`OrPhrase.parses`), and it makes values of nothing else
(`sound_query`). -/

namespace RecordQuery.Query

open RecordQuery.Parser

/-- The kinds of tokens that may stand behind an `and_expr`: all but "and". -/
def EndsAnd (token : Token) : Prop := token ≠ .keyword .and

/-- The kinds of tokens that may stand behind an `or_expr`: all but "and" and "or". -/
def EndsOr (token : Token) : Prop := token ≠ .keyword .and ∧ token ≠ .keyword .or

/-! ### Phrases are parsed -/

section Predicates

variable {follows : Token → Prop}

theorem parses_field (f : Field) : Parses Grammar.field [f.token] f follows := by
  cases f with
  | named path => exact Parses.look (Parses.consume_bind .pure)
  | all => exact Parses.look (Parses.consume_bind .pure)

theorem parses_operand (o : Operand) : Parses Grammar.operand [o.token] o follows := by
  cases o with
  | literal value => exact Parses.look (Parses.consume_bind .pure)
  | field path => exact Parses.look (Parses.consume_bind .pure)

theorem parses_quotedText (text : String) :
    Parses Grammar.quotedText [.literal (.ofText text)] text follows :=
  Parses.look (Parses.consume_bind .pure)

theorem parses_bound (value : Literal) : Parses Grammar.bound [.literal value] value follows :=
  (parses_operand (.literal value)).bind_nil .pure fun _ ht => ht

theorem parses_lowerBracket (isOpen : Bool) :
    Parses Grammar.lowerBracket [Range.lowerToken isOpen] isOpen follows := by
  cases isOpen with
  | false => exact Parses.look (Parses.advance_bind .pure)
  | true => exact Parses.look (Parses.advance_bind .pure)

theorem parses_upperBracket (isOpen : Bool) :
    Parses Grammar.upperBracket [Range.upperToken isOpen] isOpen follows := by
  cases isOpen with
  | false => exact Parses.look (Parses.advance_bind .pure)
  | true => exact Parses.look (Parses.advance_bind .pure)

theorem parses_range {r : Range} (h : r.BoundsFit) :
    Parses Grammar.range r.tokens r follows := by
  refine (parses_lowerBracket r.lowerOpen).bind_token ?_
  refine (parses_bound r.left).bind_token (Parses.expect_bind ?_)
  refine (parses_bound r.right).bind_token ?_
  refine (parses_upperBracket r.upperOpen).bind_nil ?_ fun _ ht => ht
  rw [checkBounds_eq_ok_iff.2 h]
  exact .pure

theorem literals_map (values : List Literal) :
    Grammar.literals (values.map .literal) = values := by
  rw [Grammar.literals, List.filterMap_map]
  exact List.filterMap_some

theorem fieldNames_map (values : List Literal) :
    Grammar.fieldNames (values.map .literal) = [] := by
  rw [Grammar.fieldNames, List.filterMap_map]
  exact List.filterMap_eq_nil_iff.2 fun _ _ => rfl

theorem separatedBy_listTokens {values : List Literal} (h : values ≠ []) :
    SeparatedBy Token.comma (fun part value => Parses Grammar.operand part value follows)
      (Literal.listTokens values) (values.map .literal) := by
  induction values with
  | nil => exact absurd rfl h
  | cons value values ih =>
    cases values with
    | nil => exact .one (parses_operand (.literal value))
    | cons next values => exact .cons (parses_operand (.literal value)) (ih (by simp))

theorem parses_literalList {values : List Literal} (h : values ≠ []) :
    Parses Grammar.literalList
      (.leftBracket :: (Literal.listTokens values ++ [.rightBracket])) values follows := by
  have hitems : Parses (separated (· == Token.comma) Grammar.operand) (Literal.listTokens values)
      (values.map .literal) (· = .rightBracket) :=
    Parses.separated (p := fun _ => True) (by simp) trivial (by simp) (separatedBy_listTokens h)
  refine Parses.expect_bind (hitems.bind_cons (Parses.expect_bind ?_) rfl)
  rw [fieldNames_map, literals_map]
  exact .pure

theorem parses_check (c : Check) : Parses Grammar.check [.keyword (.state c)] c follows :=
  Parses.look (Parses.advance_bind .pure)

theorem parses_test {t : Test} (hlist : t ≠ .oneOf []) (h : t.BoundsFit) :
    Parses Grammar.test t.tokens t follows := by
  cases t with
  | compare operator operand =>
    exact Parses.look (Parses.advance_bind (parses_operand operand).map)
  | between range => exact Parses.look (Parses.advance_bind (parses_range h).map)
  | oneOf values =>
    exact Parses.look (Parses.advance_bind (parses_literalList fun e => hlist (by rw [e])).map)
  | contains text caseSensitive =>
    exact Parses.look (Parses.advance_bind
      ((parses_quotedText text).map (f := fun text => Test.contains text caseSensitive)))
  | matching regex => exact Parses.look (Parses.advance_bind (parses_quotedText regex).map)
  | complies kind pattern => exact Parses.look (Parses.advance_bind (parses_quotedText pattern).map)
  | is check => exact Parses.look (Parses.advance_bind (parses_check check).map)

theorem parses_predicate {p : Predicate} (hlist : p.test ≠ .oneOf []) (h : p.test.BoundsFit) :
    Parses Grammar.predicate p.tokens (.leaf p) follows :=
  (parses_field p.field).bind_token ((parses_test hlist h).bind_nil .pure fun _ ht => ht)

end Predicates

section Phrases

/-- Words "not" are looked for in vain where something else comes first. -/
theorem parses_negations_of_ne {item : Parser Token Query} {token : Token} {tokens : List Token}
    {value : Query} {follows : Token → Prop} (hne : token ≠ .keyword .not)
    (h : Parses item (token :: tokens) value follows) (count : Nat) :
    Parses (Grammar.negations item count) (token :: tokens) value follows := by
  cases count with
  | zero => exact h
  | succ count =>
    refine Parses.look ?_
    rw [if_neg hne]
    exact h

theorem parses_conjunctionOf {item : Parser Token Query} {tokens : List Token}
    {values : List Query}
    (h : SeparatedBy (.keyword .and) (fun part value => ∀ count, part.length ≤ count →
      Parses (Grammar.negations item count) part value fun _ => True) tokens values) :
    Parses (Grammar.conjunctionOf item) tokens (conjunction values) EndsAnd := by
  have hitems := h.imp fun hpart => Parses.budget_bind hpart
  exact (Parses.separated (by simp) trivial (by simp [EndsAnd]) hitems).map

theorem parses_disjunctionOf {item : Parser Token Query} {tokens : List Token}
    {values : List Query}
    (h : SeparatedBy (.keyword .or)
      (fun part value => Parses (Grammar.conjunctionOf item) part value EndsAnd) tokens values) :
    Parses (Grammar.disjunctionOf item) tokens (disjunction values) EndsOr := by
  refine (Parses.separated (by simp) ?_ (fun t ht => ?_) h).map
  · simp [EndsAnd]
  · exact ⟨ht.1, by simpa using ht.2⟩

/-- A predicate is parsed where a group might stand. -/
theorem parses_group_predicate {p : Predicate} (hlist : p.test ≠ .oneOf [])
    (h : p.test.BoundsFit) (depth : Nat) {follows : Token → Prop} :
    Parses (Grammar.group depth) p.tokens (.leaf p) follows := by
  cases depth with
  | zero => exact parses_predicate hlist h
  | succ depth =>
    refine Parses.look ?_
    rw [if_neg (by cases p.field <;> simp [Field.token])]
    exact parses_predicate hlist h

mutual

/-- An `or_expr` is parsed where groups may be nested as deep as it has tokens. -/
theorem OrPhrase.parses : (phrase : OrPhrase) → phrase.BoundsFit → {depth : Nat} →
    phrase.tokens.length ≤ depth →
    SeparatedBy (.keyword .or) (fun part value =>
      Parses (Grammar.conjunctionOf (Grammar.group depth)) part value EndsAnd)
      phrase.tokens phrase.branches
  | .one first, h, depth, hdepth => .one (parses_conjunctionOf (first.parses h hdepth))
  | .or first rest, h, depth, hdepth => by
    simp only [OrPhrase.tokens, List.length_append, List.length_cons] at hdepth
    exact .cons (parses_conjunctionOf (first.parses h.1 (by omega))) (rest.parses h.2 (by omega))
termination_by structural phrase => phrase

theorem AndPhrase.parses : (phrase : AndPhrase) → phrase.BoundsFit → {depth : Nat} →
    phrase.tokens.length ≤ depth →
    SeparatedBy (.keyword .and) (fun part value => ∀ count, part.length ≤ count →
      Parses (Grammar.negations (Grammar.group depth) count) part value fun _ => True)
      phrase.tokens phrase.children
  | .one first, h, depth, hdepth => .one fun _ hcount => first.parses h hdepth hcount
  | .and first rest, h, depth, hdepth => by
    simp only [AndPhrase.tokens, List.length_append, List.length_cons] at hdepth
    exact .cons (fun _ hcount => first.parses h.1 (by omega) hcount) (rest.parses h.2 (by omega))
termination_by structural phrase => phrase

theorem UnaryPhrase.parses : (phrase : UnaryPhrase) → phrase.BoundsFit → {depth count : Nat} →
    phrase.tokens.length ≤ depth → phrase.tokens.length ≤ count →
    Parses (Grammar.negations (Grammar.group depth) count) phrase.tokens phrase.value
      fun _ => True
  | .not operand, h, depth, count, hdepth, hcount => by
    simp only [UnaryPhrase.tokens, List.length_cons] at hdepth hcount
    obtain ⟨count, rfl⟩ : ∃ n, count = n + 1 := ⟨count - 1, by omega⟩
    exact Parses.look (Parses.advance_bind (operand.parses h (by omega) (by omega)).map)
  | .group inner, h, depth, count, hdepth, _ => by
    simp only [UnaryPhrase.tokens, List.length_cons, List.length_append] at hdepth
    obtain ⟨depth, rfl⟩ : ∃ n, depth = n + 1 := ⟨depth - 1, by omega⟩
    have hinner := parses_disjunctionOf (inner.parses h (show _ ≤ depth by omega))
    refine parses_negations_of_ne (by simp) (Parses.look ?_) count
    exact Parses.advance_bind (hinner.bind_cons (Parses.expect_bind .pure) (by simp [EndsOr]))
  | .predicate p hlist, h, depth, count, _, _ =>
    parses_negations_of_ne (by cases p.field <;> simp [Field.token])
      (parses_group_predicate hlist h depth) count
termination_by structural phrase => phrase

end

/-- A phrase whose bounds fit is parsed as its value. -/
theorem parses_query (phrase : OrPhrase) (h : phrase.BoundsFit) :
    Parses Grammar.query phrase.tokens phrase.value EndsOr :=
  Parses.budget_bind fun _ hcount => parses_disjunctionOf (phrase.parses h hcount)

end Phrases

/-! ### Only phrases are parsed -/

theorem sound_field : Sound Grammar.field fun tokens f => tokens = [f.token] := by
  intro before after f h
  unfold Grammar.field at h
  rw [current_bind] at h
  cases hc : before.current with
  | name path =>
    rw [hc] at h
    obtain ⟨rfl, hr⟩ := Sound.consume_pure hc (by nofun) h
    exact ⟨_, hr, rfl⟩
  | star =>
    rw [hc] at h
    obtain ⟨rfl, hr⟩ := Sound.consume_pure hc (by nofun) h
    exact ⟨_, hr, rfl⟩
  | _ => rw [hc] at h; cases h

theorem sound_quotedText :
    Sound Grammar.quotedText fun tokens text => tokens = [.literal (.ofText text)] := by
  intro before after text h
  unfold Grammar.quotedText at h
  rw [current_bind] at h
  cases hc : before.current with
  | literal value =>
    rcases value with ⟨kind, content⟩
    rw [hc] at h
    cases kind with
    | quoted =>
      obtain ⟨rfl, hr⟩ := Sound.consume_pure hc (by nofun) h
      exact ⟨_, hr, rfl⟩
    | _ => cases h
  | _ => rw [hc] at h; cases h

theorem sound_operand : Sound Grammar.operand fun tokens o => tokens = [o.token] := by
  intro before after o h
  unfold Grammar.operand at h
  rw [current_bind] at h
  cases hc : before.current with
  | literal value =>
    rw [hc] at h
    obtain ⟨rfl, hr⟩ := Sound.consume_pure hc (by nofun) h
    exact ⟨_, hr, rfl⟩
  | name path =>
    rw [hc] at h
    obtain ⟨rfl, hr⟩ := Sound.consume_pure hc (by nofun) h
    exact ⟨_, hr, rfl⟩
  | _ => rw [hc] at h; cases h

theorem sound_bound : Sound Grammar.bound fun tokens value => tokens = [.literal value] := by
  intro before after value h
  obtain ⟨o, middle, ho, h⟩ := bind_eq_ok.1 h
  obtain ⟨_, hr, rfl⟩ := sound_operand _ _ _ ho
  cases o with
  | literal v =>
    obtain ⟨rfl, rfl⟩ := pure_eq_ok.1 h
    exact ⟨_, hr, rfl⟩
  | field path => cases h

theorem sound_lowerBracket :
    Sound Grammar.lowerBracket fun tokens isOpen => tokens = [Range.lowerToken isOpen] := by
  intro before after isOpen h
  unfold Grammar.lowerBracket at h
  rw [current_bind] at h
  cases hc : before.current with
  | leftBracket =>
    rw [hc] at h
    obtain ⟨rfl, hr⟩ := Sound.advance_pure hc (by nofun) h
    exact ⟨_, hr, rfl⟩
  | rightBracket =>
    rw [hc] at h
    obtain ⟨rfl, hr⟩ := Sound.advance_pure hc (by nofun) h
    exact ⟨_, hr, rfl⟩
  | _ => rw [hc] at h; cases h

theorem sound_upperBracket :
    Sound Grammar.upperBracket fun tokens isOpen => tokens = [Range.upperToken isOpen] := by
  intro before after isOpen h
  unfold Grammar.upperBracket at h
  rw [current_bind] at h
  cases hc : before.current with
  | rightBracket =>
    rw [hc] at h
    obtain ⟨rfl, hr⟩ := Sound.advance_pure hc (by nofun) h
    exact ⟨_, hr, rfl⟩
  | leftBracket =>
    rw [hc] at h
    obtain ⟨rfl, hr⟩ := Sound.advance_pure hc (by nofun) h
    exact ⟨_, hr, rfl⟩
  | _ => rw [hc] at h; cases h

theorem sound_range : Sound Grammar.range fun tokens r => tokens = r.tokens ∧ r.BoundsFit := by
  intro before after r h
  obtain ⟨lowerOpen, _, hlower, h⟩ := bind_eq_ok.1 h
  obtain ⟨left, _, hleft, h⟩ := bind_eq_ok.1 h
  obtain ⟨_, h, hcomma⟩ := Sound.expect_bind (by nofun) h
  obtain ⟨right, _, hright, h⟩ := bind_eq_ok.1 h
  obtain ⟨upperOpen, _, hupper, h⟩ := bind_eq_ok.1 h
  cases hcheck : checkBounds left right with
  | error e => rw [hcheck] at h; cases h
  | ok _ =>
    rw [hcheck] at h
    obtain ⟨rfl, rfl⟩ := pure_eq_ok.1 h
    obtain ⟨_, h1, rfl⟩ := sound_lowerBracket _ _ _ hlower
    obtain ⟨_, h2, rfl⟩ := sound_bound _ _ _ hleft
    obtain ⟨_, h3, rfl⟩ := sound_bound _ _ _ hright
    obtain ⟨_, h4, rfl⟩ := sound_upperBracket _ _ _ hupper
    exact ⟨_, h1.append (h2.append (hcomma (h3.append h4))), rfl, checkBounds_eq_ok_iff.1 hcheck⟩

/-- Operands with no name of a field among them are literals. -/
theorem eq_map_of_fieldNames_eq_nil {operands : List Operand}
    (h : Grammar.fieldNames operands = []) :
    operands = (Grammar.literals operands).map .literal := by
  induction operands with
  | nil => rfl
  | cons o operands ih =>
    cases o with
    | literal value => exact congrArg (Operand.literal value :: ·) (ih h)
    | field path => cases h

theorem listTokens_of_separatedBy {tokens : List Token} {operands : List Operand}
    (h : SeparatedBy Token.comma (fun part o => part = [o.token]) tokens operands)
    {values : List Literal} (hv : operands = values.map .literal) :
    tokens = Literal.listTokens values := by
  induction h generalizing values with
  | one hpart =>
    cases values with
    | nil => cases hv
    | cons value values =>
      cases values with
      | nil => cases hv; exact hpart
      | cons _ _ => cases hv
  | cons hpart hrest ih =>
    cases values with
    | nil => cases hv
    | cons value values =>
      rw [List.map_cons, List.cons.injEq] at hv
      obtain ⟨rfl, hv⟩ := hv
      cases values with
      | nil => exact absurd hv hrest.ne_nil
      | cons next values => rw [hpart, ih hv]; rfl

theorem sound_literalList : Sound Grammar.literalList fun tokens values =>
    tokens = .leftBracket :: (Literal.listTokens values ++ [.rightBracket]) ∧ values ≠ [] := by
  intro before after values h
  obtain ⟨_, h, hleft⟩ := Sound.expect_bind (by nofun) h
  obtain ⟨operands, _, hitems, h⟩ := bind_eq_ok.1 h
  obtain ⟨_, h, hright⟩ := Sound.expect_bind (by nofun) h
  cases hnames : Grammar.fieldNames operands with
  | cons name names => rw [hnames] at h; cases h
  | nil =>
    rw [hnames] at h
    obtain ⟨rfl, rfl⟩ := pure_eq_ok.1 h
    obtain ⟨tokens, hr, hsep⟩ :=
      Sound.separated (fun t ht => by simpa using ht) (by nofun) sound_operand _ _ _ hitems
    have hmap := eq_map_of_fieldNames_eq_nil hnames
    refine ⟨_, hleft (hr.append (hright .nil)), ?_, fun hnil => ?_⟩
    · rw [listTokens_of_separatedBy hsep hmap]
    · rw [hnil] at hmap
      exact hsep.ne_nil hmap

theorem sound_check : Sound Grammar.check fun tokens c => tokens = [.keyword (.state c)] := by
  intro before after c h
  unfold Grammar.check at h
  rw [current_bind] at h
  cases hc : before.current with
  | keyword word =>
    rw [hc] at h
    cases word with
    | state check =>
      obtain ⟨rfl, hr⟩ := Sound.advance_pure hc (by nofun) h
      exact ⟨_, hr, rfl⟩
    | _ => cases h
  | _ => rw [hc] at h; cases h

theorem sound_test :
    Sound Grammar.test fun tokens t => tokens = t.tokens ∧ t ≠ .oneOf [] ∧ t.BoundsFit := by
  intro before after t h
  unfold Grammar.test at h
  rw [current_bind] at h
  cases hc : before.current with
  | compare operator =>
    rw [hc] at h
    obtain ⟨_, h, hread⟩ := Sound.advance_bind hc (by nofun) h
    obtain ⟨o, _, rfl, hr, rfl⟩ := sound_operand.map h
    exact ⟨_, hread hr, rfl, by simp, trivial⟩
  | tilde =>
    rw [hc] at h
    obtain ⟨_, h, hread⟩ := Sound.advance_bind hc (by nofun) h
    obtain ⟨text, _, rfl, hr, rfl⟩ := sound_quotedText.map h
    exact ⟨_, hread hr, rfl, by simp, trivial⟩
  | keyword word =>
    rw [hc] at h
    cases word with
    | between =>
      obtain ⟨_, h, hread⟩ := Sound.advance_bind hc (by nofun) h
      obtain ⟨range, _, rfl, hr, rfl, hfit⟩ := sound_range.map h
      exact ⟨_, hread hr, rfl, by simp, hfit⟩
    | oneOf =>
      obtain ⟨_, h, hread⟩ := Sound.advance_bind hc (by nofun) h
      obtain ⟨values, _, rfl, hr, rfl, hne⟩ := sound_literalList.map h
      exact ⟨_, hread hr, rfl, by simpa using hne, trivial⟩
    | contains caseSensitive =>
      obtain ⟨_, h, hread⟩ := Sound.advance_bind hc (by nofun) h
      obtain ⟨text, _, rfl, hr, rfl⟩ :=
        sound_quotedText.map (f := fun text => Test.contains text caseSensitive) h
      exact ⟨_, hread hr, rfl, by simp, trivial⟩
    | complies kind =>
      obtain ⟨_, h, hread⟩ := Sound.advance_bind hc (by nofun) h
      obtain ⟨text, _, rfl, hr, rfl⟩ := sound_quotedText.map h
      exact ⟨_, hread hr, rfl, by simp, trivial⟩
    | is =>
      obtain ⟨_, h, hread⟩ := Sound.advance_bind hc (by nofun) h
      obtain ⟨check, _, rfl, hr, rfl⟩ := sound_check.map h
      exact ⟨_, hread hr, rfl, by simp, trivial⟩
    | _ => cases h
  | _ => rw [hc] at h; cases h

/-- A `unary` whose bounds fit has these tokens and this value. -/
def IsUnary (tokens : List Token) (value : Query) : Prop :=
  ∃ phrase : UnaryPhrase, phrase.tokens = tokens ∧ phrase.BoundsFit ∧ phrase.value = value

/-- An `and_expr` whose bounds fit has these tokens and joins these queries. -/
def IsAnd (tokens : List Token) (children : List Query) : Prop :=
  ∃ phrase : AndPhrase, phrase.tokens = tokens ∧ phrase.BoundsFit ∧ phrase.children = children

/-- An `or_expr` whose bounds fit has these tokens and joins these queries. -/
def IsOr (tokens : List Token) (branches : List Query) : Prop :=
  ∃ phrase : OrPhrase, phrase.tokens = tokens ∧ phrase.BoundsFit ∧ phrase.branches = branches

theorem isAnd_of_separatedBy {tokens : List Token} {children : List Query}
    (h : SeparatedBy (.keyword .and) IsUnary tokens children) : IsAnd tokens children := by
  induction h with
  | one hpart =>
    obtain ⟨phrase, rfl, hfit, rfl⟩ := hpart
    exact ⟨.one phrase, rfl, hfit, rfl⟩
  | cons hpart _ ih =>
    obtain ⟨first, rfl, hfit, rfl⟩ := hpart
    obtain ⟨rest, rfl, hfits, rfl⟩ := ih
    exact ⟨.and first rest, rfl, ⟨hfit, hfits⟩, rfl⟩

theorem isOr_of_separatedBy {tokens : List Token} {branches : List Query}
    (h : SeparatedBy (.keyword .or)
      (fun part value => ∃ children, value = conjunction children ∧ IsAnd part children)
      tokens branches) : IsOr tokens branches := by
  induction h with
  | one hpart =>
    obtain ⟨_, rfl, phrase, rfl, hfit, rfl⟩ := hpart
    exact ⟨.one phrase, rfl, hfit, rfl⟩
  | cons hpart _ ih =>
    obtain ⟨_, rfl, first, rfl, hfit, rfl⟩ := hpart
    obtain ⟨rest, rfl, hfits, rfl⟩ := ih
    exact ⟨.or first rest, rfl, ⟨hfit, hfits⟩, rfl⟩

theorem sound_predicate : Sound Grammar.predicate IsUnary := by
  intro before after value h
  obtain ⟨f, _, hf, h⟩ := bind_eq_ok.1 h
  obtain ⟨t, _, ht, h⟩ := bind_eq_ok.1 h
  obtain ⟨rfl, rfl⟩ := pure_eq_ok.1 h
  obtain ⟨_, hr1, rfl⟩ := sound_field _ _ _ hf
  obtain ⟨_, hr2, rfl, hlist, hfit⟩ := sound_test _ _ _ ht
  exact ⟨_, hr1.append hr2, .predicate ⟨f, t⟩ hlist, rfl, hfit, rfl⟩

theorem sound_negations {item : Parser Token Query} (hitem : Sound item IsUnary) (count : Nat) :
    Sound (Grammar.negations item count) IsUnary := by
  induction count with
  | zero => exact hitem
  | succ count ih =>
    intro before after value h
    unfold Grammar.negations at h
    rw [current_bind] at h
    by_cases hc : before.current = .keyword .not
    · rw [if_pos hc] at h
      obtain ⟨_, h, hread⟩ := Sound.advance_bind hc (by nofun) h
      obtain ⟨_, _, rfl, hr, operand, rfl, hfit, rfl⟩ := ih.map h
      exact ⟨_, hread hr, .not operand, rfl, hfit, rfl⟩
    · rw [if_neg hc] at h
      exact hitem _ _ _ h

theorem sound_conjunctionOf {item : Parser Token Query} (hitem : Sound item IsUnary) :
    Sound (Grammar.conjunctionOf item) fun tokens value =>
      ∃ children, value = conjunction children ∧ IsAnd tokens children := by
  intro before after value h
  have hsound : Sound (do Grammar.negations item (← budget)) IsUnary := by
    intro before after value h
    obtain ⟨count, _, hb, h⟩ := bind_eq_ok.1 h
    cases hb
    exact sound_negations hitem _ _ _ _ h
  obtain ⟨children, tokens, rfl, hr, hsep⟩ :=
    (hsound.separated (fun t ht => by simpa using ht) (by nofun)).map h
  exact ⟨tokens, hr, children, rfl, isAnd_of_separatedBy hsep⟩

theorem sound_disjunctionOf {item : Parser Token Query} (hitem : Sound item IsUnary) :
    Sound (Grammar.disjunctionOf item) fun tokens value =>
      ∃ branches, value = disjunction branches ∧ IsOr tokens branches := by
  intro before after value h
  obtain ⟨branches, tokens, rfl, hr, hsep⟩ :=
    ((sound_conjunctionOf hitem).separated (fun t ht => by simpa using ht) (by nofun)).map h
  exact ⟨tokens, hr, branches, rfl, isOr_of_separatedBy hsep⟩

theorem sound_group (depth : Nat) : Sound (Grammar.group depth) IsUnary := by
  induction depth with
  | zero => exact sound_predicate
  | succ depth ih =>
    intro before after value h
    unfold Grammar.group at h
    rw [current_bind] at h
    by_cases hc : before.current = .leftParen
    · rw [if_pos hc] at h
      obtain ⟨_, h, hleft⟩ := Sound.advance_bind hc (by nofun) h
      obtain ⟨inner, _, hinner, h⟩ := bind_eq_ok.1 h
      obtain ⟨_, h, hright⟩ := Sound.expect_bind (by nofun) h
      obtain ⟨rfl, rfl⟩ := pure_eq_ok.1 h
      obtain ⟨_, hr, _, rfl, phrase, rfl, hfit, rfl⟩ := sound_disjunctionOf ih _ _ _ hinner
      exact ⟨_, hleft (hr.append (hright .nil)), .group phrase, rfl, hfit, rfl⟩
    · rw [if_neg hc] at h
      exact sound_predicate _ _ _ h

/-- Whatever is parsed as a query is a phrase whose bounds fit, and its value. -/
theorem sound_query : Sound Grammar.query fun tokens value =>
    ∃ phrase : OrPhrase, phrase.tokens = tokens ∧ phrase.BoundsFit ∧ phrase.value = value := by
  intro before after value h
  obtain ⟨count, _, hb, h⟩ := bind_eq_ok.1 h
  cases hb
  obtain ⟨tokens, hr, _, rfl, phrase, rfl, hfit, rfl⟩ := sound_disjunctionOf (sound_group _) _ _ _ h
  exact ⟨_, hr, phrase, rfl, hfit, rfl⟩

theorem whole_eq_ok {before after : Cursor Token} {value : Query} :
    Grammar.whole before = .ok value after ↔
      Grammar.query before = .ok value after ∧ after.current = .done := by
  constructor
  · intro h
    obtain ⟨result, middle, hq, h⟩ := bind_eq_ok.1 h
    rw [current_bind] at h
    by_cases hc : middle.current = .done
    · rw [if_pos hc] at h
      obtain ⟨rfl, rfl⟩ := pure_eq_ok.1 h
      exact ⟨hq, hc⟩
    · rw [if_neg hc] at h
      cases h
  · rintro ⟨hq, hc⟩
    unfold Grammar.whole
    rw [bind_of_ok hq, current_bind, if_pos hc]
    rfl

end RecordQuery.Query
