import Mathlib.Data.List.Forall2
import RecordQuery.Proofs.Query.Acceptance
import RecordQuery.Proofs.Query.Canonical

/-! The canonical text of a query is parsed as that query, for exactly the well-formed queries. They
are the canonical ones whose predicates can be written, and whatever is parsed is one of them. -/

namespace RecordQuery

open Query (Token IsName Canonical Place)
open Query.Token (Writes)

/-- A star, or the name of a field. -/
def Field.WellFormed : Field → Prop
  | .named path => IsName path
  | .all => True

/-- A literal that can be written, or the name of a field. -/
def Operand.WellFormed : Operand → Prop
  | .literal value => value.WellFormed
  | .field path => IsName path

/-- A test that can be written: its literals and texts can, a list holds one value at least, and the
bounds of a range pass their check. -/
def Test.WellFormed : Test → Prop
  | .compare _ operand => operand.WellFormed
  | .between range =>
    range.left.WellFormed ∧ range.right.WellFormed ∧ checkBounds range.left range.right = .ok ()
  | .oneOf values => values ≠ [] ∧ ∀ value ∈ values, value.WellFormed
  | .contains text _ | .matching text | .complies _ text => Text.sound '\'' text.toList = true
  | .is _ => True

/-- A predicate that can be written. -/
structure Predicate.WellFormed (predicate : Predicate) : Prop where
  field : predicate.field.WellFormed
  test : predicate.test.WellFormed

/-- A canonical query of predicates that can be written. -/
def Query.WellFormed (query : Query) : Prop :=
  Canonical Predicate.WellFormed .root query

/-! ### What can be written, by its tokens -/

theorem Field.wellFormed_iff {field : Field} : field.WellFormed ↔ field.token.WellFormed := by
  cases field <;> rfl

theorem Operand.wellFormed_iff {operand : Operand} :
    operand.WellFormed ↔ operand.token.WellFormed := by
  cases operand <;> rfl

theorem Literal.wellFormed_ofText_iff {text : String} :
    (Literal.ofText text).WellFormed ↔ Text.sound '\'' text.toList = true :=
  ⟨fun h => by cases h; assumption, .quoted⟩

theorem Literal.forall_listTokens_iff {values : List Literal} :
    (∀ token ∈ Literal.listTokens values, token.WellFormed) ↔
      ∀ value ∈ values, value.WellFormed := by
  fun_induction Literal.listTokens values with
  | case1 => simp
  | case2 value => simp
  | case3 value next values ih =>
    rw [List.forall_mem_cons, List.forall_mem_cons, ih, List.forall_mem_cons]
    simp

/-- A test can be written exactly when its tokens can and it belongs to the grammar. -/
theorem Test.wellFormed_iff {test : Test} :
    test.WellFormed ↔
      (∀ token ∈ test.tokens, token.WellFormed) ∧ test ≠ .oneOf [] ∧ test.BoundsFit := by
  cases test with
  | compare operator operand =>
    simp [Test.WellFormed, Test.tokens, Test.BoundsFit, Operand.wellFormed_iff]
  | between range =>
    rcases range with ⟨left, right, lowerOpen, upperOpen⟩
    have hbounds : checkBounds left right = .ok () ↔
        Range.BoundsFit ⟨left, right, lowerOpen, upperOpen⟩ :=
      @checkBounds_eq_ok_iff ⟨left, right, lowerOpen, upperOpen⟩
    cases lowerOpen <;> cases upperOpen <;>
      simp [Test.WellFormed, Test.tokens, Test.BoundsFit, Range.tokens, Range.lowerToken,
        Range.upperToken, hbounds, and_assoc]
  | oneOf values =>
    simp only [Test.WellFormed, Test.tokens, Test.BoundsFit, List.forall_mem_cons,
      List.forall_mem_append, Literal.forall_listTokens_iff]
    simp [and_comm]
  | contains text caseSensitive =>
    simp [Test.WellFormed, Test.tokens, Test.BoundsFit, Literal.wellFormed_ofText_iff]
  | matching regex =>
    simp [Test.WellFormed, Test.tokens, Test.BoundsFit, Literal.wellFormed_ofText_iff]
  | complies kind pattern =>
    simp [Test.WellFormed, Test.tokens, Test.BoundsFit, Literal.wellFormed_ofText_iff]
  | is check => simp [Test.WellFormed, Test.tokens, Test.BoundsFit]

theorem Predicate.wellFormed_iff {predicate : Predicate} :
    predicate.WellFormed ↔ (∀ token ∈ predicate.tokens, token.WellFormed) ∧
      predicate.test ≠ .oneOf [] ∧ predicate.test.BoundsFit := by
  rw [Predicate.tokens, List.forall_mem_cons, and_assoc, ← Test.wellFormed_iff,
    ← Field.wellFormed_iff]
  exact ⟨fun h => ⟨h.field, h.test⟩, fun h => ⟨h.1, h.2⟩⟩

/-! ### The text of a predicate -/

namespace Query.Token

/-- A text that is read as these tokens, and any text behind it by itself. -/
abbrev Signs (text : String) (tokens : List Token) : Prop :=
  Spells read Text.isBlank (fun _ => true) text.toList tokens

variable {text more : String} {tokens following : List Token}

theorem signs_char {c : Char} {token : Token} (hc : Text.isBlank c = false) (hne : token ≠ .done)
    (hread : ∀ rest, read (c :: rest) = ⟨.ok token, 1⟩) :
    Spells read Text.isBlank (fun _ => true) [c] [token] :=
  Spells.word hc hne fun rest _ => hread rest

theorem signs_blank : Signs " " [] := Spells.of_blank (by decide)

theorem signs_leftParen : Signs "(" [.leftParen] :=
  signs_char (by decide) (by nofun) fun _ => rfl

theorem signs_rightParen : Signs ")" [.rightParen] :=
  signs_char (by decide) (by nofun) fun _ => rfl

theorem signs_leftBracket : Signs "[" [.leftBracket] :=
  signs_char (by decide) (by nofun) fun _ => rfl

theorem signs_rightBracket : Signs "]" [.rightBracket] :=
  signs_char (by decide) (by nofun) fun _ => rfl

theorem signs_star : Signs "*" [.star] := signs_char (by decide) (by nofun) fun _ => rfl

theorem signs_tilde : Signs "~" [.tilde] := signs_char (by decide) (by nofun) fun _ => rfl

theorem signs_tildeBlank : Signs "~ " [.tilde] := by
  have htext : "~ " = "~" ++ " " := by decide
  rw [htext]
  exact signs_tilde.concat_of_all signs_blank

theorem signs_comma : Signs ", " [.comma] := by
  have hcomma : Signs "," [.comma] := signs_char (by decide) (by nofun) fun _ => rfl
  have htext : ", " = "," ++ " " := by decide
  rw [htext]
  exact hcomma.concat_of_all signs_blank

theorem signs_keyword (word : Keyword) {text : String} (h : text = word.text ++ " ") :
    Signs text [.keyword word] :=
  h ▸ (writes_keyword word).concat (by decide) signs_blank

theorem Writes.blank (h : Writes text tokens) (h' : Writes more following) :
    Writes (text ++ " " ++ more) (tokens ++ following) := by
  rw [← List.append_nil tokens]
  exact Spells.concat_of_all (h.concat (by decide) signs_blank) h'

theorem Writes.comma (h : Writes text tokens) (h' : Writes more following) :
    Writes (text ++ ", " ++ more) (tokens ++ .comma :: following) :=
  h.separated signs_comma (by decide) h'

theorem Writes.and (h : Writes text tokens) (h' : Writes more following) :
    Writes (text ++ " and " ++ more) (tokens ++ .keyword .and :: following) := by
  have hs : Signs (" " ++ "and ") [.keyword .and] :=
    signs_blank.concat_of_all (signs_keyword .and (by decide))
  exact h.separated hs (by decide) h'

theorem Writes.or (h : Writes text tokens) (h' : Writes more following) :
    Writes (text ++ " or " ++ more) (tokens ++ .keyword .or :: following) := by
  have hs : Signs (" " ++ "or ") [.keyword .or] :=
    signs_blank.concat_of_all (signs_keyword .or (by decide))
  exact h.separated hs (by decide) h'

theorem Writes.not (h : Writes text tokens) :
    Writes ("not " ++ text) (.keyword .not :: tokens) :=
  (signs_keyword .not (by decide)).concat_of_all h

theorem Writes.parens (h : Writes text tokens) :
    Writes ("(" ++ text ++ ")") (.leftParen :: (tokens ++ [.rightParen])) :=
  Spells.concat (signs_leftParen.concat_of_all h) (by decide) signs_rightParen.of_all

theorem writes_comparison (operator : Comparison) :
    Writes operator.querySymbol [.compare operator] := by
  cases operator <;> exact writes_of_read (by decide) (by decide) rfl

theorem writes_field {field : Field} (h : field.WellFormed) :
    Writes field.render [field.token] := by
  cases field with
  | named path => exact writes_name h
  | all => exact signs_star.of_all

theorem writes_operand {operand : Operand} (h : operand.WellFormed) :
    Writes operand.render [operand.token] := by
  cases operand with
  | literal value => exact writes_literal h
  | field path => exact writes_name h

theorem writes_range {range : Range} (hl : range.left.WellFormed) (hr : range.right.WellFormed) :
    Writes range.render range.tokens := by
  have hlower :
      Signs (if range.lowerOpen then "]" else "[") [Range.lowerToken range.lowerOpen] := by
    cases range.lowerOpen with
    | true => exact signs_rightBracket
    | false => exact signs_leftBracket
  have hupper :
      Signs (if range.upperOpen then "[" else "]") [Range.upperToken range.upperOpen] := by
    cases range.upperOpen with
    | true => exact signs_leftBracket
    | false => exact signs_rightBracket
  have hleft : Writes _ (Range.lowerToken range.lowerOpen :: [.literal range.left]) :=
    hlower.concat_of_all (writes_literal hl)
  have hbounds := hleft.comma (writes_literal hr)
  refine Spells.concat hbounds ?_ hupper.of_all
  cases range.upperOpen <;> decide

theorem writes_list {values : List Literal} (h : ∀ value ∈ values, value.WellFormed)
    (hne : values ≠ []) :
    Writes (Text.joined ", " (values.map Literal.render)) (Literal.listTokens values) := by
  fun_induction Literal.listTokens values with
  | case1 => exact absurd rfl hne
  | case2 value => exact writes_literal (h value (by simp))
  | case3 value next values ih =>
    rw [List.forall_mem_cons] at h
    exact (writes_literal h.1).comma (ih h.2 (by simp))

theorem render_check (check : Check) :
    check.render = Keyword.is.text ++ " " ++ (Keyword.state check).text := by
  cases check <;> decide

theorem render_patternKind (kind : PatternKind) : kind.render = (Keyword.complies kind).text := by
  cases kind <;> rfl

theorem containsWord_eq (caseSensitive : Bool) :
    containsWord caseSensitive = (Keyword.contains caseSensitive).text := by
  cases caseSensitive <;> rfl

theorem signs_listStart : Signs "in [" [.keyword .oneOf, .leftBracket] := by
  have htext : "in [" = "in " ++ "[" := by decide
  rw [htext]
  exact (signs_keyword .oneOf (by decide)).concat_of_all signs_leftBracket

theorem writes_test {test : Test} (h : test.WellFormed) : Writes test.render test.tokens := by
  cases test with
  | compare operator operand =>
    rw [Test.render]
    exact (writes_comparison operator).blank (writes_operand h)
  | between range =>
    rw [Test.render]
    exact (signs_keyword .between (by decide)).concat_of_all (writes_range h.1 h.2.1)
  | oneOf values =>
    have hvalues : Writes _ (.keyword .oneOf :: .leftBracket :: Literal.listTokens values) :=
      signs_listStart.concat_of_all (writes_list h.2 h.1)
    rw [Test.render]
    exact hvalues.concat (by decide) signs_rightBracket.of_all
  | contains text caseSensitive =>
    rw [Test.render, containsWord_eq]
    exact (writes_keyword (.contains caseSensitive)).blank (writes_quoted h)
  | matching regex =>
    rw [Test.render]
    exact signs_tildeBlank.concat_of_all (writes_quoted h)
  | complies kind pattern =>
    rw [Test.render, render_patternKind]
    exact (writes_keyword (.complies kind)).blank (writes_quoted h)
  | is check =>
    rw [Test.render, render_check]
    exact (writes_keyword .is).blank (writes_keyword (.state check))

/-- A well-formed predicate is read back from its text. -/
theorem writes_predicate {predicate : Predicate} (h : predicate.WellFormed) :
    Writes predicate.render predicate.tokens :=
  (writes_field h.field).blank (writes_test h.test)

end Query.Token

/-! ### What is parsed is well formed -/

namespace Query

theorem OrPhrase.branches_ne_nil (phrase : OrPhrase) : phrase.branches ≠ [] := by
  cases phrase <;> simp [OrPhrase.branches]

theorem AndPhrase.children_ne_nil (phrase : AndPhrase) : phrase.children ≠ [] := by
  cases phrase <;> simp [AndPhrase.children]

mutual

/-- A phrase of tokens that can be written joins pieces of canonical queries. -/
theorem OrPhrase.pieces : (phrase : OrPhrase) → phrase.BoundsFit →
    (∀ token ∈ phrase.tokens, token.WellFormed) →
    ∀ branch ∈ phrase.branches, Piece Predicate.WellFormed branch
  | .one first, hfit, htokens => by
    rw [OrPhrase.branches, List.forall_mem_singleton]
    exact piece_conjunction first.children_ne_nil (first.pieces hfit htokens)
  | .or first rest, hfit, htokens => by
    rw [OrPhrase.tokens, List.forall_mem_append, List.forall_mem_cons] at htokens
    rw [OrPhrase.branches, List.forall_mem_cons]
    exact ⟨piece_conjunction first.children_ne_nil (first.pieces hfit.1 htokens.1),
      rest.pieces hfit.2 htokens.2.2⟩
termination_by structural phrase => phrase

theorem AndPhrase.pieces : (phrase : AndPhrase) → phrase.BoundsFit →
    (∀ token ∈ phrase.tokens, token.WellFormed) →
    ∀ child ∈ phrase.children, Piece Predicate.WellFormed child
  | .one first, hfit, htokens => by
    rw [AndPhrase.children, List.forall_mem_singleton]
    exact first.piece hfit htokens
  | .and first rest, hfit, htokens => by
    rw [AndPhrase.tokens, List.forall_mem_append, List.forall_mem_cons] at htokens
    rw [AndPhrase.children, List.forall_mem_cons]
    exact ⟨first.piece hfit.1 htokens.1, rest.pieces hfit.2 htokens.2.2⟩
termination_by structural phrase => phrase

theorem UnaryPhrase.piece : (phrase : UnaryPhrase) → phrase.BoundsFit →
    (∀ token ∈ phrase.tokens, token.WellFormed) → Piece Predicate.WellFormed phrase.value
  | .not operand, hfit, htokens => by
    rw [UnaryPhrase.tokens, List.forall_mem_cons] at htokens
    exact (canonical_negation (operand.piece hfit htokens.2)).piece
  | .group inner, hfit, htokens => by
    rw [UnaryPhrase.tokens, List.forall_mem_cons, List.forall_mem_append] at htokens
    exact (canonical_disjunction inner.branches_ne_nil (inner.pieces hfit htokens.2.1)).piece
  | .predicate _ hlist, hfit, htokens =>
    (Canonical.leaf (Predicate.wellFormed_iff.2 ⟨htokens, hlist, hfit⟩)).piece
termination_by structural phrase => phrase

end

theorem wellFormed_of_parse {text : String} {query : Query} (h : parse text = .ok query) :
    query.WellFormed := by
  obtain ⟨phrase, hfit, rfl, hyields⟩ := parse_eq_ok_iff.1 h
  exact canonical_disjunction phrase.branches_ne_nil
    (phrase.pieces hfit (Token.wellFormed_of_yields hyields))

/-! ### The text of a well-formed query -/

/-- A clause in a group adds its children to a conjunction. -/
theorem conjuncts_group {p : Predicate → Prop} {children : List Query}
    (h : Canonical p .clause (.all children)) :
    conjuncts (disjunction [.all children]) = children := by
  have hdisjuncts : disjunctsOf [.all children] = [.all children] :=
    disjunctsOf_of_clauses (by simpa using h)
  cases h with
  | clause _ _ hchildren =>
    rw [disjunction, hdisjuncts, conjuncts, conjuncts, conjunctsOf_of_children hchildren]

/-- A child in parentheses, unless it is an "any", adds itself to a conjunction. -/
theorem conjuncts_parens {p : Predicate → Prop} {phrase : UnaryPhrase} {child : Query}
    (hvalue : phrase.value = child) (h : Canonical p .child child)
    (hany : ∀ branches, child ≠ .any branches) :
    conjuncts (UnaryPhrase.group (.one (.one phrase))).value = [child] := by
  have hconj : conjunction [child] = .all [child] := by
    rw [conjunction, conjunctsOf, conjunctsOf, conjuncts_of_child h, List.append_nil]
  rw [UnaryPhrase.value, OrPhrase.branches, AndPhrase.children, hvalue, hconj]
  exact conjuncts_group (.clause (by simp) (by simpa using hany) (by simpa using h))

/-- The phrase that the text of a canonical query at a place is, and what the query is to it. -/
def IsPhrased : Place → Query → Prop
  | .root, query => ∃ phrase : OrPhrase, Writes query.render phrase.tokens ∧ phrase.BoundsFit ∧
      phrase.value = query
  | .clause, query => ∃ phrase : AndPhrase,
      Writes (parenthesized query.isWideAll query.render) phrase.tokens ∧ phrase.BoundsFit ∧
      conjunction phrase.children = query
  | .child, query => ∃ phrase : UnaryPhrase,
      Writes (parenthesized query.isWideAny query.render) phrase.tokens ∧ phrase.BoundsFit ∧
      conjuncts phrase.value = [query]

section Joined

variable {r : Query → Query → Prop} {texts : List String} {queries : List Query}

/-- The texts of operands with "and" between them are a phrase of these operands. -/
theorem exists_andPhrase (hne : texts ≠ [])
    (h : List.Forall₂ (fun text query => ∃ phrase : UnaryPhrase, Writes text phrase.tokens ∧
      phrase.BoundsFit ∧ r phrase.value query) texts queries) :
    ∃ phrase : AndPhrase, Writes (Text.joined " and " texts) phrase.tokens ∧ phrase.BoundsFit ∧
      List.Forall₂ r phrase.children queries := by
  induction h with
  | nil => exact absurd rfl hne
  | cons hfirst hrest ih =>
    obtain ⟨first, hfirst, hfit, hvalue⟩ := hfirst
    cases hrest with
    | nil => exact ⟨.one first, hfirst, hfit, .cons hvalue .nil⟩
    | cons _ _ =>
      obtain ⟨rest, hrest, hfits, hvalues⟩ := ih (List.cons_ne_nil _ _)
      exact ⟨.and first rest, hfirst.and hrest, ⟨hfit, hfits⟩, .cons hvalue hvalues⟩

/-- The texts of clauses with "or" between them are a phrase of these clauses. -/
theorem exists_orPhrase (hne : texts ≠ [])
    (h : List.Forall₂ (fun text query => ∃ phrase : AndPhrase, Writes text phrase.tokens ∧
      phrase.BoundsFit ∧ r (conjunction phrase.children) query) texts queries) :
    ∃ phrase : OrPhrase, Writes (Text.joined " or " texts) phrase.tokens ∧ phrase.BoundsFit ∧
      List.Forall₂ r phrase.branches queries := by
  induction h with
  | nil => exact absurd rfl hne
  | cons hfirst hrest ih =>
    obtain ⟨first, hfirst, hfit, hvalue⟩ := hfirst
    cases hrest with
    | nil => exact ⟨.one first, hfirst, hfit, .cons hvalue .nil⟩
    | cons _ _ =>
      obtain ⟨rest, hrest, hfits, hvalues⟩ := ih (List.cons_ne_nil _ _)
      exact ⟨.or first rest, hfirst.or hrest, ⟨hfit, hfits⟩, .cons hvalue hvalues⟩

end Joined

theorem renderChildren_eq_map (children : List Query) :
    renderChildren children =
      children.map fun child => parenthesized child.isWideAny child.render := by
  induction children with
  | nil => rfl
  | cons child children ih => rw [renderChildren, ih, List.map_cons]

theorem renderBranches_eq_map (branches : List Query) :
    renderBranches branches =
      branches.map fun branch => parenthesized branch.isWideAll branch.render := by
  induction branches with
  | nil => rfl
  | cons branch branches ih => rw [renderBranches, ih, List.map_cons]

/-- Each of the values adds one of the children to a conjunction. -/
theorem conjunctsOf_of_forall₂ {values children : List Query}
    (h : List.Forall₂ (fun value child => conjuncts value = [child]) values children) :
    conjunctsOf values = children := by
  induction h with
  | nil => rw [conjunctsOf]
  | cons hvalue _ ih => rw [conjunctsOf, hvalue, ih, List.singleton_append]

theorem exists_andPhrase_renderChildren {children : List Query} (hne : children ≠ [])
    (h : ∀ child ∈ children, IsPhrased .child child) :
    ∃ phrase : AndPhrase, Writes (Text.joined " and " (renderChildren children)) phrase.tokens ∧
      phrase.BoundsFit ∧ conjunctsOf phrase.children = children := by
  rw [renderChildren_eq_map]
  obtain ⟨phrase, hphrase, hfit, hvalues⟩ :=
    exists_andPhrase (r := fun value child => conjuncts value = [child]) (by simpa using hne)
      (List.forall₂_map_left_iff.2 (List.forall₂_same.2 h))
  exact ⟨phrase, hphrase, hfit, conjunctsOf_of_forall₂ hvalues⟩

theorem exists_orPhrase_renderBranches {branches : List Query} (hne : branches ≠ [])
    (h : ∀ branch ∈ branches, IsPhrased .clause branch) :
    ∃ phrase : OrPhrase, Writes (Text.joined " or " (renderBranches branches)) phrase.tokens ∧
      phrase.BoundsFit ∧ phrase.branches = branches := by
  rw [renderBranches_eq_map]
  obtain ⟨phrase, hphrase, hfit, hvalues⟩ :=
    exists_orPhrase (r := fun value branch => value = branch) (by simpa using hne)
      (List.forall₂_map_left_iff.2 (List.forall₂_same.2 h))
  rw [List.forall₂_eq_eq_eq] at hvalues
  exact ⟨phrase, hphrase, hfit, hvalues⟩

/-- The text of a canonical query is a phrase, at each of its places. -/
theorem Canonical.isPhrased {place : Place} {query : Query}
    (h : Canonical Predicate.WellFormed place query) : IsPhrased place query := by
  induction h with
  | root hne hclauses ih =>
    obtain ⟨phrase, hphrase, hfit, hvalue⟩ := exists_orPhrase_renderBranches hne ih
    refine ⟨phrase, hphrase, hfit, ?_⟩
    rw [OrPhrase.value, hvalue, disjunction, disjunctsOf_of_clauses hclauses]
  | @clause children hne hany hchildren ih =>
    obtain ⟨phrase, hphrase, hfit, hvalue⟩ := exists_andPhrase_renderChildren hne ih
    have hconj : conjunction phrase.children = .all children := by rw [conjunction, hvalue]
    by_cases hwide : isWideAll (.all children) = true
    · refine ⟨.one (.group (.one phrase)), ?_, hfit, ?_⟩
      · rw [parenthesized, if_pos hwide]
        exact hphrase.parens
      · rw [AndPhrase.children, UnaryPhrase.value, OrPhrase.branches, hconj, conjunction,
          conjunctsOf, conjunctsOf, conjuncts_group (.clause hne hany hchildren), List.append_nil]
    · refine ⟨phrase, ?_, hfit, hconj⟩
      rw [parenthesized, if_neg hwide]
      exact hphrase
  | @leaf predicate hp =>
    obtain ⟨_, hlist, hfit⟩ := Predicate.wellFormed_iff.1 hp
    refine ⟨.group (.one (.one (.predicate predicate hlist))),
      (Token.writes_predicate hp).parens, hfit, ?_⟩
    exact conjuncts_parens rfl (.leaf hp) (by simp)
  | @not inner hinner ih =>
    obtain ⟨phrase, hphrase, hfit, hvalue⟩ := ih
    refine ⟨.group (.one (.one (.not (.group phrase)))), ?_, hfit, ?_⟩
    · have htext : "(not (" ++ inner.render ++ "))" =
          "(" ++ ("not " ++ ("(" ++ inner.render ++ ")")) ++ ")" := by
        rw [← String.toList_inj]
        simp
      rw [parenthesized, if_neg (by simp [isWideAny]), render, htext]
      exact hphrase.parens.not.parens
    · refine conjuncts_parens ?_ (.not hinner) (by simp)
      rw [UnaryPhrase.value, UnaryPhrase.value, ← OrPhrase.value, hvalue, negation,
        disjunction_of_root hinner]
  | @any first second rest hclauses ih =>
    obtain ⟨phrase, hphrase, hfit, hvalue⟩ := exists_orPhrase_renderBranches (by simp) ih
    refine ⟨.group phrase, hphrase.parens, hfit, ?_⟩
    rw [UnaryPhrase.value, hvalue, disjunction, disjunctsOf_of_clauses hclauses]
    exact conjuncts_of_child (.any hclauses)

/-- A text that is written like a phrase is parsed as its value. -/
theorem parse_of_writes {text : String} (phrase : OrPhrase) (h : Writes text phrase.tokens)
    (hfit : phrase.BoundsFit) : parse text = .ok phrase.value :=
  parse_eq_ok_iff.2 ⟨phrase, hfit, rfl, h.spelled Token.orderly_read .start⟩

/-- A well-formed query is parsed from its canonical text. -/
theorem parse_render {query : Query} (h : query.WellFormed) : parse query.render = .ok query := by
  obtain ⟨phrase, hphrase, hfit, hvalue⟩ := Canonical.isPhrased h
  rw [parse_of_writes phrase hphrase hfit, hvalue]

/-- The canonical text of a query is parsed as that query exactly if it is well formed. Whatever is
parsed is well formed, so its canonical text brings it back. -/
theorem parse_render_iff_wellFormed :
    (∀ query : Query, parse query.render = .ok query ↔ query.WellFormed) ∧
    ∀ text query, parse text = .ok query → query.WellFormed ∧ parse query.render = .ok query := by
  refine ⟨fun query => ⟨wellFormed_of_parse, parse_render⟩, fun text query h => ?_⟩
  have hquery := wellFormed_of_parse h
  exact ⟨hquery, parse_render hquery⟩

theorem parse_render_of_escaped_quote :
    ∃ query, parse "not a = 'it\\'s' and b between ]1, -2.5]" = .ok query ∧ query.WellFormed ∧
      parse query.render = .ok query := by
  have h : parse "not a = 'it\\'s' and b between ]1, -2.5]" = .ok (.any [.all [
      .not (.any [.all [.leaf ⟨.named "a", .compare .eq (.literal (.ofText "it's"))⟩]]),
      .leaf ⟨.named "b", .between ⟨⟨.integer, "1"⟩, ⟨.decimal, "-2.5"⟩, true, false⟩⟩]]) := by
    decide +kernel
  exact ⟨_, h, parse_render_iff_wellFormed.2 _ _ h⟩

end Query

end RecordQuery
