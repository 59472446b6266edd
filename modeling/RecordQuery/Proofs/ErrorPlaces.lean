import RecordQuery.Formula.Parser
import RecordQuery.Proofs.Formula.Spelling
import RecordQuery.Proofs.Parsing
import RecordQuery.Proofs.Positions
import RecordQuery.Query.Parser

/-! Where errors are reported. What holds of the places of all lexemes of a stream, and of those in
their errors, holds of the places in the errors of a parser that runs on it: a parser only moves
along the stream, and faults where it stands. `Parser.Keeps` says this of one parser, with a rule
for each way in which parsers are put together. -/

namespace RecordQuery

/-- The place in the error, if there is one, is as `p` says. -/
def Error.Placed (p : Position → Prop) : Error → Prop
  | .malformed _ position => p position
  | _ => True

/-- A lexeme whose place is as `p` says, and so is the place in its error. -/
structure Lexeme.Placed {τ : Type} (p : Position → Prop) (lexeme : Lexeme τ) : Prop where
  position : p lexeme.position
  error {error : Error} : lexeme.token = .error error → error.Placed p

/-- A stream of lexemes whose places are as `p` says. -/
structure Stream.Placed {τ : Type} (p : Position → Prop) (stream : Stream τ) : Prop where
  items : ∀ lexeme ∈ stream.items, lexeme.Placed p
  final : stream.final.Placed p

/-- A cursor on such a stream, at such a place. -/
structure Cursor.Placed {τ : Type} (p : Position → Prop) (cursor : Cursor τ) : Prop where
  position : p cursor.position
  stream : cursor.stream.Placed p

variable {τ α β : Type} {p : Position → Prop}

theorem Stream.Placed.next {stream : Stream τ} (h : stream.Placed p) :
    stream.next.1.Placed p ∧ stream.next.2.Placed p := by
  unfold Stream.next
  split
  · exact ⟨h.final, h⟩
  · next lexeme items hitems =>
    obtain ⟨hlexeme, hrest⟩ := List.forall_mem_cons.1 (hitems ▸ h.items)
    exact ⟨hlexeme, hrest, h.final⟩

theorem Lexeme.placed_next {read : List Char → Reading τ} {blank : Char → Bool}
    {text : List Char} {source : Source} (h : source.Of text) :
    (next read blank source).1.Placed (Position.TrueIn text) where
  position := (h.skipWhile blank).trueIn
  error {error} he := by
    cases error with
    | malformed fault position =>
      rw [Error.Placed, position_of_malformed he]
      exact (h.skipWhile blank).trueIn
    | _ => trivial

/-- The lexemes of a text stand at places of it. -/
theorem Stream.placed_ofSource {read : List Char → Reading τ} {blank : Char → Bool}
    {text : List Char} {source : Source} (h : source.Of text) :
    (ofSource read blank source).Placed (Position.TrueIn text) := by
  fun_induction Stream.ofSource read blank source with
  | case1 source start lexeme rest hnext _ stream ih =>
    have hlexeme : lexeme.Placed (Position.TrueIn text) := by
      rw [show lexeme = (Lexeme.next read blank source).1 by rw [hnext]]
      exact Lexeme.placed_next h
    have hrest : rest.Of text := by
      rw [show rest = (Lexeme.next read blank source).2 by rw [hnext]]
      exact h.next
    have hstream := ih hrest
    exact ⟨List.forall_mem_cons.2 ⟨hlexeme, hstream.items⟩, hstream.final⟩
  | case2 source start lexeme rest hnext _ =>
    have hlexeme : lexeme.Placed (Position.TrueIn text) := by
      rw [show lexeme = (Lexeme.next read blank source).1 by rw [hnext]]
      exact Lexeme.placed_next h
    exact ⟨List.forall_mem_nil _, hlexeme⟩

namespace Parser

/-- From a cursor at such a place the parser gets to another, also where it fails, and the place in
its error is such a place. -/
def Keeps (p : Position → Prop) (parser : Parser τ α) : Prop :=
  ∀ before : Cursor τ, before.Placed p → match parser before with
    | .ok _ after => after.Placed p
    | .error error after => error.Placed p ∧ after.Placed p

namespace Keeps

variable {parser : Parser τ α} {next : α → Parser τ β}

protected theorem pure {a : α} : Keeps p (pure a : Parser τ α) :=
  fun _ h => h

theorem bind (h : Keeps p parser) (h' : ∀ a, Keeps p (next a)) : Keeps p (parser >>= next) := by
  intro before hb
  have h := h before hb
  show match EStateM.bind parser next before with
    | .ok _ after => after.Placed p
    | .error error after => error.Placed p ∧ after.Placed p
  unfold EStateM.bind
  cases hp : parser before with
  | error error after =>
    rw [hp] at h
    exact h
  | ok a middle =>
    rw [hp] at h
    exact h' a middle h

theorem map {f : α → β} (h : Keeps p parser) : Keeps p (do return f (← parser)) :=
  h.bind fun _ => .pure

protected theorem current : Keeps p (current : Parser τ τ) :=
  fun _ h => h

theorem look {next : τ → Parser τ β} (h : ∀ token, Keeps p (next token)) :
    Keeps p (current >>= next) :=
  bind .current h

theorem budget_bind {next : Nat → Parser τ β} (h : ∀ count, Keeps p (next count)) :
    Keeps p (budget >>= next) :=
  fun before hb => h (before.stream.items.length + 1) before hb

protected theorem advance : Keeps p (advance : Parser τ Unit) := by
  intro before h
  obtain ⟨hlexeme, hrest⟩ := h.stream.next
  simp only [Parser.advance]
  cases ht : before.stream.next.1.token with
  | ok token => exact ⟨hlexeme.position, hrest⟩
  | error error => exact ⟨hlexeme.error ht, h.position, hrest⟩

theorem advance_bind (h : Keeps p parser) : Keeps p (advance >>= fun _ => parser) :=
  bind .advance fun _ => h

theorem advance_map {f : α → β} (h : Keeps p parser) :
    Keeps p (do advance; return f (← parser)) :=
  advance_bind h.map

theorem advance_pure {a : α} : Keeps p (advance >>= fun _ => (pure a : Parser τ α)) :=
  advance_bind .pure

protected theorem throw {error : Error} (h : error.Placed p) :
    Keeps p (throw error : Parser τ α) :=
  fun _ hb => ⟨h, hb⟩

protected theorem fault {fault : Fault} : Keeps p (Parser.fault fault : Parser τ α) :=
  fun _ h => ⟨h.position, h⟩

variable [TokenKind τ]

protected theorem consume : Keeps p (consume : Parser τ Unit) :=
  fun _ h => Keeps.advance _ ⟨h.position, h.stream⟩

theorem consume_bind (h : Keeps p parser) : Keeps p (consume >>= fun _ => parser) :=
  bind .consume fun _ => h

theorem consume_pure {a : α} : Keeps p (consume >>= fun _ => (pure a : Parser τ α)) :=
  consume_bind .pure

protected theorem expected {wanted : String} : Keeps p (expected wanted : Parser τ α) :=
  fun _ h => ⟨h.position, h⟩

protected theorem expect [DecidableEq τ] {token : τ} : Keeps p (expect token : Parser τ Unit) := by
  intro before h
  unfold Parser.expect
  by_cases hc : before.current = token
  · rw [if_pos hc]
    exact Keeps.advance before h
  · rw [if_neg hc]
    exact ⟨h.position, h⟩

theorem expect_bind [DecidableEq τ] {token : τ} (h : Keeps p parser) :
    Keeps p (expect token >>= fun _ => parser) :=
  bind .expect fun _ => h

omit [TokenKind τ]

theorem following {isSeparator : τ → Bool} {item : Parser τ α} (h : Keeps p item) (count : Nat) :
    Keeps p (following isSeparator item count) := by
  induction count with
  | zero => exact .pure
  | succ count ih =>
    refine look fun token => ?_
    split
    · exact advance_bind (h.bind fun _ => ih.map)
    · exact .pure

theorem separated {isSeparator : τ → Bool} {item : Parser τ α} (h : Keeps p item) :
    Keeps p (separated isSeparator item) :=
  h.bind fun _ => budget_bind fun count => (h.following count).map

/-- A parser on a stream of such places fails with such a place in its error. -/
theorem run {stream : Stream τ} {error : Error} (h : Keeps p parser) (hs : stream.Placed p)
    (he : Parser.run parser stream = .error error) : error.Placed p := by
  obtain ⟨hlexeme, hrest⟩ := hs.next
  simp only [Parser.run, Cursor.start] at he
  cases ht : stream.next.1.token with
  | error first =>
    simp only [ht] at he
    cases he
    exact hlexeme.error ht
  | ok token =>
    simp only [ht] at he
    have h := h ⟨token, stream.next.1.position, stream.next.2⟩ ⟨hlexeme.position, hrest⟩
    cases hp : parser ⟨token, stream.next.1.position, stream.next.2⟩ with
    | ok result after =>
      rw [hp] at he
      cases he
    | error last after =>
      rw [hp] at he h
      cases he
      exact h.1

end Keeps

end Parser

/-! ### Queries -/

/-- Bounds are refused at no place. -/
theorem placed_of_checkBounds {left right : Literal} {error : Error}
    (h : checkBounds left right = .error error) : error.Placed p := by
  unfold checkBounds at h
  split at h
  · cases h
    trivial
  · split at h
    · cases h
      trivial
    · split at h
      · cases h
      · cases h
        trivial

namespace Query.Grammar

open RecordQuery.Parser

theorem field_keeps : Keeps p field := by
  refine .look fun token => ?_
  split
  exacts [.consume_pure, .consume_pure, .expected]

theorem quotedText_keeps : Keeps p quotedText := by
  refine .look fun token => ?_
  split
  exacts [.consume_pure, .expected]

theorem operand_keeps : Keeps p operand := by
  refine .look fun token => ?_
  split
  exacts [.consume_pure, .consume_pure, .expected]

theorem bound_keeps : Keeps p bound := by
  refine operand_keeps.bind fun operand => ?_
  split
  exacts [.pure, .throw trivial]

theorem lowerBracket_keeps : Keeps p lowerBracket := by
  refine .look fun token => ?_
  split
  exacts [.advance_pure, .advance_pure, .expected]

theorem upperBracket_keeps : Keeps p upperBracket := by
  refine .look fun token => ?_
  split
  exacts [.advance_pure, .advance_pure, .expected]

theorem range_keeps : Keeps p range := by
  refine lowerBracket_keeps.bind fun lowerOpen => bound_keeps.bind fun left => .expect_bind ?_
  refine bound_keeps.bind fun right => upperBracket_keeps.bind fun upperOpen => ?_
  split
  · exact .pure
  · next error herror => exact .throw (placed_of_checkBounds herror)

theorem literalList_keeps : Keeps p literalList := by
  refine .expect_bind (operand_keeps.separated.bind fun operands => .expect_bind ?_)
  split
  exacts [.pure, .throw trivial]

theorem check_keeps : Keeps p check := by
  refine .look fun token => ?_
  split
  exacts [.advance_pure, .expected]

theorem test_keeps : Keeps p test := by
  refine .look fun token => ?_
  split
  · exact .advance_map operand_keeps
  · exact .advance_map quotedText_keeps
  · exact .advance_map range_keeps
  · exact .advance_map literalList_keeps
  · exact .advance_map quotedText_keeps
  · exact .advance_map quotedText_keeps
  · exact .advance_map check_keeps
  · exact .expected

theorem predicate_keeps : Keeps p predicate :=
  field_keeps.bind fun _ => test_keeps.map

theorem negations_keeps {item : Parser Token Query} (h : Keeps p item) (count : Nat) :
    Keeps p (negations item count) := by
  induction count with
  | zero => exact h
  | succ count ih =>
    refine .look fun token => ?_
    split
    exacts [.advance_map ih, h]

theorem disjunctionOf_keeps {item : Parser Token Query} (h : Keeps p item) :
    Keeps p (disjunctionOf item) := by
  have hconjunction : Keeps p (conjunctionOf item) :=
    .map (.separated (.budget_bind (negations_keeps h)))
  exact hconjunction.separated.map

theorem group_keeps (depth : Nat) : Keeps p (group depth) := by
  induction depth with
  | zero => exact predicate_keeps
  | succ depth ih =>
    refine .look fun token => ?_
    split
    · exact .advance_bind ((disjunctionOf_keeps ih).bind fun inner => .expect_bind .pure)
    · exact predicate_keeps

theorem whole_keeps : Keeps p whole := by
  have hquery : Keeps p query := .budget_bind fun depth => disjunctionOf_keeps (group_keeps depth)
  refine hquery.bind fun result => .look fun token => ?_
  split
  exacts [.pure, .expected]

end Query.Grammar

/-- A query that is malformed is so at a place of its text. -/
theorem Query.placed_of_parse {text : String} {error : Error} (h : parse text = .error error) :
    error.Placed (Position.TrueIn text.toList) :=
  Grammar.whole_keeps.run (Stream.placed_ofSource (Source.Of.ofString text)) h

/-! ### Formulas -/

namespace Formula.Grammar

open RecordQuery.Parser

theorem atSign_keeps {sign : Sign} : Keeps p (atSign sign) :=
  Keeps.current.map

theorem expectSign_keeps {sign : Sign} : Keeps p (expectSign sign) := by
  refine atSign_keeps.bind fun isHere => ?_
  split
  exacts [.advance, .expected]

theorem expectSign_pure {sign : Sign} {α : Type} {a : α} :
    Keeps p (do expectSign sign; return a) :=
  expectSign_keeps.bind fun _ => .pure

theorem unexpected_keeps {α : Type} : Keeps p (unexpected : Parser Token α) :=
  .look fun _ => .fault

theorem unary_keeps {primary : Parser Token Formula} (h : Keeps p primary) :
    Keeps p (unary primary) := by
  refine .budget_bind fun count => ?_
  induction count with
  | zero => exact h
  | succ count ih =>
    refine .look fun token => ?_
    split
    · exact .advance_map ih
    · refine .advance_bind (.look fun next => ?_)
      split
      exacts [.advance_pure, ih.map]
    · exact h

theorem chained_keeps {operator? : Token → Option Arithmetic} {item : Parser Token Formula}
    (h : Keeps p item) : Keeps p (chained operator? item) := by
  have hchain (count : Nat) (left : Formula) : Keeps p (chain operator? item count left) := by
    induction count generalizing left with
    | zero => exact .pure
    | succ count ih =>
      refine .look fun token => ?_
      split
      · exact .advance_bind (h.bind fun right => ih _)
      · exact .pure
  exact h.bind fun left => .budget_bind fun count => hchain count left

theorem compared_keeps {primary : Parser Token Formula} (h : Keeps p primary) :
    Keeps p (compared primary) := by
  have hsum : Keeps p (sum primary) := chained_keeps (chained_keeps (unary_keeps h))
  refine hsum.bind fun left => .look fun token => ?_
  split
  exacts [.advance_map hsum, .pure]

theorem expression_keeps {primary : Parser Token Formula} (h : Keeps p primary) :
    Keeps p (expression primary) := by
  have hdisjunction : Keeps p (disjunction primary) :=
    (compared_keeps h).separated.map.separated.map
  refine hdisjunction.bind fun target => atSign_keeps.bind fun isHere => ?_
  split
  exacts [.advance_map hdisjunction, .pure]

theorem listBefore_keeps {item : Parser Token Formula} {close : Sign} (h : Keeps p item) :
    Keeps p (listBefore item close) := by
  have hitems (count : Nat) : Keeps p (itemsBefore item close count) := by
    induction count with
    | zero => exact .pure
    | succ count ih =>
      refine atSign_keeps.bind fun isHere => ?_
      split
      · exact .pure
      · refine h.bind fun first => atSign_keeps.bind fun isHere => ?_
        split
        · exact expectSign_keeps.bind fun _ => ih.map
        · exact ih.map
  exact .budget_bind fun count => (hitems count).bind fun items => expectSign_pure

theorem block_keeps {item : Parser Token Formula} (h : Keeps p item) : Keeps p (block item) := by
  have hitems (count : Nat) : Keeps p (blockItems item count) := by
    induction count with
    | zero => exact .pure
    | succ count ih =>
      refine atSign_keeps.bind fun isHere => ?_
      split
      · exact .pure
      · refine h.bind fun first => ?_
        refine atSign_keeps.bind fun isSemicolon => atSign_keeps.bind fun isComma => ?_
        split
        exacts [.advance_map ih, .pure]
  exact .budget_bind fun count => (hitems count).bind fun items => expectSign_pure

theorem parenthesized_keeps {item : Parser Token Formula} (h : Keeps p item) :
    Keeps p (parenthesized item) :=
  expectSign_keeps.bind fun _ => h.bind fun _ => expectSign_pure

theorem body_keeps {item : Parser Token Formula} (h : Keeps p item) : Keeps p (body item) := by
  refine atSign_keeps.bind fun isHere => ?_
  split
  exacts [.advance_bind (block_keeps h), h]

theorem conditional_keeps {item : Parser Token Formula} (h : Keeps p item) :
    Keeps p (conditional item) := by
  have hbranch : Keeps p (branch item) :=
    (parenthesized_keeps h).bind fun condition => (body_keeps h).map
  have halternatives (count : Nat) : Keeps p (alternatives item count) := by
    induction count with
    | zero => exact .pure
    | succ count ih =>
      have hnext : Keeps p (do
          let first ← branch item
          let rest ← alternatives item count
          return (first :: rest.1, rest.2)) :=
        hbranch.bind fun first => ih.bind fun rest => .pure
      refine .look fun token => ?_
      split
      · exact .advance_bind hnext
      · refine .advance_bind (.look fun next => ?_)
        split
        exacts [.advance_bind hnext, (body_keeps h).map]
      · exact .pure
  exact hbranch.bind fun first => .budget_bind fun count =>
    (halternatives count).bind fun rest => .pure

theorem switched_keeps {label item : Parser Token Formula} (hlabel : Keeps p label)
    (h : Keeps p item) : Keeps p (switched label item) := by
  have hbody : Keeps p (caseBody item) := h.separated
  have hcases (count : Nat) (fallback : Option (List Formula)) :
      Keeps p (cases label item count fallback) := by
    induction count generalizing fallback with
    | zero => exact .pure
    | succ count ih =>
      refine .look fun token => ?_
      split
      · exact .advance_bind (hlabel.bind fun name => expectSign_keeps.bind fun _ =>
          hbody.bind fun first => (ih _).bind fun rest => .pure)
      · exact .advance_bind (expectSign_keeps.bind fun _ => hbody.bind fun found => ih _)
      · exact .pure
  exact (parenthesized_keeps h).bind fun subject => expectSign_keeps.bind fun _ =>
    .budget_bind fun count => (hcases count none).bind fun rest => expectSign_pure

theorem primary_keeps (depth : Nat) : Keeps p (primary depth) := by
  induction depth with
  | zero => exact unexpected_keeps
  | succ depth ih =>
    have hitem := expression_keeps ih
    refine .look fun token => ?_
    split
    · exact .consume_pure
    · exact .consume_pure
    · refine .consume_bind (atSign_keeps.bind fun isCall => ?_)
      split
      exacts [.advance_map (listBefore_keeps hitem), .pure]
    · exact .consume_bind (hitem.bind fun inner => expectSign_pure)
    · exact .consume_bind (listBefore_keeps hitem).map
    · exact .consume_bind (block_keeps hitem)
    · exact .consume_bind (conditional_keeps hitem)
    · exact .consume_bind (switched_keeps (unary_keeps ih) hitem)
    · exact unexpected_keeps

theorem whole_keeps : Keeps p whole := by
  refine .budget_bind fun depth => (expression_keeps (primary_keeps depth)).bind fun result =>
    .look fun token => ?_
  split
  exacts [.pure, unexpected_keeps]

end Formula.Grammar

/-- A formula that is malformed is so at a place of its text. -/
theorem Formula.placed_of_parse {text : String} {error : Error} (h : parse text = .error error) :
    error.Placed (Position.TrueIn text.toList) :=
  Grammar.whole_keeps.run (Stream.placed_ofSource (Source.Of.ofString text)) h

/-! ### All texts -/

/-- Whatever the text, the lexers of queries and of formulas only move along it from one true place
to the next, and every place that a parser reports is true. -/
theorem places_true (text : String) :
    Source.Tracked Query.Token.read Text.isBlank text ∧
      Source.Tracked Formula.Token.read Text.isBlank text ∧
      (∀ fault position, Query.parse text = .error (.malformed fault position) →
        position.TrueIn text.toList) ∧
      ∀ fault position, Formula.parse text = .error (.malformed fault position) →
        position.TrueIn text.toList :=
  ⟨Source.tracked Query.Token.orderly_read Query.Token.length_read_le text,
    Source.tracked Formula.Token.orderly_read Formula.Token.length_read_le text,
    fun _ _ h => Query.placed_of_parse h, fun _ _ h => Formula.placed_of_parse h⟩

/-- A quote that is opened on the third line and not closed is reported there. -/
theorem places_true_of_unclosed :
    Query.parse "a = 1
or
 b ~ 'x
y" = .error (.malformed .unclosedQuote ⟨3, 6, 14⟩) ∧
      Position.TrueIn "a = 1
or
 b ~ 'x
y".toList ⟨3, 6, 14⟩ := by
  have hparse : Query.parse "a = 1
or
 b ~ 'x
y" =
      .error (.malformed .unclosedQuote ⟨3, 6, 14⟩) := by decide +kernel
  exact ⟨hparse, (places_true "a = 1
or
 b ~ 'x
y").2.2.1 _ _ hparse⟩

end RecordQuery
