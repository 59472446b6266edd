import Mathlib.Data.List.Induction
import Mathlib.Order.Monotone.Basic
import RecordQuery.Proofs.Lexing

/-! The places of lexemes. A place is true in a text when its line and its column are those that the
line breaks before its offset make. A lexer that takes no more than there is goes from one true
place to another and never back, over flawed lexemes too (`Source.tracked`). -/

namespace RecordQuery

/-- The place is one of a text: its line comes from the line breaks before it, and its column from
the characters behind the last of them. -/
structure Position.TrueIn (text : List Char) (position : Position) : Prop where
  offset_le : position.offset ≤ text.length
  line_eq : position.line = 1 + (text.take position.offset).count '\n'
  column_eq : position.column =
    1 + ((text.take position.offset).reverse.takeWhile (· != '\n')).length

theorem Position.start_afterAll (chars : List Char) :
    start.afterAll chars =
      ⟨1 + chars.count '\n', 1 + (chars.reverse.takeWhile (· != '\n')).length, chars.length⟩ := by
  induction chars using List.reverseRecOn with
  | nil => rfl
  | append_singleton chars c ih =>
    rw [afterAll_append, ih, afterAll_cons, afterAll_nil, List.reverse_append,
      List.reverse_singleton, List.singleton_append, List.takeWhile_cons, List.length_append]
    by_cases hc : c = '\n'
    · subst hc
      simp [after, Nat.add_assoc]
    · simp [after, hc, List.count_append, Nat.add_comm 1, Nat.add_assoc]

theorem Position.trueIn_afterAll (before rest : List Char) :
    (start.afterAll before).TrueIn (before ++ rest) := by
  rw [start_afterAll]
  constructor <;> simp

/-- What is left of a text behind some of its characters, with the place where it starts. -/
def Source.Of (text : List Char) (source : Source) : Prop :=
  ∃ before, text = before ++ source.rest ∧ source.position = Position.start.afterAll before

namespace Source.Of

variable {text : List Char} {source : Source}

theorem ofString (text : String) : Of text.toList (Source.ofString text) :=
  ⟨[], rfl, rfl⟩

theorem trueIn (h : Of text source) : source.position.TrueIn text := by
  obtain ⟨before, rfl, hposition⟩ := h
  rw [hposition]
  exact Position.trueIn_afterAll before source.rest

theorem rest_eq (h : Of text source) : source.rest = text.drop source.position.offset := by
  obtain ⟨before, rfl, hposition⟩ := h
  rw [hposition, Position.start_afterAll, List.drop_left]

theorem drop (h : Of text source) (count : Nat) : Of text (source.drop count) := by
  obtain ⟨before, rfl, hposition⟩ := h
  refine ⟨before ++ source.rest.take count, ?_, ?_⟩
  · rw [List.append_assoc, Source.drop, List.take_append_drop]
  · rw [Source.drop, hposition, Position.afterAll_append]

theorem skipWhile (h : Of text source) (test : Char → Bool) : Of text (source.skipWhile test) := by
  obtain ⟨before, rfl, hposition⟩ := h
  refine ⟨before ++ source.rest.takeWhile test, ?_, ?_⟩
  · rw [List.append_assoc, Source.skipWhile, List.takeWhile_append_dropWhile]
  · rw [Source.skipWhile, hposition, Position.afterAll_append]

end Source.Of

/-! ### Lexemes one after another -/

section Lexemes

variable {τ : Type} (read : List Char → Reading τ) (blank : Char → Bool)

/-- What is left of a text behind so many lexemes. -/
def Source.after (source : Source) : (count : Nat) → Source
  | 0 => source
  | count + 1 => (Lexeme.next read blank (source.after count)).2

/-- The lexeme of a text behind so many others. -/
def Source.lexeme (source : Source) (count : Nat) : Lexeme τ :=
  (Lexeme.next read blank (source.after read blank count)).1

/-- A stream behind so many lexemes. -/
def Stream.after (stream : Stream τ) : (count : Nat) → Stream τ
  | 0 => stream
  | count + 1 => (stream.after count).next.2

/-- The lexeme of a stream behind so many others. -/
def Stream.lexeme (stream : Stream τ) (count : Nat) : Lexeme τ :=
  (stream.after count).next.1

variable {read blank} {text : List Char} {source : Source}

theorem Source.Of.next (h : Of text source) : Of text (Lexeme.next read blank source).2 :=
  (h.skipWhile blank).drop _

theorem Source.Of.after (h : Of text source) (count : Nat) :
    Of text (source.after read blank count) := by
  induction count with
  | zero => exact h
  | succ count ih => exact ih.next

theorem Lexeme.position_next :
    (next read blank source).1.position = (source.skipWhile blank).position := rfl

/-- A flaw is reported where the lexeme starts. -/
theorem Lexeme.position_of_malformed {fault : Fault} {position : Position}
    (h : (next read blank source).1.token = .error (.malformed fault position)) :
    position = (next read blank source).1.position := by
  rw [position_next]
  simp only [next, ofReading] at h
  split at h
  · cases h
  · next flaw _ =>
    cases flaw with
    | fault => cases h; rfl
    | overflow => cases h

theorem Lexeme.offset_le : source.position.offset ≤ (next read blank source).1.position.offset := by
  rw [position_next, Source.skipWhile, Position.offset_afterAll]
  exact Nat.le_add_right _ _

/-- The lexer moves on from a lexeme by what the reader takes. -/
theorem Lexeme.offset_next (hlength : ∀ chars, (read chars).length ≤ chars.length) :
    (next read blank source).2.position.offset =
      (next read blank source).1.position.offset +
        (read (source.skipWhile blank).rest).length := by
  rw [position_next]
  simp only [next, Source.drop, Position.offset_afterAll]
  rw [List.length_take_of_le (hlength _)]

theorem Source.skipWhile_skipWhile (test : Char → Bool) :
    (source.skipWhile test).skipWhile test = source.skipWhile test := by
  obtain ⟨rest, position⟩ := source
  simp only [Source.skipWhile]
  cases hrest : rest.dropWhile test with
  | nil => rfl
  | cons c more =>
    have hc : test c = false := by
      have hhead := List.head?_dropWhile_not test rest
      rwa [hrest] at hhead
    simp [hc]

/-- A stream goes on with the stream of what is left. Where nothing is taken, this is the stream
itself, whose end comes again. -/
theorem Stream.next_ofSource_eq (hlength : ∀ chars, (read chars).length ≤ chars.length) :
    (ofSource read blank source).next = ((Lexeme.next read blank source).1,
      ofSource read blank (Lexeme.next read blank source).2) := by
  rw [next_ofSource]
  split
  · rfl
  · next hstuck =>
    have hzero : (read (source.skipWhile blank).rest).length = 0 := by
      have hle := hlength (source.skipWhile blank).rest
      simp only [Lexeme.next, Source.drop, List.length_drop] at hstuck
      omega
    have hrest : (Lexeme.next read blank source).2 = source.skipWhile blank := by
      simp [Lexeme.next, Source.drop, hzero]
    have hnext : Lexeme.next read blank (source.skipWhile blank) =
        Lexeme.next read blank source := by
      simp only [Lexeme.next, Source.skipWhile_skipWhile]
    rw [hrest, ofSource]
    simp only [hnext, Source.skipWhile_skipWhile]
    rw [dif_neg (by rwa [hrest] at hstuck ⊢)]

/-- The calls on a stream bring what the calls on its text do. -/
theorem Stream.after_ofSource (hlength : ∀ chars, (read chars).length ≤ chars.length)
    (count : Nat) :
    (ofSource read blank source).after count =
      ofSource read blank (source.after read blank count) := by
  induction count with
  | zero => rfl
  | succ count ih => rw [Stream.after, ih, next_ofSource_eq hlength, Source.after]

theorem Stream.lexeme_ofSource (hlength : ∀ chars, (read chars).length ≤ chars.length)
    (count : Nat) :
    (ofSource read blank source).lexeme count = source.lexeme read blank count := by
  rw [Stream.lexeme, after_ofSource hlength, next_ofSource_eq hlength, Source.lexeme]

/-! ### Where lexers get -/

variable [TokenKind τ]

variable (read blank) in
/-- What the calls of a lexer on a text keep to, however many come and whether or not they bring
errors. The lexer stands at true places of the text, before what follows there, and so do the
lexemes and their faults. Each call goes past blanks to its lexeme, and past what the reader takes
of the text there, which is something if it is a token. -/
structure Source.Tracked (text : String) : Prop where
  place (count : Nat) : ((ofString text).after read blank count).position.TrueIn text.toList
  rest (count : Nat) : ((ofString text).after read blank count).rest =
    text.toList.drop ((ofString text).after read blank count).position.offset
  lexeme_place (count : Nat) :
    ((ofString text).lexeme read blank count).position.TrueIn text.toList
  fault_place (count : Nat) (fault : Fault) (position : Position) :
    ((ofString text).lexeme read blank count).token = .error (.malformed fault position) →
      position.TrueIn text.toList
  skips (count : Nat) : ((ofString text).after read blank count).position.offset ≤
    ((ofString text).lexeme read blank count).position.offset
  takes (count : Nat) : ((ofString text).after read blank (count + 1)).position.offset =
    ((ofString text).lexeme read blank count).position.offset +
      (read (text.toList.drop ((ofString text).lexeme read blank count).position.offset)).length
  moves (count : Nat) (token : τ) :
    ((ofString text).lexeme read blank count).token = .ok token → token ≠ TokenKind.done →
      ((ofString text).lexeme read blank count).position.offset <
        ((ofString text).after read blank (count + 1)).position.offset
  rises : Monotone fun count => ((ofString text).after read blank count).position.offset
  lexeme_rises : Monotone fun count => ((ofString text).lexeme read blank count).position.offset
  ends : ∃ count ≤ text.length,
    ((ofString text).lexeme read blank count).token = .ok TokenKind.done ∨
      ∃ error, ((ofString text).lexeme read blank count).token = .error error
  stream (count : Nat) : (Stream.ofSource read blank (ofString text)).lexeme count =
    (ofString text).lexeme read blank count

/-- Tokens take a character each: behind so many of them, the lexer has gone as far. -/
theorem Source.le_offset_after (hread : Orderly read)
    (hlength : ∀ chars, (read chars).length ≤ chars.length) {count : Nat}
    (h : ∀ index < count, ∃ token, (source.lexeme read blank index).token = .ok token ∧
      token ≠ TokenKind.done) :
    count ≤ (source.after read blank count).position.offset := by
  induction count with
  | zero => exact Nat.zero_le _
  | succ count ih =>
    have ih := ih fun index hindex => h index (Nat.lt_succ_of_lt hindex)
    obtain ⟨token, ht, hne⟩ := h count (Nat.lt_succ_self _)
    have hpos := hread.moves (Lexeme.token_next_eq_ok.1 ht) hne
    rw [Source.after, Lexeme.offset_next hlength]
    have hle : (source.after read blank count).position.offset ≤
        (source.lexeme read blank count).position.offset := Lexeme.offset_le
    unfold Source.lexeme at hle
    omega

/-- In a text there are no more tokens than characters before the first error or the end. -/
theorem Source.exists_last (hread : Orderly read)
    (hlength : ∀ chars, (read chars).length ≤ chars.length) {text : List Char}
    (h : Of text source) :
    ∃ count ≤ text.length, (source.lexeme read blank count).token = .ok TokenKind.done ∨
      ∃ error, (source.lexeme read blank count).token = .error error := by
  refine Classical.byContradiction fun hnone => ?_
  have htokens : ∀ index < text.length + 1, ∃ token,
      (source.lexeme read blank index).token = .ok token ∧ token ≠ TokenKind.done := by
    intro index hindex
    cases ht : (source.lexeme read blank index).token with
    | error error => exact absurd ⟨index, Nat.le_of_lt_succ hindex, .inr ⟨error, ht⟩⟩ hnone
    | ok token =>
      refine ⟨token, rfl, fun hdone => hnone ⟨index, Nat.le_of_lt_succ hindex, .inl ?_⟩⟩
      rw [ht, hdone]
  have hle := le_offset_after hread hlength htokens
  have hend : (source.after read blank (text.length + 1)).position.offset ≤ text.length :=
    (h.after _).trueIn.offset_le
  omega

theorem Source.tracked (hread : Orderly read)
    (hlength : ∀ chars, (read chars).length ≤ chars.length) (text : String) :
    Tracked read blank text := by
  have hafter (count : Nat) : Of text.toList ((ofString text).after read blank count) :=
    (Of.ofString text).after count
  have hlexeme (count : Nat) :
      Of text.toList (((ofString text).after read blank count).skipWhile blank) :=
    (hafter count).skipWhile blank
  have htakes (count : Nat) : ((ofString text).after read blank (count + 1)).position.offset =
      ((ofString text).lexeme read blank count).position.offset +
        (read (text.toList.drop
          ((ofString text).lexeme read blank count).position.offset)).length := by
    rw [Source.lexeme, Lexeme.position_next, ← (hlexeme count).rest_eq]
    exact Lexeme.offset_next hlength
  have hskips (count : Nat) : ((ofString text).after read blank count).position.offset ≤
      ((ofString text).lexeme read blank count).position.offset := Lexeme.offset_le
  refine {
    place := fun count => (hafter count).trueIn
    rest := fun count => (hafter count).rest_eq
    lexeme_place := fun count => (hlexeme count).trueIn
    fault_place := fun count fault position h => ?_
    skips := hskips
    takes := htakes
    moves := fun count token ht hne => ?_
    rises := monotone_nat_of_le_succ fun count => ?_
    lexeme_rises := monotone_nat_of_le_succ fun count => ?_
    ends := exists_last hread hlength (Of.ofString text)
    stream := Stream.lexeme_ofSource hlength }
  · rw [Lexeme.position_of_malformed h]
    exact (hlexeme count).trueIn
  · have hpos := hread.moves (Lexeme.token_next_eq_ok.1 ht) hne
    rw [(hlexeme count).rest_eq] at hpos
    exact Nat.lt_of_lt_of_eq (Nat.lt_add_of_pos_right hpos) (htakes count).symm
  · have := hskips count
    have := htakes count
    omega
  · have := htakes count
    have := hskips (count + 1)
    omega

end Lexemes

end RecordQuery
