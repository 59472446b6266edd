import RecordQuery.Cursor

/-! Texts as tokens. `Source.Yields` says which tokens the successive lexemes of a text bring, and
`Source.Breaks` which error comes before the end. A cursor that steps through the stream of a text
reads just these tokens (`Cursor.At.reads`, `Cursor.At.yields`). `Spells` puts texts together from
words that are each read as a token or a few. -/

namespace RecordQuery

variable {τ : Type} [TokenKind τ]

/-- The tokens that successive lexemes of a text bring, up to the end of the text. -/
inductive Source.Yields (read : List Char → Reading τ) (blank : Char → Bool) :
    Source → List τ → Prop
  | done {source : Source} :
      (Lexeme.next read blank source).1.token = .ok TokenKind.done → Yields read blank source []
  | token {source : Source} {token : τ} {tokens : List τ} :
      (Lexeme.next read blank source).1.token = .ok token → token ≠ TokenKind.done →
      Yields read blank (Lexeme.next read blank source).2 tokens →
      Yields read blank source (token :: tokens)

/-- The error of the first flawed lexeme of a text, where one comes before the end. -/
inductive Source.Breaks (read : List Char → Reading τ) (blank : Char → Bool) :
    Source → Error → Prop
  | here {source : Source} {error : Error} :
      (Lexeme.next read blank source).1.token = .error error → Breaks read blank source error
  | later {source : Source} {error : Error} {token : τ} :
      (Lexeme.next read blank source).1.token = .ok token → token ≠ TokenKind.done →
      Breaks read blank (Lexeme.next read blank source).2 error → Breaks read blank source error

section Yields

variable {read : List Char → Reading τ} {blank : Char → Bool} {source : Source} {tokens : List τ}

omit [TokenKind τ] in
theorem Lexeme.token_next_eq_ok {token : τ} :
    (Lexeme.next read blank source).1.token = .ok token ↔
      (read (source.skipWhile blank).rest).token = .ok token := by
  simp only [Lexeme.next, Lexeme.ofReading]
  split
  · next h => rw [h, Except.ok.injEq, Except.ok.injEq]
  · next h => simp [h]

theorem Source.Yields.unique (h : Source.Yields read blank source tokens) {others : List τ}
    (h' : Source.Yields read blank source others) : tokens = others := by
  induction h generalizing others with
  | done hd =>
    cases h' with
    | done _ => rfl
    | token ht hne _ => rw [hd] at ht; cases ht; exact absurd rfl hne
  | token ht hne _ ih =>
    cases h' with
    | done hd => rw [hd] at ht; cases ht; exact absurd rfl hne
    | token ht' _ hr => rw [ht] at ht'; cases ht'; rw [ih hr]

/-- What holds of every token that is read holds of the tokens that a text yields. -/
theorem Source.Yields.forall_mem {p : τ → Prop} (h : Source.Yields read blank source tokens)
    (hread : ∀ chars token, (read chars).token = .ok token → p token) :
    ∀ token ∈ tokens, p token := by
  induction h with
  | done _ => exact List.forall_mem_nil _
  | token ht _ _ ih =>
    rw [List.forall_mem_cons]
    exact ⟨hread _ _ (Lexeme.token_next_eq_ok.1 ht), ih⟩

theorem Source.Yields.ne_done (h : Source.Yields read blank source tokens) :
    ∀ token ∈ tokens, token ≠ TokenKind.done := by
  induction h with
  | done _ => exact List.forall_mem_nil _
  | token _ hne _ ih => exact List.forall_mem_cons.2 ⟨hne, ih⟩

/-- A text that yields its tokens has no flawed lexeme before its end. -/
theorem Source.Yields.not_breaks (h : Source.Yields read blank source tokens) {error : Error} :
    ¬ Source.Breaks read blank source error := by
  intro hb
  induction hb generalizing tokens with
  | here he =>
    cases h with
    | done hd => rw [hd] at he; cases he
    | token ht _ _ => rw [ht] at he; cases he
  | later ht hne _ ih =>
    cases h with
    | done hd => rw [hd] at ht; cases ht; exact hne rfl
    | token _ _ hr => exact ih hr

end Yields

/-! ### Streams and cursors -/

/-- What readers of tokens keep to: the end of the text is read as the end, and any other token
takes at least one character. -/
structure Orderly (read : List Char → Reading τ) : Prop where
  atEnd : (read []).token = .ok TokenKind.done
  moves : ∀ {chars : List Char} {token : τ}, (read chars).token = .ok token →
    token ≠ TokenKind.done → 0 < (read chars).length

/-- A stream that ends, if it ends in a token, in the end of the text. -/
def Stream.Closed (stream : Stream τ) : Prop :=
  ∀ token : τ, stream.final.token = .ok token → token = TokenKind.done

/-- The tokens that a cursor moves past on its way to another, the current one of the first
included; none of them is the end of the text. -/
inductive Cursor.Reads : Cursor τ → List τ → Cursor τ → Prop
  | nil {cursor : Cursor τ} : Reads cursor [] cursor
  | cons {cursor next after : Cursor τ} {tokens : List τ} :
      cursor.current ≠ TokenKind.done → Parser.advance cursor = .ok () next →
      Reads next tokens after → Reads cursor (cursor.current :: tokens) after

namespace Cursor.Reads

variable {before middle after : Cursor τ} {tokens more : List τ}

theorem append (h : Reads before tokens middle) (h' : Reads middle more after) :
    Reads before (tokens ++ more) after := by
  induction h with
  | nil => exact h'
  | cons hc ha _ ih => exact cons hc ha (ih h')

theorem split (h : Reads before (tokens ++ more) after) :
    ∃ middle, Reads before tokens middle ∧ Reads middle more after := by
  induction tokens generalizing before with
  | nil => exact ⟨before, nil, h⟩
  | cons token tokens ih =>
    rw [List.cons_append] at h
    cases h with
    | cons hc ha hr =>
      obtain ⟨middle, h1, h2⟩ := ih hr
      exact ⟨middle, cons hc ha h1, h2⟩

theorem current_eq {token : τ} (h : Reads before (token :: tokens) after) :
    before.current = token := by
  cases h with
  | cons _ _ _ => rfl

end Cursor.Reads

omit [TokenKind τ] in
/-- A move takes the next lexeme of the stream and keeps its end. -/
theorem Parser.advance_eq_ok {cursor next : Cursor τ} :
    advance cursor = .ok () next ↔
      cursor.stream.next.1.token = .ok next.current ∧
      next.position = cursor.stream.next.1.position ∧ next.stream = cursor.stream.next.2 := by
  cases next with
  | mk current position stream =>
    simp only [advance]
    split
    · next token ht =>
      rw [EStateM.Result.ok.injEq, Cursor.mk.injEq, ht, Except.ok.injEq]
      exact ⟨fun h => ⟨h.2.1, h.2.2.1.symm, h.2.2.2.symm⟩,
        fun h => ⟨rfl, h.1, h.2.1.symm, h.2.2.symm⟩⟩
    · next e ht => simp [ht]

omit [TokenKind τ] in
theorem Stream.final_next (stream : Stream τ) : stream.next.2.final = stream.final := by
  unfold Stream.next
  split <;> rfl

omit [TokenKind τ] in
theorem Stream.length_next (stream : Stream τ) :
    stream.next.2.items.length = stream.items.length - 1 := by
  unfold Stream.next
  split
  · next h => simp [h]
  · next h => simp [h]

/-- In a closed stream a cursor reads no more tokens than its own and the items of the stream. -/
theorem Cursor.Reads.length_le {before after : Cursor τ} {tokens : List τ}
    (h : Reads before tokens after) (hs : before.stream.Closed) :
    tokens.length ≤ before.stream.items.length + 1 := by
  induction h with
  | nil => exact Nat.zero_le _
  | @cons cursor next after tokens _ ha hr ih =>
    obtain ⟨ht, -, hn⟩ := Parser.advance_eq_ok.1 ha
    have hlen := Stream.length_next cursor.stream
    have ih := ih (by unfold Stream.Closed; rw [hn, Stream.final_next]; exact hs)
    rw [hn] at ih
    by_cases h0 : cursor.stream.items = []
    · -- The next token is the end of the stream, behind which nothing is read.
      have hd : next.current = TokenKind.done := hs _ (by
        rw [← ht]; simp [Stream.next, h0])
      cases hr with
      | nil => simp [h0]
      | cons hc _ _ => exact absurd hd hc
    · have := List.length_pos_iff.2 h0
      simp only [List.length_cons]
      omega

theorem Cursor.Reads.closed {before after : Cursor τ} {tokens : List τ}
    (h : Reads before tokens after) (hs : before.stream.Closed) : after.stream.Closed := by
  induction h with
  | nil => exact hs
  | cons _ ha _ ih =>
    obtain ⟨-, -, hn⟩ := Parser.advance_eq_ok.1 ha
    exact ih (by unfold Stream.Closed; rw [hn, Stream.final_next]; exact hs)

section Source

variable {read : List Char → Reading τ} {blank : Char → Bool}

omit [TokenKind τ] in
theorem Stream.next_ofSource (source : Source) :
    (Stream.ofSource read blank source).next =
      ((Lexeme.next read blank source).1,
        if (Lexeme.next read blank source).2.rest.length < (source.skipWhile blank).rest.length then
          Stream.ofSource read blank (Lexeme.next read blank source).2
        else ⟨[], (Lexeme.next read blank source).1⟩) := by
  rw [Stream.ofSource]
  simp only
  split <;> rfl

/-- A lexeme that is a token takes characters, so the next lexeme is another one. -/
theorem Lexeme.length_next_lt (hread : Orderly read) {source : Source} {token : τ}
    (ht : (Lexeme.next read blank source).1.token = .ok token) (hne : token ≠ TokenKind.done) :
    (Lexeme.next read blank source).2.rest.length < (source.skipWhile blank).rest.length := by
  rw [Lexeme.token_next_eq_ok] at ht
  have hpos := hread.moves ht hne
  have hrest : (source.skipWhile blank).rest ≠ [] := by
    intro h0
    rw [h0, hread.atEnd] at ht
    cases ht
    exact hne rfl
  have := List.length_pos_iff.2 hrest
  simp only [Lexeme.next, Source.drop, List.length_drop]
  omega

/-- A lexeme that is a token is an item of the stream. -/
theorem Stream.length_ofSource (hread : Orderly read) {source : Source} {token : τ}
    (ht : (Lexeme.next read blank source).1.token = .ok token) (hne : token ≠ TokenKind.done) :
    (Stream.ofSource read blank source).items.length =
      (Stream.ofSource read blank (Lexeme.next read blank source).2).items.length + 1 := by
  rw [Stream.ofSource]
  simp only
  rw [dif_pos (Lexeme.length_next_lt hread ht hne)]
  rfl

theorem Stream.closed_ofSource (hread : Orderly read) (source : Source) :
    (Stream.ofSource read blank source).Closed := by
  fun_induction Stream.ofSource read blank source with
  | case1 source start lexeme rest _ _ stream ih => exact ih
  | case2 source start lexeme rest hlexeme hge =>
    intro token ht
    refine Classical.byContradiction fun hne => hge ?_
    have h : (Lexeme.next read blank source).1.token = .ok token → token ≠ TokenKind.done →
        (Lexeme.next read blank source).2.rest.length < (source.skipWhile blank).rest.length :=
      Lexeme.length_next_lt hread
    rw [hlexeme] at h
    exact h ht hne

/-- The cursor stands at the first lexeme of a text, the rest of the text before it. -/
structure Cursor.At (read : List Char → Reading τ) (blank : Char → Bool) (cursor : Cursor τ)
    (source : Source) : Prop where
  current : (Lexeme.next read blank source).1.token = .ok cursor.current
  closed : cursor.stream.Closed
  stream : cursor.current ≠ TokenKind.done →
    cursor.stream = Stream.ofSource read blank (Lexeme.next read blank source).2

namespace Cursor.At

theorem of_next (hread : Orderly read) {cursor : Cursor τ} {source : Source}
    (hc : (Stream.ofSource read blank source).next.1.token = .ok cursor.current)
    (hs : cursor.stream = (Stream.ofSource read blank source).next.2) :
    At read blank cursor source := by
  have hfinal := Stream.final_next (Stream.ofSource read blank source)
  refine ⟨by rw [← hc, Stream.next_ofSource], ?_, fun hne => ?_⟩
  · unfold Stream.Closed
    rw [hs, hfinal]
    exact Stream.closed_ofSource hread source
  · rw [Stream.next_ofSource] at hc
    rw [hs, Stream.next_ofSource]
    simp [Lexeme.length_next_lt hread hc hne]

theorem start (hread : Orderly read) {cursor : Cursor τ} {source : Source}
    (h : Cursor.start (Stream.ofSource read blank source) = .ok cursor) :
    At read blank cursor source := by
  unfold Cursor.start at h
  simp only at h
  split at h
  · next token ht =>
    cases h
    exact of_next hread ht rfl
  · cases h

theorem advance (hread : Orderly read) {cursor next : Cursor τ} {source : Source}
    (h : At read blank cursor source) (hc : cursor.current ≠ TokenKind.done)
    (ha : Parser.advance cursor = .ok () next) :
    At read blank next (Lexeme.next read blank source).2 := by
  obtain ⟨ht, -, hn⟩ := Parser.advance_eq_ok.1 ha
  rw [h.stream hc] at ht hn
  exact of_next hread ht hn

/-- A cursor moves past its token to the next lexeme of the text, if that is a token. -/
theorem exists_advance (hread : Orderly read) {cursor : Cursor τ} {source : Source} {token : τ}
    (h : At read blank cursor source) (hc : cursor.current ≠ TokenKind.done)
    (ht : (Lexeme.next read blank (Lexeme.next read blank source).2).1.token = .ok token) :
    ∃ next, Parser.advance cursor = .ok () next ∧
      At read blank next (Lexeme.next read blank source).2 := by
  have hnext : cursor.stream.next.1.token = .ok token := by
    rw [h.stream hc, Stream.next_ofSource]
    exact ht
  have ha : Parser.advance cursor =
      .ok () ⟨token, cursor.stream.next.1.position, cursor.stream.next.2⟩ :=
    Parser.advance_eq_ok.2 ⟨hnext, rfl, rfl⟩
  exact ⟨_, ha, h.advance hread hc ha⟩

/-- A cursor does not move past its token to a flawed lexeme. -/
theorem advance_eq_error {cursor : Cursor τ} {source : Source} {error : Error}
    (h : At read blank cursor source) (hc : cursor.current ≠ TokenKind.done)
    (he : (Lexeme.next read blank (Lexeme.next read blank source).2).1.token = .error error) :
    ∃ after, Parser.advance cursor = .error error after := by
  have hnext : cursor.stream.next.1.token = .error error := by
    rw [h.stream hc, Stream.next_ofSource]
    exact he
  exact ⟨{ cursor with stream := cursor.stream.next.2 }, by simp only [Parser.advance, hnext]⟩

/-- What a cursor reads on its way to the end is what the text yields. -/
theorem yields (hread : Orderly read) {cursor after : Cursor τ} {source : Source}
    {tokens : List τ} (h : At read blank cursor source) (hr : Reads cursor tokens after)
    (hd : after.current = TokenKind.done) : Source.Yields read blank source tokens := by
  induction hr generalizing source with
  | nil => exact .done (hd ▸ h.current)
  | cons hc ha _ ih => exact .token h.current hc (ih (h.advance hread hc ha) hd)

/-- A cursor at the front of a text reads what the text yields, up to the end. -/
theorem reads (hread : Orderly read) {cursor : Cursor τ} {source : Source} {tokens : List τ}
    (h : At read blank cursor source) (hy : Source.Yields read blank source tokens) :
    ∃ after, Reads cursor tokens after ∧ after.current = TokenKind.done := by
  induction hy generalizing cursor with
  | done hd =>
    have hc := h.current
    rw [hd, Except.ok.injEq] at hc
    exact ⟨cursor, .nil, hc.symm⟩
  | @token source token tokens ht hne hrest ih =>
    have hc := h.current
    rw [ht] at hc
    obtain rfl : token = cursor.current := by injection hc
    -- The lexeme after this one is a token, since the rest of the text yields its own.
    obtain ⟨t, hnext⟩ : ∃ t, (Lexeme.next read blank (Lexeme.next read blank source).2).1.token =
        .ok t := by
      cases hrest with
      | done hd => exact ⟨_, hd⟩
      | token ht' _ _ => exact ⟨_, ht'⟩
    obtain ⟨next, ha, hat⟩ := h.exists_advance hread hne hnext
    obtain ⟨after, hr, hd⟩ := ih hat
    exact ⟨after, .cons hne ha hr, hd⟩

/-- A text whose first lexeme is a token has a cursor at its front. -/
theorem exists_start_of_token (hread : Orderly read) {source : Source} {token : τ}
    (ht : (Lexeme.next read blank source).1.token = .ok token) :
    ∃ cursor, Cursor.start (Stream.ofSource read blank source) = .ok cursor ∧
      At read blank cursor source := by
  have ht : (Stream.ofSource read blank source).next.1.token = .ok token := by
    rwa [Stream.next_ofSource]
  have hs : ∃ cursor, Cursor.start (Stream.ofSource read blank source) = .ok cursor := by
    unfold Cursor.start
    simp [ht]
  obtain ⟨cursor, hs⟩ := hs
  exact ⟨cursor, hs, start hread hs⟩

/-- A text that yields tokens has a cursor at its front. -/
theorem exists_start (hread : Orderly read) {source : Source} {tokens : List τ}
    (hy : Source.Yields read blank source tokens) :
    ∃ cursor, Cursor.start (Stream.ofSource read blank source) = .ok cursor ∧
      At read blank cursor source := by
  cases hy with
  | done hd => exact exists_start_of_token hread hd
  | token ht _ _ => exact exists_start_of_token hread ht

end Cursor.At

end Source

/-! ### Words -/

/-- A text that yields these tokens, wherever it stands. -/
def Spelled (read : List Char → Reading τ) (blank : Char → Bool) (chars : List Char)
    (tokens : List τ) : Prop :=
  ∀ position : Position, Source.Yields read blank ⟨chars, position⟩ tokens

/-- A text begins, if it begins at all, with a character at which a word stops. -/
def Ends (stops : Char → Bool) (rest : List Char) : Prop :=
  ∀ c ∈ rest.head?, stops c = true

/-- A text that adds these tokens to those of any text behind it that does not run on its last
word. -/
def Spells (read : List Char → Reading τ) (blank stops : Char → Bool) (chars : List Char)
    (tokens : List τ) : Prop :=
  ∀ (rest : List Char) (more : List τ), Ends stops rest → Spelled read blank rest more →
    Spelled read blank (chars ++ rest) (tokens ++ more)

section Words

variable {read : List Char → Reading τ} {blank stops : Char → Bool}

omit [TokenKind τ] in
/-- A word of one class of characters ends where the text behind it is of another. -/
theorem takeWhile_append {p : Char → Bool} {word rest : List Char} (hw : ∀ c ∈ word, p c = true)
    (hr : ∀ c ∈ rest.head?, p c = false) :
    (word ++ rest).takeWhile p = word ∧ (word ++ rest).dropWhile p = rest := by
  rw [List.takeWhile_append_of_pos hw, List.dropWhile_append_of_pos hw]
  cases rest with
  | nil => simp
  | cons c rest => simp [hr c (by simp)]

omit [TokenKind τ] in
/-- What stands together at the front of a text stands together before another text that begins
with none of the class. -/
theorem takeWhile_append_of_ends {p : Char → Bool} {chars rest : List Char}
    (hr : ∀ c ∈ rest.head?, p c = false) :
    (chars ++ rest).takeWhile p = chars.takeWhile p ∧
      (chars ++ rest).dropWhile p = chars.dropWhile p ++ rest := by
  induction chars with
  | nil => simpa using takeWhile_append (List.forall_mem_nil _) hr
  | cons c chars ih =>
    rw [List.cons_append, List.takeWhile_cons, List.dropWhile_cons, List.takeWhile_cons,
      List.dropWhile_cons]
    split
    · exact ⟨congrArg (c :: ·) ih.1, ih.2⟩
    · exact ⟨rfl, rfl⟩

theorem Spelled.nil (hread : Orderly read) : Spelled read blank [] [] :=
  fun _ => .done (Lexeme.token_next_eq_ok.2 hread.atEnd)

theorem Spelled.after_blank {c : Char} {chars : List Char} {tokens : List τ} (hc : blank c = true)
    (h : Spelled read blank chars tokens) : Spelled read blank (c :: chars) tokens := by
  intro position
  have hnext : Lexeme.next read blank ⟨c :: chars, position⟩ =
      Lexeme.next read blank ⟨chars, position.after c⟩ := by
    simp [Lexeme.next, Source.skipWhile, hc]
  have h' := h (position.after c)
  cases h' with
  | done hd => exact .done (hnext ▸ hd)
  | token ht hne hr => exact .token (hnext ▸ ht) hne (hnext ▸ hr)

/-- A word that is read as a token, before a text. -/
theorem Spelled.word {c : Char} {word rest : List Char} {token : τ} {tokens : List τ}
    (hc : blank c = false) (hne : token ≠ TokenKind.done)
    (hw : read (c :: word ++ rest) = ⟨.ok token, word.length + 1⟩)
    (h : Spelled read blank rest tokens) :
    Spelled read blank (c :: word ++ rest) (token :: tokens) := by
  intro position
  have hnext : Lexeme.next read blank ⟨c :: word ++ rest, position⟩ =
      (⟨position, .ok token⟩, ⟨rest, position.afterAll (c :: word)⟩) := by
    simp only [List.cons_append] at hw
    simp [Lexeme.next, Source.skipWhile, hc, hw, Lexeme.ofReading, Source.drop]
  refine .token (by rw [hnext]) hne ?_
  rw [hnext]
  exact h _

theorem Spells.word {c : Char} {word : List Char} {token : τ} (hc : blank c = false)
    (hne : token ≠ TokenKind.done)
    (hw : ∀ rest, Ends stops rest →
      read (c :: word ++ rest) = ⟨.ok token, word.length + 1⟩) :
    Spells read blank stops (c :: word) [token] :=
  fun rest _ hends h => Spelled.word hc hne (hw rest hends) h

theorem Spells.of_blank {c : Char} (hc : blank c = true) :
    Spells read blank stops [c] ([] : List τ) :=
  fun _ _ _ h => Spelled.after_blank hc h

/-- A word of the characters of a class, of which the reader takes as many as stand together. -/
theorem Spells.of_class {starts continues : Char → Bool} {token : String → τ} {word : String}
    (hread : ∀ c rest, starts c = true → read (c :: rest) =
      ⟨.ok (token (String.ofList ((c :: rest).takeWhile continues))),
        ((c :: rest).takeWhile continues).length⟩)
    (hblank : ∀ c, starts c = true → blank c = false)
    (hstops : ∀ c, stops c = true → continues c = false) (hne : token word ≠ TokenKind.done)
    (hs : word.toList.head?.any starts = true) (hc : ∀ c ∈ word.toList, continues c = true) :
    Spells read blank stops word.toList [token word] := by
  cases hw : word.toList with
  | nil => rw [hw] at hs; cases hs
  | cons c chars =>
    rw [hw] at hs hc
    refine Spells.word (hblank c hs) hne fun rest hends => ?_
    obtain ⟨hword, -⟩ := takeWhile_append hc fun d hd => hstops d (hends d hd)
    rw [List.cons_append] at hword ⊢
    rw [hread c _ hs, hword, ← hw, String.ofList_toList, hw, List.length_cons]

/-! What a text yields it adds to the tokens of any text behind it. -/

/-- What readers keep to before a text that does not run on: they read what they read at the end of
the text, and only there they find the end. -/
structure Settled (read : List Char → Reading τ) (stops : Char → Bool) : Prop where
  length_le (chars : List Char) : (read chars).length ≤ chars.length
  eq_nil {chars : List Char} : (read chars).token = .ok TokenKind.done → chars = []
  append {chars rest : List Char} {token : τ} : (read chars).token = .ok token →
    Ends stops rest → chars ≠ [] → read (chars ++ rest) = read chars

theorem Spelled.after_blanks {chars rest : List Char} {tokens : List τ}
    (h : Spelled read blank (chars.dropWhile blank ++ rest) tokens) :
    Spelled read blank (chars ++ rest) tokens := by
  induction chars with
  | nil => exact h
  | cons c chars ih =>
    rw [List.dropWhile_cons] at h
    split at h
    · next hc => exact .after_blank hc (ih h)
    · exact h

/-- A token that is read at the front of a text, with what is left of the text behind it. -/
theorem Spelled.token {chars : List Char} {token : τ} {tokens : List τ} (hread : Orderly read)
    (ht : (read chars).token = .ok token) (hne : token ≠ TokenKind.done)
    (hlength : (read chars).length ≤ chars.length) (hblank : ∀ c ∈ chars.head?, blank c = false)
    (h : Spelled read blank (chars.drop (read chars).length) tokens) :
    Spelled read blank chars (token :: tokens) := by
  have hpos := hread.moves ht hne
  cases chars with
  | nil =>
    rw [List.length_nil] at hlength
    omega
  | cons c chars =>
    obtain ⟨count, hcount⟩ : ∃ count, (read (c :: chars)).length = count + 1 :=
      ⟨_, (Nat.sub_add_cancel hpos).symm⟩
    rw [hcount, List.drop_succ_cons] at h
    rw [hcount, List.length_cons] at hlength
    have hsplit : c :: chars.take count ++ chars.drop count = c :: chars := by
      rw [List.cons_append, List.take_append_drop]
    have hreading : read (c :: chars) = ⟨.ok token, (chars.take count).length + 1⟩ := by
      rw [List.length_take_of_le (by omega), ← ht, ← hcount]
    rw [← hsplit]
    exact .word (hblank c rfl) hne (hsplit ▸ hreading) h

/-- A text that yields tokens yields them before any text that does not run on its last word. -/
theorem Spells.of_yields (hread : Orderly read) (hsettled : Settled read stops) {source : Source}
    {tokens : List τ} (h : Source.Yields read blank source tokens) :
    Spells read blank stops source.rest tokens := by
  induction h with
  | @done source hd =>
    intro rest more hends hrest
    have hnil := hsettled.eq_nil (Lexeme.token_next_eq_ok.1 hd)
    refine .after_blanks ?_
    rwa [show source.rest.dropWhile blank = [] from hnil]
  | @token source token tokens ht hne _ ih =>
    intro rest more hends hrest
    have ht := Lexeme.token_next_eq_ok.1 ht
    have hrest : Spelled read blank
        ((source.skipWhile blank).rest.drop (read (source.skipWhile blank).rest).length ++ rest)
        (tokens ++ more) := ih rest more hends hrest
    have hhead : ∀ c ∈ (source.skipWhile blank).rest.head?, blank c = false := fun c hc => by
      have hfirst := List.head?_dropWhile_not blank source.rest
      rwa [show (source.rest.dropWhile blank).head? = some c from hc] at hfirst
    refine .after_blanks ?_
    show Spelled read blank ((source.skipWhile blank).rest ++ rest) _
    generalize (source.skipWhile blank).rest = start at ht hrest hhead ⊢
    have hlength := hsettled.length_le start
    have hpos := hread.moves ht hne
    have hstart : start ≠ [] := List.ne_nil_of_length_pos (Nat.lt_of_lt_of_le hpos hlength)
    have happend := hsettled.append ht hends hstart
    refine .token hread (happend ▸ ht) hne ?_ ?_ ?_
    · rw [happend, List.length_append]; omega
    · rwa [List.head?_append, Option.or_of_isSome (List.isSome_head?.2 hstart)]
    · rwa [happend, List.drop_append_of_le_length hlength]

variable {others : Char → Bool} {chars more : List Char} {tokens following : List τ}

/-- Two texts, the second of which does not run on the first. -/
theorem Spells.append (h : Spells read blank stops chars tokens)
    (hc : more.head?.any stops = true) (h' : Spells read blank others more following) :
    Spells read blank others (chars ++ more) (tokens ++ following) := by
  intro rest last hends hrest
  rw [List.append_assoc, List.append_assoc]
  refine h _ _ (fun c hhead => ?_) (h' _ _ hends hrest)
  cases more with
  | nil => cases hc
  | cons d more =>
    cases hhead
    exact hc

/-- A text that stops by itself, before another. -/
theorem Spells.append_of_all (h : Spells read blank (fun _ => true) chars tokens)
    (h' : Spells read blank others more following) :
    Spells read blank others (chars ++ more) (tokens ++ following) := by
  intro rest last hends hrest
  rw [List.append_assoc, List.append_assoc]
  exact h _ _ (fun _ _ => rfl) (h' _ _ hends hrest)

theorem Spells.of_all (h : Spells read blank (fun _ => true) chars tokens) :
    Spells read blank stops chars tokens :=
  fun _ _ _ hrest => h _ _ (fun _ _ => rfl) hrest

theorem Spells.nil : Spells read blank stops [] ([] : List τ) :=
  fun _ _ _ hrest => hrest

theorem Spells.spelled (hread : Orderly read) (h : Spells read blank stops chars tokens) :
    Spelled read blank chars tokens := by
  have hends : Ends stops [] := fun _ hc => nomatch hc
  have h := h _ _ hends (Spelled.nil hread)
  rwa [List.append_nil, List.append_nil] at h

end Words

section Texts

variable {read : List Char → Reading τ} {blank stops others : Char → Bool}
  {text more : String} {tokens following : List τ}

theorem Spells.concat (h : Spells read blank stops text.toList tokens)
    (hc : more.toList.head?.any stops = true)
    (h' : Spells read blank others more.toList following) :
    Spells read blank others (text ++ more).toList (tokens ++ following) := by
  rw [String.toList_append]
  exact h.append hc h'

theorem Spells.concat_of_all (h : Spells read blank (fun _ => true) text.toList tokens)
    (h' : Spells read blank others more.toList following) :
    Spells read blank others (text ++ more).toList (tokens ++ following) := by
  rw [String.toList_append]
  exact h.append_of_all h'

/-- Texts on both sides of a separator, which runs on neither of them. -/
theorem Spells.separated {separator : String} {token : τ}
    (h : Spells read blank stops text.toList tokens)
    (hs : Spells read blank (fun _ => true) separator.toList [token])
    (hc : separator.toList.head?.any stops = true)
    (h' : Spells read blank others more.toList following) :
    Spells read blank others (text ++ separator ++ more).toList (tokens ++ token :: following) := by
  rw [← List.singleton_append, ← List.append_assoc]
  exact (h.concat hc hs).concat_of_all h'

end Texts

end RecordQuery
