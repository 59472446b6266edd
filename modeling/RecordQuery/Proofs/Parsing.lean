import RecordQuery.Proofs.Lexing

/-! What parsers take. `Parses` says that a parser takes given tokens and makes a value of them, and
`Sound` that whatever it makes a value of stands in a relation to that value; both come with a rule
for each way in which parsers are put together. -/

namespace RecordQuery.Parser

variable {τ α β : Type} {parser : Parser τ α} {next : α → Parser τ β}
  {before middle after : Cursor τ} {a : α} {b : β}

theorem bind_of_ok (h : parser before = .ok a middle) :
    (parser >>= next) before = next a middle := by
  show EStateM.bind parser next before = _
  simp [EStateM.bind, h]

theorem bind_eq_ok : (parser >>= next) before = .ok b after ↔
    ∃ a middle, parser before = .ok a middle ∧ next a middle = .ok b after := by
  constructor
  · intro h
    replace h : EStateM.bind parser next before = .ok b after := h
    unfold EStateM.bind at h
    split at h
    · next a middle ha => exact ⟨a, middle, ha, h⟩
    · cases h
  · rintro ⟨a, middle, ha, h⟩
    rw [bind_of_ok ha, h]

theorem pure_eq_ok {a' : α} : (pure a : Parser τ α) before = .ok a' after ↔
    a = a' ∧ before = after := by
  show EStateM.Result.ok a before = .ok a' after ↔ _
  rw [EStateM.Result.ok.injEq]

theorem current_bind {next : τ → Parser τ β} : (current >>= next) before =
    next before.current before := rfl

theorem consume_eq_ok [TokenKind τ] {u : Unit} :
    consume before = .ok u after ↔ advance before = .ok () after := by
  unfold consume
  rw [advance_eq_ok, advance_eq_ok]

theorem run_eq_ok {stream : Stream τ} : run parser stream = .ok a ↔
    ∃ cursor after, Cursor.start stream = .ok cursor ∧ parser cursor = .ok a after := by
  unfold run
  constructor
  · intro h
    split at h
    · cases h
    · next cursor hc =>
      split at h
      · next result after hp => cases h; exact ⟨cursor, after, hc, hp⟩
      · cases h
  · rintro ⟨cursor, after, hc, hp⟩
    simp [hc, hp]

/-- The parser fails with this error. -/
def Fails (parser : Parser τ α) (before : Cursor τ) (error : Error) : Prop :=
  ∃ after, parser before = .error error after

namespace Fails

variable {error : Error}

theorem bind (h : Fails parser before error) : Fails (parser >>= next) before error := by
  obtain ⟨after, h⟩ := h
  refine ⟨after, ?_⟩
  show EStateM.bind parser next before = _
  simp [EStateM.bind, h]

/-- One parser after another, the second of which fails. -/
theorem bind_of_ok (h : parser before = .ok a middle) (h' : Fails (next a) middle error) :
    Fails (parser >>= next) before error := by
  rw [Fails, Parser.bind_of_ok h]
  exact h'

theorem current_bind {next : τ → Parser τ β} :
    Fails (current >>= next) before error ↔ Fails (next before.current) before error := Iff.rfl

theorem budget_bind {next : Nat → Parser τ β} : Fails (budget >>= next) before error ↔
    Fails (next (before.stream.items.length + 1)) before error := Iff.rfl

theorem run {stream : Stream τ} {cursor : Cursor τ} (hs : Cursor.start stream = .ok cursor)
    (h : Fails parser cursor error) : Parser.run parser stream = .error error := by
  obtain ⟨after, h⟩ := h
  simp only [Parser.run, hs, h]

end Fails

/-- The tokens of one value or several, a separator between neighbours. -/
inductive SeparatedBy (separator : τ) (relation : List τ → α → Prop) : List τ → List α → Prop
  | one {part : List τ} {value : α} :
      relation part value → SeparatedBy separator relation part [value]
  | cons {part tokens : List τ} {value : α} {values : List α} :
      relation part value → SeparatedBy separator relation tokens values →
      SeparatedBy separator relation (part ++ separator :: tokens) (value :: values)

namespace SeparatedBy

variable {separator : τ} {relation : List τ → α → Prop} {tokens : List τ} {values : List α}

theorem length_le (h : SeparatedBy separator relation tokens values) :
    values.length ≤ tokens.length + 1 := by
  induction h with
  | one _ => simp
  | cons _ _ ih =>
    simp only [List.length_cons, List.length_append]
    omega

theorem imp {other : List τ → α → Prop} (h : SeparatedBy separator relation tokens values)
    (hi : ∀ {part : List τ} {value : α}, relation part value → other part value) :
    SeparatedBy separator other tokens values := by
  induction h with
  | one hpart => exact .one (hi hpart)
  | cons hpart _ ih => exact .cons (hi hpart) ih

/-- No part is longer than the whole. -/
theorem bounded (h : SeparatedBy separator relation tokens values) :
    SeparatedBy separator (fun part value => part.length ≤ tokens.length ∧ relation part value)
      tokens values := by
  induction h with
  | one hpart => exact .one ⟨Nat.le_refl _, hpart⟩
  | cons hpart _ ih =>
    simp only [List.length_append, List.length_cons]
    exact .cons ⟨by omega, hpart⟩ (ih.imp fun h => ⟨by omega, h.2⟩)

theorem ne_nil (h : SeparatedBy separator relation tokens values) : values ≠ [] := by
  cases h <;> simp

end SeparatedBy

variable [TokenKind τ]

/-! ### Tokens that are taken -/

/-- The parser takes these tokens, where one that `follows` allows comes behind them, and makes
this value of them. -/
def Parses (parser : Parser τ α) (tokens : List τ) (value : α) (follows : τ → Prop) : Prop :=
  ∀ before after : Cursor τ, before.stream.Closed → before.Reads tokens after →
    follows after.current → parser before = .ok value after

namespace Parses

variable {tokens more : List τ} {p q : τ → Prop} {token : τ}

theorem mono (h : Parses parser tokens a p) (hf : ∀ t, q t → p t) :
    Parses parser tokens a q :=
  fun _ _ hs hr ht => h _ _ hs hr (hf _ ht)

protected theorem pure : Parses (pure a : Parser τ α) [] a p := by
  intro before after _ hr _
  cases hr
  rfl

theorem bind (h : Parses parser tokens a p) (h' : Parses (next a) more b q)
    (link : ∀ {middle after : Cursor τ}, middle.Reads more after → q after.current →
      p middle.current) : Parses (parser >>= next) (tokens ++ more) b q := by
  intro before after hs hr hf
  obtain ⟨middle, h1, h2⟩ := hr.split
  rw [bind_of_ok (h _ _ hs h1 (link h2 hf))]
  exact h' _ _ (h1.closed hs) h2 hf

/-- One parser after another, the second of which takes a token. -/
theorem bind_cons (h : Parses parser tokens a p)
    (h' : Parses (next a) (token :: more) b q) (ht : p token) :
    Parses (parser >>= next) (tokens ++ token :: more) b q :=
  h.bind h' fun hr _ => hr.current_eq ▸ ht

/-- One parser after another, the second of which takes nothing. -/
theorem bind_nil (h : Parses parser tokens a p) (h' : Parses (next a) [] b q)
    (hf : ∀ t, q t → p t) : Parses (parser >>= next) tokens b q := by
  have h := h.bind h' fun hr ht => by cases hr; exact hf _ ht
  rwa [List.append_nil] at h

theorem bind_token (h : Parses parser [token] a fun _ => True) (h' : Parses (next a) tokens b p) :
    Parses (parser >>= next) (token :: tokens) b p :=
  h.bind h' fun _ _ => trivial

theorem map {f : α → β} (h : Parses parser tokens a p) :
    Parses (do return f (← parser)) tokens (f a) p :=
  h.bind_nil .pure fun _ ht => ht

/-- A look at the token that is taken next. -/
theorem look {next : τ → Parser τ β} (h : Parses (next token) (token :: tokens) b p) :
    Parses (current >>= next) (token :: tokens) b p := by
  intro before after hs hr hf
  rw [current_bind, hr.current_eq]
  exact h _ _ hs hr hf

/-- A look at the token behind. -/
theorem peek {next : τ → Parser τ β} (h : ∀ t, p t → Parses (next t) [] b p) :
    Parses (current >>= next) [] b p := by
  intro before after hs hr hf
  cases hr
  exact h _ hf _ _ hs .nil hf

protected theorem advance : Parses advance [token] () p := by
  intro before after _ hr _
  cases hr with
  | cons _ ha hr => cases hr; exact ha

protected theorem consume : Parses consume [token] () p :=
  fun _ _ hs hr hf => consume_eq_ok.2 (Parses.advance _ _ hs hr hf)

theorem advance_bind {parser : Parser τ β} (h : Parses parser tokens b p) :
    Parses (advance >>= fun _ => parser) (token :: tokens) b p :=
  bind_token .advance h

theorem consume_bind {parser : Parser τ β} (h : Parses parser tokens b p) :
    Parses (consume >>= fun _ => parser) (token :: tokens) b p :=
  bind_token .consume h

protected theorem expect [DecidableEq τ] : Parses (expect token) [token] () p := by
  intro before after hs hr hf
  unfold Parser.expect
  rw [if_pos hr.current_eq]
  exact Parses.advance _ _ hs hr hf

theorem expect_bind [DecidableEq τ] {parser : Parser τ β} (h : Parses parser tokens b p) :
    Parses (Parser.expect token >>= fun _ => parser) (token :: tokens) b p :=
  bind_token .expect h

/-- A parser with a budget of steps that the tokens do not exceed. -/
theorem budget_bind {next : Nat → Parser τ β}
    (h : ∀ count, tokens.length ≤ count → Parses (next count) tokens b p) :
    Parses (budget >>= next) tokens b p :=
  fun _ _ hs hr hf => h _ (hr.length_le hs) _ _ hs hr hf

/-- A parser that takes all of a text returns what it makes of the tokens. -/
theorem run {read : List Char → Reading τ} {blank : Char → Bool} {source : Source}
    (hread : Orderly read) (h : Parses parser tokens a (· = TokenKind.done))
    (hy : Source.Yields read blank source tokens) :
    Parser.run parser (Stream.ofSource read blank source) = .ok a := by
  obtain ⟨cursor, hstart, hat⟩ := Cursor.At.exists_start hread hy
  obtain ⟨after, hr, hdone⟩ := hat.reads hread hy
  exact run_eq_ok.2 ⟨cursor, after, hstart, h _ _ hat.closed hr hdone⟩

section Separated

variable {isSeparator : τ → Bool} {item : Parser τ α} {separator : τ} {values : List α}

theorem following_nil (hq : ∀ t, q t → isSeparator t = false) (count : Nat) :
    Parses (following isSeparator item count) [] [] q := by
  cases count with
  | zero => exact .pure
  | succ count =>
    refine peek fun t ht => ?_
    rw [hq t ht]
    exact .pure

theorem following (hs : isSeparator separator = true) (hp : p separator)
    (hq : ∀ t, q t → p t ∧ isSeparator t = false)
    (h : SeparatedBy separator (fun part value => Parses item part value p) tokens values)
    {count : Nat} (hcount : values.length ≤ count) :
    Parses (following isSeparator item count) (separator :: tokens) values q := by
  induction h generalizing count with
  | one hpart =>
    cases count with
    | zero => exact absurd hcount (Nat.not_succ_le_zero _)
    | succ count =>
      refine look ?_
      rw [hs]
      refine advance_bind (hpart.bind_nil ?_ fun t ht => (hq t ht).1)
      exact (following_nil (fun t ht => (hq t ht).2) count).bind_nil .pure fun _ ht => ht
  | cons hpart _ ih =>
    cases count with
    | zero => exact absurd hcount (Nat.not_succ_le_zero _)
    | succ count =>
      have ih := ih (Nat.le_of_succ_le_succ hcount)
      refine look ?_
      rw [hs]
      exact advance_bind (hpart.bind_cons (ih.bind_nil .pure fun _ ht => ht) hp)

theorem separated (hs : isSeparator separator = true) (hp : p separator)
    (hq : ∀ t, q t → p t ∧ isSeparator t = false)
    (h : SeparatedBy separator (fun part value => Parses item part value p) tokens values) :
    Parses (separated isSeparator item) tokens values q := by
  cases h with
  | one hpart =>
    refine hpart.bind_nil (budget_bind fun count _ => ?_) fun t ht => (hq t ht).1
    exact (following_nil (fun t ht => (hq t ht).2) count).bind_nil .pure fun _ ht => ht
  | cons hpart h =>
    refine hpart.bind_cons (budget_bind fun count hcount => ?_) hp
    have hlen := h.length_le
    rw [List.length_cons] at hcount
    exact (following hs hp hq h (by omega)).bind_nil .pure fun _ ht => ht

end Separated

end Parses

/-! ### Values that are made -/

/-- What the parser makes a value of are tokens that stand in this relation to it. -/
def Sound (parser : Parser τ α) (relation : List τ → α → Prop) : Prop :=
  ∀ (before after : Cursor τ) (value : α), parser before = .ok value after →
    ∃ tokens, before.Reads tokens after ∧ relation tokens value

namespace Sound

variable {relation : List τ → α → Prop} {isSeparator : τ → Bool} {item : Parser τ α}
  {separator : τ}

theorem advance_bind {token : τ} {parser : Parser τ β} {u : β} (hc : before.current = token)
    (hne : token ≠ TokenKind.done) (h : (advance >>= fun _ => parser) before = .ok u after) :
    ∃ middle, parser middle = .ok u after ∧
      ∀ {tokens : List τ}, middle.Reads tokens after → before.Reads (token :: tokens) after := by
  subst hc
  obtain ⟨_, middle, ha, hp⟩ := bind_eq_ok.1 h
  exact ⟨middle, hp, fun hr => .cons hne ha hr⟩

theorem consume_bind {token : τ} {parser : Parser τ β} {u : β} (hc : before.current = token)
    (hne : token ≠ TokenKind.done) (h : (consume >>= fun _ => parser) before = .ok u after) :
    ∃ middle, parser middle = .ok u after ∧
      ∀ {tokens : List τ}, middle.Reads tokens after → before.Reads (token :: tokens) after := by
  subst hc
  obtain ⟨_, middle, ha, hp⟩ := bind_eq_ok.1 h
  exact ⟨middle, hp, fun hr => .cons hne (consume_eq_ok.1 ha) hr⟩

theorem expect_bind [DecidableEq τ] {token : τ} {parser : Parser τ β} {u : β}
    (hne : token ≠ TokenKind.done)
    (h : (Parser.expect token >>= fun _ => parser) before = .ok u after) :
    ∃ middle, parser middle = .ok u after ∧
      ∀ {tokens : List τ}, middle.Reads tokens after → before.Reads (token :: tokens) after := by
  obtain ⟨_, middle, he, hp⟩ := bind_eq_ok.1 h
  unfold Parser.expect at he
  split at he
  · next hc => exact ⟨middle, hp, fun hr => hc ▸ .cons (hc ▸ hne) he hr⟩
  · cases he

theorem advance_pure {token : τ} {u v : β} (hc : before.current = token)
    (hne : token ≠ TokenKind.done)
    (h : (advance >>= fun _ => (pure u : Parser τ β)) before = .ok v after) :
    u = v ∧ before.Reads [token] after := by
  obtain ⟨middle, hp, hread⟩ := advance_bind hc hne h
  obtain ⟨rfl, rfl⟩ := pure_eq_ok.1 hp
  exact ⟨rfl, hread .nil⟩

theorem consume_pure {token : τ} {u v : β} (hc : before.current = token)
    (hne : token ≠ TokenKind.done)
    (h : (consume >>= fun _ => (pure u : Parser τ β)) before = .ok v after) :
    u = v ∧ before.Reads [token] after := by
  obtain ⟨middle, hp, hread⟩ := consume_bind hc hne h
  obtain ⟨rfl, rfl⟩ := pure_eq_ok.1 hp
  exact ⟨rfl, hread .nil⟩

theorem map {f : α → β} {value : β} (h : Sound parser relation)
    (hp : (do return f (← parser)) before = .ok value after) :
    ∃ a tokens, value = f a ∧ before.Reads tokens after ∧ relation tokens a := by
  obtain ⟨a, middle, ha, hp⟩ := bind_eq_ok.1 hp
  obtain ⟨rfl, rfl⟩ := pure_eq_ok.1 hp
  obtain ⟨tokens, hr, ht⟩ := h _ _ _ ha
  exact ⟨a, tokens, rfl, hr, ht⟩

theorem following (hs : ∀ t, isSeparator t = true → t = separator)
    (hne : separator ≠ TokenKind.done) (h : Sound item relation) (count : Nat) :
    Sound (following isSeparator item count) fun tokens values =>
      tokens = [] ∧ values = [] ∨
        ∃ rest, tokens = separator :: rest ∧ SeparatedBy separator relation rest values := by
  induction count with
  | zero =>
    intro before after values hp
    obtain ⟨rfl, rfl⟩ := pure_eq_ok.1 hp
    exact ⟨[], .nil, .inl ⟨rfl, rfl⟩⟩
  | succ count ih =>
    intro before after values hp
    unfold Parser.following at hp
    rw [current_bind] at hp
    split at hp
    · next hsep =>
      have hc := hs _ hsep
      obtain ⟨middle, hp, hread⟩ := advance_bind hc hne hp
      obtain ⟨first, last, hitem, hp⟩ := bind_eq_ok.1 hp
      obtain ⟨rest, stop, hmore, hp⟩ := bind_eq_ok.1 hp
      obtain ⟨rfl, rfl⟩ := pure_eq_ok.1 hp
      obtain ⟨part, hr1, hpart⟩ := h _ _ _ hitem
      obtain ⟨more, hr2, hcase⟩ := ih _ _ _ hmore
      refine ⟨_, hread (hr1.append hr2), .inr ⟨part ++ more, rfl, ?_⟩⟩
      rcases hcase with ⟨rfl, rfl⟩ | ⟨others, rfl, hothers⟩
      · rw [List.append_nil]
        exact .one hpart
      · exact .cons hpart hothers
    · obtain ⟨rfl, rfl⟩ := pure_eq_ok.1 hp
      exact ⟨[], .nil, .inl ⟨rfl, rfl⟩⟩

theorem separated (hs : ∀ t, isSeparator t = true → t = separator)
    (hne : separator ≠ TokenKind.done) (h : Sound item relation) :
    Sound (separated isSeparator item) (SeparatedBy separator relation) := by
  intro before after values hp
  obtain ⟨first, middle, hitem, hp⟩ := bind_eq_ok.1 hp
  obtain ⟨count, _, hb, hp⟩ := bind_eq_ok.1 hp
  cases hb
  obtain ⟨rest, stop, hmore, hp⟩ := bind_eq_ok.1 hp
  obtain ⟨rfl, rfl⟩ := pure_eq_ok.1 hp
  obtain ⟨part, hr1, hpart⟩ := h _ _ _ hitem
  obtain ⟨more, hr2, hcase⟩ := following hs hne h _ _ _ _ hmore
  refine ⟨_, hr1.append hr2, ?_⟩
  rcases hcase with ⟨rfl, rfl⟩ | ⟨others, rfl, hothers⟩
  · rw [List.append_nil]
    exact .one hpart
  · exact .cons hpart hothers

end Sound

end RecordQuery.Parser
