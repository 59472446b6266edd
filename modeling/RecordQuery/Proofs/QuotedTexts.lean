import RecordQuery.Formula.Printer
import RecordQuery.Proofs.Formula.Spelling
import RecordQuery.Proofs.Patterns
import RecordQuery.Proofs.Query.Spelling

/-! Quoted texts in queries and in formulas. Between single quotes both readers read alike, and a
text that is written there comes back if and only if it is sound. All that a query or a pattern
brings along is sound, so it passes through both (`read_quoted_iff_isSound`). -/

namespace RecordQuery

open Pattern (IsSound)

/-- A text between its quotes is read back if and only if it is sound. -/
theorem Text.exists_readQuoted_iff {quote : Char} {text : List Char} (hquote : quote ≠ '\\') :
    (∃ rest, readQuoted quote (escapeQuote quote text ++ [quote]) = .ok (text, rest)) ↔
      sound quote text = true :=
  ⟨fun ⟨_, h⟩ => sound_of_readQuoted hquote h, fun h => ⟨[], readQuoted_escapeQuote hquote h⟩⟩

/-- No white space comes before an opening quote. -/
theorem Text.rest_skipWhile_quoted (text : String) :
    ((Source.ofString (quoted text)).skipWhile isBlank).rest =
      '\'' :: (escapeQuote '\'' text.toList ++ ['\'']) := by
  have hquote : isBlank '\'' = false := by decide
  simp [Source.ofString, Source.skipWhile, toList_quoted, hquote]

theorem IsSign.sound {sign : List Char} (h : IsSign sign) : Text.sound '\'' sign = true := by
  rcases h with rfl | rfl <;> rfl

theorem Literal.WellFormed.isSound {literal : Literal} (h : literal.WellFormed) :
    IsSound literal.text := by
  cases h with
  | integer hsign hwhole =>
    rw [IsSound, String.toList_ofList]
    exact Text.sound_append hsign.sound (Text.sound_of_digits hwhole.2)
  | decimal hsign hwhole hfraction =>
    rw [IsSound, String.toList_ofList]
    refine Text.sound_append (Text.sound_append hsign.sound (Text.sound_of_digits hwhole.2)) ?_
    rw [Text.sound_cons (by decide)]
    exact Text.sound_of_digits hfraction.2
  | boolean b => cases b <;> decide
  | quoted h => exact h

theorem Query.IsName.isSound {path : String} (h : IsName path) : IsSound path :=
  Text.sound_of_no_backslash fun hmem => absurd (h.continues _ hmem) (by decide +kernel)

/-! ### Queries -/

namespace Query.Token

theorem token_readQuote_eq_ok {chars : List Char} {text : String} :
    (readQuote chars).token = .ok (.literal (.ofText text)) ↔
      ∃ rest, Text.readQuoted '\'' chars = .ok (text.toList, rest) := by
  unfold readQuote
  split
  · next h => simp [h]
  · next h => simp [h]
  · next read rest h => simp [h, Literal.ofText, String.ext_iff]

/-- The text that a token has, if it is a literal or a name. -/
def text? : Token → Option String
  | .literal value => some value.text
  | .name path => some path
  | _ => none

theorem WellFormed.isSound {token : Token} {text : String} (h : token.WellFormed)
    (htext : token.text? = some text) : IsSound text := by
  cases token with
  | literal value =>
    cases htext
    exact Literal.WellFormed.isSound h
  | name path =>
    cases htext
    exact IsName.isSound h
  | _ => cases htext

/-- A text that is quoted is read back, as the first token, if and only if it is sound. -/
theorem token_next_quoted (text : String) :
    (next (.ofString (Text.quoted text))).1.token = .ok (.literal (.ofText text)) ↔
      IsSound text := by
  rw [next, Lexeme.token_next_eq_ok, Text.rest_skipWhile_quoted]
  exact token_readQuote_eq_ok.trans (Text.exists_readQuoted_iff (by decide))

end Query.Token

/-! ### Formulas -/

namespace Formula.Token

theorem token_readString_eq_ok {quote : Char} {chars : List Char} {text : String} :
    (readString quote chars).token = .ok (.literal (.string text)) ↔
      ∃ rest, Text.readQuoted quote chars = .ok (text.toList, rest) := by
  unfold readString
  split
  · next h => simp [h]
  · next read rest h => simp [h, String.ext_iff]

theorem token_next_quoted (text : String) :
    (next (.ofString (Text.quoted text))).1.token = .ok (.literal (.string text)) ↔
      IsSound text := by
  rw [next, Lexeme.token_next_eq_ok, Text.rest_skipWhile_quoted]
  exact token_readString_eq_ok.trans (Text.exists_readQuoted_iff (by decide))

/-- Nothing is left behind a sound text. -/
theorem rest_next_quoted {text : String} (h : IsSound text) :
    (next (.ofString (Text.quoted text))).2.rest = [] := by
  have hread : Text.readQuoted '\'' (Text.escapeQuote '\'' text.toList ++ ['\'']) =
      .ok (text.toList, []) := Text.readQuoted_escapeQuote (by decide) h
  have hlength : (readString '\'' (Text.escapeQuote '\'' text.toList ++ ['\''])).length =
      (Text.escapeQuote '\'' text.toList ++ ['\'']).length + 1 := by
    unfold readString
    rw [hread]
    rfl
  rw [next, Lexeme.next, Source.drop, Text.rest_skipWhile_quoted]
  exact List.drop_eq_nil_of_le hlength.ge

end Formula.Token

/-- Queries and formulas have the same texts between single quotes, and any text that is written
there comes back from either if and only if it is sound; in a formula nothing is left behind it.
Every text that the tokens of a query have is sound, and so is every regular expression that a
pattern stands for. -/
theorem read_quoted_iff_isSound :
    (∀ chars text, (Query.Token.read ('\'' :: chars)).token = .ok (.literal (.ofText text)) ↔
      (Formula.Token.read ('\'' :: chars)).token = .ok (.literal (.string text))) ∧
    (∀ text, (Query.Token.next (.ofString (Text.quoted text))).1.token =
      .ok (.literal (.ofText text)) ↔ IsSound text) ∧
    (∀ text, (Formula.Token.next (.ofString (Value.string text).render)).1.token =
        .ok (.literal (.string text)) ∧
      (Formula.Token.next (.ofString (Value.string text).render)).2.rest = [] ↔ IsSound text) ∧
    (∀ source token text, (Query.Token.next source).1.token = .ok token →
      token.text? = some text → IsSound text) ∧
    ∀ kind pattern text, Pattern.regex kind pattern = .ok text → IsSound text := by
  refine ⟨fun chars text => ?_, Query.Token.token_next_quoted, fun text => ?_,
    fun source token text h htext => ?_, fun _ _ _ => Pattern.isSound_regex⟩
  · exact Query.Token.token_readQuote_eq_ok.trans Formula.Token.token_readString_eq_ok.symm
  · have hquoted := Formula.Token.token_next_quoted text
    exact ⟨fun h => hquoted.1 h.1, fun h => ⟨hquoted.2 h, Formula.Token.rest_next_quoted h⟩⟩
  · exact (Query.Token.wellFormed_of_read (Lexeme.token_next_eq_ok.1 h)).isSound htext

/-- A quoted text with a backslash that is kept and one that is not, and a pattern with a quote and
a bracketed name that is not known. -/
theorem read_quoted_iff_isSound_of_escapes :
    let source := Source.ofString " 'a\\d\\'b' "
    let regex := "^9'\\-\\[\\\\\\[Han\\] [\\p\x7bNd\x7d]$"
    (Query.Token.next source).1.token = .ok (.literal (.ofText "a\\d'b")) ∧ IsSound "a\\d'b" ∧
      Pattern.regex .word "9'-[\\[Han] [digit]" = .ok regex ∧ IsSound regex := by
  intro source regex
  obtain ⟨-, -, -, hof_token, hof_regex⟩ := read_quoted_iff_isSound
  have htoken : (Query.Token.next source).1.token = .ok (.literal (.ofText "a\\d'b")) := by
    decide +kernel
  have hregex : Pattern.regex .word "9'-[\\[Han] [digit]" = .ok regex := by decide +kernel
  exact ⟨htoken, hof_token _ _ _ htoken rfl, hregex, hof_regex _ _ _ hregex⟩

/-- Of a text that is not sound something else is read: its backslash takes the one before the
quote with it. -/
example : (Query.Token.next (.ofString (Text.quoted "a\\'b"))).1.token =
    .ok (.literal (.ofText "a\\\\")) := by
  decide +kernel

end RecordQuery
