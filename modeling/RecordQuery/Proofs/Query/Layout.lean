import RecordQuery.Proofs.Query.RoundTrip

/-! Layouts of tokens. Tokens that can be written are read back from any text that has their
spellings in order, with white space between them and whatever sticks to closing quotes; and the
tokens of any text can be written (`Token.yields_layout`). -/

namespace RecordQuery.Query

namespace Token

/-- The spelling of a token. -/
def render : Token → String
  | .literal value => value.render
  | .name path => path
  | .star => "*"
  | .compare operator => operator.querySymbol
  | .tilde => "~"
  | .leftParen => "("
  | .rightParen => ")"
  | .leftBracket => "["
  | .rightBracket => "]"
  | .comma => ","
  | .keyword word => word.text
  | .done => ""

/-- Whether a token is a text between quotes. -/
def isQuoted : Token → Bool
  | .literal ⟨.quoted, _⟩ => true
  | _ => false

end Token

/-- A token in a text, with what sticks to its closing quote and the white space behind it. -/
structure Word where
  token : Token
  glued : String
  gap : String

namespace Word

/-- The characters of a word. -/
def chars (word : Word) : List Char :=
  word.token.render.toList ++ word.glued.toList ++ word.gap.toList

/-- A token that can be written, to which something sticks only if it is quoted. -/
structure WellFormed (word : Word) : Prop where
  token : word.token.WellFormed
  ne_done : word.token ≠ .done
  quoted : word.glued ≠ "" → word.token.isQuoted = true
  glued : ∀ c ∈ word.glued.toList, Token.endsGlued c = false
  gap : ∀ c ∈ word.gap.toList, Text.isBlank c = true

end Word

namespace Token

open Text (isBlank)

variable {token : Token} {word : Word} {words : List Word}

theorem writes_render (h : token.WellFormed) (hne : token ≠ .done) :
    Writes token.render [token] := by
  cases token with
  | literal value => exact writes_literal h
  | name path => exact writes_name h
  | compare operator => exact writes_comparison operator
  | keyword word => exact writes_keyword word
  | done => exact absurd rfl hne
  | _ => exact writes_of_read (by nofun) (by decide) rfl

/-- A word is read as its token, before anything that begins with white space. -/
theorem writes_word_chars (h : word.WellFormed) :
    Writes (word.token.render ++ word.glued) [word.token] := by
  by_cases hglued : word.glued = ""
  · rw [hglued, String.append_empty]
    exact writes_render h.token h.ne_done
  · have hquoted := h.quoted hglued
    have htoken := h.token
    generalize word.token = token at hquoted htoken ⊢
    cases token with
    | literal value =>
      cases (htoken : value.WellFormed) with
      | quoted hsound => exact writes_glued hsound h.glued
      | _ => cases hquoted
    | _ => cases hquoted

theorem endsGlued_of_isBlank {c : Char} (h : isBlank c = true) : endsGlued c = true := by
  simp [endsGlued, h]

/-- Nothing runs on a word: white space is behind it, or the end of the text. -/
theorem ends_gap (h : word.WellFormed) (hgap : words ≠ [] → word.gap ≠ "") :
    Ends endsGlued (word.gap.toList ++ words.flatMap Word.chars) := by
  intro c hc
  cases hchars : word.gap.toList with
  | nil =>
    have hnil : words = [] := by
      by_contra hne
      exact hgap hne (String.toList_eq_nil_iff.1 hchars)
    rw [hchars, hnil] at hc
    cases hc
  | cons d gap =>
    rw [hchars] at hc
    cases hc
    apply endsGlued_of_isBlank
    apply h.gap
    rw [hchars]
    exact List.mem_cons_self

/-- Words are read as their tokens, one after another. -/
theorem spelled_words (h : ∀ word ∈ words, word.WellFormed)
    (hgap : ∀ word ∈ words.dropLast, word.gap ≠ "") :
    Spelled read isBlank (words.flatMap Word.chars) (words.map Word.token) := by
  induction words with
  | nil => exact .nil orderly_read
  | cons word words ih =>
    rw [List.forall_mem_cons] at h
    have hfirst : words ≠ [] → word.gap ≠ "" := by
      intro hne
      apply hgap
      rw [List.dropLast_cons_of_ne_nil hne]
      exact List.mem_cons_self
    have hothers : ∀ word ∈ words.dropLast, word.gap ≠ "" := by
      intro other hmem
      have hne : words ≠ [] := by
        rintro rfl
        cases hmem
      apply hgap
      rw [List.dropLast_cons_of_ne_nil hne]
      exact List.mem_cons_of_mem _ hmem
    have hrest : Spelled read isBlank (word.gap.toList ++ words.flatMap Word.chars)
        (words.map Word.token) := by
      apply Spelled.after_blanks
      rw [List.dropWhile_eq_nil_iff.2 h.1.gap]
      exact ih h.2 hothers
    have hword := writes_word_chars h.1 _ _ (ends_gap h.1 hfirst) hrest
    rw [String.toList_append] at hword
    rwa [List.flatMap_cons, Word.chars, List.append_assoc _ _ (List.flatMap ..)]

/-- Tokens that can be written are read back from any layout of them, and the tokens that are read
from any text can be written. -/
theorem yields_layout :
    (∀ (lead : String) (words : List Word), (∀ c ∈ lead.toList, isBlank c = true) →
      (∀ word ∈ words, word.WellFormed) → (∀ word ∈ words.dropLast, word.gap ≠ "") →
      Source.Yields read isBlank
        (Source.ofString (String.ofList (lead.toList ++ words.flatMap Word.chars)))
        (words.map Word.token)) ∧
    ∀ (text : String) (tokens : List Token),
      Source.Yields read isBlank (Source.ofString text) tokens →
      ∀ token ∈ tokens, token.WellFormed ∧ token ≠ .done := by
  constructor
  · intro lead words hlead h hgap
    have hspelled : Spelled read isBlank (lead.toList ++ words.flatMap Word.chars)
        (words.map Word.token) := by
      apply Spelled.after_blanks
      rw [List.dropWhile_eq_nil_iff.2 hlead]
      exact spelled_words h hgap
    rw [Source.ofString, String.toList_ofList]
    exact hspelled _
  · intro text tokens hyields token hmem
    exact ⟨wellFormed_of_yields hyields token hmem, hyields.ne_done token hmem⟩

/-- What sticks to a closing quote is dropped, be it a quoted text or a parenthesis. -/
theorem yields_layout_of_glued_quote :
    (∀ word ∈ ([⟨.name "f.g", "", "\t"⟩, ⟨.compare .ge, "", " \n"⟩,
      ⟨.literal (.ofText "it's"), "('x'", ""⟩] : List Word), word.WellFormed) ∧
    Source.Yields read isBlank (Source.ofString "  f.g\t>= \n'it\\'s'('x'")
      [.name "f.g", .compare .ge, .literal (.ofText "it's")] := by
  have hglued : ∀ c ∈ "('x'".toList, endsGlued c = false := by
    have hall : "('x'".toList.all (fun c => !endsGlued c) = true := by decide +kernel
    simpa only [List.all_eq_true, Bool.not_eq_true'] using hall
  have hwords : ∀ word ∈ ([⟨.name "f.g", "", "\t"⟩, ⟨.compare .ge, "", " \n"⟩,
      ⟨.literal (.ofText "it's"), "('x'", ""⟩] : List Word), word.WellFormed := by
    simp only [List.forall_mem_cons]
    refine ⟨⟨⟨rfl, ?_, by simp, rfl⟩, nofun, nofun, nofun, ?_⟩, ⟨trivial, nofun, nofun, nofun, ?_⟩,
      ⟨.quoted rfl, nofun, fun _ => rfl, hglued, nofun⟩, List.forall_mem_nil _⟩
    all_goals exact List.all_eq_true.1 (by decide +kernel)
  have htext : "  f.g\t>= \n'it\\'s'('x'" = String.ofList ("  ".toList ++
      ([⟨.name "f.g", "", "\t"⟩, ⟨.compare .ge, "", " \n"⟩,
        ⟨.literal (.ofText "it's"), "('x'", ""⟩] : List Word).flatMap Word.chars) := by
    decide
  rw [htext]
  exact ⟨hwords, yields_layout.1 "  " _ (List.all_eq_true.1 rfl) hwords (by simp)⟩

end Token

end RecordQuery.Query
