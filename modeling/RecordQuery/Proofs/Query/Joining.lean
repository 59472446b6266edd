import RecordQuery.Proofs.Query.Leaves
import RecordQuery.Proofs.Query.RoundTrip

/-! Texts of queries joined into one text. A text that is parsed yields the same tokens before a
closing parenthesis, so between parentheses it stands for the same query. Texts that are joined with
"and" or "or" are parsed as the composed query (`parse_joined`). -/

namespace RecordQuery.Query

open Token (Writes)

/-- A text that is parsed is a phrase of its query, and a single operand between parentheses. -/
theorem exists_phrase_of_parse {text : String} {query : Query} (h : parse text = .ok query) :
    ∃ phrase : UnaryPhrase, Writes ("(" ++ text ++ ")") phrase.tokens ∧ phrase.BoundsFit ∧
      phrase.value = query := by
  obtain ⟨phrase, hfit, hvalue, hyields⟩ := parse_eq_ok_iff.1 h
  exact ⟨.group phrase, (Token.writes_of_yields hyields).parens, hfit, hvalue⟩

/-- An operand by itself is parsed as what it comes to. -/
theorem parse_of_operand {p : Predicate → Prop} {text : String} (phrase : UnaryPhrase)
    (h : Writes text phrase.tokens) (hfit : phrase.BoundsFit) (hpiece : Piece p phrase.value) :
    parse text = .ok (disjunction [phrase.value]) := by
  have hparse : parse text = .ok (disjunction [conjunction [phrase.value]]) :=
    parse_of_writes (.one (.one phrase)) h hfit
  rwa [← hpiece.alike_conjunction.disjunction_eq] at hparse

/-- Queries that add the same to a disjunction one by one add the same together. -/
theorem disjunctsOf_of_forall₂ {values queries : List Query}
    (h : List.Forall₂ (fun value query => disjuncts value = disjuncts query) values queries) :
    disjunctsOf values = disjunctsOf queries := by
  induction h with
  | nil => rfl
  | cons hvalue _ ih => rw [disjunctsOf, disjunctsOf, hvalue, ih]

section Joined

variable {texts : List String} {queries : List Query}

theorem parse_joined_and (hne : texts ≠ [])
    (h : List.Forall₂ (fun text query => parse text = .ok query) texts queries) :
    parse (Text.joined " and " (texts.map fun text => "(" ++ text ++ ")")) =
      .ok (allOf queries) := by
  obtain ⟨phrase, hphrase, hfit, hvalues⟩ :=
    exists_andPhrase (r := fun value query => value = query) (by simpa using hne)
      (List.forall₂_map_left_iff.2 (h.imp fun _ _ => exists_phrase_of_parse))
  rw [List.forall₂_eq_eq_eq] at hvalues
  rw [← hvalues]
  exact parse_of_writes (.one phrase) hphrase hfit

theorem parse_joined_or (hne : texts ≠ [])
    (h : List.Forall₂ (fun text query => parse text = .ok query) texts queries) :
    parse (Text.joined " or " (texts.map fun text => "(" ++ text ++ ")")) =
      .ok (anyOf queries) := by
  obtain ⟨phrase, hphrase, hfit, hvalues⟩ :=
    exists_orPhrase (r := fun value query => disjuncts value = disjuncts query)
      (by simpa using hne)
      (List.forall₂_map_left_iff.2 (h.imp fun text query hparse => by
        obtain ⟨operand, hoperand, hfit, rfl⟩ := exists_phrase_of_parse hparse
        have hpiece := (wellFormed_of_parse hparse).piece
        exact ⟨.one operand, hoperand, hfit, hpiece.alike_conjunction.disjuncts.symm⟩))
  rw [anyOf, disjunction, ← disjunctsOf_of_forall₂ hvalues]
  exact parse_of_writes phrase hphrase hfit

end Joined

/-- Texts that are parsed, each between parentheses, with "and" or "or" between them, are parsed as
all or any of their queries; one of them behind "not" is parsed as its negation, and parentheses by
themselves change nothing. -/
theorem parse_joined :
    (∀ (texts : List String) (queries : List Query), texts ≠ [] →
      List.Forall₂ (fun text query => parse text = .ok query) texts queries →
      parse (Text.joined " and " (texts.map fun text => "(" ++ text ++ ")")) =
        .ok (allOf queries) ∧
      parse (Text.joined " or " (texts.map fun text => "(" ++ text ++ ")")) =
        .ok (anyOf queries)) ∧
    ∀ (text : String) (query : Query), parse text = .ok query →
      parse ("not (" ++ text ++ ")") = .ok (negated query) ∧
      parse ("(" ++ text ++ ")") = .ok query := by
  refine ⟨fun texts queries hne h => ⟨parse_joined_and hne h, parse_joined_or hne h⟩,
    fun text query h => ?_⟩
  have hroot := wellFormed_of_parse h
  obtain ⟨operand, hoperand, hfit, rfl⟩ := exists_phrase_of_parse h
  constructor
  · have htext : "not (" ++ text ++ ")" = "not " ++ ("(" ++ text ++ ")") := by
      rw [← String.toList_inj]
      simp
    rw [htext]
    exact parse_of_operand (.not operand) hoperand.not hfit
      (canonical_negation hroot.piece).piece
  · rw [parse_of_operand operand hoperand hfit hroot.piece, disjunction_of_root hroot]

/-- Texts with an "or" of their own, a quoted parenthesis, characters that stick to a closing quote,
a number at the end and blanks around. -/
theorem parse_joined_of_stuck_characters :
    let texts := ["a is null or b is null", " c = '(x)'y ", "d > -2.5"]
    let queries := [Query.anyOf [.ofTest (.named "a") (.is .null), .ofTest (.named "b") (.is .null)],
      .ofTest (.named "c") (.compare .eq (.literal (.ofText "(x)"))),
      .ofTest (.named "d") (.compare .gt (.literal ⟨.decimal, "-2.5"⟩))]
    List.Forall₂ (fun text query => parse text = .ok query) texts queries ∧
      parse "(a is null or b is null) and ( c = '(x)'y ) and (d > -2.5)" = .ok (allOf queries) ∧
      parse "(a is null or b is null) or ( c = '(x)'y ) or (d > -2.5)" = .ok (anyOf queries) ∧
      parse "not (d > -2.5)" = .ok (.negated (.ofTest (.named "d")
        (.compare .gt (.literal ⟨.decimal, "-2.5"⟩)))) := by
  intro texts queries
  have hparses : List.Forall₂ (fun text query => parse text = .ok query) texts queries :=
    .cons (by decide +kernel) (.cons (by decide +kernel) (.cons (by decide +kernel) .nil))
  have hnumber : parse "d > -2.5" = .ok (.ofTest (.named "d")
    (.compare .gt (.literal ⟨.decimal, "-2.5"⟩))) := by decide +kernel
  obtain ⟨hand, hor⟩ := parse_joined.1 texts queries (by decide) hparses
  obtain ⟨hnot, -⟩ := parse_joined.2 _ _ hnumber
  exact ⟨hparses, hand, hor, hnot⟩

end RecordQuery.Query
