import Mathlib.Control.Monad.Basic
import RecordQuery.Proofs.Query.Grammar
import RecordQuery.Proofs.Query.Spelling

/-! What texts are queries: those whose tokens make up a phrase of the grammar with bounds that fit.
The phrase is the only one, and the query is its value. -/

namespace RecordQuery.Query

/-- A text is parsed as the value of a phrase that its tokens make up. -/
theorem parse_eq_ok_iff {text : String} {query : Query} :
    parse text = .ok query ↔
      ∃ phrase : OrPhrase, phrase.BoundsFit ∧ phrase.value = query ∧
        Source.Yields Token.read Text.isBlank (Source.ofString text) phrase.tokens := by
  unfold parse Token.stream
  rw [Parser.run_eq_ok]
  constructor
  · rintro ⟨cursor, after, hstart, hwhole⟩
    obtain ⟨hquery, hdone⟩ := whole_eq_ok.1 hwhole
    obtain ⟨_, hreads, phrase, rfl, hfit, hvalue⟩ := sound_query _ _ _ hquery
    have hat := Cursor.At.start Token.orderly_read hstart
    exact ⟨phrase, hfit, hvalue, hat.yields Token.orderly_read hreads hdone⟩
  · rintro ⟨phrase, hfit, rfl, hyields⟩
    obtain ⟨cursor, hstart, hat⟩ := Cursor.At.exists_start Token.orderly_read hyields
    obtain ⟨after, hreads, hdone⟩ := hat.reads Token.orderly_read hyields
    refine ⟨cursor, after, hstart, whole_eq_ok.2 ⟨?_, hdone⟩⟩
    exact parses_query phrase hfit _ _ hat.closed hreads (by rw [hdone]; exact ⟨by nofun, by nofun⟩)

/-- The parser accepts exactly the texts whose tokens a phrase derives, one phrase at most, where
the bounds of every range fit; then it returns the value of the phrase. It accepts no text with a
flawed lexeme before its end. -/
theorem parse_accepts_grammar (text : String) :
    (∀ tokens, Source.Yields Token.read Text.isBlank (Source.ofString text) tokens →
      (∀ query, parse text = .ok query ↔
        ∃ phrase : OrPhrase, phrase.tokens = tokens ∧ phrase.BoundsFit ∧ phrase.value = query) ∧
      ∀ a b : OrPhrase, a.tokens = tokens → b.tokens = tokens → a = b) ∧
    ∀ error, Source.Breaks Token.read Text.isBlank (Source.ofString text) error →
      ∀ query, parse text ≠ .ok query := by
  refine ⟨fun tokens hyields => ⟨fun query => ⟨fun h => ?_, ?_⟩, ?_⟩,
    fun error hbreaks query h => ?_⟩
  · obtain ⟨phrase, hfit, hvalue, hphrase⟩ := parse_eq_ok_iff.1 h
    exact ⟨phrase, hphrase.unique hyields, hfit, hvalue⟩
  · rintro ⟨phrase, rfl, hfit, hvalue⟩
    exact parse_eq_ok_iff.2 ⟨phrase, hfit, hvalue, hyields⟩
  · rintro a b rfl hb
    exact OrPhrase.tokens_injective hb.symm
  · obtain ⟨phrase, _, _, hphrase⟩ := parse_eq_ok_iff.1 h
    exact hphrase.not_breaks hbreaks

theorem parse_accepts_between_rejects_bang :
    parse "not a between ]1, 2.5]" = .ok (.any [.all [.not (.any [.all [.leaf
      ⟨.named "a", .between ⟨⟨.integer, "1"⟩, ⟨.decimal, "2.5"⟩, true, false⟩⟩]])]]) ∧
    ∀ query, parse "a ! b" ≠ .ok query := by
  constructor
  · refine (((parse_accepts_grammar _).1 _ ?_).1 _).2 ⟨.one (.one (.not (.predicate
      ⟨.named "a", .between ⟨⟨.integer, "1"⟩, ⟨.decimal, "2.5"⟩, true, false⟩⟩ (by nofun)))),
      rfl, ?_, ?_⟩
    · refine .token ?_ ?_ (.token ?_ ?_ (.token ?_ ?_ (.token ?_ ?_ (.token ?_ ?_ (.token ?_ ?_
        (.token ?_ ?_ (.token ?_ ?_ (.done ?_))))))))
      all_goals decide +kernel
    · exact ⟨by nofun, by nofun, .inl ⟨rfl, rfl⟩⟩
    · decide +kernel
  · have hname : (Lexeme.next Token.read Text.isBlank (Source.ofString "a ! b")).1.token =
        .ok (.name "a") := by decide +kernel
    exact (parse_accepts_grammar _).2 (.malformed .loneBang ⟨1, 3, 2⟩)
      (.later hname (by nofun) (.here (by decide +kernel)))

end RecordQuery.Query
