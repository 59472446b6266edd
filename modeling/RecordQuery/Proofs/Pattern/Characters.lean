import RecordQuery.Proofs.Pattern.Expressions
import RecordQuery.Proofs.Patterns

/-! Patterns of characters. A text complies with one if it has as many characters and each of them
passes for the character of the pattern in its place. Runs of equal characters in the pattern are
powers of one language, so that the regular expression means the same character by character. -/

namespace RecordQuery.Pattern

open Regex (Means Unit singles)
open Text (Span)

/-- Whether a character of a text passes for a character of a pattern: some letters and the digit
nine stand for a class, any other character for itself. -/
def standsFor (kind c : Char) : Bool :=
  match kind with
  | 'a' => Span.anyHolds lowerLatinSpans c.toNat
  | 'A' => Span.anyHolds upperLatinSpans c.toNat
  | '9' => Span.anyHolds digitSpans c.toNat
  | 'h' => Span.anyHolds hiraganaSpans c.toNat
  | 'k' => Span.anyHolds halfKatakanaSpans c.toNat
  | 'K' => Span.anyHolds fullKatakanaSpans c.toNat
  | 'C' => isIdeogram c
  | 'G' => Span.anyHolds hangulSpans c.toNat
  | _ => c == kind

/-! ### Runs -/

/-- A product over runs of equal characters is the product over the characters. -/
theorem prod_runs {α : Type*} [Monoid α] (f : Char → α) (chars : List Char) :
    ((runs chars).map fun run => f run.1 ^ run.2).prod = (chars.map f).prod := by
  induction chars with
  | nil => rfl
  | cons c chars ih =>
    rw [List.map_cons, List.prod_cons, ← ih, runs]
    split
    · next d count others heq =>
      by_cases hc : c = d
      · rw [if_pos hc, heq, List.map_cons, List.prod_cons, List.map_cons, List.prod_cons, pow_succ',
          mul_assoc, hc]
      · rw [if_neg hc, heq, List.map_cons, List.prod_cons, pow_one]
    · next heq => simp [heq]

theorem unit_characterClass (kind : Char) : ∀ text, characterClass? kind = some text →
    Unit 1 text.toList (singles (standsFor kind)) := by
  refine of_choice (fun h => h ▸ unit_lowerLatin) fun _ => ?_
  refine of_choice (fun h => h ▸ unit_upperLatin) fun _ => ?_
  refine of_choice (fun h => h ▸ unit_digit) fun _ => ?_
  refine of_choice (fun h => h ▸ unit_hiragana) fun _ => ?_
  refine of_choice (fun h => h ▸ unit_halfKatakana) fun _ => ?_
  refine of_choice (fun h => h ▸ unit_fullKatakana) fun _ => ?_
  refine of_choice (fun h => h ▸ unit_ideogram) fun _ => ?_
  refine of_choice (fun h => h ▸ unit_hangul) fun _ => ?_
  nofun

theorem standsFor_of_noClass {kind : Char} (h : characterClass? kind = none) :
    standsFor kind = (· == kind) := by
  unfold standsFor
  funext c
  split
  all_goals first | rfl | exact nomatch h

theorem means_repeated (kind : Char) (count : Nat) :
    Means 1 (repeated kind count).toList (singles (standsFor kind) ^ count) := by
  unfold repeated
  cases hclass : characterClass? kind with
  | some text =>
    have hunit := unit_characterClass kind text hclass
    by_cases hone : count = 1
    · subst hone
      simpa using hunit.means
    · simpa [if_neg hone, Nat.repr_eq_ofList_toDigits] using hunit.exactly count
  | none =>
    show Means 1 (String.join (List.replicate count (String.ofList (escape [kind])))).toList _
    rw [standsFor_of_noClass hclass]
    induction count with
    | zero => exact .nil
    | succ count ih =>
      rw [List.replicate_succ, String.join_cons, String.toList_append, String.toList_ofList,
        pow_succ']
      exact (Unit.escaped kind).means.append ih

/-! ### Whole patterns -/

theorem means_characters (chars : List Char) :
    Means 1 (String.join ((runs chars).map fun run => repeated run.1 run.2)).toList
      (chars.map fun kind => singles (standsFor kind)).prod := by
  rw [← prod_runs]
  refine means_join (List.forall₂_map_left_iff.2 (List.forall₂_map_right_iff.2 ?_))
  exact List.forall₂_same.2 fun run _ => means_repeated run.1 run.2

/-- The words that are one character for each test. -/
theorem mem_prod_singles {α : Type*} {test : α → Char → Bool} {kinds : List α}
    {word : List Char} : word ∈ (kinds.map fun kind => singles (test kind)).prod ↔
      List.Forall₂ (fun kind c => test kind c = true) kinds word := by
  induction kinds generalizing word with
  | nil => rw [List.map_nil, List.prod_nil, Language.mem_one, List.forall₂_nil_left_iff]
  | cons kind kinds ih =>
    rw [List.map_cons, List.prod_cons, Language.mem_mul, List.forall₂_cons_left_iff]
    constructor
    · rintro ⟨-, ⟨c, hc, rfl⟩, rest, hrest, rfl⟩
      exact ⟨c, rest, hc, ih.1 hrest, rfl⟩
    · rintro ⟨c, rest, hc, hrest, rfl⟩
      exact ⟨[c], ⟨c, hc, rfl⟩, rest, ih.2 hrest, rfl⟩

/-- A record is selected by a pattern of characters if and only if the text of its field has as many
characters as the pattern and each of them passes for the character of the pattern in its place. The
pattern is refused only where its regular expression is too large for the standard limits. -/
theorem selects_characters {field : String} (hfield : '.' ∉ field.toList) (pattern : String) :
    ∃ selector, (asks .character field pattern).selectorWithin .unlimited = .ok selector ∧
      ((asks .character field pattern).selector = .ok selector ∨
        (asks .character field pattern).selector = .error .invalidRegex) ∧
      ∀ source : String, selector.holds (.object [(field, .string source)]) = true ↔
        List.Forall₂ (fun kind c => standsFor kind c = true) pattern.toList source.toList := by
  have hregex : regex .character pattern = .ok ("^" ++ _ ++ "$") := rfl
  obtain ⟨selector, hselector, hstandard, hholds⟩ :=
    exists_selector hfield hregex (means_characters pattern.toList)
  refine ⟨selector, hselector, hstandard, fun source => ?_⟩
  rw [hholds, mem_prod_singles]

/-- Letters and digits around a hyphen. -/
theorem selects_characters_of_code : '.' ∉ "code".toList ∧
    ∃ selector, (asks .character "code" "AA-999").selectorWithin .unlimited = .ok selector ∧
      selector.holds (.object [("code", .string "FR-123")]) = true ∧
      selector.holds (.object [("code", .string "FR-12")]) = false := by
  have hfield : '.' ∉ "code".toList := by decide
  obtain ⟨selector, hselector, -, hholds⟩ := selects_characters hfield "AA-999"
  refine ⟨hfield, selector, hselector, (hholds "FR-123").2 ?_, ?_⟩
  · exact .cons rfl (.cons rfl (.cons rfl (.cons rfl (.cons rfl (.cons rfl .nil)))))
  · rw [← Bool.not_eq_true, hholds]
    intro h
    cases h.length_eq

end RecordQuery.Pattern
