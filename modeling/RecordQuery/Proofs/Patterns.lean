import RecordQuery.Pattern
import RecordQuery.Proofs.Quoting

/-! The regular expressions of patterns are sound between single quotes: a backslash in one always
stands before a character that means something in regular expressions, never before a quote. -/

namespace RecordQuery.Pattern

open Text (sound sound_append)

/-- Whether a text can be put between single quotes. -/
abbrev IsSound (text : String) : Prop := sound '\'' text.toList = true

namespace IsSound

theorem append {first second : String} (h : IsSound first) (h' : IsSound second) :
    IsSound (first ++ second) := by
  rw [IsSound, String.toList_append]
  exact sound_append h h'

theorem join {texts : List String} (h : ∀ text ∈ texts, IsSound text) :
    IsSound (String.join texts) := by
  induction texts with
  | nil => rfl
  | cons text texts ih =>
    rw [List.forall_mem_cons] at h
    rw [String.join_cons]
    exact h.1.append (ih h.2)

/-- The repetition of a class a number of times. -/
theorem counted {text : String} (h : IsSound text) (count : Nat) :
    IsSound (text ++ "\x7b" ++ Nat.repr count ++ "\x7d") := by
  have hcount : IsSound (Nat.repr count) := by
    rw [IsSound, Nat.repr_eq_ofList_toDigits, String.toList_ofList]
    exact Text.sound_of_digits fun _ hmem =>
      Nat.isDigit_of_mem_toDigits (by decide) (by decide) hmem
  exact ((h.append rfl).append hcount).append rfl

end IsSound

theorem sound_escape (chars : List Char) : sound '\'' (escape chars) = true := by
  induction chars with
  | nil => rfl
  | cons c chars ih =>
    by_cases hc : isMeta c = true
    · have hquote : c ≠ '\'' := by
        rintro rfl
        cases hc
      rw [escape, if_pos hc, sound, Bool.and_eq_true, bne_iff_ne]
      exact ⟨hquote, ih⟩
    · have hbackslash : c ≠ '\\' := by
        rintro rfl
        exact hc rfl
      rw [escape, if_neg hc, Text.sound_cons hbackslash]
      exact ih

theorem isSound_escape (chars : List Char) : IsSound (String.ofList (escape chars)) := by
  rw [IsSound, String.toList_ofList]
  exact sound_escape chars

/-- What holds of a known text where it is chosen, and of what is chosen elsewhere, holds of the
choice between both. -/
theorem of_choice {P : String → Prop} {p : Prop} [Decidable p] {known : String}
    {others : Option String} (hknown : p → P known)
    (hothers : ¬p → ∀ text, others = some text → P text) :
    ∀ text, (if p then some known else others) = some text → P text := by
  intro text h
  by_cases hp : p
  · rw [if_pos hp, Option.some.injEq] at h
    exact h ▸ hknown hp
  · rw [if_neg hp] at h
    exact hothers hp text h

theorem isSound_characterClass (c : Char) :
    ∀ text, characterClass? c = some text → IsSound text := by
  unfold characterClass?
  repeat refine of_choice (fun _ => by decide +kernel) fun _ => ?_
  nofun

theorem isSound_wordClass (name : String) :
    ∀ text, wordClass? name = some text → IsSound text := by
  unfold wordClass?
  repeat refine of_choice (fun _ => by decide +kernel) fun _ => ?_
  nofun

theorem isSound_repeated (c : Char) (count : Nat) : IsSound (repeated c count) := by
  unfold repeated
  cases hclass : characterClass? c with
  | some text =>
    have htext := isSound_characterClass c text hclass
    by_cases hone : count = 1
    · simpa only [if_pos hone] using htext
    · simpa only [if_neg hone] using htext.counted count
  | none =>
    refine IsSound.join fun text htext => ?_
    rw [List.eq_of_mem_replicate htext]
    exact isSound_escape [c]

theorem Piece.isSound_regex (piece : Piece) : IsSound piece.regex := by
  cases piece with
  | text chars => exact isSound_escape chars
  | bracket name =>
    rw [regex]
    cases hclass : wordClass? (String.ofList name) with
    | some known => exact isSound_wordClass _ known hclass
    | none => exact isSound_escape _

/-- The regular expression of a pattern, whatever the pattern, has no backslash before a quote. -/
theorem isSound_regex {kind : PatternKind} {pattern text : String}
    (h : regex kind pattern = .ok text) : IsSound text := by
  have hbetween : ∀ texts : List String, (∀ text ∈ texts, IsSound text) →
      IsSound ("^" ++ String.join texts ++ "$") := fun texts htexts =>
    (IsSound.append rfl (IsSound.join htexts)).append rfl
  cases kind with
  | character =>
    cases h
    refine hbetween _ ?_
    rw [List.forall_mem_map]
    exact fun run _ => isSound_repeated run.1 run.2
  | word =>
    rw [regex, ofWords] at h
    split at h
    · cases h
    · next parts _ =>
      cases h
      refine hbetween _ ?_
      rw [List.forall_mem_map]
      exact fun piece _ => piece.isSound_regex

/-- The regular expression of a pattern is anchored, so it is not empty. -/
theorem isEmpty_regex {kind : PatternKind} {pattern text : String}
    (h : regex kind pattern = .ok text) : text.isEmpty = false := by
  have hanchored : ∀ between : String, ("^" ++ between ++ "$").isEmpty = false := by
    intro between
    simp
  cases kind with
  | character =>
    cases h
    exact hanchored _
  | word =>
    rw [regex, ofWords] at h
    split at h <;> cases h
    exact hanchored _

end RecordQuery.Pattern
