import Mathlib.Computability.Language
import RecordQuery.Regex.Matcher

/-! What matchers find. `Links` says between which places of a text a regular expression matches,
with no order of preference among the ways to do so. The sets of places that a matcher keeps are
exactly those that can be reached (`follows_run`), so it finds a match wherever there is one
(`matchesPart_iff`). -/

namespace RecordQuery.Regex

/-- The character before a place of a text that comes behind `first`. -/
def charBefore (first : Option Char) (text : List Char) : (place : Nat) → Option Char
  | 0 => first
  | place + 1 => text[place]?

/-- So many steps lead from one place to another. -/
def Repeats (step : Nat → Nat → Prop) : (count : Nat) → Nat → Nat → Prop
  | 0, i, j => i = j
  | count + 1, i, j => ∃ k, step i k ∧ Repeats step count k j

/-- The regular expression matches what stands between two places of the text. -/
def Links (text : List Char) : Regex → Nat → Nat → Prop
  | .empty, i, j => i = j
  | .among chars, i, j => (∃ c, text[i]? = some c ∧ chars.holds c = true) ∧ j = i + 1
  | .look assertion, i, j =>
    i = j ∧ i ≤ text.length ∧ assertion.holds (charBefore none text i) text[i]? = true
  | .sequence a b, i, j => ∃ k, a.Links text i k ∧ b.Links text k j
  | .choice a b, i, j => a.Links text i j ∨ b.Links text i j
  | .times inner least most _, i, j =>
    ∃ extra, (∀ limit ∈ most, extra ≤ limit - least) ∧
      Repeats (inner.Links text) (least + extra) i j
  | .group inner, i, j | .capture _ inner, i, j => inner.Links text i j

/-! ### Steps -/

section Steps

variable {step : Nat → Nat → Prop} {count more i j : Nat}

theorem repeats_add : Repeats step (count + more) i j ↔
    ∃ k, Repeats step count i k ∧ Repeats step more k j := by
  induction count generalizing i with
  | zero => simp [Repeats]
  | succ count ih =>
    rw [Nat.succ_add]
    simp only [Repeats, ih]
    constructor
    · rintro ⟨k, hstep, l, hcount, hmore⟩
      exact ⟨l, ⟨k, hstep, hcount⟩, hmore⟩
    · rintro ⟨l, ⟨k, hstep, hcount⟩, hmore⟩
      exact ⟨k, hstep, l, hcount, hmore⟩

/-- What is said of the two ends of a step that never goes back, nor on beyond `size`, is so of the
ends of several. -/
theorem Repeats.forward {size : Nat} (hstep : ∀ {i j}, step i j → i ≤ j ∧ (i = j ∨ j ≤ size))
    (h : Repeats step count i j) : i ≤ j ∧ (i = j ∨ j ≤ size) := by
  induction count generalizing i with
  | zero => exact ⟨Nat.le_of_eq h, .inl h⟩
  | succ count ih =>
    obtain ⟨k, hik, hrest⟩ := h
    have hik := hstep hik
    have hkj := ih hrest
    omega

/-- Steps that stay can be left out: no more are left than there are places to go on by. -/
theorem Repeats.exists_fewer {size : Nat}
    (hstep : ∀ {i j}, step i j → i ≤ j ∧ (i = j ∨ j ≤ size)) (h : Repeats step count i j) :
    ∃ fewer ≤ j - i, Repeats step fewer i j := by
  induction count generalizing i with
  | zero => exact ⟨0, Nat.zero_le _, h⟩
  | succ count ih =>
    obtain ⟨k, hik, hrest⟩ := h
    obtain ⟨fewer, hle, hfewer⟩ := ih hrest
    have hkj := hrest.forward hstep
    rcases Nat.eq_or_lt_of_le (hstep hik).1 with rfl | hlt
    · exact ⟨fewer, hle, hfewer⟩
    · exact ⟨fewer + 1, by omega, k, hik, hfewer⟩

end Steps

variable {text : List Char} {i j : Nat}

/-- A match goes forward, and what it reads is in the text. -/
theorem Links.le {regex : Regex} (h : regex.Links text i j) :
    i ≤ j ∧ (i = j ∨ j ≤ text.length) := by
  induction regex generalizing i j with
  | empty => exact ⟨Nat.le_of_eq h, .inl h⟩
  | among chars =>
    obtain ⟨⟨c, hc, -⟩, rfl⟩ := h
    obtain ⟨hlt, -⟩ := List.getElem?_eq_some_iff.1 hc
    exact ⟨Nat.le_succ i, .inr hlt⟩
  | look assertion => exact ⟨Nat.le_of_eq h.1, .inl h.1⟩
  | sequence a b iha ihb =>
    obtain ⟨k, ha, hb⟩ := h
    have ha := iha ha
    have hb := ihb hb
    omega
  | choice a b iha ihb => exact h.elim iha ihb
  | times inner least most greedy ih =>
    obtain ⟨extra, -, h⟩ := h
    exact h.forward ih
  | group inner ih | capture name inner ih => exact ih h

/-! ### Sets of places -/

/-- A bit put in front of others. -/
theorem testBit_double (n : Nat) (p : Prop) [Decidable p] :
    ((2 * n + if p then 1 else 0).testBit 0 = true ↔ p) ∧
      ∀ i, (2 * n + if p then 1 else 0).testBit (i + 1) = n.testBit i := by
  constructor
  · rw [Nat.testBit_zero]
    split <;> simp_all
  · intro i
    rw [Nat.testBit_succ]
    congr 1
    split <;> omega

theorem testBit_placesBefore (test : Char → Bool) (text : List Char) (i : Nat) :
    (placesBefore test text).testBit i = true ↔ ∃ c, text[i]? = some c ∧ test c = true := by
  induction text generalizing i with
  | nil => simp [placesBefore]
  | cons c text ih =>
    rw [placesBefore]
    cases i with
    | zero =>
      rw [(testBit_double _ _).1]
      simp
    | succ i =>
      rw [(testBit_double _ _).2, ih]
      simp

theorem testBit_placesOf (assertion : Assertion) (first : Option Char) (text : List Char)
    (i : Nat) : (placesOf assertion first text).testBit i = true ↔
      i ≤ text.length ∧ assertion.holds (charBefore first text i) text[i]? = true := by
  induction text generalizing first i with
  | nil =>
    have h := testBit_double 0 (assertion.holds first none = true)
    rw [Nat.mul_zero, Nat.zero_add] at h
    rw [placesOf]
    cases i with
    | zero =>
      rw [h.1]
      simp [charBefore]
    | succ i =>
      rw [h.2]
      simp
  | cons c text ih =>
    rw [placesOf]
    cases i with
    | zero =>
      rw [(testBit_double _ _).1]
      simp [charBefore]
    | succ i =>
      rw [(testBit_double _ _).2, ih]
      cases i <;> simp [charBefore]

/-- The move takes a set of places to those that a step leads to from one of them. -/
def Follows (move : Nat → Nat) (step : Nat → Nat → Prop) : Prop :=
  ∀ places j, (move places).testBit j = true ↔ ∃ i, places.testBit i = true ∧ step i j

namespace Follows

variable {move next : Nat → Nat} {step other : Nat → Nat → Prop} {count places size : Nat}

theorem congr (h : Follows move step) (hstep : ∀ i j, step i j ↔ other i j) :
    Follows move other := by
  intro places j
  rw [h]
  simp only [hstep]

theorem comp (h : Follows move step) (h' : Follows next other) :
    Follows (fun places => next (move places)) fun i j => ∃ k, step i k ∧ other k j := by
  intro places j
  rw [h']
  simp only [h places]
  constructor
  · rintro ⟨k, ⟨i, hi, hstep⟩, hother⟩
    exact ⟨i, hi, k, hstep, hother⟩
  · rintro ⟨i, hi, k, hstep, hother⟩
    exact ⟨k, ⟨i, hi, hstep⟩, hother⟩

theorem either (h : Follows move step) (h' : Follows next other) :
    Follows (fun places => move places ||| next places) fun i j => step i j ∨ other i j := by
  intro places j
  rw [Nat.testBit_or, Bool.or_eq_true, h, h', ← exists_or]
  simp only [and_or_left]

theorem stay : Follows (fun places => places) Eq := by
  intro places j
  simp

/-- The first of several steps is a move. -/
theorem exists_repeats_succ (h : Follows move step) :
    (∃ i, places.testBit i = true ∧ Repeats step (count + 1) i j) ↔
      ∃ k, (move places).testBit k = true ∧ Repeats step count k j := by
  simp only [h places, Repeats]
  constructor
  · rintro ⟨i, hi, k, hstep, hrest⟩
    exact ⟨k, ⟨i, hi, hstep⟩, hrest⟩
  · rintro ⟨k, ⟨i, hi, hstep⟩, hrest⟩
    exact ⟨i, hi, k, hstep, hrest⟩

theorem after (h : Follows move step) (count : Nat) :
    Follows (Regex.after move count) (Repeats step count) := by
  intro places j
  induction count generalizing places with
  | zero => simp [Regex.after, Repeats]
  | succ count ih =>
    rw [Regex.after, h.exists_repeats_succ, ← ih]
    split
    · next hfixed =>
      -- A set that the move does not change is all that any number of moves comes to.
      have hafter : Regex.after move count (move places) = places := by
        cases count with
        | zero => exact hfixed
        | succ count => rw [Regex.after, hfixed, if_pos hfixed]
      rw [hafter]
    · rfl

/-- Steps do not lead out of a set to which the move adds nothing. -/
theorem testBit_of_repeats (h : Follows move step) (hclosed : places ||| move places = places)
    {i : Nat} (hi : places.testBit i = true) (hrest : Repeats step count i j) :
    places.testBit j = true := by
  induction count generalizing i with
  | zero => exact (show i = j from hrest) ▸ hi
  | succ count ih =>
    obtain ⟨k, hstep, hrest⟩ := hrest
    refine ih ?_ hrest
    rw [← hclosed, Nat.testBit_or, Bool.or_eq_true]
    exact .inr ((h places k).2 ⟨i, hi, hstep⟩)

theorem within (h : Follows move step) (count : Nat) :
    Follows (Regex.within move count) fun i j => ∃ fewer ≤ count, Repeats step fewer i j := by
  intro places j
  induction count generalizing places with
  | zero => simp [Regex.within, Repeats]
  | succ count ih =>
    rw [Regex.within]
    split
    · next hclosed =>
      constructor
      · exact fun hj => ⟨j, hj, 0, Nat.zero_le _, rfl⟩
      · rintro ⟨i, hi, fewer, -, hrest⟩
        exact h.testBit_of_repeats hclosed hi hrest
    · rw [ih]
      simp only [Nat.testBit_or, Bool.or_eq_true]
      constructor
      · rintro ⟨k, hk | hk, fewer, hle, hrest⟩
        · exact ⟨k, hk, fewer, Nat.le_succ_of_le hle, hrest⟩
        · obtain ⟨i, hi, hrest⟩ := h.exists_repeats_succ.2 ⟨k, hk, hrest⟩
          exact ⟨i, hi, fewer + 1, Nat.succ_le_succ hle, hrest⟩
      · rintro ⟨i, hi, fewer, hle, hrest⟩
        cases fewer with
        | zero => exact ⟨i, .inl hi, 0, Nat.zero_le _, hrest⟩
        | succ fewer =>
          obtain ⟨k, hk, hrest⟩ := h.exists_repeats_succ.1 ⟨i, hi, hrest⟩
          exact ⟨k, .inr hk, fewer, Nat.le_of_succ_le_succ hle, hrest⟩

/-- As many steps as a text has places lead wherever steps lead that never go back. -/
theorem within_size (h : Follows move step)
    (hle : ∀ {i j}, step i j → i ≤ j ∧ (i = j ∨ j ≤ size)) :
    Follows (Regex.within move (size + 1)) fun i j => ∃ count, Repeats step count i j := by
  refine (h.within (size + 1)).congr fun i j => ?_
  constructor
  · rintro ⟨count, -, hrest⟩
    exact ⟨count, hrest⟩
  · rintro ⟨count, hrest⟩
    have hends := hrest.forward hle
    obtain ⟨fewer, hfewer, hrest⟩ := hrest.exists_fewer hle
    exact ⟨fewer, by omega, hrest⟩

end Follows

/-- A matcher that starts at some places ends at those up to which something matches from one of
them. -/
theorem follows_run (text : List Char) (regex : Regex) :
    Follows (regex.run text) (regex.Links text) := by
  induction regex with
  | empty => exact .stay
  | among chars =>
    intro places j
    show ((places &&& placesBefore chars.holds text) <<< 1).testBit j = true ↔ _
    rw [Nat.testBit_shiftLeft, Bool.and_eq_true, Nat.testBit_and, Bool.and_eq_true,
      testBit_placesBefore, decide_eq_true_iff]
    constructor
    · rintro ⟨hj, hplace, hc⟩
      exact ⟨j - 1, hplace, hc, by omega⟩
    · rintro ⟨i, hplace, hc, rfl⟩
      exact ⟨Nat.le_add_left 1 i, hplace, hc⟩
  | look assertion =>
    intro places j
    show (places &&& placesOf assertion none text).testBit j = true ↔ _
    rw [Nat.testBit_and, Bool.and_eq_true, testBit_placesOf]
    constructor
    · rintro ⟨hplace, hholds⟩
      exact ⟨j, hplace, rfl, hholds⟩
    · rintro ⟨i, hplace, rfl, hholds⟩
      exact ⟨hplace, hholds⟩
  | sequence a b iha ihb => exact iha.comp ihb
  | choice a b iha ihb => exact iha.either ihb
  | times inner least most greedy ih =>
    have hlinks : ∀ (others : Nat → Prop) (i j : Nat),
        (∃ k, Repeats (inner.Links text) least i k ∧
          ∃ extra, others extra ∧ Repeats (inner.Links text) extra k j) ↔
        ∃ extra, others extra ∧ Repeats (inner.Links text) (least + extra) i j := by
      intro others i j
      simp only [repeats_add]
      constructor
      · rintro ⟨k, hleast, extra, hextra, hrest⟩
        exact ⟨extra, hextra, k, hleast, hrest⟩
      · rintro ⟨extra, hextra, k, hleast, hrest⟩
        exact ⟨k, hleast, extra, hextra, hrest⟩
    cases most with
    | none =>
      refine ((ih.after least).comp (ih.within_size Links.le)).congr fun i j => ?_
      simpa [Links] using hlinks (fun _ => True) i j
    | some most =>
      refine ((ih.after least).comp (ih.within (most - least))).congr fun i j => ?_
      simpa [Links] using hlinks (· ≤ most - least) i j
  | group inner ih | capture name inner ih => exact ih

/-- A match is found in a text exactly where a regular expression matches between two places. -/
theorem matchesPart_iff (regex : Regex) (text : List Char) :
    regex.matchesPart text = true ↔ ∃ i j, i ≤ text.length ∧ regex.Links text i j := by
  have hall (i : Nat) : (twoTo (text.length + 1) - 1).testBit i = true ↔ i ≤ text.length := by
    rw [show twoTo (text.length + 1) = 2 ^ (text.length + 1) from rfl, Nat.testBit_two_pow_sub_one,
      decide_eq_true_iff, Nat.lt_succ_iff]
  rw [matchesPart, bne_iff_ne]
  constructor
  · intro hne
    obtain ⟨j, hj⟩ := Nat.exists_testBit_of_ne_zero hne
    obtain ⟨i, hi, hlinks⟩ := (follows_run text regex _ j).1 hj
    exact ⟨i, j, (hall i).1 hi, hlinks⟩
  · rintro ⟨i, j, hi, hlinks⟩ hzero
    have hj := (follows_run text regex _ j).2 ⟨i, (hall i).2 hi, hlinks⟩
    rw [hzero] at hj
    simp at hj

end RecordQuery.Regex
