import RecordQuery.Proofs.Regex.Matching
import RecordQuery.Regex.Reader

/-! Regular expressions as languages. One that asks nothing of the places between characters matches
the words of a language, wherever they stand (`Denotes`), and between anchors it matches the texts
that are such words (`matchesPart_anchored`). -/

namespace RecordQuery.Regex

/-- The words of one character that passes a test. -/
def singles (test : Char → Bool) : Language Char := {word | ∃ c, test c = true ∧ word = [c]}

@[simp] theorem mem_singles {test : Char → Bool} {word : List Char} :
    word ∈ singles test ↔ ∃ c, test c = true ∧ word = [c] := .rfl

theorem mem_singles_pow {test : Char → Bool} {count : Nat} {word : List Char} :
    word ∈ singles test ^ count ↔ word.length = count ∧ ∀ c ∈ word, test c = true := by
  induction count generalizing word with
  | zero =>
    rw [pow_zero, Language.mem_one, List.length_eq_zero_iff]
    constructor
    · rintro rfl
      exact ⟨rfl, List.forall_mem_nil _⟩
    · exact And.left
  | succ count ih =>
    rw [pow_succ', Language.mem_mul]
    constructor
    · rintro ⟨-, ⟨c, hc, rfl⟩, rest, hrest, rfl⟩
      obtain ⟨hlength, hall⟩ := ih.1 hrest
      exact ⟨congrArg (· + 1) hlength, List.forall_mem_cons.2 ⟨hc, hall⟩⟩
    · rintro ⟨hlength, hall⟩
      cases word with
      | nil => cases hlength
      | cons c rest =>
        obtain ⟨hc, hall⟩ := List.forall_mem_cons.1 hall
        exact ⟨[c], ⟨c, hc, rfl⟩, rest, ih.2 ⟨Nat.succ.inj hlength, hall⟩, rfl⟩

/-- The words of any of the languages. -/
def anyOf (languages : Nat → Language Char) : Language Char :=
  {word | ∃ count, word ∈ languages count}

@[simp] theorem mem_anyOf {languages : Nat → Language Char} {word : List Char} :
    word ∈ anyOf languages ↔ ∃ count, word ∈ languages count := .rfl

section Reads

/-- The relation holds between the two ends of each word of the language in the text. -/
def Reads (text : List Char) (link : Nat → Nat → Prop) (language : Language Char) : Prop :=
  ∀ i j, link i j ↔ ∃ word ∈ language, word <+: text.drop i ∧ j = i + word.length

namespace Reads

variable {text : List Char} {link other : Nat → Nat → Prop} {first second : Language Char}

theorem one : Reads text Eq 1 := by
  intro i j
  simp [Language.mem_one, eq_comm]

theorem mul (h : Reads text link first) (h' : Reads text other second) :
    Reads text (fun i j => ∃ k, link i k ∧ other k j) (first * second) := by
  intro i j
  simp only [h _ _, h' _ _]
  constructor
  · rintro ⟨k, ⟨word, hword, hbegins, rfl⟩, more, hmore, ⟨rest, hrest⟩, rfl⟩
    refine ⟨word ++ more, Language.append_mem_mul hword hmore, ⟨rest, ?_⟩, ?_⟩
    · rw [List.append_assoc, hrest, ← List.drop_drop]
      exact List.prefix_iff_eq_append.1 hbegins
    · rw [List.length_append, Nat.add_assoc]
  · rintro ⟨-, ⟨word, hword, more, hmore, rfl⟩, ⟨rest, hrest⟩, rfl⟩
    have hrest : word ++ (more ++ rest) = text.drop i := by rw [← List.append_assoc]; exact hrest
    refine ⟨i + word.length, ⟨word, hword, ⟨_, hrest⟩, rfl⟩, more, hmore, ⟨rest, ?_⟩, ?_⟩
    · rw [← List.drop_drop, ← hrest, List.drop_left]
    · simp only [List.length_append, Nat.add_assoc]

theorem add (h : Reads text link first) (h' : Reads text other second) :
    Reads text (fun i j => link i j ∨ other i j) (first + second) := by
  intro i j
  simp only [h _ _, h' _ _, Language.mem_add, or_and_right, exists_or]

theorem pow (h : Reads text link first) (count : Nat) :
    Reads text (Repeats link count) (first ^ count) := by
  induction count with
  | zero => exact one
  | succ count ih =>
    rw [pow_succ']
    exact h.mul ih

theorem anyOf {links : Nat → Nat → Nat → Prop} {languages : Nat → Language Char}
    (h : ∀ count, Reads text (links count) (languages count)) :
    Reads text (fun i j => ∃ count, links count i j) (anyOf languages) := by
  intro i j
  simp only [h _ _ _, mem_anyOf]
  constructor
  · rintro ⟨count, word, hword, hrest⟩
    exact ⟨word, ⟨count, hword⟩, hrest⟩
  · rintro ⟨word, ⟨count, hword⟩, hrest⟩
    exact ⟨count, word, hword, hrest⟩

end Reads

end Reads

/-- The regular expression matches the words of the language, wherever in a text they stand. -/
def Denotes (regex : Regex) (language : Language Char) : Prop :=
  ∀ text : List Char, Reads text (regex.Links text) language

namespace Denotes

variable {regex other : Regex} {language first second : Language Char} {count : Nat}
  {greedy : Bool}

theorem empty : Denotes .empty 1 := fun _ => .one

theorem among (chars : CharSet) : Denotes (.among chars) (singles chars.holds) := by
  intro text i j
  have hhead (c : Char) : [c] <+: text.drop i ↔ text[i]? = some c := by
    rw [← List.head?_drop]
    cases text.drop i <;> simp [eq_comm]
  constructor
  · rintro ⟨⟨c, hplace, hc⟩, rfl⟩
    exact ⟨[c], ⟨c, hc, rfl⟩, (hhead c).2 hplace, rfl⟩
  · rintro ⟨-, ⟨c, hc, rfl⟩, hbegins, rfl⟩
    exact ⟨⟨c, (hhead c).1 hbegins, hc⟩, rfl⟩

theorem choice (h : Denotes regex first) (h' : Denotes other second) :
    Denotes (.choice regex other) (first + second) :=
  fun text => (h text).add (h' text)

theorem exactly (h : Denotes regex language) :
    Denotes (.times regex count (some count) greedy) (language ^ count) := by
  intro text i j
  rw [← (h text).pow count i j]
  constructor
  · rintro ⟨extra, hextra, hlinks⟩
    obtain rfl : extra = 0 := by simpa using hextra
    exact hlinks
  · exact fun hlinks => ⟨0, by simp, hlinks⟩

theorem atLeast (h : Denotes regex language) :
    Denotes (.times regex count none greedy) (anyOf fun extra => language ^ (count + extra)) := by
  intro text i j
  rw [← Reads.anyOf (fun extra => (h text).pow (count + extra)) i j]
  simp [Links]

theorem capture (h : Denotes regex language) (name : Option String) :
    Denotes (.capture name regex) language := h

end Denotes

/-! ### Several parts -/

section Parts

variable {text : List Char} {part : Regex} {parts more : List Regex} {i j : Nat}

theorem links_sequenceOf_cons : (sequenceOf (part :: parts)).Links text i j ↔
    ∃ k, part.Links text i k ∧ (sequenceOf parts).Links text k j := by
  cases parts with
  | nil => simp [sequenceOf, Links]
  | cons => rfl

theorem links_sequenceOf_append : (sequenceOf (parts ++ more)).Links text i j ↔
    ∃ k, (sequenceOf parts).Links text i k ∧ (sequenceOf more).Links text k j := by
  induction parts generalizing i with
  | nil => simp [sequenceOf, Links]
  | cons part parts ih =>
    rw [List.cons_append, links_sequenceOf_cons]
    simp only [ih, links_sequenceOf_cons]
    constructor
    · rintro ⟨l, hpart, k, hparts, hmore⟩
      exact ⟨k, ⟨l, hpart, hparts⟩, hmore⟩
    · rintro ⟨k, ⟨l, hpart, hparts⟩, hmore⟩
      exact ⟨l, hpart, k, hparts, hmore⟩

/-- Parts with more of them behind match the words of the one language followed by those of the
other. -/
theorem Denotes.append {first second : Language Char} (h : Denotes (sequenceOf parts) first)
    (h' : Denotes (sequenceOf more) second) :
    Denotes (sequenceOf (parts ++ more)) (first * second) := by
  intro text i j
  rw [links_sequenceOf_append]
  exact (h text).mul (h' text) i j

theorem links_textStart : (Regex.look .textStart).Links text i j ↔ i = 0 ∧ j = 0 := by
  cases i with
  | zero => simp [Links, charBefore, Assertion.holds, eq_comm]
  | succ i =>
    simp only [Links, charBefore, Assertion.holds, Option.isNone_iff_eq_none,
      List.getElem?_eq_none_iff, Nat.add_one_ne_zero, false_and, iff_false]
    omega

theorem links_textEnd :
    (Regex.look .textEnd).Links text i j ↔ i = text.length ∧ j = text.length := by
  simp only [Links, Assertion.holds, Option.isNone_iff_eq_none, List.getElem?_eq_none_iff]
  omega

/-- What stands between anchors within anchors, as it is read from the texts of patterns. -/
def anchored (parts : List Regex) : Regex :=
  sequenceOf [.look .textStart,
    .group (sequenceOf ([.look .textStart] ++ parts ++ [.look .textEnd])), .look .textEnd]

theorem links_between :
    (sequenceOf ([.look .textStart] ++ parts ++ [.look .textEnd])).Links text i j ↔
      i = 0 ∧ j = text.length ∧ (sequenceOf parts).Links text 0 text.length := by
  rw [List.append_assoc, List.singleton_append, links_sequenceOf_cons]
  simp only [links_sequenceOf_append, links_textStart, sequenceOf, links_textEnd]
  constructor
  · rintro ⟨-, ⟨rfl, rfl⟩, -, hparts, rfl, rfl⟩
    exact ⟨rfl, rfl, hparts⟩
  · rintro ⟨rfl, rfl, hparts⟩
    exact ⟨0, ⟨rfl, rfl⟩, text.length, hparts, rfl, rfl⟩

/-- Between anchors a regular expression matches the words of its language and no other text. -/
theorem matchesPart_anchored {language : Language Char}
    (h : Denotes (sequenceOf parts) language) :
    (anchored parts).matchesPart text = true ↔ text ∈ language := by
  have hword : (sequenceOf parts).Links text 0 text.length ↔ text ∈ language := by
    rw [h text 0 text.length, List.drop_zero]
    constructor
    · rintro ⟨word, hword, hbegins, hlength⟩
      rw [Nat.zero_add] at hlength
      rwa [hbegins.eq_of_length hlength.symm] at hword
    · exact fun hmem => ⟨text, hmem, List.prefix_refl text, (Nat.zero_add _).symm⟩
  rw [matchesPart_iff, ← hword]
  constructor
  · rintro ⟨i, j, -, k, -, l, hinner, -⟩
    exact (links_between.1 hinner).2.2
  · intro hparts
    exact ⟨0, text.length, Nat.zero_le _, 0, links_textStart.2 ⟨rfl, rfl⟩, text.length,
      links_between.2 ⟨rfl, rfl, hparts⟩, links_textEnd.2 ⟨rfl, rfl⟩⟩

end Parts

end RecordQuery.Regex
