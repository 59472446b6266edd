import Mathlib.Data.List.TakeWhile
import RecordQuery.Proofs.Pattern.Expressions

/-! Patterns of words. A pattern is split from the left into text and the names in brackets; a text
complies with it if it is made of one word for each part. The class of letters and digits that the
name `alnum` stands for has a bar in it, so that a bar passes for a letter or digit there. -/

namespace RecordQuery.Pattern

open Regex (IsElement Means Property Unit singles)
open Text (Span)

/-! ### Splitting -/

/-- A pattern of words and the parts that it is split into from the left: text up to an opening
bracket, the name up to the next closing bracket, and so on. -/
inductive Splits : List Char → List Piece → Prop
  | last {chars : List Char} : '[' ∉ chars → Splits chars [.text chars]
  | next {chars name rest : List Char} {more : List Piece} : '[' ∉ chars → ']' ∉ name →
      Splits rest more →
      Splits (chars ++ '[' :: (name ++ ']' :: rest)) (.text chars :: .bracket name :: more)

theorem Splits.bracket {name rest : List Char} {more : List Piece} (hname : ']' ∉ name)
    (h : Splits rest more) :
    Splits ('[' :: (name ++ ']' :: rest)) (.text [] :: .bracket name :: more) :=
  .next List.not_mem_nil hname h

/-- Somewhere behind each opening bracket there is a closing one. -/
def BracketsClose (chars : List Char) : Prop :=
  ∀ before after, chars = before ++ '[' :: after → ']' ∈ after

theorem bracketsClose_nil : BracketsClose [] :=
  fun before _ heq => by cases before <;> cases heq

theorem bracketsClose_cons {c : Char} {chars : List Char} :
    BracketsClose (c :: chars) ↔ (c = '[' → ']' ∈ chars) ∧ BracketsClose chars := by
  constructor
  · intro h
    refine ⟨?_, fun before after heq => h (c :: before) after (by rw [heq, List.cons_append])⟩
    rintro rfl
    exact h [] chars rfl
  · rintro ⟨hc, hchars⟩ before after heq
    cases before with
    | nil =>
      cases heq
      exact hc rfl
    | cons d before =>
      cases heq
      exact hchars before after rfl

instance decidableBracketsClose : (chars : List Char) → Decidable (BracketsClose chars)
  | [] => isTrue bracketsClose_nil
  | _ :: chars =>
    have := decidableBracketsClose chars
    decidable_of_iff _ bracketsClose_cons.symm

section Splitting

variable {chars name rest : List Char} {c : Char} {index : Nat}

theorem ne_of_notMem (h : c ∉ chars) : ∀ d ∈ chars, (d != c) = true := by
  intro d hd
  rw [bne_iff_ne]
  rintro rfl
  exact h hd

theorem takeWhile_before (h : c ∉ chars) : (chars ++ c :: rest).takeWhile (· != c) = chars := by
  rw [List.takeWhile_append_of_pos (ne_of_notMem h), List.takeWhile_cons_of_neg (by simp),
    List.append_nil]

theorem dropWhile_before (h : c ∉ chars) :
    (chars ++ c :: rest).dropWhile (· != c) = c :: rest := by
  rw [List.dropWhile_append_of_pos (ne_of_notMem h), List.dropWhile_cons_of_neg (by simp)]

theorem pieces_last (h : '[' ∉ chars) : pieces index chars = .ok [.text chars] := by
  rw [pieces]
  split
  · rw [List.takeWhile_eq_self_iff.2 (ne_of_notMem h)]
  · next heq => rw [List.dropWhile_eq_nil_iff.2 (ne_of_notMem h)] at heq; cases heq

theorem pieces_next (hchars : '[' ∉ chars) (hname : ']' ∉ name) :
    pieces index (chars ++ '[' :: (name ++ ']' :: rest)) =
      (pieces (index + chars.length + name.length + 2) rest).map
        fun more => .text chars :: .bracket name :: more := by
  rw [pieces]
  split
  · next heq => rw [dropWhile_before hchars] at heq; cases heq
  · next after heq =>
    rw [dropWhile_before hchars] at heq
    cases heq
    simp only
    split
    · next heq => rw [dropWhile_before hname] at heq; cases heq
    · next heq =>
      rw [dropWhile_before hname] at heq
      cases heq
      rw [takeWhile_before hchars, takeWhile_before hname]
      cases pieces (index + chars.length + name.length + 2) rest <;> rfl

theorem Splits.pieces {parts : List Piece} (h : Splits chars parts) (index : Nat) :
    pieces index chars = .ok parts := by
  induction h generalizing index with
  | last hchars => exact pieces_last hchars
  | next hchars hname _ ih =>
    rw [pieces_next hchars hname, ih]
    rfl

theorem Splits.unique {parts others : List Piece} (h : Splits chars parts)
    (h' : Splits chars others) : others = parts :=
  Except.ok.inj ((h'.pieces 0).symm.trans (h.pieces 0))

theorem BracketsClose.exists_splits (h : BracketsClose chars) : ∃ parts, Splits chars parts := by
  induction hlength : chars.length using Nat.strong_induction_on generalizing chars with
  | _ length ih =>
    by_cases hopen : '[' ∈ chars
    · obtain ⟨before, after, rfl, hbefore⟩ := List.eq_append_cons_of_mem hopen
      obtain ⟨name, rest, rfl, hname⟩ := List.eq_append_cons_of_mem (h before after rfl)
      have hrest : BracketsClose rest := fun front behind heq =>
        h (before ++ '[' :: (name ++ ']' :: front)) behind (by simp [heq])
      have hshorter : rest.length < length := by
        rw [← hlength]
        simp only [List.length_append, List.length_cons]
        omega
      obtain ⟨more, hmore⟩ := ih rest.length hshorter hrest rfl
      exact ⟨_, .next hbefore hname hmore⟩
    · exact ⟨_, .last hopen⟩

/-! ### Brackets that stay open -/

/-- The first opening bracket behind which there is no closing one stands at this place. -/
def OpensAt (chars : List Char) (place : Nat) : Prop :=
  ∃ before after, chars = before ++ '[' :: after ∧ BracketsClose before ∧ ']' ∉ after ∧
    before.length = place

/-- Behind a place up to which all brackets are closed, the search goes on from there. -/
theorem Splits.pieces_append {parts : List Piece} {after : List Char} (h : Splits chars parts)
    (hafter : ']' ∉ after) (index : Nat) :
    Pattern.pieces index (chars ++ '[' :: after) = .error (index + chars.length) := by
  induction h generalizing index with
  | @last chars hchars =>
    rw [Pattern.pieces.eq_def]
    split
    · next heq => rw [dropWhile_before hchars] at heq; cases heq
    · next heq =>
      rw [dropWhile_before hchars] at heq
      cases heq
      simp only
      split
      · rw [takeWhile_before hchars]
      · next heq => rw [List.dropWhile_eq_nil_iff.2 (ne_of_notMem hafter)] at heq; cases heq
  | @next chars name rest more hchars hname _ ih =>
    have hassoc : (chars ++ '[' :: (name ++ ']' :: rest)) ++ '[' :: after =
        chars ++ '[' :: (name ++ ']' :: (rest ++ '[' :: after)) := by simp
    rw [hassoc, pieces_next hchars hname, ih]
    simp only [Except.map, List.length_append, List.length_cons]
    congr 1
    omega

theorem OpensAt.pieces {place : Nat} (h : OpensAt chars place) (index : Nat) :
    Pattern.pieces index chars = .error (index + place) := by
  obtain ⟨before, after, rfl, hbefore, hafter, rfl⟩ := h
  obtain ⟨parts, hparts⟩ := hbefore.exists_splits
  exact hparts.pieces_append hafter index

/-- If not all brackets are closed, one of those that stay open is the first. -/
theorem exists_opensAt (h : ¬ BracketsClose chars) : ∃ place, OpensAt chars place := by
  induction chars with
  | nil => exact absurd bracketsClose_nil h
  | cons c chars ih =>
    rw [bracketsClose_cons] at h
    by_cases hc : c = '[' → ']' ∈ chars
    · obtain ⟨place, before, after, rfl, hbefore, hafter, rfl⟩ := ih fun hchars => h ⟨hc, hchars⟩
      refine ⟨_, c :: before, after, rfl, bracketsClose_cons.2 ⟨fun hopen => ?_, hbefore⟩, hafter,
        rfl⟩
      -- What closes the first bracket stands before the open one, since nothing behind it closes.
      have hclose := hc hopen
      rw [List.mem_append, List.mem_cons] at hclose
      exact hclose.resolve_right (not_or.2 ⟨by decide, hafter⟩)
    · obtain ⟨rfl, hchars⟩ := Classical.not_imp.1 hc
      exact ⟨0, [], chars, rfl, bracketsClose_nil, hchars, rfl⟩

end Splitting

/-! ### Words -/

/-- Words of so many characters or more that pass a test. -/
def atLeast (least : Nat) (test : Char → Bool) : Language Char :=
  {word | least ≤ word.length ∧ ∀ c ∈ word, test c = true}

/-- Letters and digits. -/
def isAlphanumeric (c : Char) : Bool :=
  hasCategory .nd c || hasCategory .lu c || hasCategory .ll c

/-- The words that a name in brackets stands for, if it is known; what passes for a letter or digit
is given. -/
def wordsOf? (alphanumeric : Char → Bool) (name : String) : Option (Language Char) :=
  let isIn (spans : List Span) (c : Char) : Bool := Span.anyHolds spans c.toNat
  let isKatakana := isIn (halfKatakanaSpans ++ fullKatakanaSpans)
  if name = "word" then some (atLeast 2 (hasCategory .ll))
  else if name = "Word" then some (singles (hasCategory .lu) * atLeast 1 (hasCategory .ll))
  else if name = "digit" || name = "Number" then some (singles (hasCategory .nd))
  else if name = "char" then some (singles (hasCategory .ll))
  else if name = "Char" then some (singles (hasCategory .lu))
  else if name = "alnum" then some (atLeast 2 alphanumeric)
  else if name = "Ideogram" then some (singles isIdeogram)
  else if name = "IdeogramSeq" then some (atLeast 2 isIdeogram)
  else if name = "hira" then some (singles (isIn hiraganaSpans))
  else if name = "hiraSeq" then some (atLeast 2 (isIn hiraganaSpans))
  else if name = "kata" then some (singles isKatakana)
  else if name = "kataSeq" then some (atLeast 2 isKatakana)
  else if name = "hangul" then some (singles (isIn hangulSpans))
  else if name = "hangulSeq" then some (atLeast 2 (isIn hangulSpans))
  else none

/-- The words of a part: its own text, the words of its name, or a name that is not known with its
brackets. -/
def Piece.words (alphanumeric : Char → Bool) : Piece → Language Char
  | .text chars => {chars}
  | .bracket name => (wordsOf? alphanumeric (String.ofList name)).getD {'[' :: name ++ [']']}

/-- The texts made of one word for each part. -/
def wordsOfAll (alphanumeric : Char → Bool) (parts : List Piece) : Language Char :=
  (parts.map (Piece.words alphanumeric)).prod

theorem wordsOfAll_bracket (alphanumeric : Char → Bool) (name : List Char) :
    wordsOfAll alphanumeric [.text [], .bracket name, .text []] =
      (Piece.bracket name).words alphanumeric := by
  have hempty : (Piece.text []).words alphanumeric = 1 := rfl
  simp [wordsOfAll, hempty]

/-! ### Their regular expressions -/

section Expressions

variable {height : Nat} {text : String} {test : Char → Bool}

/-- What passes for a letter or digit in the regular expression of letters and digits. -/
def isAlphanumericOrBar (c : Char) : Bool :=
  c == '|' || isAlphanumeric c

theorem anyOf_singles_pow (least : Nat) (test : Char → Bool) :
    (Regex.anyOf fun extra => singles test ^ (least + extra)) = atLeast least test := by
  ext word
  simp only [Regex.mem_anyOf, Regex.mem_singles_pow]
  constructor
  · rintro ⟨extra, hlength, htest⟩
    exact ⟨hlength ▸ Nat.le_add_right least extra, htest⟩
  · rintro ⟨hlength, htest⟩
    exact ⟨word.length - least, by omega, htest⟩

theorem means_two (h : Unit height text.toList (singles test)) :
    Means height (text ++ "\x7b2,\x7d").toList (atLeast 2 test) := by
  have hmeans := h.atLeast 2
  rw [anyOf_singles_pow] at hmeans
  rw [String.toList_append]
  exact hmeans

theorem unit_category {name : String} {category : Text.Category}
    (h : IsName name (.ofCategories [category])) :
    Unit height ("[" ++ property name ++ "]").toList (singles (hasCategory category)) :=
  holds_ofCategories category ▸ unit_bracketed h

theorem means_capitalized :
    Means height (property "Lu" ++ "[" ++ property "Ll" ++ "]\x7b1,\x7d").toList
      (singles (hasCategory .lu) * atLeast 1 (hasCategory .ll)) := by
  have hfirst : Means height (property "Lu").toList (singles (hasCategory .lu)) :=
    holds_ofCategories .lu ▸ (unit_property isName_lu).means
  have hothers := (unit_category isName_ll : Unit height _ _).atLeast 1
  rw [anyOf_singles_pow] at hothers
  exact hfirst.append hothers

theorem unit_alphanumericOrBar :
    Unit height ("[" ++ property "Nd" ++ "|" ++ property "Lu" ++ property "Ll" ++ "]").toList
      (singles isAlphanumericOrBar) := by
  let elements : List (List Char × Regex.CharSet) :=
    [((property "Nd").toList, .property (.ofCategories [.nd])), (['|'], .single '|'),
      ((property "Lu").toList, .property (.ofCategories [.lu])),
      ((property "Ll").toList, .property (.ofCategories [.ll]))]
  have helements : ∀ element ∈ elements, IsElement element.1 element.2 := by
    simp only [elements, List.forall_mem_cons, List.not_mem_nil, false_imp_iff, implies_true,
      and_true]
    exact ⟨isElement_property isName_nd, Regex.isElement_bar, isElement_property isName_lu,
      isElement_property isName_ll⟩
  have hholds : (fun c => elements.any (·.2.holds c)) = isAlphanumericOrBar := by
    funext c
    have hbar : (Regex.CharSet.single '|').holds c = (c == '|') :=
      congrFun (Regex.holds_single '|') c
    simp only [elements, List.any_cons, List.any_nil, Regex.CharSet.holds, holds_ofCategories, hbar,
      isAlphanumericOrBar, isAlphanumeric, Bool.or_false, Bool.or_assoc]
    rw [Bool.or_left_comm]
  rw [← hholds]
  exact .elements helements rfl

theorem means_escape (chars : List Char) : Means height (escape chars) {chars} := by
  induction chars with
  | nil => exact .nil
  | cons c chars ih =>
    have hescape : escape (c :: chars) = escape [c] ++ escape chars := by
      by_cases hc : isMeta c = true
      · simp [escape, hc]
      · simp [escape, hc]
    have hlanguage : ({c :: chars} : Language Char) = singles (· == c) * {chars} := by
      ext word
      rw [Language.mem_mul]
      constructor
      · rintro rfl
        exact ⟨[c], ⟨c, beq_self_eq_true c, rfl⟩, chars, rfl, rfl⟩
      · rintro ⟨-, ⟨d, hd, rfl⟩, -, rfl, rfl⟩
        cases beq_iff_eq.1 hd
        rfl
    rw [hescape, hlanguage]
    exact (Unit.escaped c).means.append ih

/-- The text of a name, if it is known, means its words. -/
abbrev MeansWords (text : Option String) (words : Option (Language Char)) : Prop :=
  Option.Rel (fun text language => Means 1 text.toList language) text words

theorem meansWords_of_choice {p : Prop} [Decidable p] {known : String} {language : Language Char}
    {others : Option String} {languages : Option (Language Char)}
    (hknown : Means 1 known.toList language) (hothers : MeansWords others languages) :
    MeansWords (if p then some known else others) (if p then some language else languages) := by
  by_cases hp : p
  · rw [if_pos hp, if_pos hp]
    exact .some hknown
  · rwa [if_neg hp, if_neg hp]

theorem meansWords_wordClass (name : String) :
    MeansWords (wordClass? name) (wordsOf? isAlphanumericOrBar name) := by
  refine meansWords_of_choice (means_two (unit_category isName_ll)) ?_
  refine meansWords_of_choice means_capitalized ?_
  refine meansWords_of_choice (unit_category isName_nd).means ?_
  refine meansWords_of_choice (unit_category isName_ll).means ?_
  refine meansWords_of_choice (unit_category isName_lu).means ?_
  refine meansWords_of_choice (means_two unit_alphanumericOrBar) ?_
  refine meansWords_of_choice unit_ideogram.means ?_
  refine meansWords_of_choice (means_two unit_ideogram) ?_
  refine meansWords_of_choice unit_hiragana.means ?_
  refine meansWords_of_choice (means_two unit_hiragana) ?_
  refine meansWords_of_choice unit_katakana.means ?_
  refine meansWords_of_choice (means_two unit_katakana) ?_
  refine meansWords_of_choice unit_hangul.means ?_
  refine meansWords_of_choice (means_two unit_hangul) ?_
  exact .none

theorem Piece.means (piece : Piece) :
    Means 1 piece.regex.toList (piece.words isAlphanumericOrBar) := by
  cases piece with
  | text chars =>
    rw [regex, String.toList_ofList]
    exact means_escape chars
  | bracket name =>
    have hwords := meansWords_wordClass (String.ofList name)
    rw [regex, words]
    generalize wordClass? (String.ofList name) = text at hwords ⊢
    generalize wordsOf? isAlphanumericOrBar (String.ofList name) = language at hwords ⊢
    cases hwords with
    | some hknown => exact hknown
    | none =>
      show Means 1 (String.ofList (escape ('[' :: name ++ [']']))).toList _
      rw [String.toList_ofList]
      exact means_escape _

theorem means_words (parts : List Piece) :
    Means 1 (String.join (parts.map Piece.regex)).toList
      (wordsOfAll isAlphanumericOrBar parts) := by
  refine means_join (List.forall₂_map_left_iff.2 (List.forall₂_map_right_iff.2 ?_))
  exact List.forall₂_same.2 fun piece _ => piece.means

end Expressions

/-! ### Without bars -/

/-- The languages have the same words among those without a character. -/
def AgreeWithout (c : Char) (first second : Language Char) : Prop :=
  ∀ word, c ∉ word → (word ∈ first ↔ word ∈ second)

theorem AgreeWithout.mul {c : Char} {first second more others : Language Char}
    (h : AgreeWithout c first second) (h' : AgreeWithout c more others) :
    AgreeWithout c (first * more) (second * others) := by
  intro word hword
  simp only [Language.mem_mul]
  constructor
  · rintro ⟨front, hfront, behind, hbehind, rfl⟩
    rw [List.mem_append, not_or] at hword
    exact ⟨front, (h front hword.1).1 hfront, behind, (h' behind hword.2).1 hbehind, rfl⟩
  · rintro ⟨front, hfront, behind, hbehind, rfl⟩
    rw [List.mem_append, not_or] at hword
    exact ⟨front, (h front hword.1).2 hfront, behind, (h' behind hword.2).2 hbehind, rfl⟩

theorem wordsOf_congr {name : String} (h : name ≠ "alnum") (f g : Char → Bool) :
    wordsOf? f name = wordsOf? g name := by
  simp only [wordsOf?, if_neg h]

theorem Piece.words_congr {piece : Piece} (h : piece ≠ .bracket "alnum".toList)
    (f g : Char → Bool) : piece.words f = piece.words g := by
  cases piece with
  | text chars => rfl
  | bracket name =>
    have hname : String.ofList name ≠ "alnum" := by
      rintro heq
      rw [← heq, String.toList_ofList] at h
      exact h rfl
    rw [words, wordsOf_congr hname f g, words]

theorem Piece.agreeWithout_bar (piece : Piece) :
    AgreeWithout '|' (piece.words isAlphanumericOrBar) (piece.words isAlphanumeric) := by
  by_cases h : piece = .bracket "alnum".toList
  · subst h
    intro word hword
    have hall : (∀ c ∈ word, isAlphanumericOrBar c = true) ↔
        ∀ c ∈ word, isAlphanumeric c = true := by
      refine forall₂_congr fun c hc => ?_
      have hbar : c ≠ '|' := by
        rintro rfl
        exact hword hc
      simp [isAlphanumericOrBar, hbar]
    exact and_congr_right' hall
  · rw [Piece.words_congr h isAlphanumericOrBar isAlphanumeric]
    exact fun _ _ => .rfl

theorem agreeWithout_bar (parts : List Piece) :
    AgreeWithout '|' (wordsOfAll isAlphanumericOrBar parts) (wordsOfAll isAlphanumeric parts) := by
  induction parts with
  | nil => exact fun _ _ => .rfl
  | cons piece parts ih =>
    simp only [wordsOfAll, List.map_cons, List.prod_cons]
    exact piece.agreeWithout_bar.mul ih

theorem wordsOfAll_congr {parts : List Piece} (h : .bracket "alnum".toList ∉ parts)
    (f g : Char → Bool) : wordsOfAll f parts = wordsOfAll g parts := by
  rw [wordsOfAll, wordsOfAll]
  refine congrArg List.prod (List.map_congr_left fun piece hpiece => ?_)
  refine Piece.words_congr ?_ f g
  rintro rfl
  exact h hpiece

/-! ### Records -/

theorem regex_of_splits {pattern : String} {parts : List Piece} (h : Splits pattern.toList parts) :
    regex .word pattern = .ok ("^" ++ String.join (parts.map Piece.regex) ++ "$") := by
  rw [regex, ofWords, h.pieces 0]

theorem BracketsClose.exists_regex {pattern : String} (h : BracketsClose pattern.toList) :
    ∃ text, regex .word pattern = .ok text := by
  obtain ⟨parts, hparts⟩ := h.exists_splits
  exact ⟨_, regex_of_splits hparts⟩

theorem OpensAt.regex_eq {pattern : String} {place : Nat} (h : OpensAt pattern.toList place) :
    regex .word pattern = .error (.unclosedBracket place pattern) := by
  rw [regex, ofWords, h.pieces 0, Nat.zero_add]

/-- A pattern of words whose brackets close is split in one way, and it selects a record if and only
if the text of its field is made of one word for each part, where a bar passes for a letter or
digit. Without a bar in the text, or without the name of letters and digits in the pattern, these
are the words that the names stand for. The pattern is refused only where its regular expression is
too large for the standard limits. -/
theorem selects_words {field pattern : String} (hfield : '.' ∉ field.toList)
    (hpattern : BracketsClose pattern.toList) :
    ∃ parts selector, (∀ others, Splits pattern.toList others ↔ others = parts) ∧
      (asks .word field pattern).selectorWithin .unlimited = .ok selector ∧
      ((asks .word field pattern).selector = .ok selector ∨
        (asks .word field pattern).selector = .error .invalidRegex) ∧
      ∀ source : String,
        (selector.holds (.object [(field, .string source)]) = true ↔
          source.toList ∈ wordsOfAll isAlphanumericOrBar parts) ∧
        ('|' ∉ source.toList ∨ .bracket "alnum".toList ∉ parts →
          (selector.holds (.object [(field, .string source)]) = true ↔
            source.toList ∈ wordsOfAll isAlphanumeric parts)) := by
  obtain ⟨parts, hparts⟩ := hpattern.exists_splits
  obtain ⟨selector, hselector, hstandard, hholds⟩ :=
    exists_selector hfield (regex_of_splits hparts) (means_words parts)
  refine ⟨parts, selector, fun others => ⟨hparts.unique, fun h => h ▸ hparts⟩, hselector, hstandard,
    fun source => ⟨hholds source, fun hbar => ?_⟩⟩
  rw [hholds]
  obtain hsource | hnames := hbar
  · exact agreeWithout_bar parts source.toList hsource
  · rw [wordsOfAll_congr hnames]

/-- Two capitalized words with a blank between. -/
theorem selects_words_of_names : '.' ∉ "name".toList ∧ BracketsClose "[Word] [Word]".toList ∧
    ∃ selector, (asks .word "name" "[Word] [Word]").selectorWithin .unlimited = .ok selector ∧
      selector.holds (.object [("name", .string "John Smith")]) = true := by
  have hfield : '.' ∉ "name".toList := by decide
  have hpattern : BracketsClose "[Word] [Word]".toList := by decide
  have htext : "[Word] [Word]".toList =
      '[' :: ("Word".toList ++ ']' :: ([' '] ++ '[' :: ("Word".toList ++ [']']))) := by decide
  have hsplits : Splits "[Word] [Word]".toList [.text [], .bracket "Word".toList, .text [' '],
      .bracket "Word".toList, .text []] := by
    rw [htext]
    exact .bracket (by decide) (.next (by decide) (by decide) (.last (by decide)))
  obtain ⟨parts, selector, hparts, hselector, -, hholds⟩ := selects_words hfield hpattern
  obtain rfl := (hparts _).1 hsplits
  refine ⟨hfield, hpattern, selector, hselector, ((hholds "John Smith").2 (.inl (by decide))).2 ?_⟩
  have hcapitalized (c : Char) (rest : List Char) (hc : hasCategory .lu c = true)
      (hrest : 1 ≤ rest.length ∧ rest.all (hasCategory .ll) = true) :
      c :: rest ∈ (Piece.bracket "Word".toList).words isAlphanumeric :=
    ⟨[c], ⟨c, hc, rfl⟩, rest, ⟨hrest.1, List.all_eq_true.1 hrest.2⟩, rfl⟩
  have hjohn := hcapitalized 'J' "ohn".toList (by decide +kernel) (by decide +kernel)
  have hsmith := hcapitalized 'S' "mith".toList (by decide +kernel) (by decide +kernel)
  exact ⟨[], rfl, _, ⟨_, hjohn, _, ⟨[' '], rfl, _, ⟨_, hsmith, _, ⟨[], rfl, [], rfl, rfl⟩, rfl⟩,
    rfl⟩, rfl⟩, rfl⟩

/-- A bar passes for a letter or digit, which it is not. -/
theorem exists_bar_in_letters : ∃ parts selector, Splits "[alnum]".toList parts ∧
    (asks .word "f" "[alnum]").selectorWithin .unlimited = .ok selector ∧
      selector.holds (.object [("f", .string "a|")]) = true ∧
      "a|".toList ∉ wordsOfAll isAlphanumeric parts := by
  have htext : "[alnum]".toList = '[' :: ("alnum".toList ++ [']']) := by decide
  have hsplits : Splits "[alnum]".toList [.text [], .bracket "alnum".toList, .text []] := by
    rw [htext]
    exact .bracket (by decide) (.last (by decide))
  have hfield : '.' ∉ "f".toList := by decide
  obtain ⟨selector, hselector, -, hholds⟩ :=
    exists_selector hfield (regex_of_splits hsplits) (means_words _)
  refine ⟨_, selector, hsplits, hselector, ?_, ?_⟩
  · rw [hholds, wordsOfAll_bracket]
    have hword : 2 ≤ "a|".toList.length ∧ "a|".toList.all isAlphanumericOrBar = true := by
      decide +kernel
    exact ⟨hword.1, List.all_eq_true.1 hword.2⟩
  · rw [wordsOfAll_bracket]
    rintro ⟨-, hall⟩
    have hbar : isAlphanumeric '|' = false := by decide +kernel
    have hletter : isAlphanumeric '|' = true := hall '|' (by decide)
    exact absurd hletter (by rw [hbar]; decide)

end RecordQuery.Pattern
