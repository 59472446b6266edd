import RecordQuery.Proofs.Record.Paths
import RecordQuery.Proofs.Regex.Reading

/-! What patterns mean as regular expressions. The text of a class of characters is one part that
matches the characters of its spans, of a category or of a script; parts are put together to texts
that mean products of languages; and a pattern whose regular expression means a language selects the
records whose text is one of its words. -/

namespace RecordQuery.Pattern

open Regex (IsCode IsElement Limits Means Property Unit singles)
open Text (Span)

/-! ### The classes -/

/-- Small Latin letters, of full width too. -/
def lowerLatinSpans : List Span := [⟨0x61, 0x7A⟩, ⟨0xDF, 0xF6⟩, ⟨0xF8, 0xFF⟩, ⟨0xFF41, 0xFF5A⟩]

/-- Capital Latin letters, of full width too. -/
def upperLatinSpans : List Span := [⟨0x41, 0x5A⟩, ⟨0xC0, 0xD6⟩, ⟨0xD8, 0xDE⟩, ⟨0xFF21, 0xFF3A⟩]

/-- Digits, of full width too. -/
def digitSpans : List Span := [⟨0x30, 0x39⟩, ⟨0xFF10, 0xFF19⟩]

/-- Hiragana. -/
def hiraganaSpans : List Span :=
  [⟨0x3041, 0x3096⟩, ⟨0x309D, 0x309D⟩, ⟨0x309E, 0x309E⟩, ⟨0x30FC, 0x30FC⟩]

/-- Katakana of half width. -/
def halfKatakanaSpans : List Span := [⟨0xFF66, 0xFF9D⟩]

/-- Katakana of full width. -/
def fullKatakanaSpans : List Span :=
  [⟨0x30A1, 0x30FA⟩, ⟨0x30FD, 0x30FD⟩, ⟨0x30FE, 0x30FE⟩, ⟨0x31F0, 0x31FF⟩, ⟨0x30FC, 0x30FC⟩]

/-- Hangul syllables. -/
def hangulSpans : List Span := [⟨0xAC00, 0xD7AF⟩]

/-- Whether a character belongs to the script of ideograms. -/
def isIdeogram (c : Char) : Bool :=
  (Property.script? "han").any fun script => Span.anyHolds script.spans c.toNat

/-- Whether a character has this general category. -/
def hasCategory (category : Text.Category) (c : Char) : Bool :=
  Regex.category c = category

/-! ### Spans -/

instance (digits : List Char) (code : Nat) : Decidable (IsCode digits code) :=
  decidable_of_iff (Regex.hexNumber? digits = some code ∧ '\x7d' ∉ digits ∧
      (code < 0xD800 ∨ 0xDFFF < code ∧ code < 0x110000))
    ⟨fun h => ⟨h.1, h.2.1, h.2.2⟩, fun h => ⟨h.number, h.closed, h.valid⟩⟩

/-- The text of a code or of the range between two codes, with the codes it means. -/
inductive WritesSpan : String → Span → Prop
  | range {first last : String} {a b : Nat} : IsCode first.toList a ∧ IsCode last.toList b ∧ a ≤ b →
      WritesSpan (codeRange first last) ⟨a, b⟩
  | code {digits : String} {a : Nat} : IsCode digits.toList a → WritesSpan (codeText digits) ⟨a, a⟩

theorem WritesSpan.unit {text : String} {span : Span} (h : WritesSpan text span) {height : Nat} :
    Unit height text.toList (singles (span.holds ·.toNat)) := by
  cases h with
  | @range first last a b h =>
    obtain ⟨hfirst, hlast, hle⟩ := h
    have hunit : Unit height _ (singles (Span.holds ⟨a, b⟩ ·.toNat)) :=
      .element (Regex.isElement_range hfirst hlast hle)
    simpa [codeRange, codeText] using hunit
  | @code digits a hcode =>
    have hunit : Unit height _ (singles (Span.holds ⟨a, a⟩ ·.toNat)) := .code hcode
    simpa [codeText] using hunit

theorem sum_singles (spans : List Span) :
    (spans.map fun span => singles (span.holds ·.toNat)).sum =
      singles (Span.anyHolds spans ·.toNat) := by
  induction spans with
  | nil =>
    ext word
    simp [Language.notMem_zero, Span.anyHolds]
  | cons span spans ih =>
    rw [List.map_cons, List.sum_cons, ih]
    ext word
    simp only [Language.mem_add, Regex.mem_singles, Span.anyHolds, List.any_cons, Bool.or_eq_true,
      or_and_right, exists_or]

/-- A choice between the texts of spans. -/
theorem unit_choice {texts : List String} {spans : List Span}
    (h : List.Forall₂ WritesSpan texts spans) (hne : texts ≠ []) :
    Unit 1 (choice texts).toList (singles (Span.anyHolds spans ·.toNat)) := by
  rw [← sum_singles]
  exact .choice (List.forall₂_map_right_iff.2 (h.imp fun _ _ hspan => hspan.unit.means)) hne

theorem unit_lowerLatin :
    Unit 1 lowerLatin.toList (singles (Span.anyHolds lowerLatinSpans ·.toNat)) :=
  unit_choice (.cons (.range (by decide)) <| .cons (.range (by decide)) <|
    .cons (.range (by decide)) <| .cons (.range (by decide)) .nil) (List.cons_ne_nil _ _)

theorem unit_upperLatin :
    Unit 1 upperLatin.toList (singles (Span.anyHolds upperLatinSpans ·.toNat)) :=
  unit_choice (.cons (.range (by decide)) <| .cons (.range (by decide)) <|
    .cons (.range (by decide)) <| .cons (.range (by decide)) .nil) (List.cons_ne_nil _ _)

theorem unit_digit : Unit 1 digit.toList (singles (Span.anyHolds digitSpans ·.toNat)) :=
  unit_choice (.cons (.range (by decide)) <| .cons (.range (by decide)) .nil)
    (List.cons_ne_nil _ _)

theorem unit_hiragana :
    Unit 1 hiragana.toList (singles (Span.anyHolds hiraganaSpans ·.toNat)) :=
  unit_choice (.cons (.range (by decide)) <| .cons (.code (by decide)) <|
    .cons (.code (by decide)) <| .cons (.code (by decide)) .nil) (List.cons_ne_nil _ _)

theorem unit_halfKatakana :
    Unit 1 halfKatakana.toList (singles (Span.anyHolds halfKatakanaSpans ·.toNat)) :=
  unit_choice (.cons (.range (by decide)) .nil) (List.cons_ne_nil _ _)

theorem unit_fullKatakana :
    Unit 1 fullKatakana.toList (singles (Span.anyHolds fullKatakanaSpans ·.toNat)) :=
  unit_choice (.cons (.range (by decide)) <| .cons (.code (by decide)) <|
    .cons (.code (by decide)) <| .cons (.range (by decide)) <| .cons (.code (by decide)) .nil)
    (List.cons_ne_nil _ _)

/-- Katakana of either width. -/
theorem unit_katakana : Unit 1 katakana.toList
    (singles (Span.anyHolds (halfKatakanaSpans ++ fullKatakanaSpans) ·.toNat)) :=
  unit_choice (.cons (.range (by decide)) <| .cons (.range (by decide)) <|
    .cons (.code (by decide)) <| .cons (.code (by decide)) <| .cons (.range (by decide)) <|
    .cons (.code (by decide)) .nil) (List.cons_ne_nil _ _)

theorem unit_hangul : Unit 1 hangul.toList (singles (Span.anyHolds hangulSpans ·.toNat)) :=
  unit_choice (.cons (.range (by decide)) .nil) (List.cons_ne_nil _ _)

/-! ### Properties -/

section Properties

variable {name : String} {found : Property} {height : Nat}

theorem toList_property (name : String) :
    (property name).toList = '\\' :: 'p' :: '\x7b' :: (name.toList ++ ['\x7d']) := by
  simp [property]

/-- The name in braces of a property. -/
abbrev IsName (name : String) (found : Property) : Prop :=
  Regex.propertyNamed? name.toList = some (found, false) ∧ '\x7d' ∉ name.toList

theorem isElement_property (h : IsName name found) :
    IsElement (property name).toList (.property found) :=
  toList_property name ▸ Regex.isElement_property h.1 h.2

theorem unit_property (h : IsName name found) :
    Unit height (property name).toList (singles found.holds) :=
  toList_property name ▸ Unit.property h.1 h.2

theorem unit_bracketed (h : IsName name found) :
    Unit height ("[" ++ property name ++ "]").toList (singles found.holds) := by
  have hunit : Unit height _ (singles found.holds) :=
    .element (Regex.isElement_property h.1 h.2)
  simpa [property] using hunit

theorem holds_ofCategories (category : Text.Category) :
    (Property.ofCategories [category]).holds = hasCategory category := by
  funext c
  simp [Property.ofCategories, Property.holds, hasCategory, Span.anyHolds]

theorem isName_ll : IsName "Ll" (.ofCategories [.ll]) := by
  decide +kernel

theorem isName_lu : IsName "Lu" (.ofCategories [.lu]) := by
  decide +kernel

theorem isName_nd : IsName "Nd" (.ofCategories [.nd]) := by
  decide +kernel

theorem propertyNamed_han : Regex.propertyNamed? "Han".toList =
    (Property.script? "han").map fun script => (.ofSpans script.spans, false) := by
  decide +kernel

theorem isSome_script_han : (Property.script? "han").isSome = true := by
  decide +kernel

theorem holds_ofSpans (spans : List Span) :
    (Property.ofSpans spans).holds = (Span.anyHolds spans ·.toNat) := by
  funext c
  simp [Property.ofSpans, Property.holds, Span.anyHolds]

theorem unit_ideogram : Unit height ideogram.toList (singles isIdeogram) := by
  obtain ⟨script, hscript⟩ := Option.isSome_iff_exists.1 isSome_script_han
  have hname : IsName "Han" (.ofSpans script.spans) :=
    ⟨by rw [propertyNamed_han, hscript, Option.map_some], by decide⟩
  have hholds : isIdeogram = (Property.ofSpans script.spans).holds := by
    rw [holds_ofSpans]
    funext c
    rw [isIdeogram, hscript, Option.any_some]
  rw [hholds]
  exact unit_bracketed hname

end Properties

/-! ### Records -/

/-- Texts one behind another mean the product of what they mean. -/
theorem means_join {height : Nat} {texts : List String} {languages : List (Language Char)}
    (h : List.Forall₂ (fun text language => Means height text.toList language) texts languages) :
    Means height (String.join texts).toList languages.prod := by
  induction h with
  | nil => exact .nil
  | cons hfirst _ ih =>
    rw [String.join_cons, String.toList_append, List.prod_cons]
    exact hfirst.append ih

theorem splitPoints_of_notMem {chars : List Char} (h : '.' ∉ chars) :
    Record.splitPoints chars = [chars] := by
  induction chars with
  | nil => rfl
  | cons c chars ih =>
    rw [List.mem_cons, not_or] at h
    rw [Record.splitPoints, if_neg (Ne.symm h.1), ih h.2]

/-- A path of one segment stands for the member of its name. -/
theorem valuesAt_string {field : String} (h : '.' ∉ field.toList) (source : String) :
    Record.valuesAt field (.object [(field, .string source)]) = [.string source] := by
  have hsegments : Record.segments field = [field] := by
    rw [Record.segments, splitPoints_of_notMem h, List.map_singleton, String.ofList_toList]
  have hnest := Record.valuesAt_nest_string field source
  rwa [hsegments] at hnest

/-- The query that asks of a field to comply with a pattern. -/
def asks (kind : PatternKind) (field pattern : String) : Query :=
  .leaf ⟨.named field, .complies kind pattern⟩

/-- A pattern whose regular expression means a language selects the records whose text is one of its
words, unless its regular expression is refused for its size. -/
theorem exists_selector {kind : PatternKind} {field pattern text : String}
    {language : Language Char} (hfield : '.' ∉ field.toList)
    (hregex : regex kind pattern = .ok ("^" ++ text ++ "$"))
    (h : Means 1 text.toList language) :
    ∃ selector, (asks kind field pattern).selectorWithin .unlimited = .ok selector ∧
      ((asks kind field pattern).selector = .ok selector ∨
        (asks kind field pattern).selector = .error .invalidRegex) ∧
      ∀ source : String, selector.holds (.object [(field, .string source)]) = true ↔
        source.toList ∈ language := by
  obtain ⟨found, hmatches, hcompile⟩ := Regex.compileWhole_of_means (by decide) h
  have hselector (limits : Limits) (hlimits : 1 < limits.nesting.getD 8) :
      (asks kind field pattern).selectorWithin limits =
        if limits.allow found then .ok (.leaf (.named field) (.matching found.value))
        else .error .invalidRegex := by
    have hcompile := hcompile limits hlimits
    show (do
      let test ← (do ValueTest.ofRegex limits (← regex kind pattern))
      return Selector.leaf (.named field) test : Except Error Selector) = _
    rw [hregex]
    show (ValueTest.ofRegex limits ("^" ++ text ++ "$")).bind _ = _
    rw [ValueTest.ofRegex, hcompile]
    by_cases hallow : limits.allow found = true
    · rw [if_pos hallow, if_pos hallow]
      rfl
    · rw [if_neg hallow, if_neg hallow]
      rfl
  refine ⟨.leaf (.named field) (.matching found.value), hselector .unlimited (by decide), ?_,
    fun source => ?_⟩
  · rw [Query.selector, hselector .standard (by decide)]
    by_cases hallow : Limits.standard.allow found = true
    · exact .inl (if_pos hallow)
    · exact .inr (if_neg hallow)
  · rw [← hmatches, Selector.holds, Record.valuesOf, valuesAt_string hfield]
    simp [ValueTest.passes, Record.text, Json.isNull]

end RecordQuery.Pattern
