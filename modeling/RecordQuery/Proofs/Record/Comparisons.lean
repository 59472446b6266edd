import RecordQuery.Proofs.Characters
import RecordQuery.Proofs.Selection

/-! Comparisons in records. A value is the number that its text is (`numberOfText?_text`), so that
two values compare the same way from either side, and so do two fields (`selection_compare_fields`).
A list of literals stands for a comparison with each of them, and a range for two comparisons of one
value (`selection_list_and_range`). -/

namespace RecordQuery

/-- Two choices of one thing each can be made in either order. -/
theorem any_any_comm {α β : Type} {as : List α} {bs : List β} {p : α → β → Bool} :
    (as.any fun a => bs.any fun b => p a b) = bs.any fun b => as.any fun a => p a b := by
  rw [Bool.eq_iff_iff]
  simp only [List.any_eq_true]
  constructor
  · rintro ⟨a, ha, b, hb, h⟩
    exact ⟨b, hb, a, ha, h⟩
  · rintro ⟨b, hb, a, ha, h⟩
    exact ⟨a, ha, b, hb, h⟩

namespace Decimal

theorem order_swap (a b : Decimal) : (a.order b).swap = b.order a :=
  Std.OrientedOrd.eq_swap.symm

theorem sameValue_comm (a b : Decimal) : a.sameValue b = b.sameValue a := by
  rw [sameValue, sameValue, ← order_swap b a]
  cases b.order a <;> rfl

section Heads

variable {c : Char} (hdigit : c.isDigit = false) (hsign : c ∉ ['-', '+', '.'])
include hdigit hsign

/-- A number begins with a digit, a sign or a point. -/
theorem readPlain?_eq_none (chars : List Char) : readPlain? (c :: chars) = none := by
  simp only [List.mem_cons, List.not_mem_nil, or_false, not_or] at hsign
  obtain ⟨hminus, hplus, hpoint⟩ := hsign
  have hwhole : (c :: chars).takeWhile (· != '.') = c :: chars.takeWhile (· != '.') := by
    simp [hpoint]
  have hdigits : digitsOf? false (c :: chars.takeWhile (· != '.')) = none := by
    simp [digitsOf?, hdigit]
  have hunsigned : readUnsigned? false (c :: chars) = none := by
    simp only [readUnsigned?, hwhole, hdigits]
  rw [readPlain?, hunsigned]
  · rintro _ ⟨⟩
    exact hminus rfl
  · rintro _ ⟨⟩
    exact hplus rfl

/-- What stands before an exponent begins like a number as well. -/
theorem read?_eq_none (chars : List Char) : read? (c :: chars) = none := by
  have hbase (p : Char → Bool) : readPlain? ((c :: chars).takeWhile p) = none := by
    rw [List.takeWhile_cons]
    split
    · exact readPlain?_eq_none hdigit hsign _
    · rfl
  rw [read?, readPlain?_eq_none hdigit hsign, Option.none_or, readScientific?]
  simp only [hbase]
  split
  · next hread => cases hread
  · next hread => cases hread
  · rfl

end Heads

end Decimal

namespace Record

/-- A text that begins like no number is none. -/
theorem numberOfText?_eq_none {source : String} {c : Char} {chars : List Char}
    (hsource : source.toList = c :: chars) (hblank : Text.isBlank c = false)
    (hdigit : c.isDigit = false) (hsign : c ∉ ['-', '+', '.']) : numberOfText? source = none := by
  obtain ⟨rest, hrest⟩ := Text.trimChars_cons hblank chars
  rw [numberOfText?, Text.trim, hsource, hrest, String.toList_ofList,
    Decimal.read?_eq_none hdigit hsign]

/-- A value is the number that its text is. A truth value, an array and an object are none, and
their texts begin like none. -/
theorem numberOfText?_text (value : Json) : numberOfText? (text value) = number? value := by
  cases value with
  | null => rfl
  | bool b => cases b <;> rfl
  | number n => rfl
  | string s => rfl
  | array items =>
    have htext : (text (.array items)).toList =
        '[' :: (Text.joined "," (Json.compactItems items) ++ "]").toList := by
      simp [text, Json.compact]
    exact numberOfText?_eq_none htext (by decide) (by decide) (by decide)
  | object members =>
    have htext : (text (.object members)).toList =
        '\x7b' :: (Text.joined "," (Json.compactMembers members) ++ "\x7d").toList := by
      simp [text, Json.compact]
    exact numberOfText?_eq_none htext (by decide) (by decide) (by decide)

variable {operator : Comparison}

/-- Only numbers have an order. -/
theorem compares_of_isOrdering (h : operator.isOrdering = true) (value : Json) (text : String) :
    compares operator value text = (number? value).any fun a =>
      (numberOfText? text).any fun b => operator.holds (a.order b) := by
  cases operator with
  | eq | ne => cases h
  | lt | gt | le | ge =>
    unfold compares
    cases number? value <;> cases numberOfText? text <;> rfl

theorem equals_text_comm (value other : Json) :
    equals value (text other) = equals other (text value) := by
  rw [equals, equals, numberOfText?_text, numberOfText?_text]
  cases number? value with
  | none => cases number? other <;> exact BEq.comm
  | some a =>
    cases number? other with
    | none => exact BEq.comm
    | some b => exact a.sameValue_comm b

/-- Two values compare the same way from either side. Equality is symmetric, and an order turns
round with the comparison. -/
theorem compares_flipped (operator : Comparison) (value other : Json) :
    compares operator.flipped other (text value) = compares operator value (text other) := by
  cases hordering : operator.isOrdering with
  | false =>
    cases operator with
    | eq => exact equals_text_comm other value
    | ne => exact congrArg (!·) (equals_text_comm other value)
    | _ => cases hordering
  | true =>
    rw [compares_of_isOrdering hordering,
      compares_of_isOrdering ((Comparison.isOrdering_flipped operator).trans hordering),
      numberOfText?_text, numberOfText?_text]
    cases number? value with
    | none => cases number? other <;> rfl
    | some a =>
      cases number? other with
      | none => rfl
      | some b =>
        show operator.flipped.holds (b.order a) = operator.holds (a.order b)
        rw [← Decimal.order_swap a b, Comparison.holds_flipped]

end Record

/-- The comparison with the lower bound of a range. -/
def Range.lowerComparison (range : Range) : Comparison :=
  if range.lowerOpen then .gt else .ge

/-- The comparison with the upper bound of a range. -/
def Range.upperComparison (range : Range) : Comparison :=
  if range.upperOpen then .lt else .le

namespace ValueTest

open Record (compares number? numberOfText?)

/-- A value is in a range if it compares with both bounds, none of which it does if one of the three
is no number. -/
theorem passes_between (range : Range) (record value : Json) :
    (ValueTest.between (numberOfText? range.left.text) (numberOfText? range.right.text)
      range.lowerOpen range.upperOpen).passes record value =
      (compares range.lowerComparison value range.left.text &&
        compares range.upperComparison value range.right.text) := by
  have hlower : range.lowerComparison.isOrdering = true := by
    unfold Range.lowerComparison
    split <;> rfl
  have hupper : range.upperComparison.isOrdering = true := by
    unfold Range.upperComparison
    split <;> rfl
  rw [passes, Record.compares_of_isOrdering hlower, Record.compares_of_isOrdering hupper]
  cases number? value with
  | none => rfl
  | some n =>
    cases numberOfText? range.left.text with
    | none => rfl
    | some lower =>
      cases numberOfText? range.right.text with
      | none => exact (Bool.and_false _).symm
      | some upper => rfl

end ValueTest

namespace Query

open Record (compares text valuesAt valuesOf)

/-! ### Two fields -/

/-- The records in which some value of a field compares so with some value of another. -/
theorem selection_compare_field (path other : String) (operator : Comparison) :
    (leaf ⟨.named path, .compare operator (.field other)⟩).selection = .ok fun record =>
      (valuesAt path record).any fun a => (valuesAt other record).any fun b =>
        compares operator a (text b) :=
  rfl

/-- Two fields compare the same way from either side. A record is selected if some value of the one
compares so with some value of the other. -/
theorem selection_compare_fields (path other : String) (operator : Comparison) :
    ∃ selects, (leaf ⟨.named path, .compare operator (.field other)⟩).selection = .ok selects ∧
      (leaf ⟨.named other, .compare operator.flipped (.field path)⟩).selection = .ok selects ∧
      ∀ record, selects record = true ↔ ∃ a ∈ valuesAt path record, ∃ b ∈ valuesAt other record,
        compares operator a (text b) = true := by
  refine ⟨_, selection_compare_field path other operator, ?_, fun record => ?_⟩
  · rw [selection_compare_field]
    simp only [Record.compares_flipped]
    exact congrArg Except.ok (funext fun record => any_any_comm)
  · simp only [List.any_eq_true]

/-! ### Lists and ranges -/

section Tests

variable {field : Field} {test : Test} {α : Type} {items : List α} {tests : α → Test}
  {ready : α → ValueTest}

theorem filled_ofTest : (ofTest field test).Filled :=
  filled_disjunction (filled_singleton .leaf).1 (filled_singleton .leaf).2

theorem filled_map_ofTest : ∀ query ∈ items.map fun item => ofTest field (tests item),
    query.Filled :=
  List.forall_mem_map.2 fun _ _ => filled_ofTest

theorem selection_ofTest {ready : ValueTest} (h : test.prepare .standard = .ok ready) :
    (ofTest field test).selection =
      .ok fun record => (valuesOf field record).any (ready.passes record) := by
  have hleaf : (ofTest field test).selection = (leaf ⟨field, test⟩).selection :=
    selectionWithin_disjunction_singleton .leaf
  rw [hleaf, selection_leaf h]

theorem mapM_selection_ofTest (h : ∀ item, (tests item).prepare .standard = .ok (ready item)) :
    (items.map fun item => ofTest field (tests item)).mapM selection =
      .ok (items.map fun item record =>
        (valuesOf field record).any ((ready item).passes record)) := by
  induction items with
  | nil => rfl
  | cons item items ih =>
    rw [List.map_cons, List.mapM_cons, selection_ofTest (h item), ih]
    rfl

/-- A disjunction of tests of one field selects the records in which some value passes one of
them. -/
theorem selection_anyOf_ofTest (hne : items ≠ [])
    (h : ∀ item, (tests item).prepare .standard = .ok (ready item)) :
    (anyOf (items.map fun item => ofTest field (tests item))).selection = .ok fun record =>
      items.any fun item => (valuesOf field record).any ((ready item).passes record) := by
  have hne' : items.map (fun item => ofTest field (tests item)) ≠ [] := by simpa using hne
  have hgroup : (anyOf (items.map fun item => ofTest field (tests item))).selection =
      ((items.map fun item => ofTest field (tests item)).mapM selection).map _ :=
    selectionWithin_disjunction hne' filled_map_ofTest
  rw [hgroup, mapM_selection_ofTest h]
  exact congrArg Except.ok (funext fun record => List.any_map)

/-- A conjunction of tests of one field selects the records in which each is passed by some value,
not always by the same one. -/
theorem selection_allOf_ofTest (hne : items ≠ [])
    (h : ∀ item, (tests item).prepare .standard = .ok (ready item)) :
    (allOf (items.map fun item => ofTest field (tests item))).selection = .ok fun record =>
      items.all fun item => (valuesOf field record).any ((ready item).passes record) := by
  have hne' : items.map (fun item => ofTest field (tests item)) ≠ [] := by simpa using hne
  have hgroup : (allOf (items.map fun item => ofTest field (tests item))).selection =
      ((items.map fun item => ofTest field (tests item)).mapM selection).map _ :=
    (selectionWithin_disjunction_singleton (filled_conjunction hne' filled_map_ofTest)).trans
      (selectionWithin_conjunction hne' filled_map_ofTest)
  rw [hgroup, mapM_selection_ofTest h]
  exact congrArg Except.ok (funext fun record => List.all_map)

end Tests

section Literals

variable {field : Field}

/-- A record has a value that is in a list exactly if it has one that some literal of it equals. -/
theorem selection_oneOf {values : List Literal} (hne : values ≠ []) :
    (anyOf (values.map fun value => ofTest field (.compare .eq (.literal value)))).selection =
      (ofTest field (.oneOf values)).selection := by
  rw [selection_anyOf_ofTest hne fun _ => rfl, selection_ofTest rfl]
  refine congrArg Except.ok (funext fun record => ?_)
  show (values.any fun literal => (valuesOf field record).any fun value =>
    Record.equals value literal.text) = (valuesOf field record).any fun value =>
      (values.map Literal.text).any (Record.equals value)
  simp only [List.any_map]
  exact any_any_comm

/-- A record is selected by a range if one value compares with both bounds. -/
theorem selection_between (range : Range) :
    (ofTest field (.between range)).selection = .ok fun record =>
      (valuesOf field record).any fun value =>
        compares range.lowerComparison value range.left.text &&
          compares range.upperComparison value range.right.text := by
  rw [selection_ofTest rfl]
  refine congrArg Except.ok (funext fun record => ?_)
  exact congrArg _ (funext fun value => ValueTest.passes_between range record value)

/-- A record is selected by both comparisons of a range even if different values compare with the
bounds. -/
theorem selection_bounds (range : Range) :
    (allOf [ofTest field (.compare range.lowerComparison (.literal range.left)),
      ofTest field (.compare range.upperComparison (.literal range.right))]).selection =
        .ok fun record =>
          ((valuesOf field record).any fun value =>
            compares range.lowerComparison value range.left.text) &&
          (valuesOf field record).any fun value =>
            compares range.upperComparison value range.right.text := by
  -- The two comparisons are a list of tests that differ in the comparison and in the literal.
  show (allOf ([(range.lowerComparison, range.left), (range.upperComparison, range.right)].map
    fun item => ofTest field (.compare item.1 (.literal item.2)))).selection = _
  rw [selection_allOf_ofTest (List.cons_ne_nil _ _) fun _ => rfl]
  refine congrArg Except.ok (funext fun record => ?_)
  rw [List.all_cons, List.all_cons, List.all_nil, Bool.and_true]
  rfl

end Literals

/-- A field is in a list exactly if it is equal to one of the literals, and never in an empty list.
A field in a range compares with both bounds as the range says, and it is in the range if it does
with one and the same value, above all where it has no other. -/
theorem selection_list_and_range (field : Field) :
    (∀ values : List Literal, ∃ selects,
      (ofTest field (.oneOf values)).selection = .ok selects ∧
      (values ≠ [] →
        (anyOf (values.map fun value => ofTest field (.compare .eq (.literal value)))).selection =
          .ok selects) ∧
      (values = [] → ∀ record, selects record = false)) ∧
    ∀ range : Range, ∃ inRange inBounds,
      (ofTest field (.between range)).selection = .ok inRange ∧
      (allOf [ofTest field (.compare range.lowerComparison (.literal range.left)),
        ofTest field (.compare range.upperComparison (.literal range.right))]).selection =
          .ok inBounds ∧
      (∀ record, inRange record = true → inBounds record = true) ∧
      ∀ record value, valuesOf field record = [value] → inRange record = inBounds record := by
  refine ⟨fun values => ⟨_, selection_ofTest rfl, fun hne => ?_, ?_⟩, fun range =>
    ⟨_, _, selection_between range, selection_bounds range, fun record h => ?_,
      fun record value hvalue => ?_⟩⟩
  · rw [selection_oneOf hne, selection_ofTest rfl]
  · rintro rfl record
    exact List.any_eq_false.2 fun value _ => Bool.false_ne_true
  · obtain ⟨value, hmem, hboth⟩ := List.any_eq_true.1 h
    rw [Bool.and_eq_true] at hboth
    rw [Bool.and_eq_true, List.any_eq_true, List.any_eq_true]
    exact ⟨⟨value, hmem, hboth.1⟩, value, hmem, hboth.2⟩
  · rw [hvalue, List.any_cons, List.any_cons, List.any_cons]
    simp only [List.any_nil, Bool.or_false]

/-- A text with blanks around a number is the one value of its field, an item without the field
aside. -/
theorem selection_list_and_range_of_blanks :
    let field : Field := .named "a.b"
    let record : Json := .object [("a", .array [.object [("b", .string " 2.50 ")], .null])]
    let values : List Literal := [⟨.quoted, "x"⟩, ⟨.decimal, "2.5"⟩]
    let range : Range := ⟨⟨.integer, "1"⟩, ⟨.decimal, "2.5"⟩, true, false⟩
    values ≠ [] ∧ valuesOf field record = [.string " 2.50 "] ∧
    (∃ selects, (ofTest field (.oneOf values)).selection = .ok selects ∧
      (anyOf (values.map fun value => ofTest field (.compare .eq (.literal value)))).selection =
        .ok selects ∧ selects record = true) ∧
    ∃ inRange inBounds, (ofTest field (.between range)).selection = .ok inRange ∧
      (allOf [ofTest field (.compare .gt (.literal range.left)),
        ofTest field (.compare .le (.literal range.right))]).selection = .ok inBounds ∧
      inRange record = true ∧ inBounds record = true := by
  intro field record values range
  have hvalue : valuesOf field record = [.string " 2.50 "] := rfl
  obtain ⟨hlist, hrange⟩ := selection_list_and_range field
  obtain ⟨selects, hone, hany, -⟩ := hlist values
  obtain ⟨inRange, inBounds, hwithin, hboth, -, hsame⟩ := hrange range
  have hselects : selects record = true := by
    rw [selection_ofTest rfl] at hone
    rw [← Except.ok.inj hone]
    decide +kernel
  have hinRange : inRange record = true := by
    rw [selection_between] at hwithin
    rw [← Except.ok.inj hwithin]
    decide +kernel
  have hne : values ≠ [] := by decide
  exact ⟨hne, hvalue, ⟨selects, hone, hany hne, hselects⟩, inRange, inBounds, hwithin, hboth,
    hinRange, (hsame record _ hvalue).symm.trans hinRange⟩

/-- Two values that compare with one bound each are not in the range. -/
example : ∃ inRange inBounds,
    (ofTest (.named "f") (.between ⟨.ofInt 10, .ofInt 20, false, false⟩)).selection = .ok inRange ∧
    (allOf [ofTest (.named "f") (.compare .ge (.literal (.ofInt 10))),
      ofTest (.named "f") (.compare .le (.literal (.ofInt 20)))]).selection = .ok inBounds ∧
    inRange (.object [("f", .array [.ofInt 0, .ofInt 30])]) = false ∧
    inBounds (.object [("f", .array [.ofInt 0, .ofInt 30])]) = true :=
  ⟨_, _, selection_between _, selection_bounds ⟨.ofInt 10, .ofInt 20, false, false⟩,
    by decide +kernel, by decide +kernel⟩

end Query

end RecordQuery
