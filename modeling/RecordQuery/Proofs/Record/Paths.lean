import RecordQuery.Record.Selector

/-! The values that a path reaches in a record. They are those at the ends of its walks
(`mem_reached`), and there are none exactly if no walk ends at anything but an empty array
(`reached_eq_nil`). So a test of a named field sees null for a missing field, and for a field of
which there is nothing but empty arrays too (`leaf_holds_iff`). -/

namespace RecordQuery.Record

/-- What a value is replaced by where a path goes on or ends: an array by any of its items, anything
else by nothing but itself. -/
def Part : Json → Json → Prop
  | .array items, part => part ∈ items
  | value, part => part = value

/-- Walks along a path from a value: at each name to a part of the value that is an object, and on
to its member of that name. -/
inductive Walk : Json → List String → Json → Prop
  | stop (value : Json) : Walk value [] value
  | step {value part member found : Json} {name : String} {names : List String} :
      Part value part → part.member? name = some member → Walk member names found →
      Walk value (name :: names) found

variable {record value part found : Json} {values : List Json} {path : String}
  {names : List String}

theorem mem_spread : part ∈ spread value ↔ Part value part := by
  cases value with
  | array items => exact Iff.rfl
  | _ => exact List.mem_singleton

theorem mem_step {name : String} :
    found ∈ step values name ↔
      ∃ value ∈ values, ∃ part, Part value part ∧ part.member? name = some found := by
  simp only [step, List.mem_filterMap, List.mem_flatMap, mem_spread]
  constructor
  · rintro ⟨part, ⟨value, hvalue, hpart⟩, hfound⟩
    exact ⟨value, hvalue, part, hpart, hfound⟩
  · rintro ⟨value, hvalue, part, hpart, hfound⟩
    exact ⟨part, ⟨value, hvalue, hpart⟩, hfound⟩

/-- Stepping from several values at once is walking from each of them. -/
theorem mem_foldl_step :
    found ∈ names.foldl step values ↔ ∃ value ∈ values, Walk value names found := by
  induction names generalizing values with
  | nil =>
    constructor
    · intro h
      exact ⟨found, h, .stop found⟩
    · rintro ⟨value, hvalue, hwalk⟩
      cases hwalk
      exact hvalue
  | cons name names ih =>
    rw [List.foldl_cons, ih]
    constructor
    · rintro ⟨member, hmember, hwalk⟩
      obtain ⟨value, hvalue, part, hpart, hname⟩ := mem_step.1 hmember
      exact ⟨value, hvalue, .step hpart hname hwalk⟩
    · rintro ⟨value, hvalue, hwalk⟩
      cases hwalk with
      | step hpart hname hwalk =>
        exact ⟨_, mem_step.2 ⟨value, hvalue, _, hpart, hname⟩, hwalk⟩

theorem mem_reached : value ∈ reached path record ↔
    ∃ found, Walk record (segments path) found ∧ Part found value := by
  simp only [reached, follow, List.mem_flatMap, mem_foldl_step, mem_spread, List.mem_singleton,
    exists_eq_left]

theorem exists_part (h : value ≠ .array []) : ∃ part, Part value part := by
  cases value with
  | array items =>
    obtain ⟨item, hitem⟩ := List.exists_mem_of_ne_nil items fun hnil => h (hnil ▸ rfl)
    exact ⟨item, hitem⟩
  | _ => exact ⟨_, rfl⟩

theorem reached_eq_nil : reached path record = [] ↔
    ∀ found, Walk record (segments path) found → found = .array [] := by
  rw [List.eq_nil_iff_forall_not_mem]
  constructor
  · intro h found hwalk
    by_cases hempty : found = .array []
    · exact hempty
    · obtain ⟨part, hpart⟩ := exists_part hempty
      exact absurd (mem_reached.2 ⟨found, hwalk, hpart⟩) (h part)
  · intro h value hvalue
    obtain ⟨found, hwalk, hpart⟩ := mem_reached.1 hvalue
    rw [h found hwalk] at hpart
    cases hpart

theorem mem_valuesAt : value ∈ valuesAt path record ↔
    (∃ found, Walk record (segments path) found ∧ Part found value) ∨
      (∀ found, Walk record (segments path) found → found = .array []) ∧ value = .null := by
  rw [← mem_reached, ← reached_eq_nil, valuesAt]
  cases hreached : reached path record with
  | nil => simp
  | cons first rest => simp

/-- A value under some names, each of them the only one in its object. -/
def nest (names : List String) (value : Json) : Json :=
  names.foldr Json.single value

theorem foldl_step_nest : names.foldl step [nest names value] = [value] := by
  induction names with
  | nil => rfl
  | cons name names ih =>
    have hstep : step [nest (name :: names) value] name = [nest names value] := by
      simp [nest, step, spread, Json.single, Json.member?]
    rw [List.foldl_cons, hstep, ih]

/-- A path stands for a text alone where it leads to it and to nothing else. -/
theorem valuesAt_nest_string (path source : String) :
    valuesAt path (nest (segments path) (.string source)) = [.string source] := by
  rw [valuesAt, reached, follow, foldl_step_nest]
  rfl

/-- Every field stands for any text alone in some record. -/
theorem exists_valuesOf_string (field : Field) (source : String) :
    ∃ record, valuesOf field record = [.string source] := by
  cases field with
  | all => exact ⟨.string source, rfl⟩
  | named path => exact ⟨_, valuesAt_nest_string path source⟩

theorem leaf_holds_eq_true {test : ValueTest} :
    (Selector.leaf (.named path) test).holds record = true ↔
      ∃ value ∈ valuesAt path record, test.passes record value = true := by
  rw [Selector.holds, List.any_eq_true]
  rfl

theorem holds_named_iff {test : ValueTest} :
    (Selector.leaf (.named path) test).holds record = true ↔
      (∃ found value, Walk record (segments path) found ∧ Part found value ∧
        test.passes record value = true) ∨
      (∀ found, Walk record (segments path) found → found = .array []) ∧
        test.passes record .null = true := by
  simp only [leaf_holds_eq_true, mem_valuesAt]
  constructor
  · rintro ⟨value, ⟨found, hwalk, hpart⟩ | ⟨hempty, rfl⟩, hpasses⟩
    · exact .inl ⟨found, value, hwalk, hpart, hpasses⟩
    · exact .inr ⟨hempty, hpasses⟩
  · rintro (⟨found, value, hwalk, hpart, hpasses⟩ | ⟨hempty, hpasses⟩)
    · exact ⟨value, .inl ⟨found, hwalk, hpart⟩, hpasses⟩
    · exact ⟨.null, .inr ⟨hempty, rfl⟩, hpasses⟩

/-- A test of a named field holds of a record if it holds of a value that the path reaches, or if
the path reaches nothing and the test holds of null. The path reaches nothing if no walk along it
finds anything, and also if all that walks find are empty arrays. Where they find anything else, or
nothing at all, null is seen for a missing field only. -/
theorem leaf_holds_iff (path : String) (test : ValueTest) (record : Json) :
    ((Selector.leaf (.named path) test).holds record = true ↔
      (∃ found value, Walk record (segments path) found ∧ Part found value ∧
        test.passes record value = true) ∨
      (∀ found, Walk record (segments path) found → found = .array []) ∧
        test.passes record .null = true) ∧
    (((∃ found, Walk record (segments path) found) →
        ∃ found, Walk record (segments path) found ∧ found ≠ .array []) →
      ((Selector.leaf (.named path) test).holds record = true ↔
        (∃ found value, Walk record (segments path) found ∧ Part found value ∧
          test.passes record value = true) ∨
        (¬ ∃ found, Walk record (segments path) found) ∧ test.passes record .null = true)) := by
  refine ⟨holds_named_iff, fun hother => ?_⟩
  -- Only empty arrays are found exactly if nothing is, since something else is found with them.
  have hmissing : (∀ found, Walk record (segments path) found → found = .array []) ↔
      ¬ ∃ found, Walk record (segments path) found := by
    constructor
    · intro hempty hfound
      obtain ⟨found, hwalk, hne⟩ := hother hfound
      exact hne (hempty found hwalk)
    · intro hnone found hwalk
      exact absurd ⟨found, hwalk⟩ hnone
  rw [holds_named_iff, hmissing]

/-- One of two items has the field, so that it is not null, although the other item has not. -/
theorem leaf_holds_iff_of_partly_missing :
    let record : Json :=
      .object [("a", .array [.object [("b", .string "x")], .object [("c", .null)]])]
    Walk record (segments "a.b") (.string "x") ∧
      (Selector.leaf (.named "a.b") .null).holds record = false ∧
      ((Selector.leaf (.named "a.b") .null).holds record = true ↔
        (∃ found value, Walk record (segments "a.b") found ∧ Part found value ∧
          ValueTest.null.passes record value = true) ∨
        (¬ ∃ found, Walk record (segments "a.b") found) ∧
          ValueTest.null.passes record .null = true) := by
  intro record
  have hsegments : segments "a.b" = ["a", "b"] := by decide
  have hwalk : Walk record (segments "a.b") (.string "x") := by
    rw [hsegments]
    exact .step rfl rfl (.step List.mem_cons_self rfl (.stop _))
  exact ⟨hwalk, rfl, (leaf_holds_iff "a.b" .null record).2 fun _ => ⟨_, hwalk, nofun⟩⟩

/-- A field that is there, with an empty array in it, is reported as null. -/
theorem exists_empty_array_reported_null : ∃ path record,
    (∃ found, Walk record (segments path) found) ∧
      (∀ found value, Walk record (segments path) found → Part found value →
        ValueTest.null.passes record value = false) ∧
      (Selector.leaf (.named path) .null).holds record = true := by
  have hsegments : segments "f" = ["f"] := by decide
  refine ⟨"f", .object [("f", .array [])], ⟨.array [], ?_⟩, ?_, rfl⟩
  · rw [hsegments]
    exact .step rfl rfl (.stop _)
  · rw [hsegments]
    rintro found value (_ | ⟨rfl, hmember, hwalk⟩) hpart
    cases hmember
    cases hwalk
    cases hpart

end RecordQuery.Record
