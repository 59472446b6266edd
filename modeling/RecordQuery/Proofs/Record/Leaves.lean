import RecordQuery.Proofs.Record.Paths
import RecordQuery.Proofs.Selection

/-! What the star stands for. The leaves of a record are the values anywhere within it that hold no
others (`mem_leaves`), and whatever a path reaches lies within the record, so that a test of the
star sees every such value that a test of a path sees (`selection_star`). -/

namespace RecordQuery.Record

/-- A value that holds no others. -/
def IsLeaf : Json → Prop
  | .array _ | .object _ => False
  | .null | .bool _ | .number _ | .string _ => True

/-- A value lies within itself, and what lies within an item or a member lies within the array or
the object. -/
inductive Within : Json → Json → Prop
  | self (value : Json) : Within value value
  | item {items : List Json} {item found : Json} :
      item ∈ items → Within item found → Within (.array items) found
  | member {members : List (String × Json)} {name : String} {value found : Json} :
      (name, value) ∈ members → Within value found → Within (.object members) found

variable {value part member found leaf : Json} {name : String} {names : List String}

/-! ### Leaves -/

mutual

theorem within_of_mem_leaves : ∀ {value leaf : Json}, leaf ∈ leaves value →
    Within value leaf ∧ IsLeaf leaf
  | .array _, leaf, h => by
    obtain ⟨item, hitem, hwithin, hleaf⟩ := exists_of_mem_leavesOfItems h
    exact ⟨.item hitem hwithin, hleaf⟩
  | .object _, leaf, h => by
    obtain ⟨⟨name, value⟩, hmember, hwithin, hleaf⟩ := exists_of_mem_leavesOfMembers h
    exact ⟨.member hmember hwithin, hleaf⟩
  | .null, leaf, h | .bool _, leaf, h | .number _, leaf, h | .string _, leaf, h => by
    rw [List.mem_singleton.1 h]
    exact ⟨.self _, trivial⟩

theorem exists_of_mem_leavesOfItems : ∀ {items : List Json} {leaf : Json},
    leaf ∈ leavesOfItems items → ∃ item ∈ items, Within item leaf ∧ IsLeaf leaf
  | item :: items, leaf, h => by
    rcases List.mem_append.1 h with h | h
    · exact ⟨item, List.mem_cons_self, within_of_mem_leaves h⟩
    · obtain ⟨other, hother, hleaf⟩ := exists_of_mem_leavesOfItems h
      exact ⟨other, List.mem_cons_of_mem _ hother, hleaf⟩

theorem exists_of_mem_leavesOfMembers : ∀ {members : List (String × Json)} {leaf : Json},
    leaf ∈ leavesOfMembers members → ∃ member ∈ members, Within member.2 leaf ∧ IsLeaf leaf
  | (name, value) :: members, leaf, h => by
    rcases List.mem_append.1 h with h | h
    · exact ⟨(name, value), List.mem_cons_self, within_of_mem_leaves h⟩
    · obtain ⟨other, hother, hleaf⟩ := exists_of_mem_leavesOfMembers h
      exact ⟨other, List.mem_cons_of_mem _ hother, hleaf⟩

end

theorem leaves_eq_singleton (h : IsLeaf value) : leaves value = [value] := by
  cases value with
  | array items => cases h
  | object members => cases h
  | _ => rfl

theorem mem_leavesOfItems {items : List Json} (hitem : value ∈ items) (h : leaf ∈ leaves value) :
    leaf ∈ leavesOfItems items := by
  induction hitem with
  | head => exact List.mem_append_left _ h
  | tail item _ ih => exact List.mem_append_right _ ih

theorem mem_leavesOfMembers {members : List (String × Json)} (hmember : (name, value) ∈ members)
    (h : leaf ∈ leaves value) : leaf ∈ leavesOfMembers members := by
  induction members with
  | nil => cases hmember
  | cons member members ih =>
    rcases List.mem_cons.1 hmember with rfl | hmember
    · exact List.mem_append_left _ h
    · exact List.mem_append_right _ (ih hmember)

theorem mem_leaves_of_within (h : Within value leaf) (hleaf : IsLeaf leaf) :
    leaf ∈ leaves value := by
  induction h with
  | self value => rw [leaves_eq_singleton hleaf, List.mem_singleton]
  | item hitem _ ih => exact mem_leavesOfItems hitem (ih hleaf)
  | member hmember _ ih => exact mem_leavesOfMembers hmember (ih hleaf)

/-- The leaves of a value are the values within it that hold no others. -/
theorem mem_leaves : leaf ∈ leaves value ↔ Within value leaf ∧ IsLeaf leaf :=
  ⟨within_of_mem_leaves, fun h => mem_leaves_of_within h.1 h.2⟩

/-! ### Walks -/

theorem within_of_part (hpart : Part value part) (h : Within part found) : Within value found := by
  cases value with
  | array items => exact .item hpart h
  | _ => exact hpart ▸ h

theorem within_of_member (hmember : value.member? name = some member) (h : Within member found) :
    Within value found := by
  cases value with
  | object members =>
    obtain ⟨before, after, rfl, -⟩ := List.lookup_eq_some_iff.1 hmember
    exact .member (List.mem_append_right _ List.mem_cons_self) h
  | _ => cases hmember

/-- What is within a value that a walk finds is within the value that the walk starts from. -/
theorem within_of_walk (hwalk : Walk value names found) (h : Within found leaf) :
    Within value leaf := by
  induction hwalk with
  | stop value => exact h
  | step hpart hmember _ ih => exact within_of_part hpart (within_of_member hmember (ih h))

/-- A test of the star selects a record if it holds of a value anywhere within it that holds no
others. Whatever path leads to such a value, the star sees what a test of that path sees there. -/
theorem selection_star {test : Test} {ready : ValueTest}
    (hready : test.prepare .standard = .ok ready) :
    ∃ selects, (Query.leaf ⟨.all, test⟩).selection = .ok selects ∧
      (∀ record, selects record = true ↔
        ∃ value, Within record value ∧ IsLeaf value ∧ ready.passes record value = true) ∧
      ∀ record path found value, Walk record (segments path) found → Part found value →
        IsLeaf value → ready.passes record value = true → selects record = true := by
  have hselects : ∀ record, (valuesOf .all record).any (ready.passes record) = true ↔
      ∃ value, Within record value ∧ IsLeaf value ∧ ready.passes record value = true := by
    intro record
    simp only [valuesOf, List.any_eq_true, mem_leaves, and_assoc]
  refine ⟨_, Query.selection_leaf hready, hselects,
    fun record path found value hwalk hpart hleaf hpasses => ?_⟩
  have hwithin : Within record value := within_of_walk hwalk (within_of_part hpart (.self value))
  exact (hselects record).2 ⟨value, hwithin, hleaf, hpasses⟩

/-- A number in an array, which is less than another field of the record; the path reaches it past
an item without the field. -/
theorem selection_star_of_item :
    let test : Test := .compare .lt (.field "most")
    let ready : ValueTest := .compare .lt (.field "most")
    let found : Json := .array [.null, .ofInt 5]
    let record : Json :=
      .object [("a", .array [.null, .object [("b", found)]]), ("most", .string "5.5")]
    test.prepare .standard = .ok ready ∧ Walk record (segments "a.b") found ∧
      Part found (.ofInt 5) ∧ ready.passes record (.ofInt 5) = true ∧
      ∃ selects, (Query.leaf ⟨.all, test⟩).selection = .ok selects ∧ selects record = true := by
  intro test ready found record
  have hready : test.prepare .standard = .ok ready := rfl
  have hsegments : segments "a.b" = ["a", "b"] := by decide
  have hwalk : Walk record (segments "a.b") found := by
    rw [hsegments]
    exact .step rfl rfl (.step (List.mem_cons_of_mem _ List.mem_cons_self) rfl (.stop _))
  have hpart : Part found (.ofInt 5) := List.mem_cons_of_mem _ List.mem_cons_self
  have hpasses : ready.passes record (.ofInt 5) = true := by decide +kernel
  obtain ⟨selects, hselection, -, hpath⟩ := selection_star hready
  exact ⟨hready, hwalk, hpart, hpasses, selects, hselection,
    hpath record "a.b" found _ hwalk hpart trivial hpasses⟩

end RecordQuery.Record
