import Mathlib.Data.Finset.Card
import Mathlib.Data.List.Forall2
import RecordQuery.Lowering

/-! Dictionaries as ordered maps. Whatever was added, and however often, the names stand in the
order in which they first came, each once, and each has the type that was added with it last
(`pairwise_names_ofList`, `get?_ofList`). A check of every field goes through the names in this
order (`forall₂_calls`). -/

namespace RecordQuery

namespace FieldTypes

variable {field type : String} {types : FieldTypes} {pairs : List (String × String)}

/-- The names of the fields, in order. -/
def names (types : FieldTypes) : List String :=
  types.entries.map Prod.fst

theorem nodup_names (types : FieldTypes) : types.names.Nodup := types.nodup

theorem length_names (types : FieldTypes) : types.names.length = types.size :=
  List.length_map _

theorem isEmpty_eq_true : types.isEmpty = true ↔ types.entries = [] :=
  List.isEmpty_iff

theorem get?_eq_none : types.get? field = none ↔ field ∉ types.names := by
  simp only [get?, names, List.lookup_eq_none_iff, List.mem_map, bne_iff_ne]
  exact ⟨fun h ⟨entry, hentry, heq⟩ => h entry hentry heq.symm,
    fun h entry hentry heq => h ⟨entry, hentry, heq.symm⟩⟩

theorem get?_eq_some : types.get? field = some type ↔ (field, type) ∈ types.entries := by
  constructor
  · intro h
    obtain ⟨before, after, hentries, -⟩ := List.lookup_eq_some_iff.1 h
    simp [hentries]
  · intro h
    obtain ⟨before, after, hentries⟩ := List.append_of_mem h
    refine List.lookup_eq_some_iff.2 ⟨before, after, hentries, fun entry hentry => ?_⟩
    have hnodup := types.nodup_names
    rw [names, hentries, List.map_append, List.map_cons, List.nodup_append] at hnodup
    have hne := hnodup.2.2 entry.1 (List.mem_map_of_mem hentry) field (by simp)
    simpa using hne.symm

/-! ### What adding a field changes -/

theorem names_insert : (types.insert field type).names =
    if field ∈ types.names then types.names else types.names ++ [field] :=
  map_fst_putType field type types.entries

theorem lookup_cons_eq_ite (name : String) (entry : String × String)
    (entries : List (String × String)) :
    (entry :: entries).lookup name =
      if name = entry.1 then some entry.2 else entries.lookup name := by
  by_cases h : name = entry.1
  · rw [List.lookup_cons, beq_iff_eq.2 h, if_pos h]
  · rw [List.lookup_cons, beq_eq_false_iff_ne.2 h, if_neg h]

theorem lookup_putType (name : String) (entries : List (String × String)) :
    (putType field type entries).lookup name =
      if name = field then some type else entries.lookup name := by
  induction entries with
  | nil => exact lookup_cons_eq_ite name (field, type) []
  | cons entry entries ih =>
    rw [putType]
    split
    · next hentry =>
      rw [lookup_cons_eq_ite, lookup_cons_eq_ite, hentry]
      by_cases hname : name = field
      · rw [if_pos hname, if_pos hname]
      · rw [if_neg hname, if_neg hname, if_neg hname]
    · next hentry =>
      rw [lookup_cons_eq_ite, lookup_cons_eq_ite, ih]
      by_cases hname : name = field
      · rw [if_neg fun h => hentry (h.symm.trans hname), if_pos hname, if_pos hname]
      · rw [if_neg hname, if_neg hname]

theorem get?_insert (name : String) :
    (types.insert field type).get? name = if name = field then some type else types.get? name :=
  lookup_putType name types.entries

/-! ### Dictionaries of fields added one after another -/

theorem ofList_concat (pairs : List (String × String)) (pair : String × String) :
    ofList (pairs ++ [pair]) = (ofList pairs).insert pair.1 pair.2 := by
  rw [ofList, List.foldl_append]
  rfl

theorem mem_names_ofList : field ∈ (ofList pairs).names ↔ field ∈ pairs.map Prod.fst := by
  induction pairs using List.reverseRecOn with
  | nil => rfl
  | append_singleton pairs pair ih =>
    rw [ofList_concat, names_insert, List.map_append, List.mem_append, ← ih]
    split
    · next h =>
      refine ⟨Or.inl, fun hmem => hmem.elim id fun heq => ?_⟩
      rw [List.mem_singleton.1 heq]
      exact h
    · rw [List.mem_append]
      rfl

/-- The names stand in the order in which they first came. -/
theorem pairwise_names_ofList (pairs : List (String × String)) :
    (ofList pairs).names.Pairwise fun first second =>
      (pairs.map Prod.fst).idxOf first < (pairs.map Prod.fst).idxOf second := by
  induction pairs using List.reverseRecOn with
  | nil => exact List.Pairwise.nil
  | append_singleton pairs pair ih =>
    rw [ofList_concat, names_insert, List.map_append, List.map_singleton]
    have hplace : ∀ name ∈ (ofList pairs).names,
        (pairs.map Prod.fst ++ [pair.1]).idxOf name = (pairs.map Prod.fst).idxOf name :=
      fun name hname => List.idxOf_append_of_mem (mem_names_ofList.1 hname)
    have hkept := ih.imp_of_mem fun {first second} hfirst hsecond hlt => by
      rwa [← hplace first hfirst, ← hplace second hsecond] at hlt
    split
    · exact hkept
    · next hnew =>
      -- A new name comes behind all that came before.
      rw [mem_names_ofList] at hnew
      refine List.pairwise_append.2
        ⟨hkept, List.pairwise_singleton _ _, fun name hname last hlast => ?_⟩
      have hlt := List.idxOf_lt_length_iff.2 (mem_names_ofList.1 hname)
      rw [List.mem_singleton.1 hlast, hplace name hname, List.idxOf_append_of_notMem hnew]
      omega

theorem get?_ofList (pairs : List (String × String)) (field : String) :
    (ofList pairs).get? field = pairs.reverse.lookup field := by
  induction pairs using List.reverseRecOn with
  | nil => rfl
  | append_singleton pairs pair ih =>
    rw [ofList_concat, get?_insert, ih, List.reverse_append, List.reverse_singleton,
      List.singleton_append, lookup_cons_eq_ite]

theorem size_ofList (pairs : List (String × String)) :
    (ofList pairs).size = (pairs.map Prod.fst).toFinset.card := by
  have hsame : (ofList pairs).names.toFinset = (pairs.map Prod.fst).toFinset := by
    ext field
    rw [List.mem_toFinset, List.mem_toFinset, mem_names_ofList]
  rw [← hsame, List.toFinset_card_of_nodup (ofList pairs).nodup_names, length_names]

theorem insertMembers_eq_ok (types : FieldTypes) (pairs : List (String × String)) :
    types.insertMembers (pairs.map fun pair => (pair.1, .string pair.2)) =
      .ok (pairs.foldl (fun types pair => types.insert pair.1 pair.2) types) := by
  induction pairs generalizing types with
  | nil => rfl
  | cons pair pairs ih =>
    rw [List.map_cons, insertMembers, ih]
    rfl

/-- The dictionary of an object is that of its members. -/
theorem ofJson_members (pairs : List (String × String)) :
    ofJson (.object (pairs.map fun pair => (pair.1, .string pair.2))) = .ok (ofList pairs) :=
  insertMembers_eq_ok empty pairs

/-- A dictionary that these pairs of a field and its type were added to in this order: those of a
list or of an object, and then one after another. -/
inductive Built : List (String × String) → FieldTypes → Prop
  | ofList (pairs : List (String × String)) : Built pairs (ofList pairs)
  | ofJson {pairs : List (String × String)} {types : FieldTypes} :
      ofJson (.object (pairs.map fun pair => (pair.1, .string pair.2))) = .ok types →
      Built pairs types
  | insert {pairs : List (String × String)} {types : FieldTypes} (field type : String) :
      Built pairs types → Built (pairs ++ [(field, type)]) (types.insert field type)

theorem Built.eq_ofList (h : Built pairs types) : types = FieldTypes.ofList pairs := by
  induction h with
  | ofList pairs => rfl
  | ofJson hjson =>
    rw [ofJson_members] at hjson
    exact (Except.ok.inj hjson).symm
  | insert field type _ ih => rw [ofList_concat, ih]

/-! ### Checks of every field -/

/-- The call that checks a field: a check of validity is told the type of the field. -/
def IsCall (types : FieldTypes) (check : Check) (field : String) (call : Formula) : Prop :=
  ∃ type, types.get? field = some type ∧
    call = .call check.function
      (.path field :: if check = .valid ∨ check = .invalid then [.string type] else [])

theorem isCall_checkCall {check : Check} (h : (field, type) ∈ types.entries) :
    types.IsCall check field (Lowering.checkCall check field type) := by
  refine ⟨type, get?_eq_some.2 h, ?_⟩
  cases check <;> rfl

theorem forall₂_calls (types : FieldTypes) (check : Check) :
    List.Forall₂ (types.IsCall check) types.names
      (types.entries.map fun entry => Lowering.checkCall check entry.1 entry.2) := by
  rw [names, List.forall₂_map_left_iff, List.forall₂_map_right_iff, List.forall₂_same]
  exact fun entry hentry => isCall_checkCall hentry

theorem lower_checkAll {policy : Policy} (hexpand : policy.wildcard = .expand)
    (hne : types.entries ≠ []) (check : Check) :
    (Query.leaf ⟨.all, .is check⟩).lower policy (some types) =
      .ok (Lowering.expand types check) := by
  have hsome : types.isEmpty = false := Bool.eq_false_iff.2 fun h => hne (isEmpty_eq_true.1 h)
  simp only [Query.lower, Lowering.predicate, Lowering.checkAll, hexpand, hsome]
  rfl

/-- Fields added in any order, with repetitions, make up an ordered map, the same one whichever way
they are added: each name stands once, in the order of first additions, with the type of its last
addition. A check of every field is expanded along it, to one call for each name, with the type that
the name has now: all of them must hold for validity, any of them for the other checks. -/
theorem ordered_of_built {pairs : List (String × String)} {types : FieldTypes}
    (h : Built pairs types) :
    ofJson (.object (pairs.map fun pair => (pair.1, .string pair.2))) = .ok types ∧
    types.names.Nodup ∧
    (∀ field, field ∈ types.names ↔ field ∈ pairs.map Prod.fst) ∧
    (types.names.Pairwise fun first second =>
      (pairs.map Prod.fst).idxOf first < (pairs.map Prod.fst).idxOf second) ∧
    (∀ field, types.get? field = pairs.reverse.lookup field) ∧
    types.size = (pairs.map Prod.fst).toFinset.card ∧
    ∀ (policy : Policy) (check : Check), policy.wildcard = .expand → 1 ≤ types.size →
      ∃ calls, (Query.leaf ⟨.all, .is check⟩).lower policy (some types) =
          .ok (if check = .valid then .all calls else .any calls) ∧
        calls.length = types.size ∧ List.Forall₂ (types.IsCall check) types.names calls := by
  obtain rfl := h.eq_ofList
  refine ⟨ofJson_members pairs, nodup_names _, fun field => mem_names_ofList,
    pairwise_names_ofList pairs, get?_ofList pairs, size_ofList pairs,
    fun policy check hexpand hsize => ?_⟩
  have hne : (ofList pairs).entries ≠ [] := List.length_pos_iff.1 hsize
  refine ⟨_, (lower_checkAll hexpand hne check).trans ?_, ?_, forall₂_calls _ check⟩
  · cases check <;> rfl
  · rw [List.length_map]
    rfl

/-- Two fields of an object, and the first of them once more. -/
theorem ordered_of_built_of_repeated_field :
    ∃ types, Built [("a", "S"), ("b", "N"), ("a", "T")] types ∧ types.names = ["a", "b"] ∧
      types.get? "a" = some "T" ∧ types.get? "c" = none ∧ types.size = 2 ∧
      (Query.leaf ⟨.all, .is .invalid⟩).lower .runtime (some types) =
        .ok (.any [.call "isInvalid" [.path "a", .string "T"],
          .call "isInvalid" [.path "b", .string "N"]]) ∧
      ∃ calls, (Query.leaf ⟨.all, .is .valid⟩).lower .runtime (some types) = .ok (.all calls) ∧
        List.Forall₂ (types.IsCall .valid) ["a", "b"] calls := by
  have hjson : ofJson (.object [("a", .string "S"), ("b", .string "N")]) =
      .ok (ofList [("a", "S"), ("b", "N")]) := ofJson_members [("a", "S"), ("b", "N")]
  have hbuilt : Built [("a", "S"), ("b", "N"), ("a", "T")]
      ((ofList [("a", "S"), ("b", "N")]).insert "a" "T") :=
    .insert "a" "T" (@Built.ofJson [("a", "S"), ("b", "N")] _ hjson)
  obtain ⟨-, -, -, -, hget, hsize, hexpand⟩ := ordered_of_built hbuilt
  have hcount : ([("a", "S"), ("b", "N"), ("a", "T")].map Prod.fst).toFinset.card = 2 := by decide
  rw [hcount] at hsize
  obtain ⟨calls, hlower, -, hcalls⟩ := hexpand .runtime .valid rfl (by omega)
  exact ⟨_, hbuilt, rfl, hget "a", hget "c", hsize, rfl, calls, hlower, hcalls⟩

end FieldTypes

end RecordQuery
