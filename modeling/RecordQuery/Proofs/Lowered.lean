import RecordQuery.Proofs.Formula.Literals
import RecordQuery.Proofs.Patterns
import RecordQuery.Proofs.Raising

/-! The formulas that parsed queries are lowered to: calls and comparisons of fields and literals,
in negations and groups that are not empty. Their literals can be written, and their names are
those of queries, which a formula may have as reserved words. -/

namespace RecordQuery

/-! ### Literals -/

section Literals

variable {sign whole fraction : List Char} {value : Value}

theorem Value.writable_ofIntegerText (hsign : IsSign sign) (hwhole : IsDigits whole)
    (h : Value.ofIntegerText (String.ofList (sign ++ whole)) = .ok value) : value.Writable := by
  obtain ⟨n, hn, habs⟩ := Integer.read?_digits hsign hwhole
  rw [← String.toList_ofList (l := sign ++ whole)] at hn
  rw [Value.ofIntegerText_eq hn, String.toList_ofList] at h
  split at h
  · next h32 =>
    cases h
    exact .int h32
  · next h32 =>
    rw [Formula.fits32_iff] at h32
    split at h
    · next h64 =>
      cases h
      exact .long h64 (by omega)
    · next h64 =>
      rw [Formula.fits64_iff] at h64
      split at h
      · next d hread =>
        cases h
        obtain ⟨negative, hdigits⟩ := Decimal.read?_digits hsign hwhole (List.forall_mem_nil _)
        rw [append_pointed_nil, hread] at hdigits
        obtain ⟨hscale, hmantissa⟩ :=
          (Decimal.ofDigits?_eq_some hdigits.symm (List.forall_mem_nil _)).1 rfl
        refine .decimal (.inr ?_)
        rw [hscale, hmantissa, ← habs, tenTo_zero, Formula.Token.leastLongMagnitude]
        omega
      · cases h

/-- A decimal that is rounded to no fraction digits has no room for one, so it is wider than the
integers that its text would be read as. -/
theorem Decimal.writable_of_read? {d : Decimal} (hsign : IsSign sign) (hwhole : IsDigits whole)
    (hfraction : IsDigits fraction)
    (h : Decimal.read? (sign ++ whole ++ '.' :: fraction) = some d) :
    (Value.decimal d).Writable := by
  obtain ⟨hne, hdigits⟩ := hfraction
  obtain ⟨negative, hread⟩ := Decimal.read?_digits hsign hwhole hdigits
  rw [pointed_of_ne_nil hne, h] at hread
  refine .decimal ?_
  rcases (Decimal.ofDigits?_eq_some hread.symm hdigits).2 hne with hscale | hfull
  · exact .inl hscale
  · by_cases hscale : d.scale = 0
    · rw [mantissaBound] at hfull
      rw [hscale, tenTo_zero, Formula.Token.leastLongMagnitude]
      omega
    · exact .inl (Nat.pos_of_ne_zero hscale)

/-- A literal of a parsed query is lowered to one that can be written. -/
theorem Literal.writable_of_lower {literal : Literal} (hwell : literal.WellFormed)
    (h : literal.lower = .ok value) : value.Writable := by
  cases hwell with
  | integer hsign hwhole => exact Value.writable_ofIntegerText hsign hwhole h
  | @decimal sign whole fraction hsign hwhole hfraction =>
    simp only [Literal.lower, String.toList_ofList] at h
    split at h
    · next d hread =>
      cases h
      exact Decimal.writable_of_read? hsign hwhole hfraction hread
    · cases h
  | boolean b =>
    cases b with
    | true => cases h; exact .boolean true
    | false => cases h; exact .boolean false
  | quoted hsound => cases h; exact .string hsound

end Literals

/-! ### Formulas -/

/-- A field or a literal, as calls and comparisons have them. -/
inductive Formula.Atom : Formula → Prop
  | path {name : String} : Query.IsName name → Atom (.path name)
  | allFields : Atom .allFields
  | literal {value : Value} : value.Writable → Atom (.literal value)

/-- A formula as queries are lowered to. -/
inductive Formula.Lowered : Formula → Prop
  | call {function : String} {arguments : List Formula} :
      IsName function → arguments ≠ [] → (∀ argument ∈ arguments, argument.Atom) →
      Lowered (.call function arguments)
  | compare {operator : Comparison} {left right : Formula} :
      left.Atom → right.Atom → Lowered (.compare operator left right)
  | not {operand : Formula} : Lowered operand → Lowered (.not operand)
  | all {operands : List Formula} :
      operands ≠ [] → (∀ operand ∈ operands, Lowered operand) → Lowered (.all operands)
  | any {operands : List Formula} :
      operands ≠ [] → (∀ operand ∈ operands, Lowered operand) → Lowered (.any operands)

/-- A dictionary of fields that queries can name, the names of their types without backslashes. -/
structure FieldTypes.Plain (types : FieldTypes) : Prop where
  isName : ∀ entry ∈ types.entries, Query.IsName entry.1
  noBackslash : ∀ entry ∈ types.entries, '\\' ∉ entry.2.toList

section Predicates

open Formula (Atom Lowered)

variable {policy : Policy} {types : Option FieldTypes} {path : String} {formula : Formula}

theorem Formula.Atom.string {text : String} (h : Text.sound '\'' text.toList = true) :
    Atom (.string text) :=
  .literal (.string h)

theorem Formula.Atom.boolean (b : Bool) : Atom (.boolean b) :=
  .literal (.boolean b)

/-- The functions that predicates are lowered to. -/
def Lowering.functions : List String :=
  ["isNull", "isEmpty", "isValid", "isInvalid", "hasEmpty", "hasInvalid", "matches", "contains",
    "between", "in"]

theorem Formula.isName_of_mem_functions {name : String} (h : name ∈ Lowering.functions) :
    IsName name := by
  have hall : ∀ name ∈ Lowering.functions,
      (name.toList.head?.any Token.startsName && name.toList.all Token.continuesName &&
        !reservedWords.contains name) = true := by
    decide +kernel
  have hname := hall name h
  rw [Bool.and_eq_true, Bool.and_eq_true, List.all_eq_true] at hname
  exact ⟨hname.1.1, hname.1.2, by simpa using hname.2⟩

theorem Formula.Lowered.of_call {function : String} {arguments : List Formula}
    (hpath : Query.IsName path) (h : ∀ argument ∈ arguments, argument.Atom)
    (hname : function ∈ Lowering.functions) :
    Lowered (.call function (.path path :: arguments)) :=
  .call (isName_of_mem_functions hname) (by simp) (List.forall_mem_cons.2 ⟨.path hpath, h⟩)

theorem Lowering.lowered_guarded {guards : List Formula}
    (hguards : ∀ guard ∈ guards, guard.Lowered) (h : formula.Lowered) :
    (guarded guards formula).Lowered := by
  unfold guarded
  split
  · exact h
  · refine .all (by simp) ?_
    rw [List.forall_mem_append, List.forall_mem_singleton]
    exact ⟨hguards, h⟩

theorem Lowering.lowered_numericGuard (hpath : Query.IsName path) :
    (numericGuard path).Lowered := by
  have hregex : Atom (.string numericRegex) := .string (by decide +kernel)
  exact .of_call hpath (List.forall_mem_singleton.2 hregex) (by decide)

/-- A guard of a comparison is one of its left field or of its right one. -/
theorem Lowering.exists_numericGuard {operand : Operand} {guard : Formula}
    (h : guard ∈ guards path operand) :
    ∃ name, (name = path ∨ operand = .field name) ∧ guard = numericGuard name := by
  cases operand with
  | literal value =>
    by_cases hnumeric : value.kind.isNumeric = true
    · rw [guards, if_pos hnumeric] at h
      exact ⟨path, .inl rfl, List.mem_singleton.1 h⟩
    · rw [guards, if_neg hnumeric] at h
      cases h
  | field other =>
    rw [guards, List.mem_cons, List.mem_singleton] at h
    rcases h with rfl | rfl
    · exact ⟨path, .inl rfl, rfl⟩
    · exact ⟨other, .inr rfl, rfl⟩

theorem Lowering.lowered_guards {operand : Operand} (hpath : Query.IsName path)
    (hoperand : operand.WellFormed) : ∀ guard ∈ guards path operand, guard.Lowered := by
  intro guard hguard
  obtain ⟨name, rfl | rfl, rfl⟩ := exists_numericGuard hguard
  · exact lowered_numericGuard hpath
  · exact lowered_numericGuard hoperand

theorem Lowering.atom_operand {operand : Operand} (hwell : operand.WellFormed)
    (h : Lowering.operand operand = .ok formula) : formula.Atom := by
  cases operand with
  | literal value =>
    obtain ⟨lowered, hlower, rfl⟩ := except_map_eq_ok.1 h
    exact .literal (Literal.writable_of_lower hwell hlower)
  | field other =>
    cases h
    exact .path hwell

theorem Lowering.atom_literals {values : List Literal} {arguments : List Formula}
    (hwell : ∀ value ∈ values, value.WellFormed) (h : literals values = .ok arguments) :
    ∀ argument ∈ arguments, argument.Atom := by
  induction values generalizing arguments with
  | nil =>
    cases h
    exact List.forall_mem_nil _
  | cons value values ih =>
    obtain ⟨first, hfirst, hafter⟩ := except_bind_eq_ok.1 h
    obtain ⟨rest, hrest, hend⟩ := except_bind_eq_ok.1 hafter
    cases hend
    rw [List.forall_mem_cons] at hwell ⊢
    exact ⟨.literal (Literal.writable_of_lower hwell.1 hfirst), ih hwell.2 hrest⟩

theorem Lowering.atom_openFlags (range : Range) : ∀ flag ∈ openFlags range, flag.Atom := by
  unfold openFlags
  split
  · rw [List.forall_mem_cons, List.forall_mem_singleton]
    exact ⟨.boolean _, .boolean _⟩
  · exact List.forall_mem_nil _

theorem Lowering.atom_caseFlag (flag : CaseFlag) (caseSensitive : Bool) :
    ∀ argument ∈ caseFlag flag caseSensitive, argument.Atom := by
  cases flag with
  | always => exact List.forall_mem_singleton.2 (.boolean _)
  | whenInsensitive =>
    cases caseSensitive with
    | false => exact List.forall_mem_singleton.2 (.boolean _)
    | true => exact List.forall_mem_nil _

theorem Lowering.lowered_checkCall (check : Check) {type : String} (hpath : Query.IsName path)
    (htype : '\\' ∉ type.toList) : (checkCall check path type).Lowered := by
  refine .of_call hpath ?_ (by cases check <;> decide)
  split
  · exact List.forall_mem_singleton.2 (.string (Text.sound_of_no_backslash htype))
  · exact List.forall_mem_nil _

theorem FieldTypes.mem_of_require {dictionary : FieldTypes} {type : String}
    (h : dictionary.require path = .ok type) : (path, type) ∈ dictionary.entries := by
  unfold require get? at h
  split at h
  · next found hfound =>
    cases h
    obtain ⟨before, after, hentries, -⟩ := List.lookup_eq_some_iff.1 hfound
    simp [hentries]
  · cases h

theorem Lowering.lowered_checkField {check : Check}
    (htypes : ∀ dictionary ∈ types, dictionary.Plain) (hpath : Query.IsName path)
    (h : checkField types path check = .ok formula) : formula.Lowered := by
  unfold checkField at h
  split at h
  · split at h
    · cases h
    · next dictionary =>
      obtain ⟨type, htype, rfl⟩ := except_map_eq_ok.1 h
      have hplain := htypes dictionary rfl
      exact lowered_checkCall check hpath
        (hplain.noBackslash _ (FieldTypes.mem_of_require htype))
  · cases h
    exact lowered_checkCall check hpath (by simp)

theorem Lowering.lowered_expand {dictionary : FieldTypes} (hplain : dictionary.Plain)
    (hne : dictionary.entries ≠ []) (check : Check) : (expand dictionary check).Lowered := by
  have hcalls : ∀ call ∈ dictionary.entries.map fun entry => checkCall check entry.1 entry.2,
      call.Lowered := by
    rw [List.forall_mem_map]
    exact fun entry hentry =>
      lowered_checkCall check (hplain.isName entry hentry) (hplain.noBackslash entry hentry)
  cases check with
  | valid => exact .all (by simpa using hne) hcalls
  | null | empty | invalid => exact .any (by simpa using hne) hcalls

theorem Lowering.lowered_checkAll {strategy : WildcardStrategy} {check : Check}
    (htypes : ∀ dictionary ∈ types, dictionary.Plain)
    (h : checkAll strategy types check = .ok formula) : formula.Lowered := by
  have hall : ∀ argument ∈ [Formula.allFields], argument.Atom :=
    List.forall_mem_singleton.2 .allFields
  unfold checkAll at h
  split at h
  · cases h
  · cases h
    exact .call (Formula.isName_of_mem_functions (by decide)) (by simp) hall
  · cases h
    exact .call (Formula.isName_of_mem_functions (by decide)) (by simp) hall
  · cases h
  · split at h
    · cases h
    · next dictionary =>
      split at h
      · cases h
      · next hne =>
        cases h
        exact lowered_expand (htypes dictionary rfl) (by simpa [FieldTypes.isEmpty] using hne) _

theorem Lowering.lowered_predicate {predicate : Predicate} (hwell : predicate.WellFormed)
    (htypes : ∀ dictionary ∈ types, dictionary.Plain)
    (h : Lowering.predicate policy types predicate = .ok formula) : formula.Lowered := by
  rcases predicate with ⟨field, test⟩
  obtain ⟨hfield, htest⟩ := hwell
  cases test with
  | compare operator operand =>
    obtain ⟨path, rfl, hafter⟩ := pathOf_bind_eq_ok h
    obtain ⟨right, hright, hend⟩ := except_bind_eq_ok.1 hafter
    cases hend
    refine lowered_guarded ?_ (.compare (.path hfield) (atom_operand htest hright))
    split
    · exact lowered_guards hfield htest
    · exact List.forall_mem_nil _
  | between range =>
    obtain ⟨path, rfl, hafter⟩ := pathOf_bind_eq_ok h
    obtain ⟨left, hleft, hrest⟩ := except_bind_eq_ok.1 hafter
    obtain ⟨right, hright, hend⟩ := except_bind_eq_ok.1 hrest
    cases hend
    refine .of_call hfield ?_ (by decide)
    rw [List.forall_mem_cons, List.forall_mem_cons]
    exact ⟨.literal (Literal.writable_of_lower htest.1 hleft),
      .literal (Literal.writable_of_lower htest.2.1 hright), atom_openFlags range⟩
  | oneOf values =>
    cases values with
    | nil => cases h
    | cons value values =>
      obtain ⟨path, rfl, hafter⟩ := pathOf_bind_eq_ok h
      obtain ⟨arguments, harguments, hend⟩ := except_bind_eq_ok.1 hafter
      cases hend
      exact .of_call hfield (atom_literals htest.2 harguments) (by decide)
  | contains text caseSensitive =>
    obtain ⟨path, rfl, hafter⟩ := pathOf_bind_eq_ok h
    cases hafter
    refine .of_call hfield ?_ (by decide)
    rw [List.forall_mem_cons]
    exact ⟨.string htest, atom_caseFlag _ _⟩
  | matching regex =>
    obtain ⟨path, rfl, hafter⟩ := pathOf_bind_eq_ok h
    cases hafter
    exact .of_call hfield (List.forall_mem_singleton.2 (.string htest)) (by decide)
  | complies kind pattern =>
    obtain ⟨path, rfl, hafter⟩ := pathOf_bind_eq_ok h
    obtain ⟨regex, hregex, hend⟩ := except_bind_eq_ok.1 hafter
    cases hend
    have hsound := Pattern.isSound_regex hregex
    exact .of_call hfield (List.forall_mem_singleton.2 (.string hsound)) (by decide)
  | is check =>
    cases field with
    | named path => exact lowered_checkField htypes hfield h
    | all => exact lowered_checkAll htypes h

end Predicates

section Groups

variable {policy : Policy} {types : Option FieldTypes} {queries : List Query}
  {formula : Formula} {formulas : List Formula}

theorem Query.lowered_of_lowerEach
    (ih : ∀ query ∈ queries, ∀ formula, query.lower policy types = .ok formula → formula.Lowered)
    (h : lowerEach policy types queries = .ok formulas) :
    ∀ formula ∈ formulas, formula.Lowered := by
  induction queries generalizing formulas with
  | nil =>
    cases h
    exact List.forall_mem_nil _
  | cons query queries ihq =>
    rw [List.forall_mem_cons] at ih
    obtain ⟨first, rest, hfirst, hrest, rfl⟩ := lowerEach_cons_eq_ok.1 h
    exact List.forall_mem_cons.2 ⟨ih.1 first hfirst, ihq ih.2 hrest⟩

theorem Lowering.lowered_composite {connective : Connective} {build : List Formula → Formula}
    (hbuild : formulas ≠ [] → (∀ formula ∈ formulas, formula.Lowered) → (build formulas).Lowered)
    (hparts : ∀ formula ∈ formulas, formula.Lowered)
    (h : composite connective build formulas = .ok formula) : formula.Lowered := by
  have hne : formulas ≠ [] := by
    rintro rfl
    cases h
  rcases composite_eq_ok h with rfl | rfl
  · exact hparts formula List.mem_cons_self
  · exact hbuild hne hparts

/-- A parsed query is lowered to a formula of this shape. -/
theorem Query.lowered_of_lower {place : Place} {query : Query}
    (h : Canonical Predicate.WellFormed place query)
    (htypes : ∀ dictionary ∈ types, dictionary.Plain) :
    ∀ formula, query.lower policy types = .ok formula → formula.Lowered := by
  induction h with
  | root _ _ ih =>
    intro formula hlower
    obtain ⟨formulas, heach, hc⟩ := except_bind_eq_ok.1 hlower
    exact Lowering.lowered_composite .any (lowered_of_lowerEach ih heach) hc
  | clause _ _ _ ih =>
    intro formula hlower
    obtain ⟨formulas, heach, hc⟩ := except_bind_eq_ok.1 hlower
    exact Lowering.lowered_composite .all (lowered_of_lowerEach ih heach) hc
  | leaf hwell => exact fun formula hlower => Lowering.lowered_predicate hwell htypes hlower
  | not _ ih =>
    intro formula hlower
    obtain ⟨inner, hinner, hafter⟩ := except_bind_eq_ok.1 hlower
    cases hafter
    exact .not (ih inner hinner)
  | any _ ih =>
    intro formula hlower
    obtain ⟨formulas, heach, hc⟩ := except_bind_eq_ok.1 hlower
    exact Lowering.lowered_composite .any (lowered_of_lowerEach ih heach) hc

end Groups

end RecordQuery
