import RecordQuery.Proofs.Query.Leaves
import RecordQuery.Proofs.Query.RoundTrip
import RecordQuery.Raising

/-! Formulas that queries are lowered to are raised to the same queries, under any policy: the
guards that were inserted are dropped, and nothing else is. Only predicates change that the formula
says in another way (`Predicate.returned`). -/

namespace RecordQuery

theorem except_bind_eq_ok {ε α β : Type} {x : Except ε α} {f : α → Except ε β} {b : β} :
    (x >>= f) = .ok b ↔ ∃ a, x = .ok a ∧ f a = .ok b := by
  cases x with
  | error e => exact ⟨nofun, fun ⟨_, h, _⟩ => nomatch h⟩
  | ok a => exact ⟨fun h => ⟨a, rfl, h⟩, fun ⟨_, ha, h⟩ => by cases ha; exact h⟩

theorem except_map_eq_ok {ε α β : Type} {x : Except ε α} {f : α → β} {b : β} :
    x.map f = .ok b ↔ ∃ a, x = .ok a ∧ f a = b := by
  cases x with
  | error e => exact ⟨nofun, fun ⟨_, h, _⟩ => nomatch h⟩
  | ok a => simp [Except.map]

/-! ### What predicates come back as -/

/-- A number as the value it is lowered to is printed; any other literal is itself. -/
def Literal.returned (literal : Literal) : Literal :=
  if literal.kind.isNumeric then
    match literal.lower with
    | .ok value => value.raise
    | .error _ => literal
  else literal

/-- The right side of a comparison with its number as it is printed. -/
def Operand.returned : Operand → Operand
  | .literal value => .literal value.returned
  | .field path => .field path

/-- A range with its numbers as they are printed. -/
def Range.returned (range : Range) : Range :=
  { range with left := range.left.returned, right := range.right.returned }

/-- A test with its numbers as they are printed. -/
def Test.returned : Test → Test
  | .compare operator operand => .compare operator operand.returned
  | .between range => .between range.returned
  | .oneOf values => .oneOf (values.map Literal.returned)
  | test => test

/-- A check of every field as checks of the known fields: all of them must be valid, any of them may
be null, empty or invalid. -/
def Check.spread (types : FieldTypes) (check : Check) : Query :=
  let leaves := types.entries.map fun entry => .leaf ⟨.named entry.1, .is check⟩
  match check with
  | .valid => Query.conjunction leaves
  | .null | .empty | .invalid => Query.disjunction leaves

/-- What a predicate comes back as: a pattern as the regular expression it stands for, a check of
every field that is expanded as checks of the known fields, and numbers as they are printed. -/
def Predicate.returned (policy : Policy) (types : Option FieldTypes) (predicate : Predicate) :
    Query :=
  match predicate.test with
  | .complies kind pattern =>
    match Pattern.regex kind pattern with
    | .ok regex => .leaf ⟨predicate.field, .matching regex⟩
    | .error _ => .leaf predicate
  | .is check =>
    match predicate.field, policy.wildcard, types with
    | .all, .expand, some types => check.spread types
    | _, _, _ => .leaf predicate
  | test => .leaf ⟨predicate.field, test.returned⟩

/-! ### Literals -/

section Literals

variable {literal left right : Literal} {value : Value}

theorem Value.isNumber_ofIntegerText {text : String} (h : Value.ofIntegerText text = .ok value) :
    value.isNumber = true := by
  unfold Value.ofIntegerText at h
  split at h
  · cases h; rfl
  · split at h
    · cases h; rfl
    · split at h
      · cases h; rfl
      · cases h

theorem Literal.isNumber_of_lower (h : literal.lower = .ok value) :
    value.isNumber = literal.kind.isNumeric := by
  rcases literal with ⟨kind, text⟩
  unfold Literal.lower at h
  cases kind with
  | integer => exact Value.isNumber_ofIntegerText h
  | decimal =>
    simp only at h
    split at h
    · cases h; rfl
    · cases h
  | boolean =>
    simp only at h
    split at h
    · cases h; rfl
    · split at h
      · cases h; rfl
      · cases h
  | quoted => cases h; rfl

theorem Value.isNumeric_raise (value : Value) : value.raise.kind.isNumeric = value.isNumber := by
  cases value with
  | decimal d =>
    simp only [Value.raise]
    split <;> rfl
  | double x =>
    simp only [Value.raise]
    split <;> rfl
  | _ => rfl

theorem Literal.raise_of_lower (h : literal.lower = .ok value) :
    value.raise = literal.returned := by
  rcases literal with ⟨kind, text⟩
  cases kind with
  | integer => simp [Literal.returned, LiteralKind.isNumeric, h]
  | decimal => simp [Literal.returned, LiteralKind.isNumeric, h]
  | boolean =>
    simp only [Literal.lower] at h
    split at h
    · next ht => cases h; rw [ht]; rfl
    · split at h
      · next hf => cases h; rw [hf]; rfl
      · cases h
  | quoted => cases h; rfl

/-- Bounds that fit still fit when they come back. -/
theorem Range.boundsFit_returned {range : Range} {l r : Value} (h : range.BoundsFit)
    (hl : range.left.lower = .ok l) (hr : range.right.lower = .ok r) :
    checkBounds l.raise r.raise = .ok () := by
  obtain ⟨hleft, hright, hkinds⟩ := h
  have hnumeric : ∀ {literal : Literal} {value : Value}, literal.lower = .ok value →
      value.raise.kind.isNumeric = literal.kind.isNumeric := fun h => by
    rw [Value.isNumeric_raise, Literal.isNumber_of_lower h]
  have hquoted : ∀ {literal : Literal} {value : Value}, literal.lower = .ok value →
      literal.kind = .quoted → value.raise.kind = .quoted := fun h hk => by
    rw [Literal.raise_of_lower h, Literal.returned, hk]
    exact hk
  have hboolean : ∀ {kind : LiteralKind}, kind.isNumeric = true → kind ≠ .boolean := by
    rintro kind hk rfl
    cases hk
  refine (@checkBounds_eq_ok_iff ⟨l.raise, r.raise, false, false⟩).2 ?_
  rcases hkinds with ⟨hkl, hkr⟩ | ⟨hkl, hkr⟩
  · rw [← hnumeric hl] at hkl
    rw [← hnumeric hr] at hkr
    exact ⟨hboolean hkl, hboolean hkr, .inl ⟨hkl, hkr⟩⟩
  · have hkl := hquoted hl hkl
    have hkr := hquoted hr hkr
    refine ⟨?_, ?_, .inr ⟨hkl, hkr⟩⟩
    · simp [hkl]
    · simp [hkr]

theorem Lowering.literalsOf_of_literals (function : String) {values : List Literal}
    {arguments : List Formula} (h : Lowering.literals values = .ok arguments) :
    Raising.literalsOf function arguments = .ok (values.map Literal.returned) := by
  induction values generalizing arguments with
  | nil => cases h; rfl
  | cons value values ih =>
    obtain ⟨first, hfirst, h⟩ := except_bind_eq_ok.1 h
    obtain ⟨rest, hrest, h⟩ := except_bind_eq_ok.1 h
    cases h
    refine except_bind_eq_ok.2 ⟨value.returned, ?_, except_bind_eq_ok.2 ⟨_, ih hrest, rfl⟩⟩
    rw [← Literal.raise_of_lower hfirst]
    rfl

end Literals

/-! ### Guards -/

/-- Whether no guard can be meant for a formula: it is no comparison by order of a field with a
number or with a field. -/
def Formula.Unguarded : Formula → Prop
  | .compare operator (.path _) (.literal value) =>
    ¬ (operator.isOrdering = true ∧ value.isNumber = true)
  | .compare operator (.path _) (.path _) => operator.isOrdering = false
  | _ => True

theorem Raising.guardedComparison?_eq_none {formulas : List Formula}
    (h : ∀ formula ∈ formulas, formula.Unguarded) : guardedComparison? formulas = none := by
  unfold guardedComparison?
  split
  · next guard operator path value =>
    have hlast : ¬ (operator.isOrdering = true ∧ value.isNumber = true) :=
      h (.compare operator (.path path) (.literal value)) (by simp)
    exact if_neg fun hc => hlast ⟨hc.1, hc.2.1⟩
  · next first second operator left right =>
    have hlast : operator.isOrdering = false :=
      h (.compare operator (.path left) (.path right)) (by simp)
    exact if_neg fun hc => by simp [hlast] at hc
  · rfl

/-- A formula is raised to what adds the same to groups as a query does. It can be negated, and no
guard can be meant for it where guards are dropped. -/
structure Returns (policy : Policy) (formula : Formula) (query : Query) : Prop where
  raised : ∃ result, Raising.raise policy.numericGuard formula = .ok result ∧ result.Alike query
  notBare : Raising.isBare formula = false
  unguarded : policy.numericGuard = true → formula.Unguarded
  piece : query.Piece fun _ => True

section Predicates

variable {policy : Policy} {types : Option FieldTypes} {path : String} {formula : Formula}

theorem Returns.of_eq {query : Query}
    (h : Raising.raise policy.numericGuard formula = .ok query)
    (hbare : Raising.isBare formula = false)
    (hguard : policy.numericGuard = true → formula.Unguarded)
    (hpiece : query.Piece fun _ => True) : Returns policy formula query :=
  ⟨⟨query, h, .refl query⟩, hbare, hguard, hpiece⟩

theorem piece_leaf (predicate : Predicate) : (Query.leaf predicate).Piece fun _ => True :=
  (Query.Canonical.leaf trivial).piece

theorem Raising.raise_call {strip : Bool} {function : String} {arguments : List Formula}
    (hname : function ≠ "not") :
    raise strip (.call function arguments) = call function arguments := by
  unfold raise
  rw [if_neg hname]

theorem Returns.of_call {function : String} {arguments : List Formula} {predicate : Predicate}
    (hname : function ≠ "not") (h : Raising.call function arguments = .ok (.leaf predicate)) :
    Returns policy (.call function arguments) (.leaf predicate) :=
  .of_eq ((Raising.raise_call hname).trans h) rfl (fun _ => trivial) (piece_leaf _)

theorem Raising.raise_compare {strip : Bool} {operator : Comparison} {right : Formula}
    {operand : Operand} (h : Lowering.operand operand = .ok right) :
    raise strip (.compare operator (.path path) right) =
      .ok (.leaf ⟨.named path, .compare operator operand.returned⟩) := by
  cases operand with
  | literal value =>
    obtain ⟨lowered, hlower, rfl⟩ := except_map_eq_ok.1 h
    rw [Operand.returned, ← Literal.raise_of_lower hlower]
    rfl
  | field other =>
    cases h
    rfl

theorem Raising.raise_guarded (guards : List Formula) {operator : Comparison} {right : Formula}
    (h : guardedComparison? (guards ++ [.compare operator (.path path) right]) =
      some (operator, .path path, right)) :
    raise true (.all (guards ++ [.compare operator (.path path) right])) =
      raise true (.compare operator (.path path) right) := by
  conv => lhs; rw [raise]
  rw [if_pos rfl, h]
  rfl

/-- A comparison comes back without the guards that were put before it. -/
theorem returns_compare {operator : Comparison} {operand : Operand} {right : Formula}
    (h : Lowering.operand operand = .ok right) :
    Returns policy
      (Lowering.guarded (if policy.numericGuard && operator.isOrdering then
        Lowering.guards path operand else []) (.compare operator (.path path) right))
      (.leaf ⟨.named path, .compare operator operand.returned⟩) := by
  have hraise : ∀ strip, Raising.raise strip (.compare operator (.path path) right) = _ :=
    fun _ => Raising.raise_compare h
  have hplain : (policy.numericGuard = true →
      Formula.Unguarded (.compare operator (.path path) right)) →
      Returns policy (.compare operator (.path path) right)
        (.leaf ⟨.named path, .compare operator operand.returned⟩) :=
    fun h => .of_eq (hraise _) rfl h (piece_leaf _)
  cases hguard : policy.numericGuard && operator.isOrdering with
  | false =>
    rw [if_neg (by simp)]
    refine hplain fun hon => ?_
    have hordering : operator.isOrdering = false := by simpa [hon] using hguard
    cases operand with
    | literal value =>
      obtain ⟨lowered, _, rfl⟩ := except_map_eq_ok.1 h
      exact fun hc => by simp [hordering] at hc
    | field other => cases h; exact hordering
  | true =>
    rw [if_pos rfl]
    rw [Bool.and_eq_true] at hguard
    obtain ⟨hon, hordering⟩ := hguard
    cases operand with
    | literal value =>
      obtain ⟨lowered, hlower, rfl⟩ := except_map_eq_ok.1 h
      have hnumber := Literal.isNumber_of_lower hlower
      cases hkind : value.kind.isNumeric with
      | false =>
        rw [Lowering.guards, hkind, if_neg (by simp)]
        exact hplain fun _ hc => by simp [hnumber, hkind] at hc
      | true =>
        rw [Lowering.guards, hkind, if_pos rfl]
        refine .of_eq ?_ rfl (fun _ => trivial) (piece_leaf _)
        rw [← hraise true, hon]
        exact Raising.raise_guarded [_] (by
          simp [Raising.guardedComparison?, Raising.guardPath?, Lowering.numericGuard,
            Formula.string, hordering, hnumber, hkind])
    | field other =>
      cases h
      refine .of_eq ?_ rfl (fun _ => trivial) (piece_leaf _)
      rw [← hraise true, hon]
      exact Raising.raise_guarded [_, _] (by
        simp [Raising.guardedComparison?, Raising.guardPath?, Lowering.numericGuard,
          Formula.string, hordering])

theorem Check.function_ne_not (check : Check) : check.function ≠ "not" := by
  cases check <;> decide

theorem Raising.call_check (check : Check) (path type : String) :
    call check.function (.path path :: if check.needsType then [.string type] else []) =
      .ok (.leaf ⟨.named path, .is check⟩) := by
  cases check <;> rfl

theorem returns_checkCall (check : Check) (path type : String) :
    Returns policy (Lowering.checkCall check path type) (.leaf ⟨.named path, .is check⟩) :=
  .of_call check.function_ne_not (Raising.call_check check path type)

theorem Raising.raiseEach_checkCalls (strip : Bool) (check : Check)
    (entries : List (String × String)) :
    raiseEach strip (entries.map fun entry => Lowering.checkCall check entry.1 entry.2) =
      .ok (entries.map fun entry => .leaf ⟨.named entry.1, .is check⟩) := by
  induction entries with
  | nil => rfl
  | cons entry entries ih =>
    refine except_bind_eq_ok.2 ⟨_, ?_, except_bind_eq_ok.2 ⟨_, ih, rfl⟩⟩
    exact (raise_call check.function_ne_not).trans (call_check check entry.1 entry.2)

/-- A check of every field that is expanded comes back as checks of the known fields. -/
theorem returns_expand {types : FieldTypes} (hne : types.entries ≠ []) (check : Check) :
    Returns policy (Lowering.expand types check) (check.spread types) := by
  have hcalls := Raising.raiseEach_checkCalls policy.numericGuard check types.entries
  have hpieces : ∀ query ∈ types.entries.map fun entry => Query.leaf ⟨.named entry.1, .is check⟩,
      query.Piece fun _ => True := by
    rw [List.forall_mem_map]
    exact fun _ _ => piece_leaf _
  have hany := (Query.canonical_disjunction (by simpa using hne) hpieces).piece
  cases check with
  | valid =>
    refine .of_eq ?_ rfl (fun _ => trivial)
      (Query.piece_conjunction (by simpa using hne) hpieces)
    unfold Lowering.expand Raising.raise
    rw [Raising.guardedComparison?_eq_none, ite_self]
    · exact except_bind_eq_ok.2 ⟨_, hcalls, rfl⟩
    · rw [List.forall_mem_map]
      exact fun _ _ => trivial
  | null => exact .of_eq (except_bind_eq_ok.2 ⟨_, hcalls, rfl⟩) rfl (fun _ => trivial) hany
  | empty => exact .of_eq (except_bind_eq_ok.2 ⟨_, hcalls, rfl⟩) rfl (fun _ => trivial) hany
  | invalid => exact .of_eq (except_bind_eq_ok.2 ⟨_, hcalls, rfl⟩) rfl (fun _ => trivial) hany

theorem Lowering.pathOf_bind_eq_ok {field : Field} {keyword : String}
    {next : String → Except Error Formula}
    (h : (do next (← pathOf field keyword)) = .ok formula) :
    ∃ path, field = .named path ∧ next path = .ok formula := by
  cases field with
  | named path => exact ⟨path, rfl, h⟩
  | all => cases h

theorem Raising.flagOf_openFlags (range : Range) :
    flagOf "between" false (Lowering.openFlags range)[0]? = .ok range.lowerOpen ∧
    flagOf "between" false (Lowering.openFlags range)[1]? = .ok range.upperOpen ∧
    (Lowering.openFlags range).length ≤ 2 := by
  rcases range with ⟨left, right, lowerOpen, upperOpen⟩
  cases lowerOpen <;> cases upperOpen <;> exact ⟨rfl, rfl, by simp [Lowering.openFlags]⟩

theorem returns_between {range : Range} {l r : Value} (hfit : range.BoundsFit)
    (hl : range.left.lower = .ok l) (hr : range.right.lower = .ok r) :
    Returns policy
      (.call "between" (.path path :: .literal l :: .literal r :: Lowering.openFlags range))
      (.leaf ⟨.named path, .between range.returned⟩) := by
  obtain ⟨hlower, hupper, hlength⟩ := Raising.flagOf_openFlags range
  have hcheck := Range.boundsFit_returned hfit hl hr
  refine .of_call (by decide) ?_
  show (if (Lowering.openFlags range).length ≤ 2 then _ else _) = _
  rw [if_pos hlength]
  refine except_bind_eq_ok.2 ⟨_, rfl, except_bind_eq_ok.2 ⟨_, rfl, except_bind_eq_ok.2
    ⟨(), hcheck, except_bind_eq_ok.2 ⟨_, hlower, except_bind_eq_ok.2 ⟨_, hupper, ?_⟩⟩⟩⟩⟩
  rw [Range.returned, ← Literal.raise_of_lower hl, ← Literal.raise_of_lower hr]
  rfl

theorem returns_oneOf {values : List Literal} {arguments : List Formula} (hne : values ≠ [])
    (h : Lowering.literals values = .ok arguments) :
    Returns policy (.call "in" (.path path :: arguments))
      (.leaf ⟨.named path, .oneOf (values.map Literal.returned)⟩) := by
  have hvalues := Lowering.literalsOf_of_literals "in" h
  refine .of_call (by decide) ?_
  cases arguments with
  | nil =>
    cases values with
    | nil => exact absurd rfl hne
    | cons value values => simp [Raising.literalsOf] at hvalues
  | cons argument arguments =>
    exact except_bind_eq_ok.2 ⟨_, hvalues, rfl⟩

theorem returns_checkField {check : Check}
    (h : Lowering.checkField types path check = .ok formula) :
    Returns policy formula (.leaf ⟨.named path, .is check⟩) := by
  unfold Lowering.checkField at h
  split at h
  · split at h
    · cases h
    · obtain ⟨type, _, rfl⟩ := except_map_eq_ok.1 h
      exact returns_checkCall check path type
  · cases h
    exact returns_checkCall check path ""

/-- A check of every field comes back, or is spread over the known fields. -/
theorem returns_checkAll {check : Check}
    (h : Lowering.checkAll policy.wildcard types check = .ok formula) :
    Returns policy formula (Predicate.returned policy types ⟨.all, .is check⟩) := by
  unfold Lowering.checkAll at h
  unfold Predicate.returned
  cases hw : policy.wildcard with
  | reject => rw [hw] at h; cases h
  | sentinel =>
    rw [hw] at h
    cases check with
    | empty => cases h; exact .of_call (by decide) rfl
    | invalid => cases h; exact .of_call (by decide) rfl
    | _ => cases h
  | expand =>
    rw [hw] at h
    cases types with
    | none => cases h
    | some types =>
      simp only at h
      split at h
      · cases h
      · next hne =>
        cases h
        exact returns_expand (by simpa [FieldTypes.isEmpty] using hne) check

theorem returns_predicate {predicate : Predicate} (hfit : predicate.test.BoundsFit)
    (h : Lowering.predicate policy types predicate = .ok formula) :
    Returns policy formula (predicate.returned policy types) := by
  rcases predicate with ⟨field, test⟩
  cases test with
  | compare operator operand =>
    obtain ⟨path, rfl, hafter⟩ := Lowering.pathOf_bind_eq_ok h
    obtain ⟨right, hright, hend⟩ := except_bind_eq_ok.1 hafter
    cases hend
    exact returns_compare hright
  | between range =>
    obtain ⟨path, rfl, hafter⟩ := Lowering.pathOf_bind_eq_ok h
    obtain ⟨left, hleft, hrest⟩ := except_bind_eq_ok.1 hafter
    obtain ⟨right, hright, hend⟩ := except_bind_eq_ok.1 hrest
    cases hend
    exact returns_between hfit hleft hright
  | oneOf values =>
    cases values with
    | nil => cases h
    | cons value values =>
      obtain ⟨path, rfl, hafter⟩ := Lowering.pathOf_bind_eq_ok h
      obtain ⟨arguments, harguments, hend⟩ := except_bind_eq_ok.1 hafter
      cases hend
      exact returns_oneOf (by simp) harguments
  | contains text caseSensitive =>
    obtain ⟨path, rfl, hafter⟩ := Lowering.pathOf_bind_eq_ok h
    cases hafter
    refine .of_call (by decide) ?_
    cases policy.caseFlag <;> cases caseSensitive <;> rfl
  | matching regex =>
    obtain ⟨path, rfl, hafter⟩ := Lowering.pathOf_bind_eq_ok h
    cases hafter
    exact .of_call (by decide) rfl
  | complies kind pattern =>
    obtain ⟨path, rfl, hafter⟩ := Lowering.pathOf_bind_eq_ok h
    obtain ⟨regex, hregex, hend⟩ := except_bind_eq_ok.1 hafter
    cases hend
    have hreturned : Predicate.returned policy types ⟨.named path, .complies kind pattern⟩ =
        .leaf ⟨.named path, .matching regex⟩ := by simp [Predicate.returned, hregex]
    rw [hreturned]
    exact .of_call (by decide) rfl
  | is check =>
    cases field with
    | named path => exact returns_checkField h
    | all => exact returns_checkAll h

end Predicates

/-! ### Groups -/

section Groups

variable {policy : Policy} {types : Option FieldTypes} {f : Predicate → Query}
  {queries : List Query} {formula : Formula} {formulas : List Formula}

theorem Query.lowerEach_cons_eq_ok {query : Query} :
    lowerEach policy types (query :: queries) = .ok formulas ↔ ∃ first rest,
      query.lower policy types = .ok first ∧ lowerEach policy types queries = .ok rest ∧
        formulas = first :: rest := by
  constructor
  · intro h
    obtain ⟨first, hfirst, hafter⟩ := except_bind_eq_ok.1 h
    obtain ⟨rest, hrest, hend⟩ := except_bind_eq_ok.1 hafter
    cases hend
    exact ⟨first, rest, hfirst, hrest, rfl⟩
  · rintro ⟨first, rest, hfirst, hrest, rfl⟩
    exact except_bind_eq_ok.2 ⟨first, hfirst, except_bind_eq_ok.2 ⟨rest, hrest, rfl⟩⟩

/-- What lowering makes of several queries, one by one. -/
structure ReturnsEach (policy : Policy) (formulas : List Formula) (queries : List Query) :
    Prop where
  raised : ∃ results, Raising.raiseEach policy.numericGuard formulas = .ok results ∧
    Query.conjunctsOf results = Query.conjunctsOf queries ∧
    Query.disjunctsOf results = Query.disjunctsOf queries
  notBare : ∀ formula ∈ formulas, Raising.isBare formula = false
  unguarded : policy.numericGuard = true → ∀ formula ∈ formulas, formula.Unguarded
  pieces : ∀ query ∈ queries, query.Piece fun _ => True

theorem ReturnsEach.nil : ReturnsEach policy [] [] :=
  ⟨⟨[], rfl, rfl, rfl⟩, List.forall_mem_nil _, fun _ => List.forall_mem_nil _,
    List.forall_mem_nil _⟩

theorem ReturnsEach.cons {query : Query} (h : Returns policy formula query)
    (h' : ReturnsEach policy formulas queries) :
    ReturnsEach policy (formula :: formulas) (query :: queries) := by
  obtain ⟨first, hfirst, halike⟩ := h.raised
  obtain ⟨rest, hrest, hconjuncts, hdisjuncts⟩ := h'.raised
  refine ⟨⟨first :: rest, except_bind_eq_ok.2 ⟨_, hfirst, except_bind_eq_ok.2 ⟨_, hrest, rfl⟩⟩,
    ?_, ?_⟩, ?_, fun hon => ?_, ?_⟩
  · rw [Query.conjunctsOf, Query.conjunctsOf, halike.conjuncts, hconjuncts]
  · rw [Query.disjunctsOf, Query.disjunctsOf, halike.disjuncts, hdisjuncts]
  · rw [List.forall_mem_cons]
    exact ⟨h.notBare, h'.notBare⟩
  · rw [List.forall_mem_cons]
    exact ⟨h.unguarded hon, h'.unguarded hon⟩
  · rw [List.forall_mem_cons]
    exact ⟨h.piece, h'.pieces⟩

theorem returnsEach_of_lowerEach {g : Formula → Formula}
    (ih : ∀ query ∈ queries, ∀ formula, query.lower policy types = .ok formula →
      Returns policy (g formula) (query.mapLeaves f))
    (h : Query.lowerEach policy types queries = .ok formulas) :
    ReturnsEach policy (formulas.map g) (Query.mapLeavesOf f queries) := by
  induction queries generalizing formulas with
  | nil =>
    cases h
    exact .nil
  | cons query queries ihq =>
    rw [List.forall_mem_cons] at ih
    obtain ⟨first, rest, hfirst, hrest, rfl⟩ := Query.lowerEach_cons_eq_ok.1 h
    exact (ihq ih.2 hrest).cons (ih.1 first hfirst)

/-- A formula alone comes back as what adds the same to groups as all the queries together. -/
theorem ReturnsEach.alone (h : ReturnsEach policy [formula] queries) (hne : queries ≠ []) :
    ∃ result, Raising.raise policy.numericGuard formula = .ok result ∧
      (result.Piece fun _ => True) ∧ Query.conjunction [result] = Query.conjunction queries ∧
      Query.disjunction [result] = Query.disjunction queries := by
  obtain ⟨results, hresults, hconjuncts, hdisjuncts⟩ := h.raised
  obtain ⟨result, hresult, hafter⟩ := except_bind_eq_ok.1 hresults
  cases hafter
  have hconjuncts' : Query.conjuncts result = Query.conjunctsOf queries := by
    rw [← hconjuncts, Query.conjunctsOf, Query.conjunctsOf, List.append_nil]
  have hdisjuncts' : Query.disjuncts result = Query.disjunctsOf queries := by
    rw [← hdisjuncts, Query.disjunctsOf, Query.disjunctsOf, List.append_nil]
  refine ⟨result, hresult, ?_, by rw [Query.conjunction, hconjuncts, Query.conjunction],
    by rw [Query.disjunction, hdisjuncts, Query.disjunction]⟩
  obtain ⟨hchildren_ne, hchildren⟩ := Query.children_of_pieces hne h.pieces
  obtain ⟨hclauses_ne, hclauses⟩ := Query.clauses_of_pieces hne h.pieces
  exact .of_eq hconjuncts' hchildren_ne hchildren hdisjuncts' hclauses_ne hclauses

theorem Lowering.composite_eq_ok {connective : Connective} {build : List Formula → Formula}
    (h : composite connective build formulas = .ok formula) :
    formulas = [formula] ∨ formula = build formulas := by
  unfold composite at h
  split at h
  · cases h
  · cases h; exact .inl rfl
  · cases h; exact .inr rfl

theorem ReturnsEach.any (h : ReturnsEach policy formulas queries) (hne : queries ≠ [])
    (hc : Lowering.composite .any .any formulas = .ok formula) :
    Returns policy formula (Query.disjunction queries) := by
  have hpiece := (Query.canonical_disjunction hne h.pieces).piece
  rcases Lowering.composite_eq_ok hc with rfl | rfl
  · obtain ⟨result, hresult, hpart, _, hdisjunction⟩ := h.alone hne
    exact ⟨⟨result, hresult, hdisjunction ▸ hpart.alike_disjunction⟩, h.notBare _ (by simp),
      fun hon => h.unguarded hon _ (by simp), hpiece⟩
  · obtain ⟨results, hresults, _, hdisjuncts⟩ := h.raised
    refine .of_eq ?_ rfl (fun _ => trivial) hpiece
    rw [Query.disjunction, ← hdisjuncts]
    exact except_bind_eq_ok.2 ⟨results, hresults, rfl⟩

/-- A group of formulas for which no guard can be meant loses none. -/
theorem ReturnsEach.all (h : ReturnsEach policy formulas queries) (hne : queries ≠ [])
    (hc : Lowering.composite .all .all formulas = .ok formula) :
    Returns policy formula (Query.conjunction queries) := by
  have hpiece := Query.piece_conjunction hne h.pieces
  rcases Lowering.composite_eq_ok hc with rfl | rfl
  · obtain ⟨result, hresult, hpart, hconjunction, _⟩ := h.alone hne
    exact ⟨⟨result, hresult, hconjunction ▸ hpart.alike_conjunction⟩, h.notBare _ (by simp),
      fun hon => h.unguarded hon _ (by simp), hpiece⟩
  · obtain ⟨results, hresults, hconjuncts, _⟩ := h.raised
    refine .of_eq ?_ rfl (fun _ => trivial) hpiece
    have hguard : (if policy.numericGuard then Raising.guardedComparison? formulas else none) =
        none := by
      split
      · next hon => exact Raising.guardedComparison?_eq_none (h.unguarded hon)
      · rfl
    unfold Raising.raise
    rw [hguard, Query.conjunction, ← hconjuncts]
    exact except_bind_eq_ok.2 ⟨results, hresults, rfl⟩

theorem Returns.not {query : Query} (h : Returns policy formula query) :
    Returns policy (.not formula) (Query.negation query) := by
  obtain ⟨result, hresult, halike⟩ := h.raised
  refine .of_eq ?_ rfl (fun _ => trivial) (Query.canonical_negation h.piece).piece
  unfold Raising.raise Raising.negationOf
  rw [if_neg (by simp [h.notBare]), hresult, ← halike.negation_eq]
  rfl

theorem mapLeavesOf_ne_nil (h : queries ≠ []) : Query.mapLeavesOf f queries ≠ [] := by
  simpa [Query.mapLeavesOf_eq_map] using h

/-- A change of the groups of formulas that raising does not see: it goes through groups and
negations, and the formulas of predicates come back after it as without it. -/
structure Regroups (policy : Policy) (types : Option FieldTypes) (g : Formula → Formula) :
    Prop where
  any : ∀ {formulas formula}, Lowering.composite .any .any formulas = .ok formula →
    Lowering.composite .any .any (formulas.map g) = .ok (g formula)
  all : ∀ {formulas formula}, Lowering.composite .all .all formulas = .ok formula →
    Lowering.composite .all .all (formulas.map g) = .ok (g formula)
  not : ∀ formula, g (.not formula) = .not (g formula)
  predicate : ∀ {predicate formula}, predicate.test.BoundsFit →
    Lowering.predicate policy types predicate = .ok formula →
    Returns policy (g formula) (predicate.returned policy types)

namespace Regroups

variable {g : Formula → Formula}

theorem id (policy : Policy) (types : Option FieldTypes) : Regroups policy types id where
  any := fun h => by rwa [List.map_id]
  all := fun h => by rwa [List.map_id]
  not := fun _ => rfl
  predicate := returns_predicate

/-- A query comes back with its predicates as `returned` says. -/
theorem returns {place : Query.Place} {query : Query} (hg : Regroups policy types g)
    (h : Query.Canonical (fun predicate => predicate.test.BoundsFit) place query) :
    ∀ formula, query.lower policy types = .ok formula →
      Returns policy (g formula) (query.mapLeaves (Predicate.returned policy types)) := by
  induction h with
  | root hne _ ih =>
    intro formula hlower
    obtain ⟨formulas, heach, hc⟩ := except_bind_eq_ok.1 hlower
    exact (returnsEach_of_lowerEach ih heach).any (mapLeavesOf_ne_nil hne) (hg.any hc)
  | clause hne _ _ ih =>
    intro formula hlower
    obtain ⟨formulas, heach, hc⟩ := except_bind_eq_ok.1 hlower
    exact (returnsEach_of_lowerEach ih heach).all (mapLeavesOf_ne_nil hne) (hg.all hc)
  | leaf hfit => exact fun formula hlower => hg.predicate hfit hlower
  | not _ ih =>
    intro formula hlower
    obtain ⟨inner, hinner, hafter⟩ := except_bind_eq_ok.1 hlower
    cases hafter
    rw [hg.not]
    exact (ih inner hinner).not
  | any _ ih =>
    intro formula hlower
    obtain ⟨formulas, heach, hc⟩ := except_bind_eq_ok.1 hlower
    exact (returnsEach_of_lowerEach ih heach).any (mapLeavesOf_ne_nil (by simp)) (hg.any hc)

/-- A whole query that is lowered is raised to one with its predicates as `returned` says. -/
theorem raise_of_root {query : Query} {formula : Formula} (hg : Regroups policy types g)
    (h : Query.Canonical (fun predicate => predicate.test.BoundsFit) .root query)
    (hlower : query.lower policy types = .ok formula) :
    (g formula).raise policy = .ok (query.mapLeaves (Predicate.returned policy types)) := by
  cases h with
  | root hne hclauses =>
    obtain ⟨formulas, heach, hc⟩ := except_bind_eq_ok.1 hlower
    have heach := returnsEach_of_lowerEach (fun branch hbranch formula =>
      hg.returns (hclauses branch hbranch) formula) heach
    have hroot := Query.canonical_disjunction (mapLeavesOf_ne_nil hne) heach.pieces
    obtain ⟨result, hresult, halike⟩ := (heach.any (mapLeavesOf_ne_nil hne) (hg.any hc)).raised
    refine except_bind_eq_ok.2 ⟨result, hresult, ?_⟩
    rw [halike.disjunction_eq, Query.disjunction_of_root hroot]
    rfl

end Regroups

end Groups

/-! ### Queries that come back as they are -/

/-- The literals of a test. -/
def Test.literals : Test → List Literal
  | .compare _ (.literal value) => [value]
  | .between range => [range.left, range.right]
  | .oneOf values => values
  | _ => []

/-- A predicate that comes back as it is: no pattern, no check of every field that is expanded, and
each number written as its value is printed. -/
structure Predicate.IsPlain (policy : Policy) (predicate : Predicate) : Prop where
  noPattern : ∀ kind pattern, predicate.test ≠ .complies kind pattern
  notExpanded : ∀ check, predicate = ⟨.all, .is check⟩ → policy.wildcard ≠ .expand
  printed : ∀ literal ∈ predicate.test.literals, literal.kind.isNumeric = true →
    ∀ value, literal.lower = .ok value → value.raise = literal

theorem Literal.returned_eq_self {literal : Literal} (h : literal.kind.isNumeric = true →
    ∀ value, literal.lower = .ok value → value.raise = literal) : literal.returned = literal := by
  unfold Literal.returned
  split
  · next hkind =>
    split
    · next value hlower => exact h hkind value hlower
    · rfl
  · rfl

theorem Test.returned_eq_self {test : Test} (h : ∀ literal ∈ test.literals,
    literal.returned = literal) : test.returned = test := by
  cases test with
  | compare operator operand =>
    cases operand with
    | literal value => rw [Test.returned, Operand.returned, h value (by simp [Test.literals])]
    | field path => rfl
  | between range =>
    rw [Test.returned, Range.returned, h range.left (by simp [Test.literals]),
      h range.right (by simp [Test.literals])]
  | oneOf values =>
    have hvalues := (List.map_congr_left h).trans (List.map_id values)
    exact congrArg Test.oneOf hvalues
  | _ => rfl

theorem Predicate.returned_eq_self {policy : Policy} {types : Option FieldTypes}
    {predicate : Predicate} (h : predicate.IsPlain policy) :
    predicate.returned policy types = .leaf predicate := by
  rcases predicate with ⟨field, test⟩
  have htest : test.returned = test :=
    Test.returned_eq_self fun literal hl => Literal.returned_eq_self (h.printed literal hl)
  cases test with
  | complies kind pattern => exact absurd rfl (h.noPattern kind pattern)
  | is check =>
    cases field with
    | named path => rfl
    | all =>
      unfold Predicate.returned
      cases hw : policy.wildcard with
      | expand => exact absurd hw (h.notExpanded check rfl)
      | _ => rfl
  | _ => exact congrArg (fun test => Query.leaf ⟨field, test⟩) htest

/-- A whole query that is lowered is raised to one with its predicates as `returned` says. -/
theorem raise_of_root {policy : Policy} {types : Option FieldTypes} {query : Query}
    {formula : Formula}
    (h : Query.Canonical (fun predicate => predicate.test.BoundsFit) .root query)
    (hlower : query.lower policy types = .ok formula) :
    formula.raise policy = .ok (query.mapLeaves (Predicate.returned policy types)) :=
  (Regroups.id policy types).raise_of_root h hlower

/-- Lowering a parsed query is undone by raising the formula under the same policy, but for
patterns, numbers and expanded checks of every field, which come back as `Predicate.returned` says.
A query of plain predicates comes back as it is: no guard that was inserted is kept, and no test
that looks like one is dropped. -/
theorem raise_lower {text : String} {policy : Policy} {types : Option FieldTypes} {query : Query}
    {formula : Formula} (hparse : Query.parse text = .ok query)
    (hlower : query.lower policy types = .ok formula) :
    formula.raise policy = .ok (query.mapLeaves (Predicate.returned policy types)) ∧
    ((∀ predicate ∈ query.leaves, predicate.IsPlain policy) →
      formula.raise policy = .ok query) := by
  have hquery := Query.wellFormed_of_parse hparse
  have hraise := raise_of_root (hquery.imp fun _ h => (Predicate.wellFormed_iff.1 h).2.2) hlower
  refine ⟨hraise, fun hplain => ?_⟩
  rw [hraise, Query.mapLeaves_eq_self hquery fun leaf hleaf =>
    Predicate.returned_eq_self (hplain leaf hleaf)]

theorem raise_lower_of_user_guard :
    ∃ query formula, Query.parse "f ~ '^-?\\d+(\\.\\d+)?$' and f > 1" = .ok query ∧
      query.lower .runtime none = .ok formula ∧ formula.raise .runtime = .ok query := by
  have hparse : Query.parse "f ~ '^-?\\d+(\\.\\d+)?$' and f > 1" = .ok (.any [.all [
      .leaf ⟨.named "f", .matching Lowering.numericRegex⟩,
      .leaf ⟨.named "f", .compare .gt (.literal ⟨.integer, "1"⟩)⟩]]) := by
    decide +kernel
  have hlower : (Query.any [.all [.leaf ⟨.named "f", .matching Lowering.numericRegex⟩,
      .leaf ⟨.named "f", .compare .gt (.literal ⟨.integer, "1"⟩)⟩]]).lower .runtime none =
        .ok (.all [Lowering.numericGuard "f", .all [Lowering.numericGuard "f",
          .compare .gt (.path "f") (.literal (.int 1))]]) := by
    rfl
  have hone : (⟨.integer, "1"⟩ : Literal).lower = .ok (.int 1) := by rfl
  have hprinted : ∀ value, (⟨.integer, "1"⟩ : Literal).lower = .ok value →
      value.raise = ⟨.integer, "1"⟩ := fun value h => by
    rw [hone] at h
    cases h
    decide
  refine ⟨_, _, hparse, hlower, (raise_lower hparse hlower).2 ?_⟩
  simp only [Query.leaves, Query.leavesOf, List.append_nil, List.singleton_append,
    List.forall_mem_cons]
  refine ⟨?_, ?_, List.forall_mem_nil _⟩
  · exact ⟨by simp, by simp, by simp [Test.literals]⟩
  · exact ⟨by simp, by simp, by simpa [Test.literals] using fun _ => hprinted⟩

end RecordQuery
