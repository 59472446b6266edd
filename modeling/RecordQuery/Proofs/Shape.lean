import RecordQuery.Proofs.Conditions

/-! The shape of queries, whatever they come from. The parser, the building functions and raising
hand leaves, lone groups and canonical queries to the composing functions, each of which is a
`Piece`, so all of them end in canonical queries (`canonical_of_source`). For raised formulas the
same induction also collects what is known of their predicates (`Raising.Ensures.piece`). -/

namespace RecordQuery

/-! ### Formulas within formulas -/

/-- The formulas that a formula is put together from directly. -/
def Formula.parts : Formula → List Formula
  | .path _ | .allFields | .literal _ => []
  | .call _ arguments => arguments
  | .compare _ left right | .arithmetic _ left right => [left, right]
  | .all operands | .any operands => operands
  | .not operand => [operand]
  | .conditional branches otherwise =>
    branches.flatMap (fun branch => [branch.1, branch.2]) ++ otherwise.toList
  | .switch subject cases fallback =>
    subject :: cases.flatMap (fun branch => branch.1 :: branch.2) ++ fallback.getD []
  | .array items | .block items => items
  | .assignment target value => [target, value]

/-- Whether a formula stands in another, at any depth. -/
inductive Formula.Occurs (inner : Formula) : Formula → Prop
  | here : Occurs inner inner
  | within {part outer : Formula} : part ∈ outer.parts → Occurs inner part → Occurs inner outer

/-- No "and" and no "or" in a formula, at any depth, is without operands. -/
def Formula.GroupsFilled (formula : Formula) : Prop :=
  ∀ operands, (Occurs (.all operands) formula ∨ Occurs (.any operands) formula) → operands ≠ []

theorem Formula.GroupsFilled.of_part {formula part : Formula} (h : formula.GroupsFilled)
    (hpart : part ∈ formula.parts) : part.GroupsFilled :=
  fun operands hoccurs => h operands (hoccurs.imp (.within hpart) (.within hpart))

theorem Formula.GroupsFilled.of_parts {formula : Formula}
    (hself : ∀ operands, formula = .all operands ∨ formula = .any operands → operands ≠ [])
    (hparts : ∀ part ∈ formula.parts, part.GroupsFilled) : formula.GroupsFilled := by
  rintro operands (h | h)
  · cases h with
    | here => exact hself operands (.inl rfl)
    | within hpart h => exact hparts _ hpart operands (.inl h)
  · cases h with
    | here => exact hself operands (.inr rfl)
    | within hpart h => exact hparts _ hpart operands (.inr h)

/-! ### Raised formulas -/

namespace Raising

open Query

/-- A kind of formulas that goes over to their operands, leaves no group without operands, and
makes sure of something about the predicates that conditions are raised to. -/
structure Ensures (kind : Formula → Prop) (p : Predicate → Prop) : Prop where
  any {operands : List Formula} : kind (.any operands) →
    operands ≠ [] ∧ ∀ operand ∈ operands, kind operand
  all {operands : List Formula} : kind (.all operands) →
    operands ≠ [] ∧ ∀ operand ∈ operands, kind operand
  not {operand : Formula} : kind (.not operand) → kind operand
  argument {name : String} {arguments : List Formula} : kind (.call name arguments) →
    ∀ argument ∈ arguments, kind argument
  compare {operator : Comparison} {left right : Formula} {predicate : Predicate} :
    kind (.compare operator left right) → Compared operator left right predicate → p predicate
  assignment {target value : Formula} {predicate : Predicate} :
    kind (.assignment target value) → Compared .eq target value predicate → p predicate
  call {name : String} {arguments : List Formula} {predicate : Predicate} :
    kind (.call name arguments) → Called name arguments predicate → p predicate

variable {strip : Bool} {kind : Formula → Prop} {p : Predicate → Prop}

theorem piece_comparison {operator : Comparison} {left right : Formula} {query : Query}
    (h : comparison operator left right = .ok query)
    (hp : ∀ predicate, Compared operator left right predicate → p predicate) : query.Piece p := by
  obtain ⟨predicate, rfl, hcompared⟩ := comparison_cases h
  exact (Canonical.leaf (hp predicate hcompared)).piece

theorem piece_negationOf {operand : Formula} {raised : Except Error Query} {query : Query}
    (h : negationOf operand raised = .ok query)
    (hraised : ∀ result, raised = .ok result → result.Piece p) : query.Piece p := by
  unfold negationOf at h
  split at h
  · cases h
  · obtain ⟨result, hresult, rfl⟩ := except_map_eq_ok.1 h
    exact (canonical_negation (hraised result hresult)).piece

mutual

/-- What a formula is raised to can be put into groups of canonical queries. -/
theorem Ensures.piece (hkind : Ensures kind p) : (formula : Formula) → kind formula →
    (query : Query) → raise strip formula = .ok query → query.Piece p
  | .any operands, hformula, _, h => by
    obtain ⟨queries, heach, hend⟩ := except_bind_eq_ok.1 h
    cases hend
    obtain ⟨hne, hoperands⟩ := hkind.any hformula
    obtain ⟨hnone, hpieces⟩ := hkind.pieces operands hoperands queries heach
    exact (canonical_disjunction (mt hnone hne) hpieces).piece
  | .all operands, hformula, query, h => by
    obtain ⟨hne, hoperands⟩ := hkind.all hformula
    unfold raise at h
    split at h
    · next operator left right hguarded =>
      split at hguarded
      · have hcompare := hoperands _ (mem_of_guardedComparison? hguarded)
        exact piece_comparison h fun _ => hkind.compare hcompare
      · cases hguarded
    · obtain ⟨queries, heach, hend⟩ := except_bind_eq_ok.1 h
      cases hend
      obtain ⟨hnone, hpieces⟩ := hkind.pieces operands hoperands queries heach
      exact piece_conjunction (mt hnone hne) hpieces
  | .not operand, hformula, _, h =>
    piece_negationOf h (hkind.piece operand (hkind.not hformula))
  | .compare _ _ _, hformula, _, h => piece_comparison h fun _ => hkind.compare hformula
  | .assignment _ _, hformula, _, h => piece_comparison h fun _ => hkind.assignment hformula
  | .call _ arguments, hformula, _, h => by
    have harguments := hkind.argument hformula
    unfold raise at h
    split at h
    · split at h
      · next operand =>
        have hoperand := harguments operand List.mem_cons_self
        exact piece_negationOf h (hkind.piece operand hoperand)
      · cases h
    · obtain ⟨predicate, rfl, hcalled⟩ := call_cases h
      exact (Canonical.leaf (hkind.call hformula hcalled)).piece
  | .path _, _, _, h | .allFields, _, _, h | .literal _, _, _, h | .arithmetic .., _, _, h
  | .conditional .., _, _, h | .switch .., _, _, h | .array _, _, _, h | .block _, _, _, h =>
    nomatch h

theorem Ensures.pieces (hkind : Ensures kind p) : (formulas : List Formula) →
    (∀ formula ∈ formulas, kind formula) → (queries : List Query) →
    raiseEach strip formulas = .ok queries →
    (queries = [] → formulas = []) ∧ ∀ query ∈ queries, query.Piece p
  | [], _, _, h => by
    cases h
    exact ⟨fun _ => rfl, List.forall_mem_nil _⟩
  | formula :: formulas, hformulas, _, h => by
    obtain ⟨first, hfirst, hafter⟩ := except_bind_eq_ok.1 h
    obtain ⟨rest, hrest, hend⟩ := except_bind_eq_ok.1 hafter
    cases hend
    rw [List.forall_mem_cons] at hformulas ⊢
    exact ⟨nofun, hkind.piece formula hformulas.1 first hfirst,
      (hkind.pieces formulas hformulas.2 rest hrest).2⟩

end

/-- The query of a formula is canonical. -/
theorem Ensures.canonical (hkind : Ensures kind p) {policy : Policy} {formula : Formula}
    {query : Query} (hformula : kind formula) (h : formula.raise policy = .ok query) :
    query.Canonical p .root := by
  obtain ⟨result, hresult, hend⟩ := except_bind_eq_ok.1 h
  cases hend
  exact (hkind.piece formula hformula result hresult).canonical

theorem ensures_groupsFilled : Ensures Formula.GroupsFilled fun _ => True where
  any h := ⟨h _ (.inr .here), fun _ => h.of_part⟩
  all h := ⟨h _ (.inl .here), fun _ => h.of_part⟩
  not h := h.of_part (List.mem_singleton_self _)
  argument h := fun _ => h.of_part
  compare _ _ := trivial
  assignment _ _ := trivial
  call _ _ := trivial

end Raising

namespace Query

/-! ### Built queries -/

/-- The queries that the building functions make of tests, with one query at least in every
group. -/
inductive Built : Query → Prop
  | ofTest {field : Field} {test : Test} : Built (ofTest field test)
  | allOf {queries : List Query} : queries ≠ [] → (∀ query ∈ queries, Built query) →
      Built (allOf queries)
  | anyOf {queries : List Query} : queries ≠ [] → (∀ query ∈ queries, Built query) →
      Built (anyOf queries)
  | negated {query : Query} : Built query → Built (negated query)

/-- A built query is canonical. -/
theorem Built.canonical {query : Query} (h : query.Built) :
    Canonical (fun _ => True) .root query := by
  induction h with
  | ofTest => exact (Canonical.leaf trivial).piece.canonical
  | allOf hne _ ih =>
    have hpieces := piece_conjunction hne fun query hquery => (ih query hquery).piece
    exact hpieces.canonical
  | anyOf hne _ ih => exact canonical_disjunction hne fun query hquery => (ih query hquery).piece
  | negated _ ih => exact (canonical_negation ih.piece).piece.canonical

end Query

/-- A query is canonical, whatever it comes from: a text that is parsed, the building functions
with one query at least in every group, or a formula without empty groups that is raised under any
policy. -/
theorem canonical_of_source :
    (∀ text query, Query.parse text = .ok query → query.Canonical (fun _ => True) .root) ∧
    (∀ query : Query, query.Built → query.Canonical (fun _ => True) .root) ∧
    ∀ (policy : Policy) (formula : Formula) (query : Query), formula.GroupsFilled →
      formula.raise policy = .ok query → query.Canonical (fun _ => True) .root :=
  ⟨fun _ _ h => (Query.wellFormed_of_parse h).imp fun _ _ => trivial, fun _ h => h.canonical,
    fun _ _ _ hfilled h => Raising.ensures_groupsFilled.canonical hfilled h⟩

/-- A negated group as a text, one built inside another, and a formula with a call of "not". -/
theorem canonical_of_source_of_nested_groups :
    let isNull (name : String) : Query := .ofTest (.named name) (.is .null)
    let check (name : String) : Formula := .call "isNull" [.path name]
    let parsed := Query.negated (.anyOf [isNull "a", isNull "b"])
    let built := Query.anyOf [isNull "a", .allOf [isNull "b", .negated (isNull "c")]]
    let formula : Formula := .any [.all [check "a", .call "not" [check "b"]], check "c"]
    let raised := Query.anyOf [.allOf [isNull "a", .negated (isNull "b")], isNull "c"]
    Query.parse "not (a is null or (b is null))" = .ok parsed ∧
      parsed.Canonical (fun _ => True) .root ∧
      built.Built ∧ built.Canonical (fun _ => True) .root ∧
      formula.GroupsFilled ∧ formula.raise .runtime = .ok raised ∧
      raised.Canonical (fun _ => True) .root := by
  intro isNull check parsed built formula raised
  obtain ⟨hof_parse, hof_built, hof_raise⟩ := canonical_of_source
  have hparse : Query.parse "not (a is null or (b is null))" = .ok parsed := by decide +kernel
  have hraise : formula.raise .runtime = .ok raised := by decide +kernel
  have hbuilt : built.Built := by
    have hinner : (Query.allOf [isNull "b", .negated (isNull "c")]).Built :=
      .allOf (List.cons_ne_nil _ _)
        (List.forall_mem_cons.2 ⟨.ofTest, List.forall_mem_singleton.2 (.negated .ofTest)⟩)
    exact .anyOf (List.cons_ne_nil _ _)
      (List.forall_mem_cons.2 ⟨.ofTest, List.forall_mem_singleton.2 hinner⟩)
  have hfilled : formula.GroupsFilled := by
    have hpath : ∀ name, (Formula.path name).GroupsFilled := fun name =>
      .of_parts (by simp) (List.forall_mem_nil _)
    have hcheck : ∀ name, (check name).GroupsFilled := fun name =>
      .of_parts (by simp [check]) (List.forall_mem_singleton.2 (hpath name))
    have hnot : (Formula.call "not" [check "b"]).GroupsFilled :=
      .of_parts (by simp) (List.forall_mem_singleton.2 (hcheck "b"))
    have hboth : (Formula.all [check "a", .call "not" [check "b"]]).GroupsFilled :=
      .of_parts (by simp) (List.forall_mem_cons.2 ⟨hcheck "a", List.forall_mem_singleton.2 hnot⟩)
    exact .of_parts (by simp [formula])
      (List.forall_mem_cons.2 ⟨hboth, List.forall_mem_singleton.2 (hcheck "c")⟩)
  exact ⟨hparse, hof_parse _ _ hparse, hbuilt, hof_built _ hbuilt, hfilled, hraise,
    hof_raise _ _ _ hfilled hraise⟩

end RecordQuery
