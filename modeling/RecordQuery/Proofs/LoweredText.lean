import Mathlib.Data.List.Chain
import RecordQuery.Proofs.Formula.RoundTrip
import RecordQuery.Proofs.Formula.Soundness
import RecordQuery.Proofs.Lowered

/-! The texts of formulas that queries were lowered to. Queries have names that formulas have not:
those that are reserved words of formulas. A lowered formula without such a path is read back from
its text, with groups of one put in place of the groups, which raising does not see; a lowered
formula with such a path has a text that is no formula. -/

namespace RecordQuery

namespace Formula

mutual

/-- The paths in a formula of calls, comparisons, negations and groups, as queries are lowered to;
other operators are not looked into. -/
def paths : Formula → List String
  | .path name => [name]
  | .call _ arguments => pathsOf arguments
  | .compare _ left right => left.paths ++ right.paths
  | .not operand => operand.paths
  | .all operands | .any operands => pathsOf operands
  | _ => []
termination_by structural formula => formula

/-- The paths in several formulas. -/
def pathsOf : List Formula → List String
  | [] => []
  | formula :: formulas => formula.paths ++ pathsOf formulas
termination_by structural formulas => formulas

end

mutual

/-- A formula with each group of one replaced by its only part, in groups and negations. -/
def collapsed : Formula → Formula
  | .not operand => .not operand.collapsed
  | .all operands => collapse .all (collapsedEach operands)
  | .any operands => collapse .any (collapsedEach operands)
  | formula => formula
termination_by structural formula => formula

/-- Several formulas, each with its groups of one replaced. -/
def collapsedEach : List Formula → List Formula
  | [] => []
  | formula :: formulas => formula.collapsed :: collapsedEach formulas
termination_by structural formulas => formulas

end

theorem collapsedEach_eq_map (formulas : List Formula) :
    collapsedEach formulas = formulas.map collapsed := by
  induction formulas with
  | nil => rfl
  | cons formula formulas ih => rw [collapsedEach, ih, List.map_cons]

/-! ### Reserved words and parentheses -/

/-- Whether no reserved word stands before an opening parenthesis. -/
def Unopened (tokens : List Token) : Prop :=
  tokens.IsChain fun token next => ∀ word, token = .keyword word → next ≠ .sign .leftParen

namespace Unopened

variable {token : Token} {tokens more : List Token}

theorem single (token : Token) : Unopened [token] := List.isChain_singleton token

theorem cons (h : Unopened tokens) (htoken : ∀ word, token ≠ .keyword word) :
    Unopened (token :: tokens) := by
  cases tokens with
  | nil => exact single token
  | cons next tokens => exact .cons_cons (fun word hword => absurd hword (htoken word)) h

theorem sign (h : Unopened tokens) (sign : Sign) : Unopened (.sign sign :: tokens) :=
  h.cons (by simp)

theorem of_no_keyword (h : ∀ word, .keyword word ∉ tokens) : Unopened tokens := by
  induction tokens with
  | nil => exact List.isChain_nil
  | cons token tokens ih =>
    have hrest : Unopened tokens := ih fun word hmem => h word (List.mem_cons_of_mem _ hmem)
    exact hrest.cons fun word hword => h word (hword ▸ List.mem_cons_self)

/-- Tokens on both sides of a sign. -/
theorem append {sign : Sign} (h : Unopened tokens) (h' : Unopened more)
    (hsign : sign ≠ .leftParen) : Unopened (tokens ++ .sign sign :: more) := by
  refine List.isChain_append.2 ⟨h, h'.sign sign, ?_⟩
  intro token _ next hnext word _
  cases hnext
  simpa using hsign

/-- Tokens between parentheses. -/
theorem parens (h : Unopened tokens) :
    Unopened (.sign .leftParen :: (tokens ++ [.sign .rightParen])) :=
  (h.append (List.isChain_nil) (by decide)).sign _

theorem not_infix (h : Unopened tokens) (word : Keyword) :
    ¬ [.keyword word, .sign .leftParen] <:+: tokens := by
  intro hinfix
  have hpair := h.infix hinfix
  rw [List.isChain_pair] at hpair
  exact hpair word rfl rfl

end Unopened

/-! ### Tokens of lowered formulas -/

open RecordQuery.Parser Token

/-- What tokens have to do with a formula that has these names: the names are among them, none of
them opens a conditional or a switch, and if none is reserved, they are read as the formula. -/
structure Renders (level : Nat) (names : List String) (tokens : List Token) (formula : Formula) :
    Prop where
  unopened : Unopened tokens
  named : ∀ name ∈ names, ofWord name ∈ tokens
  reads : (∀ name ∈ names, name ∉ reservedWords) → Reads level tokens formula

/-- What tokens have to do with several formulas, a separator between neighbours. -/
structure RendersEach (separator : Sign) (level : Nat) (names : List String) (tokens : List Token)
    (formulas : List Formula) : Prop where
  unopened : Unopened tokens
  named : ∀ name ∈ names, ofWord name ∈ tokens
  reads : (∀ name ∈ names, name ∉ reservedWords) →
    SeparatedBy (.sign separator) (Reads level) tokens formulas

section Renders

variable {level : Nat} {names others : List String} {tokens more : List Token}
  {formula left right : Formula} {formulas : List Formula} {separator : Sign}

namespace Renders

theorem loosen {tight : Nat} (h : Renders tight names tokens formula) (hle : level ≤ tight) :
    Renders level names tokens formula :=
  ⟨h.unopened, h.named, fun hfree => (h.reads hfree).loosen hle⟩

theorem mem_between (h : Renders level names tokens formula) (before after : List Token) :
    ∀ name ∈ names, ofWord name ∈ before ++ (tokens ++ after) := fun name hname =>
  List.mem_append_right _ (List.mem_append_left _ (h.named name hname))

theorem parens (h : Renders 0 names tokens formula) :
    Renders 7 names (.sign .leftParen :: (tokens ++ [.sign .rightParen])) formula :=
  ⟨h.unopened.parens, h.mem_between [_] _, fun hfree => (h.reads hfree).parens⟩

theorem not (h : Renders 0 names tokens formula) :
    Renders 7 names (.sign .bang :: .sign .leftParen :: (tokens ++ [.sign .rightParen]))
      (.not formula) :=
  ⟨h.unopened.parens.sign .bang, h.mem_between [_, _] _, fun hfree => (h.reads hfree).not⟩

theorem compare (operator : Comparison) (hl : Renders 4 names tokens left)
    (hr : Renders 4 others more right) :
    Renders 3 (names ++ others) (tokens ++ .sign operator.sign :: more)
      (.compare operator left right) := by
  refine ⟨hl.unopened.append hr.unopened (by cases operator <;> decide), ?_, fun hfree => ?_⟩
  · rw [List.forall_mem_append]
    exact ⟨fun name hname => List.mem_append_left _ (hl.named name hname),
      fun name hname => List.mem_append_right _ (List.mem_cons_of_mem _ (hr.named name hname))⟩
  · rw [List.forall_mem_append] at hfree
    exact .compare operator (hl.reads hfree.1) (hr.reads hfree.2)

end Renders

namespace RendersEach

theorem of_separatedBy {g : Formula → Formula} (hsign : separator ≠ .leftParen)
    (h : SeparatedBy (.sign separator) (fun part f => Renders level f.paths part (g f)) tokens
      formulas) : RendersEach separator level (pathsOf formulas) tokens (formulas.map g) := by
  induction h with
  | one hpart =>
    rw [pathsOf, pathsOf, List.append_nil]
    exact ⟨hpart.unopened, hpart.named, fun hfree => .one (hpart.reads hfree)⟩
  | cons hpart _ ih =>
    refine ⟨hpart.unopened.append ih.unopened hsign, ?_, fun hfree => ?_⟩
    · rw [pathsOf, List.forall_mem_append]
      exact ⟨fun name hname => List.mem_append_left _ (hpart.named name hname), fun name hname =>
        List.mem_append_right _ (List.mem_cons_of_mem _ (ih.named name hname))⟩
    · rw [pathsOf, List.forall_mem_append] at hfree
      exact .cons (hpart.reads hfree.1) (ih.reads hfree.2)

theorem call {function : String} (h : RendersEach .comma 0 names tokens formulas) :
    Renders 7 names (.name function :: .sign .leftParen :: (tokens ++ [.sign .rightParen]))
      (.call function formulas) := by
  refine ⟨h.unopened.parens.cons (by simp), fun name hname => ?_, fun hfree => ?_⟩
  · have hmem := List.mem_append_left [.sign .rightParen] (h.named name hname)
    exact List.mem_cons_of_mem _ (List.mem_cons_of_mem _ hmem)
  · exact .call function (.some (h.reads hfree))

/-- Operands of a group, or the only one for itself. -/
theorem collapse {build : List Formula → Formula}
    (h : RendersEach separator (level + 1) names tokens formulas)
    (hbuild : SeparatedBy (.sign separator) (Reads (level + 1)) tokens formulas →
      2 ≤ formulas.length → Reads level tokens (build formulas)) :
    Renders level names tokens (collapse build formulas) := by
  refine ⟨h.unopened, h.named, fun hfree => ?_⟩
  have hreads := h.reads hfree
  by_cases hlength : 2 ≤ formulas.length
  · rw [Grammar.collapse_of_length hlength]
    exact hbuild hreads hlength
  · cases hreads with
    | one hpart => exact hpart.loosen (Nat.le_succ _)
    | cons _ hrest =>
      have hpos := List.length_pos_iff.2 hrest.ne_nil
      exact absurd (Nat.succ_le_succ hpos) hlength

end RendersEach

end Renders

theorem forall_mem_pathsOf {p : String → Prop} {formulas : List Formula}
    (h : ∀ formula ∈ formulas, ∀ name ∈ formula.paths, p name) :
    ∀ name ∈ pathsOf formulas, p name := by
  induction formulas with
  | nil => exact List.forall_mem_nil _
  | cons formula formulas ih =>
    rw [List.forall_mem_cons] at h
    rw [pathsOf, List.forall_mem_append]
    exact ⟨h.1, ih h.2⟩

theorem Atom.isName_of_mem_paths {formula : Formula} (h : formula.Atom) :
    ∀ name ∈ formula.paths, Query.IsName name := by
  cases h with
  | path hname => exact List.forall_mem_singleton.2 hname
  | allFields => exact List.forall_mem_nil _
  | literal _ => exact List.forall_mem_nil _

theorem Lowered.isName_of_mem_paths {formula : Formula} (h : formula.Lowered) :
    ∀ name ∈ formula.paths, Query.IsName name := by
  induction h with
  | call _ _ hatoms =>
    exact forall_mem_pathsOf fun argument hargument =>
      (hatoms argument hargument).isName_of_mem_paths
  | compare hleft hright =>
    rw [paths, List.forall_mem_append]
    exact ⟨hleft.isName_of_mem_paths, hright.isName_of_mem_paths⟩
  | not _ ih => exact ih
  | all _ _ ih => exact forall_mem_pathsOf ih
  | any _ _ ih => exact forall_mem_pathsOf ih

/-- A name of queries that is reserved in formulas is read as a word of conditionals or switches. -/
theorem exists_keyword {name : String} (h : Query.IsName name) (hreserved : name ∈ reservedWords) :
    ∃ word, ofWord name = .keyword word := by
  have hall : ∀ word ∈ reservedWords, word = "true" ∨ word = "false" ∨
      ∃ keyword, ofWord word = .keyword keyword := by
    simp [reservedWords, ofWord]
  rcases hall name hreserved with htrue | hfalse | hword
  · exact absurd htrue h.notTruth.1
  · exact absurd hfalse h.notTruth.2
  · exact hword

theorem Atom.exists_tokens {formula : Formula} (h : formula.Atom) :
    ∃ tokens, Writes formula.render tokens ∧ Renders 7 formula.paths tokens formula := by
  cases h with
  | @path name hname =>
    refine ⟨_, writes_word hname.starts hname.continues, .single _, ?_, fun hfree => ?_⟩
    · exact List.forall_mem_singleton.2 List.mem_cons_self
    · have hname := ofWord_of_notMem (hfree name List.mem_cons_self)
      exact hname ▸ .path name
  | allFields =>
    exact ⟨_, signs_star.of_all, .single _, List.forall_mem_nil _, fun _ => .allFields⟩
  | literal hvalue =>
    obtain ⟨tokens, htext, hreads, hword⟩ := isSpelled_literal hvalue
    exact ⟨tokens, htext, .of_no_keyword hword, List.forall_mem_nil _, fun _ => hreads⟩

theorem Atom.operandText {formula : Formula} (h : formula.Atom) (text : String) :
    operandText 4 formula text = text := by
  cases h <;> rfl

/-- The operands of a group, each in parentheses where it is too loose. -/
theorem exists_collapsed (least : Nat) {separator : String} {sign : Sign}
    {formulas : List Formula} (hleast : least ≤ 7) (hs : Signs separator [.sign sign])
    (hc : separator.toList.head?.any endsWord = true) (hsign : sign ≠ .leftParen)
    (hne : formulas ≠ [])
    (h : ∀ f ∈ formulas, ∃ tokens, Writes f.render tokens ∧
      Renders f.precedence f.paths tokens f.collapsed) :
    ∃ tokens, Writes (Text.joined separator (renderOperands least formulas)) tokens ∧
      RendersEach sign least (pathsOf formulas) tokens (formulas.map collapsed) := by
  rw [renderOperands_eq_map]
  obtain ⟨tokens, htext, hparts⟩ :=
    exists_separated hs hc hne fun f hf =>
      exists_operand (r := fun level tokens => Renders level f.paths tokens f.collapsed)
        Renders.loosen Renders.parens hleast (h f hf)
  exact ⟨tokens, htext, .of_separatedBy hsign hparts⟩

/-- The text of a lowered formula, as far as its paths let it be read. -/
theorem Lowered.exists_tokens {formula : Formula} (h : formula.Lowered) :
    ∃ tokens, Writes formula.render tokens ∧
      Renders formula.precedence formula.paths tokens formula.collapsed := by
  induction h with
  | call hname hne hatoms =>
    obtain ⟨tokens, htext, hparts⟩ := exists_separated signs_comma (by decide +kernel) hne
      fun argument hargument => (hatoms argument hargument).exists_tokens
    have harguments := RendersEach.of_separatedBy (g := id) (by decide) <|
      hparts.imp fun hpart => hpart.loosen (Nat.zero_le 7)
    have hopen := (writes_name hname).concat (by decide +kernel) signs_leftParen
    rw [List.map_id] at harguments
    rw [← renderAll_eq_map] at htext
    exact ⟨_, writes_between hopen htext signs_rightParen (by decide +kernel), harguments.call⟩
  | @compare operator left right hleft hright =>
    obtain ⟨tokens, htokens, hl⟩ := hleft.exists_tokens
    obtain ⟨more, hmore, hr⟩ := hright.exists_tokens
    have htext := htokens.separated (signs_comparison operator)
      (by cases operator <;> decide +kernel) hmore
    refine ⟨_, ?_, .compare operator (hl.loosen (by decide)) (hr.loosen (by decide))⟩
    rw [render, hleft.operandText, hright.operandText]
    simpa only [String.append_assoc] using htext
  | not _ ih =>
    obtain ⟨tokens, htext, hrenders⟩ := ih
    exact ⟨_, writes_between signs_bang htext signs_rightParen (by decide +kernel),
      (hrenders.loosen (Nat.zero_le _)).not⟩
  | all hne _ ih =>
    obtain ⟨tokens, htext, hrenders⟩ :=
      exists_collapsed 3 (by decide) signs_andAnd (by decide +kernel) (by decide) hne ih
    refine ⟨tokens, htext, ?_⟩
    rw [collapsed, collapsedEach_eq_map]
    exact hrenders.collapse .all
  | any hne _ ih =>
    obtain ⟨tokens, htext, hrenders⟩ :=
      exists_collapsed 2 (by decide) signs_orOr (by decide +kernel) (by decide) hne ih
    refine ⟨tokens, htext, ?_⟩
    rw [collapsed, collapsedEach_eq_map]
    exact hrenders.collapse .any

end Formula

/-! ### Raising what the text is read as -/

open Formula (collapse collapsed)

section Raising

variable {policy : Policy} {types : Option FieldTypes} {formula : Formula}
  {formulas : List Formula}

theorem Lowering.composite_eq_collapse {connective : Connective}
    {build : List Formula → Formula} (hne : formulas ≠ []) :
    composite connective build formulas = .ok (collapse build formulas) := by
  match formulas, hne with
  | [_], _ => rfl
  | _ :: _ :: _, _ => rfl

theorem Lowering.composite_collapsed {connective : Connective} {build : List Formula → Formula}
    (hbuild : ∀ formulas, (build formulas).collapsed = collapse build (formulas.map collapsed))
    (h : composite connective build formulas = .ok formula) :
    composite connective build (formulas.map collapsed) = .ok formula.collapsed := by
  match formulas, h with
  | [_], rfl => rfl
  | first :: second :: rest, h =>
    cases h
    rw [hbuild]
    exact composite_eq_collapse (by simp)

theorem Lowering.collapsed_guarded {guards : List Formula} {operator : Comparison}
    {left right : Formula} (hguards : ∀ guard ∈ guards, guard.collapsed = guard) :
    (guarded guards (.compare operator left right)).collapsed =
      guarded guards (.compare operator left right) := by
  cases guards with
  | nil => rfl
  | cons guard guards =>
    have hparts : ∀ part ∈ guard :: guards ++ [.compare operator left right],
        part.collapsed = part := by
      rw [List.forall_mem_append, List.forall_mem_singleton]
      exact ⟨hguards, rfl⟩
    unfold guarded
    rw [Formula.collapsed, Formula.collapsedEach_eq_map,
      (List.map_congr_left hparts).trans (List.map_id _)]
    exact Formula.Grammar.collapse_of_length (by simp)

theorem Lowering.collapsed_checkField {path : String} {check : Check}
    (h : checkField types path check = .ok formula) : formula.collapsed = formula := by
  unfold checkField at h
  split at h
  · split at h
    · cases h
    · obtain ⟨type, _, rfl⟩ := except_map_eq_ok.1 h
      rfl
  · cases h
    rfl

theorem Lowering.collapsed_checkAll {strategy : WildcardStrategy} {check : Check}
    (h : checkAll strategy types check = .ok formula) :
    formula.collapsed = formula ∨ ∃ dictionary, strategy = .expand ∧ types = some dictionary ∧
      dictionary.entries ≠ [] ∧ formula = expand dictionary check := by
  unfold checkAll at h
  split at h
  · cases h
  · cases h
    exact .inl rfl
  · cases h
    exact .inl rfl
  · cases h
  · split at h
    · cases h
    · next dictionary =>
      split at h
      · cases h
      · next hne =>
        cases h
        exact .inr ⟨dictionary, rfl, rfl, by simpa [FieldTypes.isEmpty] using hne, rfl⟩

/-- Only a check of every field that is expanded has groups that may be of one. -/
theorem Lowering.collapsed_predicate {predicate : Predicate}
    (h : Lowering.predicate policy types predicate = .ok formula) :
    formula.collapsed = formula ∨
      ∃ check dictionary, predicate = ⟨.all, .is check⟩ ∧ policy.wildcard = .expand ∧
        types = some dictionary ∧ dictionary.entries ≠ [] ∧ formula = expand dictionary check := by
  rcases predicate with ⟨field, test⟩
  cases test with
  | compare operator operand =>
    obtain ⟨path, rfl, hafter⟩ := pathOf_bind_eq_ok h
    obtain ⟨right, _, hend⟩ := except_bind_eq_ok.1 hafter
    cases hend
    refine .inl (collapsed_guarded ?_)
    split
    · intro guard hguard
      obtain ⟨name, -, rfl⟩ := exists_numericGuard hguard
      rfl
    · exact List.forall_mem_nil _
  | between range =>
    obtain ⟨path, rfl, hafter⟩ := pathOf_bind_eq_ok h
    obtain ⟨left, _, hrest⟩ := except_bind_eq_ok.1 hafter
    obtain ⟨right, _, hend⟩ := except_bind_eq_ok.1 hrest
    cases hend
    exact .inl rfl
  | oneOf values =>
    cases values with
    | nil => cases h
    | cons value values =>
      obtain ⟨path, rfl, hafter⟩ := pathOf_bind_eq_ok h
      obtain ⟨arguments, _, hend⟩ := except_bind_eq_ok.1 hafter
      cases hend
      exact .inl rfl
  | contains text caseSensitive =>
    obtain ⟨path, rfl, hafter⟩ := pathOf_bind_eq_ok h
    cases hafter
    exact .inl rfl
  | matching regex =>
    obtain ⟨path, rfl, hafter⟩ := pathOf_bind_eq_ok h
    cases hafter
    exact .inl rfl
  | complies kind pattern =>
    obtain ⟨path, rfl, hafter⟩ := pathOf_bind_eq_ok h
    obtain ⟨regex, _, hend⟩ := except_bind_eq_ok.1 hafter
    cases hend
    exact .inl rfl
  | is check =>
    cases field with
    | named path => exact .inl (collapsed_checkField h)
    | all =>
      rcases collapsed_checkAll h with hself | ⟨dictionary, hstrategy, htypes, hne, rfl⟩
      · exact .inl hself
      · exact .inr ⟨check, dictionary, rfl, hstrategy, htypes, hne, rfl⟩

/-- Checks of the known fields come back, a single one without a group around it too. -/
theorem returns_expand_collapsed {dictionary : FieldTypes} (hne : dictionary.entries ≠ [])
    (check : Check) :
    Returns policy (Lowering.expand dictionary check).collapsed (check.spread dictionary) := by
  have heach : ∀ entries : List (String × String), ReturnsEach policy
      ((entries.map fun entry => Lowering.checkCall check entry.1 entry.2).map collapsed)
      (entries.map fun entry => .leaf ⟨.named entry.1, .is check⟩) := by
    intro entries
    induction entries with
    | nil => exact .nil
    | cons entry entries ih => exact ih.cons (returns_checkCall check entry.1 entry.2)
  have hreturns := heach dictionary.entries
  have hleaves : dictionary.entries.map (fun entry => Query.leaf ⟨.named entry.1, .is check⟩) ≠
      [] := by simpa using hne
  cases check with
  | valid =>
    refine hreturns.all hleaves ?_
    rw [Lowering.expand, collapsed, Formula.collapsedEach_eq_map]
    exact Lowering.composite_eq_collapse (by simpa using hne)
  | null | empty | invalid =>
    refine hreturns.any hleaves ?_
    rw [Lowering.expand, collapsed, Formula.collapsedEach_eq_map]
    exact Lowering.composite_eq_collapse (by simpa using hne)

/-- Raising does not see whether a group of one has been replaced by its only part. -/
theorem regroups_collapsed (policy : Policy) (types : Option FieldTypes) :
    Regroups policy types collapsed where
  any := fun h => Lowering.composite_collapsed
    (fun formulas => by rw [collapsed, Formula.collapsedEach_eq_map]) h
  all := fun h => Lowering.composite_collapsed
    (fun formulas => by rw [collapsed, Formula.collapsedEach_eq_map]) h
  not := fun _ => rfl
  predicate := by
    intro predicate formula hfit h
    rcases Lowering.collapsed_predicate h with hself | ⟨check, dictionary, rfl, hw, rfl, hne, rfl⟩
    · rw [hself]
      exact returns_predicate hfit h
    · have hreturned : Predicate.returned policy (some dictionary) ⟨.all, .is check⟩ =
          check.spread dictionary := by
        simp only [Predicate.returned, hw]
      rw [hreturned]
      exact returns_expand_collapsed hne check

end Raising

/-- The text of a formula that a parsed query was lowered to, under a dictionary of fields that
queries can name and of types without backslashes. If no path of it is a reserved word of formulas,
it is read as that formula, but for groups of one, and raised to what the formula itself is raised
to; if a path is, it is no formula. -/
theorem raiseText_render_lower {text : String} {policy : Policy} {types : Option FieldTypes}
    {query : Query} {formula : Formula} (hparse : Query.parse text = .ok query)
    (htypes : ∀ dictionary ∈ types, dictionary.Plain)
    (hlower : query.lower policy types = .ok formula) :
    ((∀ name ∈ formula.paths, name ∉ Formula.reservedWords) →
      Formula.parse formula.render = .ok formula.collapsed ∧
        Formula.raiseText policy formula.render = formula.raise policy) ∧
    ((∃ name ∈ formula.paths, name ∈ Formula.reservedWords) →
      ∀ other, Formula.parse formula.render ≠ .ok other) := by
  have hquery := Query.wellFormed_of_parse hparse
  have hlowered := Query.lowered_of_lower hquery htypes formula hlower
  obtain ⟨tokens, htext, hrenders⟩ := hlowered.exists_tokens
  have hfit := hquery.imp fun _ h => (Predicate.wellFormed_iff.1 h).2.2
  constructor
  · intro hfree
    have hwritten : Formula.IsWritten formula.precedence formula.render formula.collapsed :=
      ⟨tokens, htext, hrenders.reads hfree⟩
    refine ⟨hwritten.parse_eq, ?_⟩
    rw [Formula.raiseText, hwritten.parse_eq, raise_of_root hfit hlower]
    exact (regroups_collapsed policy types).raise_of_root hfit hlower
  · rintro ⟨name, hname, hreserved⟩
    obtain ⟨word, hword⟩ :=
      Formula.exists_keyword (hlowered.isName_of_mem_paths name hname) hreserved
    have hmem : .keyword word ∈ tokens := hword ▸ hrenders.named name hname
    exact Formula.parse_ne_ok_of_keyword (htext.spelled Formula.Token.orderly_read .start) hmem
      hrenders.unopened.not_infix

/-- A guarded comparison, and a check of every field under a dictionary of one. -/
theorem raiseText_render_lower_of_only_field :
    ∃ query formula, ∃ types : FieldTypes,
      Query.parse "a < -2.50 and not * is valid" = .ok query ∧
      query.lower ⟨.expand, .always, true⟩ (some types) = .ok formula ∧
      formula.render =
        "(matches(a, '^-?\\d+(\\.\\d+)?$') && a < -2.50) && !(isValid(b, 'CITY'))" ∧
      Formula.raiseText ⟨.expand, .always, true⟩ formula.render =
        formula.raise ⟨.expand, .always, true⟩ := by
  have hparse : Query.parse "a < -2.50 and not * is valid" = .ok (.any [.all [
      .leaf ⟨.named "a", .compare .lt (.literal ⟨.decimal, "-2.50"⟩)⟩,
      .not (.any [.all [.leaf ⟨.all, .is .valid⟩]])]]) := by
    decide +kernel
  have hplain : ∀ dictionary ∈ some (FieldTypes.empty.insert "b" "CITY"), dictionary.Plain := by
    rintro dictionary ⟨⟩
    have hname : Query.IsName "b" :=
      ⟨by decide +kernel, List.all_eq_true.1 (by decide +kernel), by decide, by decide +kernel⟩
    exact ⟨List.forall_mem_singleton.2 hname, List.forall_mem_singleton.2 (by decide)⟩
  have hlower : Query.lower ⟨.expand, .always, true⟩ (some (FieldTypes.empty.insert "b" "CITY"))
      (.any [.all [.leaf ⟨.named "a", .compare .lt (.literal ⟨.decimal, "-2.50"⟩)⟩,
        .not (.any [.all [.leaf ⟨.all, .is .valid⟩]])]]) =
      .ok (.all [.all [Lowering.numericGuard "a", .compare .lt (.path "a")
        (.literal (.decimal ⟨true, 250, 2, by decide, by decide⟩))],
        .not (.all [.call "isValid" [.path "b", .string "CITY"]])]) := by
    rfl
  have hfree : ∀ name ∈ ["a", "a", "b"], name ∉ Formula.reservedWords := by decide
  exact ⟨_, _, _, hparse, hlower, by decide +kernel,
    ((raiseText_render_lower hparse hplain hlower).1 hfree).2⟩

/-- A field that queries can name and formulas cannot: the comparison with it comes back from its
formula, but not from the text of that. -/
theorem exists_lowered_not_read_back :
    ∃ query formula, Query.parse "if = 1" = .ok query ∧
      query.lower .generic none = .ok formula ∧ formula.raise .generic = .ok query ∧
      formula.render = "if == 1" ∧ ∀ other, Formula.parse "if == 1" ≠ .ok other := by
  refine ⟨.any [.all [.leaf ⟨.named "if", .compare .eq (.literal ⟨.integer, "1"⟩)⟩]],
    .compare .eq (.path "if") (.literal (.int 1)), ?_, rfl, ?_, ?_, fun other h => ?_⟩
  · decide +kernel
  · decide +kernel
  · decide +kernel
  · have hfails : (Formula.parse "if == 1").toBool = false := by decide +kernel
    rw [h] at hfails
    cases hfails

end RecordQuery
