import RecordQuery.Proofs.Formula.Literals

/-! What formulas are made of that have been parsed: names and literals that can be read, and
operands under every "and" and "or". Where a reserved word is among the tokens of a formula, an
opening parenthesis follows one: nothing else begins with a reserved word than conditionals and
switches (`exists_makes`). -/

namespace RecordQuery

open RecordQuery.Parser

/-- A literal that can be read: its integers fit their types. -/
def Value.WellFormed : Value → Prop
  | .int n => Integer.fits32 n = true
  | .long n => Integer.fits64 n = true
  | _ => True

theorem Value.wellFormed_negate {value : Value} (h : value.WellFormed) :
    value.negate.WellFormed := by
  cases value with
  | int n =>
    have h : Integer.fits32 n = true := h
    rw [Value.negate]
    split
    · next h32 => exact h32
    · show Integer.fits64 (-n) = true
      rw [Formula.fits32_iff] at h
      rw [Formula.fits64_iff]
      omega
  | long n =>
    rw [Value.negate]
    split
    · next h32 => exact h32
    · split
      · next h64 => exact h64
      · split
        · trivial
        · exact h
  | _ => trivial

namespace Formula

/-- A formula that can be parsed, as far as its operators, functions and conditions go: its names
and literals can be read, and no "and" or "or" is without operands. -/
inductive WellFormed : Formula → Prop
  | path {name : String} : IsName name → WellFormed (.path name)
  | allFields : WellFormed .allFields
  | literal {value : Value} : value.WellFormed → WellFormed (.literal value)
  | call {function : String} {arguments : List Formula} :
      (∀ argument ∈ arguments, WellFormed argument) → WellFormed (.call function arguments)
  | compare {operator : Comparison} {left right : Formula} :
      WellFormed left → WellFormed right → WellFormed (.compare operator left right)
  | all {operands : List Formula} :
      operands ≠ [] → (∀ operand ∈ operands, WellFormed operand) → WellFormed (.all operands)
  | any {operands : List Formula} :
      operands ≠ [] → (∀ operand ∈ operands, WellFormed operand) → WellFormed (.any operands)
  | not {operand : Formula} : WellFormed operand → WellFormed (.not operand)
  | assignment {target value : Formula} :
      WellFormed target → WellFormed value → WellFormed (.assignment target value)
  | arithmetic {operator : Arithmetic} {left right : Formula} :
      WellFormed (.arithmetic operator left right)
  | conditional {branches : List (Formula × Formula)} {otherwise : Option Formula} :
      WellFormed (.conditional branches otherwise)
  | switch {subject : Formula} {cases : List (Formula × List Formula)}
      {fallback : Option (List Formula)} : WellFormed (.switch subject cases fallback)
  | array {items : List Formula} : WellFormed (.array items)
  | block {items : List Formula} : WellFormed (.block items)

namespace Token

/-! ### Tokens that are read -/

/-- A token as it can be read. -/
def WellFormed : Token → Prop
  | .literal value => value.WellFormed
  | .name text => IsName text
  | _ => True

theorem wellFormed_ofWord {word : String} (hs : word.toList.head?.any startsName = true)
    (hc : ∀ c ∈ word.toList, continuesName c = true) : (ofWord word).WellFormed := by
  by_cases hfree : word ∈ reservedWords
  · simp only [reservedWords, List.mem_cons, List.not_mem_nil, or_false] at hfree
    rcases hfree with rfl | rfl | rfl | rfl | rfl | rfl | rfl | rfl <;> trivial
  · have hname : IsName word := ⟨hs, hc, hfree⟩
    simp only [reservedWords, List.mem_cons, List.not_mem_nil, or_false, not_or] at hfree
    obtain ⟨htrue, hfalse, hif, helse, helseIf, hswitch, hcase, hdefault⟩ := hfree
    unfold ofWord
    rwa [if_neg htrue, if_neg hfalse, if_neg hif, if_neg helse, if_neg helseIf, if_neg hswitch,
      if_neg hcase, if_neg hdefault]

theorem wellFormed_ofInteger {digits : List Char} {token : Token}
    (h : ofInteger digits = .ok token) : token.WellFormed := by
  unfold ofInteger at h
  simp only at h
  split at h
  · next h32 => cases h; exact h32
  · split at h
    · next h64 => cases h; exact h64
    · split at h <;> cases h
      trivial

theorem wellFormed_ofLong {digits : List Char} {token : Token} (h : ofLong digits = .ok token) :
    token.WellFormed := by
  unfold ofLong at h
  simp only at h
  split at h
  · next h64 => cases h; exact h64
  · split at h <;> cases h
    trivial

theorem wellFormed_ofNumber {whole fraction : List Char} {suffix : Option Suffix} {token : Token}
    (h : ofNumber whole fraction suffix = .ok token) : token.WellFormed := by
  unfold ofNumber at h
  rcases suffix with _ | _ | _
  · simp only at h
    split at h
    · exact wellFormed_ofInteger h
    · split at h <;> cases h
      trivial
  · simp only at h
    split at h
    · exact wellFormed_ofLong h
    · cases h
  · simp only at h
    split at h <;> cases h
    trivial

theorem wellFormed_of_readNumber {chars : List Char} {token : Token}
    (h : (readNumber chars).token = .ok token) : token.WellFormed := by
  unfold readNumber at h
  simp only at h
  generalize (spanNumber chars).1.length +
    (if (spanNumber chars).2.isEmpty = true then 0 else (spanNumber chars).2.length + 1) =
      length at h
  split at h
  · cases h
  · next read hread =>
    have hwell := wellFormed_ofNumber hread
    split at h
    · cases h; exact hwell
    · split at h <;> cases h
      exact hwell

theorem wellFormed_of_readString {quote : Char} {chars : List Char} {token : Token}
    (h : (readString quote chars).token = .ok token) : token.WellFormed := by
  unfold readString at h
  split at h <;> cases h
  trivial

theorem wellFormed_of_read {chars : List Char} {token : Token}
    (h : (read chars).token = .ok token) : token.WellFormed := by
  unfold read at h
  split at h
  case h_28 => exact wellFormed_of_readString h
  case h_29 => exact wellFormed_of_readString h
  case h_30 =>
    split at h
    · exact wellFormed_of_readNumber h
    · split at h
      · next hs =>
        cases h
        have hc := Query.Token.continuesName_of_startsName hs
        refine wellFormed_ofWord ?_ ?_
        · rw [← continuesName_eq] at hc
          simp [hc, hs]
        · rw [String.toList_ofList]
          exact List.all_eq_true.1 (List.all_takeWhile ..)
      · cases h
  all_goals
    cases h
    try trivial

end Token

/-! ### What tokens make -/

open Token Grammar

/-- Where a reserved word is among the tokens, an opening parenthesis follows one. -/
def Opened (tokens : List Token) : Prop :=
  (∃ word, Token.keyword word ∈ tokens) →
    ∃ word, [Token.keyword word, .sign .leftParen] <:+: tokens

/-- The tokens have an opening parenthesis behind a reserved word if they have one at all, and what
is made of them is as it should be if they can be read. -/
structure Makes (tokens : List Token) (result : Prop) : Prop where
  opened : Opened tokens
  result : (∀ token ∈ tokens, token.WellFormed) → result

namespace Makes

variable {tokens more : List Token} {P Q : Prop}

theorem imp (h : Makes tokens P) (hi : P → Q) : Makes tokens Q :=
  ⟨h.opened, fun hw => hi (h.result hw)⟩

theorem of_nil (h : P) : Makes [] P :=
  ⟨fun ⟨_, hmem⟩ => absurd hmem List.not_mem_nil, fun _ => h⟩

theorem append (h : Makes tokens P) (h' : Makes more Q) : Makes (tokens ++ more) (P ∧ Q) := by
  refine ⟨?_, fun hw => ?_⟩
  · rintro ⟨word, hmem⟩
    rcases List.mem_append.1 hmem with hmem | hmem
    · obtain ⟨opener, hinfix⟩ := h.opened ⟨word, hmem⟩
      exact ⟨opener, hinfix.trans (List.prefix_append ..).isInfix⟩
    · obtain ⟨opener, hinfix⟩ := h'.opened ⟨word, hmem⟩
      exact ⟨opener, hinfix.trans (List.suffix_append ..).isInfix⟩
  · rw [List.forall_mem_append] at hw
    exact ⟨h.result hw.1, h'.result hw.2⟩

/-- A token that is no reserved word makes what can be read of it. -/
theorem single {token : Token} (hne : ∀ word, token ≠ .keyword word) :
    Makes [token] token.WellFormed := by
  refine ⟨?_, fun hw => hw token (List.mem_singleton_self token)⟩
  rintro ⟨word, hmem⟩
  exact absurd (List.mem_singleton.1 hmem).symm (hne word)

theorem sign (s : Sign) (h : Makes tokens P) : Makes (.sign s :: tokens) P := by
  have hsign : Makes [.sign s] (Token.WellFormed (.sign s)) := single (by simp)
  exact (hsign.append h).imp And.right

/-- Any tokens may follow a reserved word and an opening parenthesis. -/
theorem keyword (word : Keyword) (h : P) : Makes (.keyword word :: .sign .leftParen :: tokens) P :=
  ⟨fun _ => ⟨word, (List.prefix_append [_, _] tokens).isInfix⟩, fun _ => h⟩

theorem of_separatedBy {α : Type} {separator : Sign} {P : α → Prop} {values : List α}
    (h : SeparatedBy (.sign separator) (fun part value => Makes part (P value)) tokens values) :
    Makes tokens (∀ value ∈ values, P value) := by
  induction h with
  | one hpart => exact hpart.imp fun h => List.forall_mem_singleton.2 h
  | cons hpart _ ih =>
    exact (hpart.append (ih.sign separator)).imp fun ⟨h, hs⟩ => List.forall_mem_cons.2 ⟨h, hs⟩

end Makes

section Operators

variable {primary item : Parser Token Formula}

/-- What the parser makes a formula of is as `Makes` says. -/
def SoundItem (item : Parser Token Formula) : Prop :=
  Sound item fun tokens formula => Makes tokens formula.WellFormed

theorem isSign_eq {sign : Sign} (token : Token) (h : token.isSign sign = true) :
    token = .sign sign :=
  isSign_iff.1 h

theorem WellFormed.negate {formula : Formula} (h : formula.WellFormed) :
    formula.negate.WellFormed := by
  unfold Formula.negate
  split
  · split
    · cases h with
      | literal h => exact .literal (Value.wellFormed_negate h)
    · exact .arithmetic
  · exact .arithmetic

theorem sound_unaryOf (hprimary : SoundItem primary) (count : Nat) :
    SoundItem (unaryOf primary count) := by
  induction count with
  | zero => exact hprimary
  | succ count ih =>
    intro before after formula h
    unfold unaryOf at h
    rw [current_bind] at h
    cases hc : before.current with
    | sign s =>
      rw [hc] at h
      cases s with
      | bang =>
        obtain ⟨_, h, hbang⟩ := Sound.advance_bind hc (by nofun) h
        obtain ⟨operand, tokens, rfl, hr, hmakes⟩ := ih.map h
        exact ⟨_, hbang hr, (hmakes.sign .bang).imp .not⟩
      | minus =>
        obtain ⟨middle, h, hminus⟩ := Sound.advance_bind hc (by nofun) h
        rw [current_bind] at h
        by_cases hleast : middle.current = .leastLong
        · rw [hleast] at h
          obtain ⟨rfl, hr⟩ := Sound.advance_pure hleast (by nofun) h
          have hmakes : Makes [.leastLong] (Token.WellFormed .leastLong) := .single (by simp)
          have hfits : Integer.fits64 (-leastLongMagnitude) = true := by decide
          exact ⟨_, hminus hr, (hmakes.sign .minus).imp fun _ => .literal hfits⟩
        · replace h : (do return (← unaryOf primary count).negate) middle = .ok formula after := by
            cases hc : middle.current with
            | leastLong => exact absurd hc hleast
            | _ => rw [hc] at h; exact h
          obtain ⟨operand, tokens, rfl, hr, hmakes⟩ := ih.map h
          exact ⟨_, hminus hr, (hmakes.sign .minus).imp .negate⟩
      | _ => exact hprimary _ _ _ h
    | _ => rw [hc] at h; exact hprimary _ _ _ h

theorem sound_unary (hprimary : SoundItem primary) : SoundItem (unary primary) := by
  intro before after formula h
  obtain ⟨count, _, hb, h⟩ := bind_eq_ok.1 h
  cases hb
  exact sound_unaryOf hprimary _ _ _ _ h

/-- The operators that chains are made of are signs. -/
theorem sound_chain {operator? : Token → Option Arithmetic}
    (hoperator : ∀ token operator, operator? token = some operator → ∃ s, token = .sign s)
    (hitem : SoundItem item) (count : Nat) {left : Formula} :
    Sound (chain operator? item count left) fun tokens formula =>
      Makes tokens (left.WellFormed → formula.WellFormed) := by
  induction count generalizing left with
  | zero =>
    intro before after formula h
    obtain ⟨rfl, rfl⟩ := pure_eq_ok.1 h
    exact ⟨[], .nil, .of_nil id⟩
  | succ count ih =>
    intro before after formula h
    unfold chain at h
    rw [current_bind] at h
    cases hc : operator? before.current with
    | some operator =>
      rw [hc] at h
      obtain ⟨s, hs⟩ := hoperator _ _ hc
      obtain ⟨_, h, hsign⟩ := Sound.advance_bind hs (by nofun) h
      obtain ⟨right, _, hright, h⟩ := bind_eq_ok.1 h
      obtain ⟨part, hr1, hmakes1⟩ := hitem _ _ _ hright
      obtain ⟨rest, hr2, hmakes2⟩ := ih _ _ _ h
      exact ⟨_, hsign (hr1.append hr2), ((hmakes1.append hmakes2).sign s).imp
        fun ⟨_, hrest⟩ _ => hrest .arithmetic⟩
    | none =>
      rw [hc] at h
      obtain ⟨rfl, rfl⟩ := pure_eq_ok.1 h
      exact ⟨[], .nil, .of_nil id⟩

theorem sound_chained {operator? : Token → Option Arithmetic}
    (hoperator : ∀ token operator, operator? token = some operator → ∃ s, token = .sign s)
    (hitem : SoundItem item) : SoundItem (chained operator? item) := by
  intro before after formula h
  obtain ⟨left, _, hleft, h⟩ := bind_eq_ok.1 h
  obtain ⟨count, _, hb, h⟩ := bind_eq_ok.1 h
  cases hb
  obtain ⟨first, hr1, hmakes1⟩ := hitem _ _ _ hleft
  obtain ⟨rest, hr2, hmakes2⟩ := sound_chain hoperator hitem _ _ _ _ h
  exact ⟨_, hr1.append hr2, (hmakes1.append hmakes2).imp fun ⟨hw, hrest⟩ => hrest hw⟩

theorem sound_sum (hprimary : SoundItem primary) : SoundItem (sum primary) := by
  refine sound_chained ?_ (sound_chained ?_ (sound_unary hprimary))
  · intro token operator h
    unfold additive? at h
    split at h
    · exact ⟨_, rfl⟩
    · exact ⟨_, rfl⟩
    · cases h
  · intro token operator h
    unfold multiplicative? at h
    split at h
    · exact ⟨_, rfl⟩
    · exact ⟨_, rfl⟩
    · exact ⟨_, rfl⟩
    · cases h

theorem sign_of_comparison? {token : Token} {operator : Comparison}
    (h : comparison? token = some operator) : ∃ s, token = .sign s := by
  unfold comparison? at h
  split at h
  case h_7 => cases h
  all_goals exact ⟨_, rfl⟩

theorem sound_compared (hprimary : SoundItem primary) : SoundItem (compared primary) := by
  intro before after formula h
  obtain ⟨left, middle, hleft, h⟩ := bind_eq_ok.1 h
  obtain ⟨first, hr1, hmakes1⟩ := sound_sum hprimary _ _ _ hleft
  rw [current_bind] at h
  cases hc : comparison? middle.current with
  | some operator =>
    rw [hc] at h
    obtain ⟨s, hs⟩ := sign_of_comparison? hc
    obtain ⟨_, h, hsign⟩ := Sound.advance_bind hs (by nofun) h
    obtain ⟨right, rest, rfl, hr2, hmakes2⟩ := (sound_sum hprimary).map h
    exact ⟨_, hr1.append (hsign hr2), (hmakes1.append (hmakes2.sign s)).imp
      fun ⟨hl, hr⟩ => .compare hl hr⟩
  | none =>
    rw [hc] at h
    obtain ⟨rfl, rfl⟩ := pure_eq_ok.1 h
    exact ⟨_, hr1, hmakes1⟩

theorem wellFormed_collapse {build : List Formula → Formula} {operands : List Formula}
    (hbuild : operands ≠ [] → (∀ operand ∈ operands, operand.WellFormed) →
      (build operands).WellFormed)
    (hne : operands ≠ []) (h : ∀ operand ∈ operands, operand.WellFormed) :
    (collapse build operands).WellFormed := by
  unfold collapse
  split
  · exact h _ (List.mem_singleton_self _)
  · exact hbuild hne h

theorem sound_disjunction (hprimary : SoundItem primary) : SoundItem (disjunction primary) := by
  intro before after formula h
  have hconjunction : SoundItem (do
      return collapse .all (← separated (·.isSign .andAnd) (compared primary))) := by
    intro before after formula h
    obtain ⟨operands, tokens, rfl, hr, hsep⟩ :=
      ((sound_compared hprimary).separated isSign_eq (by nofun)).map h
    exact ⟨tokens, hr, (Makes.of_separatedBy hsep).imp (wellFormed_collapse .all hsep.ne_nil)⟩
  obtain ⟨operands, tokens, rfl, hr, hsep⟩ :=
    (hconjunction.separated isSign_eq (by nofun)).map h
  exact ⟨tokens, hr, (Makes.of_separatedBy hsep).imp (wellFormed_collapse .any hsep.ne_nil)⟩

theorem sound_expression_of_primary (hprimary : SoundItem primary) :
    SoundItem (expression primary) := by
  intro before after formula h
  obtain ⟨target, middle, htarget, h⟩ := bind_eq_ok.1 h
  obtain ⟨first, hr1, hmakes1⟩ := sound_disjunction hprimary _ _ _ htarget
  rw [atSign_bind, current_bind] at h
  split at h
  · next hc =>
    obtain ⟨_, h, hsign⟩ := Sound.advance_bind (isSign_iff.1 hc) (by nofun) h
    obtain ⟨value, rest, rfl, hr2, hmakes2⟩ := (sound_disjunction hprimary).map h
    exact ⟨_, hr1.append (hsign hr2), (hmakes1.append (hmakes2.sign .assign)).imp
      fun ⟨hl, hr⟩ => .assignment hl hr⟩
  · obtain ⟨rfl, rfl⟩ := pure_eq_ok.1 h
    exact ⟨_, hr1, hmakes1⟩

/-! ### Lists and blocks -/

theorem sound_expectSign {β : Type} {sign : Sign} {parser : Parser Token β}
    {before after : Cursor Token} {b : β}
    (h : (expectSign sign >>= fun _ => parser) before = .ok b after) :
    ∃ middle, parser middle = .ok b after ∧ ∀ {tokens : List Token}, middle.Reads tokens after →
      before.Reads (.sign sign :: tokens) after := by
  obtain ⟨_, middle, hexpect, h⟩ := bind_eq_ok.1 h
  unfold expectSign at hexpect
  rw [atSign_bind, current_bind] at hexpect
  split at hexpect
  · next hc =>
    have hc := isSign_iff.1 hc
    exact ⟨middle, h, fun hr => hc ▸ .cons (hc ▸ sign_ne_done sign) hexpect hr⟩
  · cases hexpect

theorem sound_itemsBefore (hitem : SoundItem item) (close : Sign) (count : Nat) :
    Sound (itemsBefore item close count) fun tokens items =>
      Makes tokens (∀ item ∈ items, item.WellFormed) := by
  induction count with
  | zero =>
    intro before after items h
    obtain ⟨rfl, rfl⟩ := pure_eq_ok.1 h
    exact ⟨[], .nil, .of_nil (List.forall_mem_nil _)⟩
  | succ count ih =>
    intro before after items h
    unfold itemsBefore at h
    rw [atSign_bind, current_bind] at h
    split at h
    · obtain ⟨rfl, rfl⟩ := pure_eq_ok.1 h
      exact ⟨[], .nil, .of_nil (List.forall_mem_nil _)⟩
    · obtain ⟨first, middle, hfirst, h⟩ := bind_eq_ok.1 h
      obtain ⟨part, hr1, hmakes1⟩ := hitem _ _ _ hfirst
      rw [atSign_bind, current_bind] at h
      split at h
      · obtain ⟨_, h, hcomma⟩ := sound_expectSign h
        obtain ⟨rest, tokens, rfl, hr2, hmakes2⟩ := ih.map h
        exact ⟨_, hr1.append (hcomma hr2), (hmakes1.append (hmakes2.sign .comma)).imp
          List.forall_mem_cons.2⟩
      · obtain ⟨rest, tokens, rfl, hr2, hmakes2⟩ := ih.map h
        exact ⟨_, hr1.append hr2, (hmakes1.append hmakes2).imp List.forall_mem_cons.2⟩

theorem sound_listBefore (hitem : SoundItem item) (close : Sign) :
    Sound (listBefore item close) fun tokens items =>
      Makes tokens (∀ item ∈ items, item.WellFormed) := by
  intro before after items h
  obtain ⟨count, _, hb, h⟩ := bind_eq_ok.1 h
  cases hb
  obtain ⟨items, middle, hitems, h⟩ := bind_eq_ok.1 h
  obtain ⟨tokens, hr, hmakes⟩ := sound_itemsBefore hitem close _ _ _ _ hitems
  obtain ⟨_, h, hclose⟩ := sound_expectSign h
  obtain ⟨rfl, rfl⟩ := pure_eq_ok.1 h
  have hend : Makes [.sign close] True := (Makes.of_nil trivial).sign close
  exact ⟨_, hr.append (hclose .nil), (hmakes.append hend).imp And.left⟩

theorem sound_blockItems (hitem : SoundItem item) (count : Nat) :
    Sound (blockItems item count) fun tokens _ => Makes tokens True := by
  induction count with
  | zero =>
    intro before after items h
    obtain ⟨rfl, rfl⟩ := pure_eq_ok.1 h
    exact ⟨[], .nil, .of_nil trivial⟩
  | succ count ih =>
    intro before after items h
    unfold blockItems at h
    rw [atSign_bind, current_bind] at h
    split at h
    · obtain ⟨rfl, rfl⟩ := pure_eq_ok.1 h
      exact ⟨[], .nil, .of_nil trivial⟩
    · obtain ⟨first, middle, hfirst, h⟩ := bind_eq_ok.1 h
      obtain ⟨part, hr1, hmakes1⟩ := hitem _ _ _ hfirst
      rw [atSign_bind, current_bind, atSign_bind, current_bind] at h
      split at h
      · next hc =>
        obtain ⟨s, hs⟩ : ∃ s, middle.current = .sign s := by
          rw [Bool.or_eq_true] at hc
          rcases hc with hc | hc
          · exact ⟨_, isSign_iff.1 hc⟩
          · exact ⟨_, isSign_iff.1 hc⟩
        obtain ⟨_, h, hsign⟩ := Sound.advance_bind hs (by nofun) h
        obtain ⟨rest, tokens, rfl, hr2, hmakes2⟩ := ih.map h
        exact ⟨_, hr1.append (hsign hr2), (hmakes1.append (hmakes2.sign s)).imp And.right⟩
      · obtain ⟨rfl, rfl⟩ := pure_eq_ok.1 h
        exact ⟨_, hr1, hmakes1.imp fun _ => trivial⟩

theorem sound_block (hitem : SoundItem item) : SoundItem (Grammar.block item) := by
  intro before after formula h
  obtain ⟨count, _, hb, h⟩ := bind_eq_ok.1 h
  cases hb
  obtain ⟨items, middle, hitems, h⟩ := bind_eq_ok.1 h
  obtain ⟨tokens, hr, hmakes⟩ := sound_blockItems hitem _ _ _ _ hitems
  obtain ⟨_, h, hclose⟩ := sound_expectSign h
  obtain ⟨rfl, rfl⟩ := pure_eq_ok.1 h
  have hend : Makes [.sign .rightBrace] True := (Makes.of_nil trivial).sign .rightBrace
  exact ⟨_, hr.append (hclose .nil), (hmakes.append hend).imp fun _ => .block⟩

/-! ### Conditionals and switches -/

/-- A parser takes tokens for whatever it makes. -/
def Consumes {α : Type} (parser : Parser Token α) : Prop := Sound parser fun _ _ => True

theorem SoundItem.consumes (h : SoundItem item) : Consumes item := by
  intro before after formula hp
  obtain ⟨tokens, hr, _⟩ := h _ _ _ hp
  exact ⟨tokens, hr, trivial⟩

theorem sound_parenthesized (hitem : Consumes item) :
    Sound (parenthesized item) fun tokens _ => ∃ rest, tokens = .sign .leftParen :: rest := by
  intro before after formula h
  obtain ⟨_, h, hopen⟩ := sound_expectSign h
  obtain ⟨inner, _, hinner, h⟩ := bind_eq_ok.1 h
  obtain ⟨_, h, hclose⟩ := sound_expectSign h
  obtain ⟨rfl, rfl⟩ := pure_eq_ok.1 h
  obtain ⟨tokens, hr, _⟩ := hitem _ _ _ hinner
  exact ⟨_, hopen (hr.append (hclose .nil)), _, rfl⟩

theorem consumes_body (hitem : SoundItem item) : Consumes (body item) := by
  intro before after formula h
  unfold body at h
  rw [atSign_bind, current_bind] at h
  split at h
  · next hc =>
    obtain ⟨_, h, hopen⟩ := Sound.advance_bind (isSign_iff.1 hc) (by nofun) h
    obtain ⟨tokens, hr, _⟩ := sound_block hitem _ _ _ h
    exact ⟨_, hopen hr, trivial⟩
  · exact hitem.consumes _ _ _ h

theorem sound_branch (hitem : SoundItem item) :
    Sound (branch item) fun tokens _ => ∃ rest, tokens = .sign .leftParen :: rest := by
  intro before after value h
  obtain ⟨condition, middle, hcondition, h⟩ := bind_eq_ok.1 h
  obtain ⟨_, hr1, rest, rfl⟩ := sound_parenthesized hitem.consumes _ _ _ hcondition
  obtain ⟨_, tokens, rfl, hr2, _⟩ := (consumes_body hitem).map h
  exact ⟨_, hr1.append hr2, _, rfl⟩

theorem consumes_alternatives (hitem : SoundItem item) (count : Nat) :
    Consumes (alternatives item count) := by
  induction count with
  | zero =>
    intro before after value h
    obtain ⟨rfl, rfl⟩ := pure_eq_ok.1 h
    exact ⟨[], .nil, trivial⟩
  | succ count ih =>
    have hnext : Consumes (do
        let first ← branch item
        let rest ← alternatives item count
        return (first :: rest.1, rest.2)) := by
      intro before after value h
      obtain ⟨first, middle, hfirst, h⟩ := bind_eq_ok.1 h
      obtain ⟨others, last, hothers, h⟩ := bind_eq_ok.1 h
      obtain ⟨rfl, rfl⟩ := pure_eq_ok.1 h
      obtain ⟨_, hr1, _⟩ := sound_branch hitem _ _ _ hfirst
      obtain ⟨_, hr2, _⟩ := ih _ _ _ hothers
      exact ⟨_, hr1.append hr2, trivial⟩
    intro before after value h
    unfold alternatives at h
    rw [current_bind] at h
    cases hc : before.current with
    | keyword word =>
      rw [hc] at h
      cases word with
      | elseIf =>
        obtain ⟨_, h, hword⟩ := Sound.advance_bind hc (by nofun) h
        obtain ⟨_, hr, _⟩ := hnext _ _ _ h
        exact ⟨_, hword hr, trivial⟩
      | «else» =>
        obtain ⟨middle, h, hword⟩ := Sound.advance_bind hc (by nofun) h
        rw [current_bind] at h
        by_cases hif : middle.current = .keyword .if
        · rw [hif] at h
          obtain ⟨_, h, hword'⟩ := Sound.advance_bind hif (by nofun) h
          obtain ⟨_, hr, _⟩ := hnext _ _ _ h
          exact ⟨_, hword (hword' hr), trivial⟩
        · replace h : (do return ([], some (← body item))) middle = .ok value after := by
            cases hc : middle.current with
            | keyword word =>
              rw [hc] at h
              cases word with
              | «if» => exact absurd hc hif
              | _ => exact h
            | _ => rw [hc] at h; exact h
          obtain ⟨_, _, rfl, hr, _⟩ := (consumes_body hitem).map h
          exact ⟨_, hword hr, trivial⟩
      | _ =>
        obtain ⟨rfl, rfl⟩ := pure_eq_ok.1 h
        exact ⟨[], .nil, trivial⟩
    | _ =>
      rw [hc] at h
      obtain ⟨rfl, rfl⟩ := pure_eq_ok.1 h
      exact ⟨[], .nil, trivial⟩

theorem sound_conditional (hitem : SoundItem item) :
    Sound (Grammar.conditional item) fun tokens formula =>
      formula.WellFormed ∧ ∃ rest, tokens = .sign .leftParen :: rest := by
  intro before after formula h
  obtain ⟨first, _, hfirst, h⟩ := bind_eq_ok.1 h
  obtain ⟨count, _, hb, h⟩ := bind_eq_ok.1 h
  cases hb
  obtain ⟨others, _, hothers, h⟩ := bind_eq_ok.1 h
  obtain ⟨rfl, rfl⟩ := pure_eq_ok.1 h
  obtain ⟨_, hr1, rest, rfl⟩ := sound_branch hitem _ _ _ hfirst
  obtain ⟨_, hr2, _⟩ := consumes_alternatives hitem _ _ _ _ hothers
  exact ⟨_, hr1.append hr2, .conditional, _, rfl⟩

theorem consumes_caseBody (hitem : Consumes item) : Consumes (caseBody item) := by
  intro before after values h
  obtain ⟨tokens, hr, _⟩ := hitem.separated isSign_eq (by nofun) _ _ _ h
  exact ⟨tokens, hr, trivial⟩

theorem consumes_cases {label : Parser Token Formula} (hlabel : Consumes label)
    (hitem : Consumes item) (count : Nat) {fallback : Option (List Formula)} :
    Consumes (Grammar.cases label item count fallback) := by
  induction count generalizing fallback with
  | zero =>
    intro before after value h
    obtain ⟨rfl, rfl⟩ := pure_eq_ok.1 h
    exact ⟨[], .nil, trivial⟩
  | succ count ih =>
    intro before after value h
    unfold Grammar.cases at h
    rw [current_bind] at h
    cases hc : before.current with
    | keyword word =>
      rw [hc] at h
      cases word with
      | case =>
        obtain ⟨_, h, hword⟩ := Sound.advance_bind hc (by nofun) h
        obtain ⟨name, _, hname, h⟩ := bind_eq_ok.1 h
        obtain ⟨_, h, hcolon⟩ := sound_expectSign h
        obtain ⟨first, _, hfirst, h⟩ := bind_eq_ok.1 h
        obtain ⟨_, hr1, _⟩ := hlabel _ _ _ hname
        obtain ⟨_, hr2, _⟩ := consumes_caseBody hitem _ _ _ hfirst
        obtain ⟨_, _, rfl, hr3, _⟩ := ih.map h
        exact ⟨_, hword (hr1.append (hcolon (hr2.append hr3))), trivial⟩
      | default =>
        obtain ⟨_, h, hword⟩ := Sound.advance_bind hc (by nofun) h
        obtain ⟨_, h, hcolon⟩ := sound_expectSign h
        obtain ⟨found, _, hfound, h⟩ := bind_eq_ok.1 h
        obtain ⟨_, hr1, _⟩ := consumes_caseBody hitem _ _ _ hfound
        obtain ⟨_, hr2, _⟩ := ih _ _ _ h
        exact ⟨_, hword (hcolon (hr1.append hr2)), trivial⟩
      | _ =>
        obtain ⟨rfl, rfl⟩ := pure_eq_ok.1 h
        exact ⟨[], .nil, trivial⟩
    | _ =>
      rw [hc] at h
      obtain ⟨rfl, rfl⟩ := pure_eq_ok.1 h
      exact ⟨[], .nil, trivial⟩

theorem sound_switched {label : Parser Token Formula} (hlabel : Consumes label)
    (hitem : Consumes item) :
    Sound (switched label item) fun tokens formula =>
      formula.WellFormed ∧ ∃ rest, tokens = .sign .leftParen :: rest := by
  intro before after formula h
  obtain ⟨subject, _, hsubject, h⟩ := bind_eq_ok.1 h
  obtain ⟨_, h, hopen⟩ := sound_expectSign h
  obtain ⟨count, _, hb, h⟩ := bind_eq_ok.1 h
  cases hb
  obtain ⟨found, _, hfound, h⟩ := bind_eq_ok.1 h
  obtain ⟨_, h, hclose⟩ := sound_expectSign h
  obtain ⟨rfl, rfl⟩ := pure_eq_ok.1 h
  obtain ⟨_, hr1, rest, rfl⟩ := sound_parenthesized hitem _ _ _ hsubject
  obtain ⟨_, hr2, _⟩ := consumes_cases hlabel hitem _ _ _ _ hfound
  exact ⟨_, hr1.append (hopen (hr2.append (hclose .nil))), .switch, _, rfl⟩

/-! ### Formulas -/

theorem sound_primary (depth : Nat) : SoundItem (Grammar.primary depth) := by
  induction depth with
  | zero =>
    intro before after formula h
    cases h
  | succ depth ih =>
    have hitem := sound_expression_of_primary ih
    intro before after formula h
    unfold Grammar.primary at h
    rw [current_bind] at h
    cases hc : before.current with
    | literal value =>
      rw [hc] at h
      obtain ⟨rfl, hr⟩ := Sound.consume_pure hc (by nofun) h
      have hmakes : Makes [.literal value] (Token.WellFormed (.literal value)) :=
        .single (by simp)
      exact ⟨_, hr, hmakes.imp .literal⟩
    | name name =>
      rw [hc] at h
      have hname : Makes [.name name] (Token.WellFormed (.name name)) := .single (by simp)
      obtain ⟨middle, h, hread⟩ := Sound.consume_bind hc (by nofun) h
      rw [atSign_bind, current_bind] at h
      split at h
      · next hparen =>
        obtain ⟨_, h, hopen⟩ := Sound.advance_bind (isSign_iff.1 hparen) (by nofun) h
        obtain ⟨arguments, tokens, rfl, hr, hmakes⟩ := (sound_listBefore hitem _).map h
        exact ⟨_, hread (hopen hr), (hname.append (hmakes.sign .leftParen)).imp
          fun h => .call h.2⟩
      · obtain ⟨rfl, rfl⟩ := pure_eq_ok.1 h
        exact ⟨_, hread .nil, hname.imp .path⟩
    | keyword word =>
      rw [hc] at h
      cases word with
      | «if» =>
        obtain ⟨_, h, hread⟩ := Sound.consume_bind hc (by nofun) h
        obtain ⟨_, hr, hwell, rest, rfl⟩ := sound_conditional hitem _ _ _ h
        exact ⟨_, hread hr, .keyword .if hwell⟩
      | switch =>
        obtain ⟨_, h, hread⟩ := Sound.consume_bind hc (by nofun) h
        obtain ⟨_, hr, hwell, rest, rfl⟩ :=
          sound_switched (sound_unary ih).consumes hitem.consumes _ _ _ h
        exact ⟨_, hread hr, .keyword .switch hwell⟩
      | _ => cases h
    | sign s =>
      rw [hc] at h
      cases s with
      | star =>
        obtain ⟨rfl, hr⟩ := Sound.consume_pure hc (by nofun) h
        exact ⟨_, hr, (Makes.of_nil .allFields).sign .star⟩
      | leftParen =>
        obtain ⟨_, h, hopen⟩ := Sound.consume_bind hc (by nofun) h
        obtain ⟨inner, _, hinner, h⟩ := bind_eq_ok.1 h
        obtain ⟨_, h, hclose⟩ := sound_expectSign h
        obtain ⟨rfl, rfl⟩ := pure_eq_ok.1 h
        obtain ⟨tokens, hr, hmakes⟩ := hitem _ _ _ hinner
        have hend : Makes [.sign .rightParen] True := (Makes.of_nil trivial).sign .rightParen
        exact ⟨_, hopen (hr.append (hclose .nil)),
          ((hmakes.append hend).imp And.left).sign .leftParen⟩
      | leftBracket =>
        obtain ⟨_, h, hopen⟩ := Sound.consume_bind hc (by nofun) h
        obtain ⟨items, tokens, rfl, hr, hmakes⟩ := (sound_listBefore hitem _).map h
        exact ⟨_, hopen hr, (hmakes.sign .leftBracket).imp fun _ => .array⟩
      | leftBrace =>
        obtain ⟨_, h, hopen⟩ := Sound.consume_bind hc (by nofun) h
        obtain ⟨tokens, hr, hmakes⟩ := sound_block hitem _ _ _ h
        exact ⟨_, hopen hr, hmakes.sign .leftBrace⟩
      | _ => cases h
    | _ => rw [hc] at h; cases h

end Operators

/-- A text that is parsed consists of tokens that make the formula. -/
theorem exists_makes {text : String} {formula : Formula} (h : parse text = .ok formula) :
    ∃ tokens, Source.Yields read Text.isBlank (Source.ofString text) tokens ∧
      Makes tokens formula.WellFormed := by
  obtain ⟨cursor, after, hstart, hwhole⟩ := run_eq_ok.1 h
  obtain ⟨count, _, hb, hwhole⟩ := bind_eq_ok.1 hwhole
  cases hb
  obtain ⟨result, last, hresult, hend⟩ := bind_eq_ok.1 hwhole
  rw [current_bind] at hend
  split at hend
  · next hdone =>
    obtain ⟨rfl, rfl⟩ := pure_eq_ok.1 hend
    have hdone : last.current = .done := by
      cases hc : last.current with
      | done => rfl
      | _ => rw [hc] at hdone; cases hdone
    obtain ⟨tokens, hreads, hmakes⟩ := sound_expression_of_primary (sound_primary _) _ _ _ hresult
    have hat := Cursor.At.start orderly_read hstart
    exact ⟨tokens, hat.yields orderly_read hreads hdone, hmakes⟩
  · cases hend

theorem wellFormed_of_parse {text : String} {formula : Formula} (h : parse text = .ok formula) :
    formula.WellFormed := by
  obtain ⟨tokens, hyields, hmakes⟩ := exists_makes h
  exact hmakes.result (hyields.forall_mem fun _ _ => wellFormed_of_read)

/-- No text is parsed that has reserved words among its tokens, none of them before an opening
parenthesis. -/
theorem parse_ne_ok_of_keyword {text : String} {tokens : List Token} {word : Keyword}
    (hyields : Source.Yields read Text.isBlank (Source.ofString text) tokens)
    (hmem : .keyword word ∈ tokens)
    (hclosed : ∀ word, ¬ [.keyword word, .sign .leftParen] <:+: tokens) (formula : Formula) :
    parse text ≠ .ok formula := by
  intro h
  obtain ⟨others, hothers, hmakes⟩ := exists_makes h
  rw [hyields.unique hothers] at hmem hclosed
  obtain ⟨opener, hinfix⟩ := hmakes.opened ⟨word, hmem⟩
  exact hclosed opener hinfix

end Formula

end RecordQuery
