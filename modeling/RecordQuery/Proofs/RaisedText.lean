import RecordQuery.Proofs.Doubles
import RecordQuery.Proofs.Formula.Soundness
import RecordQuery.Proofs.Shape

/-! The texts of queries that formulas were raised to. Formulas have names, numbers and strings that
queries have not: paths that are reserved words of queries, doubles beyond the range of decimals,
and strings with a backslash before a single quote. The text of a raised query is parsed as that
query exactly if it has none of these (`Token.ReadBack`). -/

namespace RecordQuery

open Query (Token Keyword)

/-- Whether a token of a raised query is read back from its text: a name that is no reserved word of
queries, a number with fraction digits that a decimal can hold, and a text without a backslash
before a quote. -/
def Query.Token.ReadBack : Token → Prop
  | .name path => Keyword.ofText? path = none
  | .literal ⟨.decimal, text⟩ => (Decimal.read? text.toList).isSome = true
  | .literal ⟨.quoted, text⟩ => Text.sound '\'' text.toList = true
  | _ => True

theorem Query.Token.WellFormed.readBack {token : Token} (h : token.WellFormed) :
    token.ReadBack := by
  cases token with
  | name path =>
    have h : Query.IsName path := h
    exact h.notKeyword
  | literal value =>
    have h : value.WellFormed := h
    cases h with
    | integer => trivial
    | decimal hsign hwhole hfraction hread =>
      show (Decimal.read? (String.ofList _).toList).isSome = true
      rwa [String.toList_ofList]
    | boolean => trivial
    | quoted hsound => exact hsound
  | _ => trivial

/-! ### Literals -/

section Literals

variable {sign whole fraction : List Char}

/-- A number of digits that fit is read, with a minus sign or none. -/
theorem Decimal.isSome_read? (hsign : IsSign sign) (hwhole : IsDigits whole)
    (hfraction : ∀ c ∈ fraction, c.isDigit = true) (hscale : fraction.length ≤ maxScale)
    (hlt : digitsValue (whole ++ fraction) < mantissaBound) :
    (read? (sign ++ whole ++ pointed fraction)).isSome = true := by
  rcases hsign with rfl | rfl
  · rw [List.nil_append, read?_pointed hwhole hfraction hscale hlt]
    rfl
  · rw [List.append_assoc, List.singleton_append,
      read?_minus_pointed hwhole hfraction hscale hlt]
    rfl

/-- The sign of a number as it is written. -/
theorem exists_isSign (negative : Bool) : ∃ sign, IsSign sign ∧ (sign == ['-']) = negative ∧
    (if negative then "-" else "") = String.ofList sign := by
  cases negative with
  | false => exact ⟨[], .inl rfl, rfl, rfl⟩
  | true => exact ⟨['-'], .inr rfl, rfl, rfl⟩

theorem Integer.exists_text (n : Int) : ∃ sign, IsSign sign ∧ (sign == ['-']) = decide (n < 0) ∧
    text n = String.ofList (sign ++ Nat.toDigits 10 n.natAbs) := by
  obtain ⟨sign, hsign, hneg, hminus⟩ := exists_isSign (n < 0)
  refine ⟨sign, hsign, hneg, ?_⟩
  rw [String.ofList_append, ← hminus, ← Nat.repr_eq_ofList_toDigits, text]
  by_cases hn : n < 0
  · simp [hn]
  · simp [hn]

theorem Decimal.exists_text (d : Decimal) : ∃ sign whole fraction, IsSign sign ∧
    (sign == ['-']) = d.negative ∧ IsDigits whole ∧ (∀ c ∈ fraction, c.isDigit = true) ∧
      fraction.length = d.scale ∧ digitsValue (whole ++ fraction) = d.mantissa ∧
      d.text = String.ofList (sign ++ whole ++ pointed fraction) := by
  obtain ⟨sign, hsign, hneg, hminus⟩ := exists_isSign d.negative
  obtain ⟨whole, fraction, hwhole, hfraction, hlength, hvalue, htext⟩ :=
    exists_placePoint d.scale d.mantissa
  refine ⟨sign, whole, fraction, hsign, hneg, hwhole, hfraction, hlength, hvalue, ?_⟩
  rw [text, hminus, htext, ← String.ofList_append, List.append_assoc]

/-- An integer is read back from its text. -/
theorem Integer.read?_text (n : Int) : read? (text n).toList = some n := by
  obtain ⟨sign, hsign, hneg, htext⟩ := exists_text n
  rw [htext, String.toList_ofList, read?_signed hsign (isDigits_toDigits _), digitsValue_toDigits,
    hneg, Option.some.injEq]
  split
  · next hn =>
    rw [decide_eq_true_eq] at hn
    omega
  · next hn =>
    rw [decide_eq_true_eq] at hn
    omega

/-- A decimal is read back from its text, unless it is a zero with a sign. -/
theorem Decimal.read?_text {d : Decimal} (h : d.negative = true → d.mantissa ≠ 0) :
    read? d.text.toList = some d := by
  obtain ⟨sign, whole, fraction, hsign, hneg, hwhole, hfraction, hlength, hvalue, htext⟩ :=
    d.exists_text
  rcases d with ⟨negative, mantissa, scale, hlt, hle⟩
  simp only at h hneg hlength hvalue
  subst hlength hvalue hneg
  rw [htext, String.toList_ofList]
  rcases hsign with rfl | rfl
  · rw [List.nil_append, read?_pointed hwhole hfraction hle hlt]
    rfl
  · rw [List.append_assoc, List.singleton_append, read?_minus_pointed hwhole hfraction hle hlt]
    simp only [bne_iff_ne.2 (h rfl)]
    rfl

theorem Literal.wellFormed_ofInt {n : Int} (h : Integer.fits64 n = true) :
    (Literal.ofInt n).WellFormed := by
  have hfits := Formula.fits64_iff.1 h
  obtain ⟨sign, hsign, -, htext⟩ := Integer.exists_text n
  have hdigits := isDigits_toDigits n.natAbs
  have hlt : digitsValue (Nat.toDigits 10 n.natAbs) < Decimal.mantissaBound := by
    rw [digitsValue_toDigits, Decimal.mantissaBound]
    omega
  have hread := Decimal.isSome_read? hsign hdigits (List.forall_mem_nil _) (Nat.zero_le _)
    (by rwa [List.append_nil])
  rw [append_pointed_nil] at hread
  rw [Literal.ofInt, htext]
  exact .integer hsign hdigits hread

/-- A decimal is written with a point exactly if it has a scale. -/
theorem Value.wellFormed_raise_decimal (d : Decimal) : (Value.decimal d).raise.WellFormed := by
  obtain ⟨sign, whole, fraction, hsign, -, hwhole, hfraction, hlength, hvalue, htext⟩ :=
    d.exists_text
  have hread := Decimal.isSome_read? hsign hwhole hfraction (hlength ▸ d.scale_le)
    (hvalue ▸ d.mantissa_lt)
  rw [Value.raise, htext]
  cases fraction with
  | nil =>
    rw [append_pointed_nil] at hread ⊢
    have hscale : d.scale = 0 := hlength.symm
    rw [if_pos hscale]
    exact .integer hsign hwhole hread
  | cons c fraction =>
    have hscale : d.scale ≠ 0 := by
      rw [← hlength]
      exact Nat.succ_ne_zero _
    rw [if_neg hscale]
    exact .decimal hsign hwhole ⟨by simp, hfraction⟩ hread

/-- A double is written with a point, or it is no number that can be read. -/
theorem Value.wellFormed_raise_double {x : Float}
    (h : (Decimal.read? (Value.double x).raise.text.toList).isSome = true) :
    (Value.double x).raise.WellFormed := by
  have hpointed : ∀ {sign whole fraction : List Char} {text : String}, IsSign sign →
      IsDigits whole → IsDigits fraction → text = String.ofList (sign ++ whole ++ '.' :: fraction) →
      (Decimal.read? text.toList).isSome = true → Literal.WellFormed ⟨.decimal, text⟩ := by
    rintro sign whole fraction text hsign hwhole hfraction rfl hread
    rw [String.toList_ofList] at hread
    exact .decimal hsign hwhole hfraction hread
  cases hwhole : Double.whole? x with
  | some parts =>
    rcases parts with ⟨negative, n⟩
    obtain ⟨sign, hsign, -, hminus⟩ := exists_isSign negative
    have hraise : (Value.double x).raise =
        ⟨.decimal, (if negative then "-" else "") ++ Nat.repr n ++ ".0"⟩ := by
      simp only [Value.raise, hwhole]
    rw [hraise] at h ⊢
    have hzero : IsDigits ['0'] := ⟨by simp, List.forall_mem_singleton.2 rfl⟩
    refine hpointed hsign (isDigits_toDigits n) hzero ?_ h
    rw [hminus, Nat.repr_eq_ofList_toDigits, String.ofList_append, String.ofList_append]
  | none =>
    have hraise : (Value.double x).raise = ⟨.decimal, Double.plain.text x⟩ := by
      simp only [Value.raise, hwhole]
    rw [hraise] at h ⊢
    cases hparts : Double.parts x with
    | nan =>
      rw [Double.Format.text, hparts] at h
      exact absurd h (by decide)
    | infinite negative =>
      rw [Double.Format.text, hparts] at h
      cases negative with
      | false => exact absurd h (by decide)
      | true => exact absurd h (by decide)
    | finite negative mantissa exponent =>
      obtain ⟨whole, fraction, hdigits, hfraction, htext⟩ :=
        Double.exists_digits_of_fraction hparts hwhole
      obtain ⟨sign, hsign, -, hminus⟩ := exists_isSign negative
      refine hpointed hsign hdigits hfraction ?_ h
      rw [htext, hminus, ← String.ofList_append, List.append_assoc]

/-- A literal of a formula is raised to one that can be written, if it is read back. -/
theorem Value.wellFormed_raise {value : Value} (h : value.WellFormed)
    (hread : (Token.literal value.raise).ReadBack) : value.raise.WellFormed := by
  cases value with
  | int n =>
    have h : Integer.fits32 n = true := h
    refine Literal.wellFormed_ofInt ?_
    rw [Formula.fits32_iff] at h
    rw [Formula.fits64_iff]
    omega
  | long n => exact Literal.wellFormed_ofInt h
  | decimal d => exact wellFormed_raise_decimal d
  | double x =>
    refine wellFormed_raise_double ?_
    simp only [raise] at hread ⊢
    split at hread <;> exact hread
  | boolean b => exact .boolean b
  | string s => exact .quoted hread

end Literals

/-! ### Predicates -/

section Predicates

open Raising

variable {predicate : Predicate}

/-- Whether a predicate can be written, if its tokens are read back. -/
def Predicate.Restored (predicate : Predicate) : Prop :=
  (∀ token ∈ predicate.tokens, token.ReadBack) → predicate.WellFormed

theorem Field.wellFormed_of_formula {field : Field} (h : field.formula.WellFormed)
    (hread : field.token.ReadBack) : field.WellFormed := by
  cases field with
  | named path =>
    cases h with
    | path hname =>
      have hfree := hname.free
      simp only [Formula.reservedWords, List.mem_cons, not_or] at hfree
      exact ⟨hname.starts, hname.continues, ⟨hfree.1, hfree.2.1⟩, hread⟩
  | all => trivial

theorem Literal.mem_listTokens {value : Literal} {values : List Literal} (h : value ∈ values) :
    .literal value ∈ Literal.listTokens values := by
  fun_induction Literal.listTokens values with
  | case1 => cases h
  | case2 first => simpa using h
  | case3 first next rest ih =>
    rcases List.mem_cons.1 h with rfl | h
    · exact List.mem_cons_self
    · exact List.mem_cons_of_mem _ (List.mem_cons_of_mem _ (ih h))

theorem Formula.WellFormed.value {value : Value} (h : (Formula.literal value).WellFormed) :
    value.WellFormed := by
  cases h with
  | literal h => exact h

theorem Raising.Compared.restored {operator : Comparison} {left right : Formula}
    (h : Compared operator left right predicate) (hleft : left.WellFormed)
    (hright : right.WellFormed) : predicate.Restored := by
  cases h with
  | literal =>
    intro hread
    simp only [Predicate.tokens, Test.tokens, Operand.token, List.forall_mem_cons] at hread
    exact ⟨Field.wellFormed_of_formula hleft hread.1,
      Value.wellFormed_raise hright.value hread.2.2.1⟩
  | @field field other =>
    intro hread
    simp only [Predicate.tokens, Test.tokens, Operand.token, List.forall_mem_cons] at hread
    have hother : (Field.named other).WellFormed :=
      Field.wellFormed_of_formula hright hread.2.2.1
    exact ⟨Field.wellFormed_of_formula hleft hread.1, hother⟩
  | @flipped a path =>
    intro hread
    simp only [Predicate.tokens, Test.tokens, Operand.token, List.forall_mem_cons] at hread
    have hpath : (Field.named path).WellFormed := Field.wellFormed_of_formula hright hread.1
    exact ⟨hpath, Value.wellFormed_raise hleft.value hread.2.2.1⟩

theorem Raising.restored_between {field : Field} {a b : Value} {lowerOpen upperOpen : Bool}
    (hbounds : checkBounds a.raise b.raise = .ok ()) (hfield : field.formula.WellFormed)
    (ha : (Formula.literal a).WellFormed) (hb : (Formula.literal b).WellFormed) :
    Predicate.Restored ⟨field, .between ⟨a.raise, b.raise, lowerOpen, upperOpen⟩⟩ := by
  intro hread
  simp only [Predicate.tokens, Test.tokens, Range.tokens, List.forall_mem_cons] at hread
  obtain ⟨hread, -, -, hreada, -, hreadb, -⟩ := hread
  exact ⟨Field.wellFormed_of_formula hfield hread, Value.wellFormed_raise ha.value hreada,
    Value.wellFormed_raise hb.value hreadb, hbounds⟩

theorem Raising.Called.restored {name : String} {arguments : List Formula}
    (h : Called name arguments predicate) (hwell : ∀ argument ∈ arguments, argument.WellFormed) :
    predicate.Restored := by
  have htext : ∀ {field : Field} {text : String} {rest : List Formula} {test : Test},
      (∀ argument ∈ field.formula :: rest, argument.WellFormed) →
      .literal (.ofText text) ∈ test.tokens →
      (Text.sound '\'' text.toList = true → test.WellFormed) →
      Predicate.Restored ⟨field, test⟩ := by
    intro field text rest test hwell hmem htest hread
    rw [List.forall_mem_cons] at hwell
    rw [Predicate.tokens, List.forall_mem_cons] at hread
    exact ⟨Field.wellFormed_of_formula hwell.1 hread.1, htest (hread.2 _ hmem)⟩
  cases h with
  | check | typedCheck =>
    intro hread
    exact ⟨Field.wellFormed_of_formula (hwell _ List.mem_cons_self) (hread _ List.mem_cons_self),
      trivial⟩
  | hasEmpty | hasInvalid => exact fun _ => ⟨trivial, trivial⟩
  | matching => exact htext hwell (by simp [Test.tokens]) id
  | complies => exact htext hwell (by simp [Test.tokens]) id
  | contains => exact htext hwell (by simp [Test.tokens]) id
  | flaggedContains => exact htext hwell (by simp [Test.tokens]) id
  | between hbounds | lowerBetween hbounds | flaggedBetween hbounds =>
    simp only [List.forall_mem_cons] at hwell
    exact restored_between hbounds hwell.1 hwell.2.1 hwell.2.2.1
  | oneOf _ hne =>
    rw [List.forall_mem_cons, List.forall_mem_map] at hwell
    intro hread
    rw [Predicate.tokens, List.forall_mem_cons] at hread
    refine ⟨Field.wellFormed_of_formula hwell.1 hread.1, by simpa using hne, ?_⟩
    rw [List.forall_mem_map]
    intro value hvalue
    refine Value.wellFormed_raise (hwell.2 value hvalue).value (hread.2 _ ?_)
    have hmem := Literal.mem_listTokens (List.mem_map_of_mem (f := Value.raise) hvalue)
    exact List.mem_cons_of_mem _ (List.mem_cons_of_mem _ (List.mem_append_left _ hmem))

end Predicates

/-! ### Formulas -/

section Formulas

open Raising Query

variable {strip : Bool}

theorem Raising.ensures_wellFormed : Ensures Formula.WellFormed Predicate.Restored where
  any h := by
    cases h with
    | any hne hwell => exact ⟨hne, hwell⟩
  all h := by
    cases h with
    | all hne hwell => exact ⟨hne, hwell⟩
  not h := by
    cases h with
    | not hwell => exact hwell
  argument h := by
    cases h with
    | call hwell => exact hwell
  compare h hcompared := by
    cases h with
    | compare hleft hright => exact hcompared.restored hleft hright
  assignment h hcompared := by
    cases h with
    | assignment htarget hvalue => exact hcompared.restored htarget hvalue
  call h hcalled := by
    cases h with
    | call hwell => exact hcalled.restored hwell

/-- What a formula is raised to can be put into groups of canonical queries. -/
theorem Raising.piece_of_raise (formula : Formula) (hwell : formula.WellFormed) (query : Query)
    (h : raise strip formula = .ok query) : query.Piece Predicate.Restored :=
  ensures_wellFormed.piece formula hwell query h

end Formulas

/-- The text of a query that a formula was raised to is parsed as that query exactly if each token
of its predicates is read back: no path is a reserved word of queries, no double is beyond the range
of decimals, and no string has a backslash before a single quote. -/
theorem parse_render_raise_iff {policy : Policy} {text : String} {query : Query}
    (h : Formula.raiseText policy text = .ok query) :
    Query.parse query.render = .ok query ↔
      ∀ leaf ∈ query.leaves, ∀ token ∈ leaf.tokens, token.ReadBack := by
  obtain ⟨formula, hparse, hraise⟩ := except_bind_eq_ok.1 h
  obtain ⟨result, hresult, hend⟩ := except_bind_eq_ok.1 hraise
  cases hend
  have hpiece := Raising.piece_of_raise formula (Formula.wellFormed_of_parse hparse) result hresult
  have hcanonical : Query.Canonical Predicate.Restored .root (Query.disjunction [result]) :=
    Query.canonical_disjunction (by simp) (by simpa using hpiece)
  constructor
  · intro hback leaf hleaf token htoken
    have hwell := (Query.wellFormed_of_parse hback).of_mem_leaves leaf hleaf
    exact ((Predicate.wellFormed_iff.1 hwell).1 token htoken).readBack
  · intro hread
    exact Query.parse_render (hcanonical.of_leaves fun leaf hleaf h => h (hread leaf hleaf))

/-- A quote in a string, a decimal with a minus sign, and two conditions in one conjunction. -/
theorem parse_render_raise_of_escaped_quote :
    ∃ query, Formula.raiseText .runtime "f == 'it\\'s' && g < -2.50" = .ok query ∧
      Query.parse query.render = .ok query := by
  let query : Query := .any [.all [.leaf ⟨.named "f", .compare .eq (.literal (.ofText "it's"))⟩,
    .leaf ⟨.named "g", .compare .lt (.literal ⟨.decimal, "-2.50"⟩)⟩]]
  have hraise : Formula.raiseText .runtime "f == 'it\\'s' && g < -2.50" = .ok query := by
    decide +kernel
  refine ⟨query, hraise, (parse_render_raise_iff hraise).2 ?_⟩
  have hnames : Keyword.ofText? "f" = none ∧ Keyword.ofText? "g" = none := by decide +kernel
  have hdecimal : (Decimal.read? "-2.50".toList).isSome = true := by decide +kernel
  have hquoted : Text.sound '\'' "it's".toList = true := by decide +kernel
  simpa [query, Query.leaves, Query.leavesOf, Predicate.tokens, Test.tokens, Operand.token,
    Field.token, Literal.ofText, Token.ReadBack] using ⟨⟨hnames.1, hquoted⟩, hnames.2, hdecimal⟩

/-- A path that is a reserved word of queries is raised to a query whose text is no query. A
backslash before a single quote, which a string in double quotes can have, is lost without an error:
the text is a query with another value. -/
theorem exists_raised_not_read_back :
    (∃ query e, Formula.raiseText .generic "between == 1" = .ok query ∧
      Query.parse query.render = .error e) ∧
    ∃ query other, Formula.raiseText .generic "f == \"a\\'b\"" = .ok query ∧
      Query.parse query.render = .ok other ∧ other ≠ query := by
  let equals (name : String) (value : Literal) : Query :=
    .any [.all [.leaf ⟨.named name, .compare .eq (.literal value)⟩]]
  constructor
  · refine ⟨equals "between" ⟨.integer, "1"⟩,
      .malformed (.expected "a field name or '*'" "'between'") ⟨1, 2, 1⟩, ?_, ?_⟩
    all_goals decide +kernel
  · refine ⟨equals "f" (.ofText "a\\'b"), equals "f" (.ofText "a\\\\"), ?_, ?_, ?_⟩
    all_goals decide +kernel

end RecordQuery
