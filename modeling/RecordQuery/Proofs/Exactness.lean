import RecordQuery.Proofs.Magnitudes
import RecordQuery.Proofs.Query.Spelling

/-! Numbers of queries as literals of formulas. An integer keeps its value. A number with fraction
digits keeps it exactly if some decimal has it, and is rounded otherwise; what cannot be rounded to
a decimal is no token (`Query.lowered_number_exact_iff`). -/

namespace RecordQuery

open Query (Token)

/-- The number that a literal of a formula is, if it is an integer or a decimal. -/
def Value.number? : Value → Option ℚ
  | .int n | .long n => some n
  | .decimal d => some d.value
  | .double _ | .boolean _ | .string _ => none

section Literals

variable {sign whole : List Char}

/-- An integer that a decimal can hold is lowered to the number that its digits write. -/
theorem Value.number_ofIntegerText (hsign : IsSign sign) (hw : IsDigits whole)
    (hread : (Decimal.read? (sign ++ whole)).isSome = true) :
    (∃ value, Value.ofIntegerText (String.ofList (sign ++ whole)) = .ok value ∧
      value.number? = some (numeralValue (sign ++ whole))) ∧
      ∃ d : Decimal, d.value = numeralValue (sign ++ whole) := by
  obtain ⟨n, hn, habs⟩ := Integer.read?_digits hsign hw
  obtain ⟨d, hd⟩ := Option.isSome_iff_exists.1 hread
  have hvalue := Integer.numeralValue_eq hsign hw hn
  have hdigits := Decimal.read?_signed hsign hw (List.forall_mem_nil _)
  have hrounds := Decimal.read?_rounds hsign hw (List.forall_mem_nil _)
  rw [append_pointed_nil, hd] at hdigits hrounds
  have hmantissa := ((Decimal.ofDigits?_eq_some hdigits.symm (List.forall_mem_nil _)).1 rfl).2
  have hexists : ∃ d : Decimal, d.value = n := by
    apply Decimal.exists_value_eq_intCast
    rw [habs, ← hmantissa]
    exact d.mantissa_lt
  have hexact := (hrounds.1 d rfl).1.exact
  rw [hvalue] at hexact ⊢
  refine ⟨?_, hexists⟩
  rw [← String.toList_ofList (l := sign ++ whole)] at hn hd
  exact Value.exists_ofIntegerText hn hd rfl rfl (congrArg some (hexact hexists))

/-- A number that can be written in a query is read as a decimal that it is rounded to. -/
theorem Literal.WellFormed.exists_rounds {literal : Literal} (h : literal.WellFormed)
    (hnumeric : literal.kind.isNumeric = true) :
    ∃ d, Decimal.read? literal.text.toList = some d ∧
      d.Rounds (numeralValue literal.text.toList) ∧
      |numeralValue literal.text.toList| < Decimal.mantissaBound - 1 / 2 := by
  obtain ⟨sign, whole, fraction, hsign, hw, hf, rfl, hread⟩ := h.exists_digits hnumeric
  obtain ⟨d, hd⟩ := Option.isSome_iff_exists.1 hread
  simp only [String.toList_ofList]
  exact ⟨d, hd, (Decimal.read?_rounds hsign hw hf).1 d hd⟩

/-- A number that can be written in a query is lowered to one: to itself if some decimal is it, and
always if it is an integer; it is off by no more than half a unit of the last digit otherwise. -/
theorem Literal.WellFormed.exists_lower {literal : Literal} (h : literal.WellFormed)
    (hnumeric : literal.kind.isNumeric = true) :
    ∃ value number, literal.lower = .ok value ∧ value.number? = some number ∧
      (number = numeralValue literal.text.toList ↔
        ∃ d : Decimal, d.value = numeralValue literal.text.toList) ∧
      (literal.kind = .integer → number = numeralValue literal.text.toList) ∧
      ∀ d, value = .decimal d →
        |numeralValue literal.text.toList - number| ≤ 1 / 2 / tenTo d.scale := by
  obtain ⟨d, hread, hrounds, -⟩ := h.exists_rounds hnumeric
  cases h with
  | boolean | quoted => cases hnumeric
  | integer hsign hw hsome =>
    obtain ⟨⟨value, hlower, hnumber⟩, hexists⟩ := Value.number_ofIntegerText hsign hw hsome
    rw [String.toList_ofList]
    refine ⟨value, _, hlower, hnumber, iff_of_true rfl hexists, fun _ => rfl, fun d _ => ?_⟩
    have hpos := tenTo_cast_pos d.scale
    rw [sub_self, abs_zero]
    positivity
  | decimal =>
    refine ⟨.decimal d, d.value, ?_, rfl, ⟨fun hvalue => ⟨d, hvalue⟩, hrounds.exact⟩, nofun, ?_⟩
    · simp only [Literal.lower, hread]
    · intro _ hd
      cases hd
      exact hrounds.near

end Literals

namespace Query

theorem Token.readNumber_eq_overflow {sign chars whole fraction : List Char} {text : String}
    (hspan : spanNumber chars = (whole, fraction))
    (h : (readNumber sign chars).token = .error (.overflow text)) :
    text.toList = sign ++ whole ++ pointed fraction ∧
      Decimal.read? (sign ++ whole ++ pointed fraction) = none := by
  unfold readNumber at h
  simp only [hspan] at h
  rw [← pointed] at h
  split at h
  · cases h
  · split at h
    · next hnone =>
      cases h
      exact ⟨String.toList_ofList, Option.isNone_iff_eq_none.1 hnone⟩
    · cases h

/-- Digits that the reader finds too large write a number no less than half a unit from the bound
of mantissas. -/
theorem Token.le_abs_of_overflow {chars : List Char} {text : String}
    (h : (read chars).token = .error (.overflow text)) :
    Decimal.mantissaBound - 1 / 2 ≤ |numeralValue text.toList| := by
  have hreads := reads_read chars
  generalize read chars = reading at h hreads
  cases hreads with
  | done | sign | word | flawed => cases h
  | quote =>
    unfold readQuote at h
    split at h <;> cases h
  | @number sign chars hsign hdigit =>
    obtain ⟨hwhole, hfraction⟩ := forall_spanNumber chars
    have hne := spanNumber_ne_nil hdigit
    cases hspan : spanNumber chars with
    | mk whole fraction =>
      rw [hspan] at hwhole hfraction hne
      obtain ⟨htext, hnone⟩ := readNumber_eq_overflow hspan h
      rw [htext]
      exact (Decimal.read?_rounds hsign ⟨hne, hwhole⟩ hfraction).2 hnone

/-- What stands in a query as a number is a token exactly if it is less than the bound of mantissas
by more than half a unit, and then it is lowered: to itself exactly if some decimal is it, as every
integer is, and to a decimal that is off by no more than half a unit of its last digit otherwise. -/
theorem lowered_number_exact_iff (source : Source) :
    (∀ literal, (Token.next source).1.token = .ok (.literal literal) →
      literal.kind.isNumeric = true →
      |numeralValue literal.text.toList| < Decimal.mantissaBound - 1 / 2 ∧
      ∃ value number, literal.lower = .ok value ∧ value.number? = some number ∧
        (number = numeralValue literal.text.toList ↔
          ∃ d : Decimal, d.value = numeralValue literal.text.toList) ∧
        (literal.kind = .integer → number = numeralValue literal.text.toList) ∧
        ∀ d, value = .decimal d →
          |numeralValue literal.text.toList - number| ≤ 1 / 2 / tenTo d.scale) ∧
    ∀ text, (Token.next source).1.token = .error (.overflow text) →
      Decimal.mantissaBound - 1 / 2 ≤ |numeralValue text.toList| := by
  constructor
  · intro literal htoken hnumeric
    have hwell : literal.WellFormed := Token.wellFormed_of_read (Lexeme.token_next_eq_ok.1 htoken)
    obtain ⟨-, -, -, hsmall⟩ := hwell.exists_rounds hnumeric
    exact ⟨hsmall, hwell.exists_lower hnumeric⟩
  · intro text herror
    simp only [Token.next, Lexeme.next, Lexeme.ofReading] at herror
    split at herror
    · cases herror
    · next flaw hflaw =>
      cases flaw with
      | fault => cases herror
      | overflow =>
        cases herror
        exact Token.le_abs_of_overflow hflaw

/-- A number with a fraction that some decimal is, and one with half a unit too much. -/
theorem lowered_number_of_half :
    (Token.next (Source.ofString "-007.50")).1.token = .ok (.literal ⟨.decimal, "-007.50"⟩) ∧
    (∃ value number, Literal.lower ⟨.decimal, "-007.50"⟩ = .ok value ∧
      value.number? = some number ∧ number = numeralValue "-007.50".toList) ∧
    (Token.next (Source.ofString "79228162514264337593543950335.5")).1.token =
      .error (.overflow "79228162514264337593543950335.5") ∧
    Decimal.mantissaBound - 1 / 2 ≤
      |numeralValue "79228162514264337593543950335.5".toList| := by
  have htoken : (Token.next (Source.ofString "-007.50")).1.token =
      .ok (.literal ⟨.decimal, "-007.50"⟩) := by
    rfl
  have herror : (Token.next (Source.ofString "79228162514264337593543950335.5")).1.token =
      .error (.overflow "79228162514264337593543950335.5") := by
    rfl
  obtain ⟨-, value, number, hlower, hnumber, hexact, -, -⟩ :=
    (lowered_number_exact_iff _).1 _ htoken rfl
  refine ⟨htoken, ⟨value, number, hlower, hnumber, hexact.2 ?_⟩, herror,
    (lowered_number_exact_iff _).2 _ herror⟩
  exact ⟨⟨true, 750, 2, by decide, by decide⟩, by decide +kernel⟩

/-- A number with one digit too many is rounded to zero. -/
theorem exists_lowered_number_rounded :
    ∃ literal value number,
      (Token.next (Source.ofString "0.00000000000000000000000000001")).1.token =
        .ok (.literal literal) ∧ literal.kind = .decimal ∧ literal.lower = .ok value ∧
      value.number? = some number ∧ number ≠ numeralValue literal.text.toList := by
  refine ⟨⟨.decimal, "0.00000000000000000000000000001"⟩,
    .decimal ⟨false, 0, 28, by decide, by decide⟩, _, rfl, rfl, rfl, rfl, ?_⟩
  decide +kernel

end Query

end RecordQuery
