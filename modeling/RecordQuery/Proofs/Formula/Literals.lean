import RecordQuery.Proofs.Formula.Grammar
import RecordQuery.Proofs.Formula.Spelling

/-! The literals of formulas, read back from their texts. A number is written in digits, a negative
one behind a minus sign, which the parser puts back into the number; so a long number must not be
one that becomes an integer of thirty-two bits there. -/

namespace RecordQuery

/-- A literal that can be written: an integer of its width, where a long number is not one that
becomes a narrower one behind a minus sign, a decimal that is not read as an integer, a truth value,
or a text that is sound between single quotes. -/
inductive Value.Writable : Value → Prop
  | int {n : Int} : Integer.fits32 n = true → Writable (.int n)
  | long {n : Int} :
      Integer.fits64 n = true → ¬ (-2147483648 ≤ n ∧ n ≤ -1) → Writable (.long n)
  | decimal {d : Decimal} :
      0 < d.scale ∨ Formula.Token.leastLongMagnitude * tenTo d.scale ≤ d.mantissa →
      Writable (.decimal d)
  | boolean (b : Bool) : Writable (.boolean b)
  | string {s : String} : Text.sound '\'' s.toList = true → Writable (.string s)

namespace Formula

namespace Token

/-! ### Numbers -/

theorem signs_minus : Signs "-" [.sign .minus] := signs_char (by decide) fun _ => rfl

theorem writes_digits (suffix : Option Suffix) {n : Nat} {token : Token}
    (h : ofNumber (Nat.toDigits 10 n) [] suffix = .ok token) (hne : token ≠ .done) :
    Writes (Nat.repr n ++ String.ofList (Suffix.text suffix)) [token] := by
  have hnumber := writes_number (isDigits_toDigits n) (List.forall_mem_nil _) h hne
  have htext : Nat.repr n ++ String.ofList (Suffix.text suffix) =
      String.ofList (Nat.toDigits 10 n ++ pointed [] ++ Suffix.text suffix) := by
    rw [Nat.repr_eq_ofList_toDigits, ← String.ofList_append, append_pointed_nil]
  rwa [htext]

theorem writes_nat {n : Nat} {token : Token}
    (h : ofInteger (Nat.toDigits 10 n) = .ok token) (hne : token ≠ .done) :
    Writes (Nat.repr n) [token] := by
  have hdigits := writes_digits none h hne
  rwa [show String.ofList (Suffix.text none) = "" from rfl, String.append_empty] at hdigits

/-- The narrower type of integers that holds a natural number. -/
def ofMagnitude (n : Nat) : Value :=
  if Integer.fits32 n then .int n else .long n

theorem ofInteger_toDigits {n : Nat} (h : Integer.fits64 n = true) :
    ofInteger (Nat.toDigits 10 n) = .ok (.literal (ofMagnitude n)) := by
  unfold ofInteger ofMagnitude
  simp only [digitsValue_toDigits, if_pos h]
  split <;> rfl

theorem ofLong_leastLong : ofLong (Nat.toDigits 10 leastLongMagnitude) = .ok .leastLong := by
  have hwide : ¬ Integer.fits64 leastLongMagnitude = true := by decide
  unfold ofLong
  simp only [digitsValue_toDigits, if_neg hwide, if_true]

theorem ofLong_toDigits {n : Nat} (h : Integer.fits64 n = true) :
    ofLong (Nat.toDigits 10 n) = .ok (.literal (.long n)) := by
  unfold ofLong
  simp only [digitsValue_toDigits, if_pos h]

/-- A decimal is read from digits that no integer type holds, or with fraction digits. -/
theorem ofNumber_decimal {whole fraction : List Char} {d : Decimal}
    (hread : Decimal.read? (whole ++ pointed fraction) = some d)
    (hwide : fraction = [] → ¬ Integer.fits64 (digitsValue whole) = true) :
    ofNumber whole fraction none = .ok (.literal (.decimal d)) := by
  unfold ofNumber
  cases fraction with
  | cons c fraction =>
    have hread : Decimal.read? (whole ++ '.' :: c :: fraction) = some d := hread
    simp only [List.isEmpty_cons, Bool.false_eq_true, if_false, hread]
  | nil =>
    have hnot64 := hwide rfl
    have hnot32 : ¬ Integer.fits32 (digitsValue whole) = true := by
      simp only [Integer.fits32, Integer.fits64, Bool.and_eq_true, decide_eq_true_eq] at hnot64 ⊢
      omega
    have hread : Decimal.read? whole = some d := by
      rwa [append_pointed_nil] at hread
    simp only [List.isEmpty_nil, if_true, ofInteger, if_neg hnot32, if_neg hnot64, hread]

end Token

open Token

/-- The text is read as this formula at a level. -/
def IsWritten (level : Nat) (text : String) (formula : Formula) : Prop :=
  ∃ tokens, Writes text tokens ∧ Reads level tokens formula

theorem IsWritten.loosen {level tight : Nat} {text : String} {formula : Formula}
    (h : IsWritten tight text formula) (hle : level ≤ tight) : IsWritten level text formula := by
  obtain ⟨tokens, htext, hreads⟩ := h
  exact ⟨tokens, htext, hreads.loosen hle⟩

/-- The text is read as this literal, from tokens that are no reserved words. -/
def IsSpelled (text : String) (value : Value) : Prop :=
  ∃ tokens, Writes text tokens ∧ Reads 7 tokens (.literal value) ∧ ∀ word, .keyword word ∉ tokens

namespace IsSpelled

variable {text : String} {number value : Value}

theorem of_literal (h : Writes text [.literal value]) : IsSpelled text value :=
  ⟨_, h, .literal value, by simp⟩

theorem of_minus (h : Writes text [.literal number]) (hnumber : number.isNumber = true) :
    IsSpelled ("-" ++ text) number.negate :=
  ⟨_, signs_minus.concat_of_all h, .minus hnumber, by simp⟩

theorem isWritten (h : IsSpelled text value) : IsWritten 7 text (.literal value) := by
  obtain ⟨tokens, htext, hreads, -⟩ := h
  exact ⟨tokens, htext, hreads⟩

end IsSpelled

/-! ### Literals -/

theorem negate_ofMagnitude {n : Int} (hneg : n < 0) (h : Integer.fits32 n = true) :
    (ofMagnitude n.natAbs).negate = .int n := by
  have habs : -(n.natAbs : Int) = n := by omega
  unfold ofMagnitude
  split
  · simp only [Value.negate, habs, if_pos h]
  · simp only [Value.negate, habs, if_pos h]

theorem isNumber_ofMagnitude (n : Nat) : (ofMagnitude n).isNumber = true := by
  unfold ofMagnitude
  split <;> rfl

theorem fits64_iff {n : Int} :
    Integer.fits64 n = true ↔ -9223372036854775808 ≤ n ∧ n ≤ 9223372036854775807 := by
  simp [Integer.fits64]

theorem fits32_iff {n : Int} :
    Integer.fits32 n = true ↔ -2147483648 ≤ n ∧ n ≤ 2147483647 := by
  simp [Integer.fits32]

theorem isSpelled_int {n : Int} (h : Integer.fits32 n = true) :
    IsSpelled (Value.int n).render (.int n) := by
  have hfits := fits32_iff.1 h
  have habs : Integer.fits64 n.natAbs = true := fits64_iff.2 (by omega)
  have hnat := writes_nat (ofInteger_toDigits habs) (literal_ne_done _)
  rw [Value.render, Integer.text]
  by_cases hneg : n < 0
  · rw [if_pos hneg, ← negate_ofMagnitude hneg h]
    exact .of_minus hnat (isNumber_ofMagnitude _)
  · have hvalue : ofMagnitude n.natAbs = .int n := by
      rw [ofMagnitude, show ((n.natAbs : Nat) : Int) = n by omega, if_pos h]
    rw [if_neg hneg]
    exact .of_literal (hvalue ▸ hnat)

theorem isSpelled_long {n : Int} (h : Integer.fits64 n = true)
    (hwide : ¬ (-2147483648 ≤ n ∧ n ≤ -1)) : IsSpelled (Value.long n).render (.long n) := by
  have hfits := fits64_iff.1 h
  rw [Value.render, Integer.text]
  by_cases hneg : n < 0
  · rw [if_pos hneg, String.append_assoc]
    by_cases habs : Integer.fits64 n.natAbs = true
    · have hdigits : Writes (Nat.repr n.natAbs ++ "L") [.literal (.long n.natAbs)] :=
        writes_digits (some .long) (ofLong_toDigits habs) (literal_ne_done _)
      have hvalue : (Value.long n.natAbs).negate = .long n := by
        have hnot : ¬ Integer.fits32 n = true := by
          rw [fits32_iff]
          omega
        simp only [Value.negate, show -(n.natAbs : Int) = n by omega, if_neg hnot, if_pos h]
      exact hvalue ▸ .of_minus hdigits rfl
    · -- Only the least long number has a magnitude that is no long number.
      rw [fits64_iff] at habs
      obtain rfl : n = -leastLongMagnitude := by
        rw [leastLongMagnitude]
        omega
      rw [Int.natAbs_neg, Int.natAbs_natCast]
      have hdigits : Writes (Nat.repr leastLongMagnitude ++ "L") [.leastLong] :=
        writes_digits (some .long) ofLong_leastLong (by nofun)
      exact ⟨_, signs_minus.concat_of_all hdigits, .leastLong, by simp⟩
  · have habs : (n.natAbs : Int) = n := by omega
    have hdigits : Writes (Nat.repr n.natAbs ++ "L") [.literal (.long n.natAbs)] :=
      writes_digits (some .long) (ofLong_toDigits (habs ▸ h)) (literal_ne_done _)
    rw [habs] at hdigits
    rw [if_neg hneg]
    exact .of_literal hdigits

theorem isSpelled_decimal {d : Decimal}
    (h : 0 < d.scale ∨ leastLongMagnitude * tenTo d.scale ≤ d.mantissa) :
    IsSpelled (Value.decimal d).render (.decimal d) := by
  rcases d with ⟨negative, mantissa, scale, hlt, hscale⟩
  obtain ⟨whole, fraction, hwhole, hfraction, rfl, rfl, htext⟩ :=
    Decimal.exists_placePoint scale mantissa
  have hwide : fraction = [] → ¬ Integer.fits64 (digitsValue whole) = true := by
    rintro rfl
    replace h : 0 < 0 ∨ leastLongMagnitude * 1 ≤ digitsValue (whole ++ []) := h
    rw [List.append_nil, leastLongMagnitude] at h
    rw [fits64_iff]
    omega
  have htoken := ofNumber_decimal (Decimal.read?_pointed hwhole hfraction hscale hlt) hwide
  have hnumber := writes_number hwhole hfraction htoken (literal_ne_done _)
  rw [show Suffix.text none = [] from rfl, List.append_nil, ← htext] at hnumber
  cases negative with
  | false =>
    rw [Value.render, Decimal.text, if_neg Bool.false_ne_true, String.empty_append]
    exact .of_literal hnumber
  | true =>
    rw [Value.render, Decimal.text, if_pos rfl]
    exact .of_minus hnumber rfl

theorem isSpelled_literal {value : Value} (h : value.Writable) :
    IsSpelled value.render value := by
  cases h with
  | int h => exact isSpelled_int h
  | long h hwide => exact isSpelled_long h hwide
  | decimal h => exact isSpelled_decimal h
  | boolean b => exact .of_literal (writes_truth b)
  | string h => exact .of_literal (signs_quoted h).of_all

end Formula

end RecordQuery
