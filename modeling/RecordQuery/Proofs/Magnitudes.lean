import Mathlib.Algebra.Order.Field.Rat
import Mathlib.Tactic.FieldSimp
import Mathlib.Tactic.Linarith
import Mathlib.Tactic.NormNum
import Mathlib.Tactic.Positivity
import Mathlib.Tactic.Ring
import RecordQuery.Proofs.Numerals

/-! The numbers that numerals write and that decimals are. -/

namespace RecordQuery

/-! ### The numbers that numerals write -/

/-- The number that digits behind a point write. -/
def fractionValue (digits : List Char) : ℚ :=
  digitsValue digits / tenTo digits.length

/-- The number that digits with at most one point among them write. -/
def unsignedValue (chars : List Char) : ℚ :=
  digitsValue (chars.takeWhile (· != '.')) +
    fractionValue ((chars.dropWhile (· != '.')).drop 1)

/-- The number that a numeral writes: digits with at most one point among them, behind a minus sign
or none. -/
def numeralValue : List Char → ℚ
  | '-' :: chars => -unsignedValue chars
  | chars => unsignedValue chars

/-- A number behind a minus sign, or as it is. -/
def signed (negative : Bool) (x : ℚ) : ℚ := if negative then -x else x

/-- The number that a decimal is. -/
def Decimal.value (d : Decimal) : ℚ := d.coefficient / tenTo d.scale

theorem tenTo_cast_pos (n : ℕ) : (0 : ℚ) < tenTo n := Nat.cast_pos.2 (tenTo_pos n)

section Digits

variable {c : Char} {whole fraction digits : List Char}

/-- What a digit stands for. -/
theorem digitsValue_singleton_le (h : c.isDigit = true) : c.toNat - '0'.toNat ≤ 9 := by
  rw [Char.isDigit_iff_toNat] at h
  have hnine : '9'.toNat = '0'.toNat + 9 := by decide
  omega

theorem digitsValue_cons :
    digitsValue (c :: digits) =
      tenTo digits.length * (c.toNat - '0'.toNat) + digitsValue digits := by
  rw [digitsValue, Nat.ofDigitChars_cons, Nat.mul_zero, Nat.zero_add,
    Nat.ofDigitChars_eq_ofDigitChars_zero]
  rfl

theorem fractionValue_nil : fractionValue [] = 0 := by
  simp [fractionValue, digitsValue]

/-- Behind the first digit, the others count a tenth as much. -/
theorem fractionValue_cons : fractionValue (c :: digits) =
    (((c.toNat - '0'.toNat : ℕ) : ℚ) + fractionValue digits) / 10 := by
  have hpos := tenTo_cast_pos digits.length
  rw [fractionValue, fractionValue, digitsValue_cons, List.length_cons, tenTo_succ]
  push_cast
  field_simp

theorem fractionValue_nonneg (digits : List Char) : 0 ≤ fractionValue digits :=
  div_nonneg (Nat.cast_nonneg _) (tenTo_cast_pos _).le

theorem fractionValue_lt_one (h : ∀ c ∈ digits, c.isDigit = true) : fractionValue digits < 1 := by
  induction digits with
  | nil => rw [fractionValue_nil]; exact one_pos
  | cons c digits ih =>
    rw [List.forall_mem_cons] at h
    have hdigit : ((c.toNat - '0'.toNat : ℕ) : ℚ) ≤ 9 := by
      exact_mod_cast digitsValue_singleton_le h.1
    rw [fractionValue_cons]
    linarith [ih h.2]

theorem unsignedValue_pointed (hw : ∀ c ∈ whole, c.isDigit = true) :
    unsignedValue (whole ++ pointed fraction) = digitsValue whole + fractionValue fraction := by
  rw [unsignedValue, (Decimal.split_pointed hw).1, (Decimal.split_pointed hw).2]

theorem numeralValue_pointed {sign : List Char} (hsign : sign = [] ∨ sign = ['-'])
    (hw : IsDigits whole) : numeralValue (sign ++ whole ++ pointed fraction) =
      signed (sign == ['-']) (digitsValue whole + fractionValue fraction) := by
  rcases hsign with rfl | rfl
  · have hhead : ∀ chars, [] ++ whole ++ pointed fraction = '-' :: chars → False := by
      intro chars h
      cases whole with
      | nil => exact hw.1 rfl
      | cons c whole =>
        cases h
        exact absurd (hw.2 '-' List.mem_cons_self) (by decide)
    rw [numeralValue]
    · rw [List.nil_append, unsignedValue_pointed hw.2]
      rfl
    · exact hhead
  · show -unsignedValue (whole ++ pointed fraction) = _
    rw [unsignedValue_pointed hw.2]
    rfl

end Digits

/-! ### Rounding -/

namespace Decimal

/-- A number that is not negative is rounded to `mantissa / 10^scale`: that is off by no more than
half a unit of its last digit, and it is not off where any mantissa and scale in range make up the
number. -/
structure RoundsTo (x : ℚ) (mantissa scale : ℕ) : Prop where
  near : |x - mantissa / tenTo scale| ≤ 1 / 2 / tenTo scale
  exact {m s : ℕ} : m < mantissaBound → s ≤ maxScale → x = m / tenTo s →
    x = mantissa / tenTo scale
  mantissa_lt : mantissa < mantissaBound
  scale_le : scale ≤ maxScale

section Rounding

variable {mantissa scale : ℕ} {rest : ℚ} {c : Char} {fraction : List Char}

/-- A number that is less than one and makes two natural numbers differ is zero. -/
theorem eq_zero_of_add_eq_natCast {m n : ℕ} (hnonneg : 0 ≤ rest) (hlt : rest < 1)
    (h : m + rest = n) : rest = 0 := by
  have hle : m ≤ n := by
    have : (m : ℚ) ≤ n := by linarith
    exact_mod_cast this
  have hlt : n < m + 1 := by
    have : (n : ℚ) < m + 1 := by linarith
    exact_mod_cast this
  have hsame : n = m := by omega
  subst hsame
  linarith

/-- A mantissa behind which no further digit fits, and what is left of the number, in units of its
last digit. -/
structure Full (mantissa scale : ℕ) (rest : ℚ) : Prop where
  nonneg : 0 ≤ rest
  lt_one : rest < 1
  mantissa_lt : mantissa < mantissaBound
  scale_le : scale ≤ maxScale
  full : scale < maxScale → mantissaBound ≤ 10 * (mantissa + rest)

namespace Full

/-- Nothing is left of a number that some mantissa and scale in range make up. -/
theorem eq_zero (h : Full mantissa scale rest) {m s : ℕ} (hm : m < mantissaBound)
    (hs : s ≤ maxScale) (hx : (mantissa + rest) / tenTo scale = m / tenTo s) : rest = 0 := by
  have hpos := tenTo_cast_pos scale
  have hspos := tenTo_cast_pos s
  rcases Nat.le_total s scale with hle | hle
  · obtain ⟨k, rfl⟩ := Nat.exists_eq_add_of_le hle
    have hkpos := tenTo_cast_pos k
    refine eq_zero_of_add_eq_natCast (m := mantissa) (n := m * tenTo k) h.nonneg h.lt_one ?_
    rw [tenTo_add] at hx hpos
    push_cast at hx hpos ⊢
    field_simp at hx
    linarith
  · obtain ⟨k, rfl⟩ := Nat.exists_eq_add_of_le hle
    cases k with
    | zero =>
      refine eq_zero_of_add_eq_natCast (m := mantissa) (n := m) h.nonneg h.lt_one ?_
      rw [Nat.add_zero] at hx
      field_simp at hx
      exact hx
    | succ k =>
      -- With more digits the mantissa would be too large.
      have hfull := h.full (by omega)
      have hone : (1 : ℚ) ≤ tenTo k := by exact_mod_cast tenTo_pos k
      have hlt : (m : ℚ) < mantissaBound := by exact_mod_cast hm
      rw [tenTo_add, tenTo_succ] at hx hspos
      push_cast at hx hspos
      field_simp at hx
      nlinarith

theorem ne_of_half_le (h : Full mantissa scale rest) (hup : 1 / 2 ≤ rest) {m s : ℕ}
    (hm : m < mantissaBound) (hs : s ≤ maxScale) :
    (mantissa + rest) / tenTo scale ≠ m / tenTo s := by
  intro hx
  rw [h.eq_zero hm hs hx] at hup
  norm_num at hup

/-- Less than half a unit is dropped. -/
theorem down (h : Full mantissa scale rest) (hdown : rest < 1 / 2) :
    RoundsTo ((mantissa + rest) / tenTo scale) mantissa scale where
  near := by
    have hpos := tenTo_cast_pos scale
    rw [← sub_div, add_sub_cancel_left, abs_of_nonneg (div_nonneg h.nonneg hpos.le)]
    gcongr
  exact hm hs hx := by rw [h.eq_zero hm hs hx, add_zero]
  mantissa_lt := h.mantissa_lt
  scale_le := h.scale_le

/-- Half a unit or more adds one. -/
theorem up (h : Full mantissa scale rest) (hup : 1 / 2 ≤ rest)
    (hroom : mantissa + 1 < mantissaBound) :
    RoundsTo ((mantissa + rest) / tenTo scale) (mantissa + 1) scale where
  near := by
    have hpos := tenTo_cast_pos scale
    have hlt := h.lt_one
    have hoff : (mantissa + rest) / tenTo scale - ((mantissa + 1 : ℕ) : ℚ) / tenTo scale =
        (rest - 1) / tenTo scale := by
      push_cast
      ring
    rw [hoff, abs_of_nonpos (div_nonpos_of_nonpos_of_nonneg (by linarith) hpos.le), ← neg_div]
    gcongr
    linarith
  exact hm hs hx := absurd hx (h.ne_of_half_le hup hm hs)
  mantissa_lt := hroom
  scale_le := h.scale_le

/-- A mantissa that leaves the range by the one that is added gives up a digit: five units of that
digit are half a unit of the digit before it. -/
theorem carried (h : Full mantissa (scale + 1) rest) (hup : 1 / 2 ≤ rest)
    (hlast : mantissa + 1 = mantissaBound) :
    RoundsTo ((mantissa + rest) / tenTo (scale + 1)) ((mantissa + 5) / 10) scale := by
  have hmantissa : (mantissa + 5) / 10 * 10 = mantissa + 5 := by
    rw [mantissaBound] at hlast
    omega
  have hlt : (mantissa + 5) / 10 < mantissaBound := by omega
  have hscale := h.scale_le
  generalize (mantissa + 5) / 10 = rounded at hmantissa hlt ⊢
  refine ⟨?_, fun hm hs hx => absurd hx (h.ne_of_half_le hup hm hs), hlt, by omega⟩
  have hpos := tenTo_cast_pos scale
  have hone := h.lt_one
  have hoff : (mantissa + rest) / tenTo (scale + 1) - rounded / tenTo scale =
      (rest - 5) / 10 / tenTo scale := by
    have hrounded : (rounded : ℚ) * 10 = mantissa + 5 := by exact_mod_cast hmantissa
    rw [tenTo_succ, eq_sub_of_add_eq hrounded.symm]
    push_cast
    field_simp
    ring
  rw [hoff, abs_of_nonpos (div_nonpos_of_nonpos_of_nonneg (by linarith) hpos.le), ← neg_div]
  gcongr
  linarith

end Full

/-- Rounding on a digit that does not fit, which tells whether half a unit or more is left, is
rounding to the nearest. It fails only where a number without fraction digits gets to the bound of
mantissas by it. -/
theorem roundLast?_rounds (h : Full mantissa scale rest) (hhalf : c < '5' ↔ rest < 1 / 2) :
    (∀ result, roundLast? mantissa scale c = some result →
      RoundsTo ((mantissa + rest) / tenTo scale) result.1 result.2 ∧
      (scale = 0 → mantissa + rest < mantissaBound - 1 / 2)) ∧
    (roundLast? mantissa scale c = none → scale = 0 ∧
      mantissaBound - 1 / 2 ≤ mantissa + rest) := by
  have hbound : (mantissa : ℚ) + 1 ≤ mantissaBound := by exact_mod_cast h.mantissa_lt
  have hlt := h.lt_one
  unfold roundLast?
  split
  · next hdown =>
    have hdown := hhalf.1 hdown
    refine ⟨fun result hr => ?_, nofun⟩
    cases hr
    exact ⟨h.down hdown, fun _ => by linarith⟩
  · next hup =>
    have hup : 1 / 2 ≤ rest := not_lt.1 fun h => hup (hhalf.2 h)
    split
    · next hroom =>
      have hbound : (mantissa : ℚ) + 2 ≤ mantissaBound := by exact_mod_cast hroom
      refine ⟨fun result hr => ?_, nofun⟩
      cases hr
      exact ⟨h.up hup hroom, fun _ => by linarith⟩
    · next hroom =>
      have hlast : mantissa + 1 = mantissaBound := by
        have := h.mantissa_lt
        omega
      have hlast' : (mantissa : ℚ) + 1 = mantissaBound := by exact_mod_cast hlast
      split
      · next h0 => exact ⟨nofun, fun _ => ⟨h0, by linarith⟩⟩
      · next h0 =>
        refine ⟨fun result hr => ?_, nofun⟩
        cases hr
        obtain ⟨k, rfl⟩ := Nat.exists_eq_succ_of_ne_zero h0
        exact ⟨h.carried hup hlast, fun h => absurd h h0⟩

/-- A mantissa that nothing is left to be added to is rounded to itself. -/
theorem RoundsTo.self (hm : mantissa < mantissaBound) (hs : scale ≤ maxScale) :
    RoundsTo (mantissa / tenTo scale) mantissa scale where
  near := by
    have hpos := tenTo_cast_pos scale
    rw [sub_self, abs_zero]
    positivity
  exact _ _ _ := rfl
  mantissa_lt := hm
  scale_le := hs

theorem digit_lt_five_iff (hc : c.isDigit = true) : c < '5' ↔ c.toNat - '0'.toNat < 5 := by
  have hfive : '5'.toNat = '0'.toNat + 5 := by decide
  rw [Char.isDigit_iff_toNat] at hc
  rw [Char.lt_def, UInt32.lt_iff_toNat_lt]
  show c.toNat < '5'.toNat ↔ _
  omega

/-- The first digit behind a point tells whether the digits make up half a unit. -/
theorem lt_five_iff (hf : ∀ d ∈ c :: fraction, d.isDigit = true) :
    c < '5' ↔ fractionValue (c :: fraction) < 1 / 2 := by
  rw [List.forall_mem_cons] at hf
  have hnonneg := fractionValue_nonneg fraction
  have hlt := fractionValue_lt_one hf.2
  rw [digit_lt_five_iff hf.1, fractionValue_cons]
  constructor
  · intro h
    have h : ((c.toNat - '0'.toNat : ℕ) : ℚ) + 1 ≤ 5 := by exact_mod_cast h
    linarith
  · intro h
    have h : ((c.toNat - '0'.toNat : ℕ) : ℚ) < 5 := by linarith
    exact_mod_cast h

theorem ofDigitChars_singleton (mantissa : ℕ) (c : Char) :
    Nat.ofDigitChars 10 [c] mantissa = 10 * mantissa + (c.toNat - '0'.toNat) := by
  rw [Nat.ofDigitChars_cons, Nat.ofDigitChars_nil]

/-- Appending fraction digits to a mantissa rounds the number that they write together. It fails
only where the number is no less than half a unit below the bound of mantissas. -/
theorem appendFraction?_rounds (hf : ∀ c ∈ fraction, c.isDigit = true)
    (hm : mantissa < mantissaBound) (hs : scale ≤ maxScale) :
    (∀ result, appendFraction? mantissa scale fraction = some result →
      RoundsTo ((mantissa + fractionValue fraction) / tenTo scale) result.1 result.2 ∧
      (scale = 0 → mantissa + fractionValue fraction < mantissaBound - 1 / 2)) ∧
    (appendFraction? mantissa scale fraction = none → scale = 0 ∧
      mantissaBound - 1 / 2 ≤ mantissa + fractionValue fraction) := by
  induction fraction generalizing mantissa scale with
  | nil =>
    rw [fractionValue_nil, add_zero]
    refine ⟨fun result h => ?_, nofun⟩
    cases h
    have hbound : (mantissa : ℚ) + 1 ≤ mantissaBound := by exact_mod_cast hm
    exact ⟨.self hm hs, fun _ => by linarith⟩
  | cons c fraction ih =>
    have hdigits := List.forall_mem_cons.1 hf
    have hnonneg := fractionValue_nonneg fraction
    have hlt := fractionValue_lt_one hdigits.2
    have hnext : ((Nat.ofDigitChars 10 [c] mantissa : ℕ) : ℚ) + fractionValue fraction =
        10 * (mantissa + fractionValue (c :: fraction)) := by
      rw [ofDigitChars_singleton, fractionValue_cons]
      push_cast
      ring
    rw [appendFraction?]
    split
    · next hfits =>
      rw [Bool.and_eq_true, decide_eq_true_eq, decide_eq_true_eq] at hfits
      obtain ⟨hround, hfail⟩ := ih hdigits.2 hfits.2 hfits.1
      refine ⟨fun result h => ?_, fun h => ?_⟩
      · have hsame : (mantissa + fractionValue (c :: fraction)) / tenTo scale =
            ((Nat.ofDigitChars 10 [c] mantissa : ℕ) + fractionValue fraction) /
              tenTo (scale + 1) := by
          have hpos := tenTo_cast_pos scale
          rw [hnext, tenTo_succ]
          push_cast
          field_simp
        have hbound : ((Nat.ofDigitChars 10 [c] mantissa : ℕ) : ℚ) + 1 ≤ mantissaBound := by
          exact_mod_cast hfits.2
        have hlarge : (10 : ℚ) ≤ mantissaBound := by exact_mod_cast (by decide)
        exact ⟨hsame ▸ (hround result h).1, fun _ => by linarith⟩
      · exact absurd (hfail h).1 (Nat.succ_ne_zero _)
    · next hfull =>
      rw [Bool.and_eq_true, decide_eq_true_eq, decide_eq_true_eq] at hfull
      refine roundLast?_rounds ⟨fractionValue_nonneg _, fractionValue_lt_one hf, hm, hs, ?_⟩
        (lt_five_iff hf)
      intro hroom
      have hbound : mantissaBound ≤ Nat.ofDigitChars 10 [c] mantissa := by
        by_contra hlt
        exact hfull ⟨hroom, not_le.1 hlt⟩
      have hbound : (mantissaBound : ℚ) ≤ (Nat.ofDigitChars 10 [c] mantissa : ℕ) := by
        exact_mod_cast hbound
      linarith

end Rounding

/-! ### Decimals that numbers are rounded to -/

/-- A decimal that a number is rounded to: it is off by no more than half a unit of its last digit,
and it is not off where any decimal is the number. -/
structure Rounds (d : Decimal) (x : ℚ) : Prop where
  near : |x - d.value| ≤ 1 / 2 / tenTo d.scale
  exact : (∃ other : Decimal, other.value = x) → d.value = x

theorem value_eq (d : Decimal) : d.value = signed d.negative (d.mantissa / tenTo d.scale) := by
  rw [value, coefficient, signed]
  split
  · push_cast
    rw [neg_div]
  · push_cast
    rfl

theorem abs_signed (negative : Bool) {x : ℚ} (hx : 0 ≤ x) : |signed negative x| = x := by
  cases negative with
  | false => exact abs_of_nonneg hx
  | true => exact (abs_neg x).trans (abs_of_nonneg hx)

theorem signed_sub_signed (negative : Bool) (x y : ℚ) :
    |signed negative x - signed negative y| = |x - y| := by
  cases negative with
  | false => rfl
  | true =>
    show |-x - -y| = |x - y|
    rw [← abs_neg, neg_sub_neg, neg_sub]

theorem abs_value (d : Decimal) : |d.value| = d.mantissa / tenTo d.scale := by
  rw [value_eq, abs_signed]
  positivity

/-- What a mantissa and a scale round, their decimal rounds, a zero without a sign. -/
theorem RoundsTo.rounds {x : ℚ} {mantissa scale : ℕ} (h : RoundsTo x mantissa scale)
    (hx : 0 ≤ x) (negative : Bool) {d : Decimal}
    (hd : d = ⟨negative && mantissa != 0, mantissa, scale, h.mantissa_lt, h.scale_le⟩) :
    d.Rounds (signed negative x) := by
  have hvalue : d.value = signed negative (mantissa / tenTo scale) := by
    rw [value_eq, hd]
    by_cases h0 : mantissa = 0
    · subst h0
      cases negative <;> simp [signed]
    · have hsome : (mantissa != 0) = true := bne_iff_ne.2 h0
      simp only [hsome, Bool.and_true]
  refine ⟨?_, ?_⟩
  · rw [hvalue, signed_sub_signed, hd]
    exact h.near
  · rintro ⟨other, hother⟩
    have hsame : x = other.mantissa / tenTo other.scale := by
      rw [← abs_value, hother, abs_signed _ hx]
    rw [hvalue, ← h.exact other.mantissa_lt other.scale_le hsame]

section Digits

variable {whole fraction : List Char}

/-- Digits are rounded to the decimal that is read from them. None is read exactly if they write a
number that is no less than half a unit below the bound of mantissas. -/
theorem ofDigits?_rounds (negative : Bool) (hw : IsDigits whole)
    (hf : ∀ c ∈ fraction, c.isDigit = true) :
    (∀ d, ofDigits? negative whole fraction = some d →
      d.Rounds (signed negative (digitsValue whole + fractionValue fraction)) ∧
      digitsValue whole + fractionValue fraction < mantissaBound - 1 / 2) ∧
    (ofDigits? negative whole fraction = none →
      mantissaBound - 1 / 2 ≤ digitsValue whole + fractionValue fraction) := by
  have hempty : whole.isEmpty = false := List.isEmpty_eq_false_iff.2 hw.1
  have hnonneg := fractionValue_nonneg fraction
  simp only [ofDigits?, hempty, Bool.false_and, Bool.false_eq_true, if_false]
  split
  · next hlt =>
    obtain ⟨hround, hfail⟩ := appendFraction?_rounds hf hlt (Nat.zero_le _)
    rw [tenTo_zero, Nat.cast_one, div_one] at hround
    split
    · next happend =>
      exact ⟨fun d hd => absurd hd (Option.some_ne_none d).symm, fun _ => (hfail happend).2⟩
    · next mantissa scale happend =>
      obtain ⟨hrounds, hsmall⟩ := hround _ happend
      rw [ofParts?, dif_pos ⟨hrounds.mantissa_lt, hrounds.scale_le⟩]
      refine ⟨fun d hd => ?_, fun hd => absurd hd (Option.some_ne_none _)⟩
      cases hd
      exact ⟨hrounds.rounds (by positivity) negative rfl, hsmall rfl⟩
  · next hge =>
    have hge : (mantissaBound : ℚ) ≤ digitsValue whole := by exact_mod_cast not_lt.1 hge
    exact ⟨fun d hd => absurd hd (Option.some_ne_none d).symm, fun _ => by linarith⟩

/-- A numeral is rounded to the decimal that it is read as. None is read exactly if it writes a
number that is no less than half a unit from the bound of mantissas. -/
theorem read?_rounds {sign : List Char} (hsign : sign = [] ∨ sign = ['-']) (hw : IsDigits whole)
    (hf : ∀ c ∈ fraction, c.isDigit = true) :
    (∀ d, read? (sign ++ whole ++ pointed fraction) = some d →
      d.Rounds (numeralValue (sign ++ whole ++ pointed fraction)) ∧
      |numeralValue (sign ++ whole ++ pointed fraction)| < mantissaBound - 1 / 2) ∧
    (read? (sign ++ whole ++ pointed fraction) = none →
      mantissaBound - 1 / 2 ≤ |numeralValue (sign ++ whole ++ pointed fraction)|) := by
  have hnonneg := fractionValue_nonneg fraction
  rw [read?_signed hsign hw hf, numeralValue_pointed hsign hw, abs_signed _ (by positivity)]
  exact ofDigits?_rounds _ hw hf

end Digits

/-- An integer below the bound of mantissas is made a decimal. -/
theorem exists_ofInt? {n : ℤ} (h : n.natAbs < mantissaBound) :
    ∃ d, ofInt? n = some d ∧ d.value = n := by
  refine ⟨⟨n < 0, n.natAbs, 0, h, Nat.zero_le _⟩, dif_pos ⟨h, Nat.zero_le _⟩, ?_⟩
  rw [value, coefficient, tenTo_zero, Nat.cast_one, div_one]
  congr 1
  by_cases hneg : n < 0
  · simp only [hneg, decide_true, if_true]
    omega
  · simp only [hneg, decide_false, Bool.false_eq_true, if_false]
    omega

theorem exists_value_eq_intCast {n : ℤ} (h : n.natAbs < mantissaBound) :
    ∃ d : Decimal, d.value = n := by
  obtain ⟨d, -, hvalue⟩ := exists_ofInt? h
  exact ⟨d, hvalue⟩

end Decimal

/-- An integer is read as the number that its digits write. -/
theorem Integer.numeralValue_eq {sign digits : List Char} (hsign : sign = [] ∨ sign = ['-'])
    (hd : IsDigits digits) {n : ℤ} (h : read? (sign ++ digits) = some n) :
    numeralValue (sign ++ digits) = n := by
  have hvalue : numeralValue (sign ++ digits ++ pointed []) = _ := numeralValue_pointed hsign hd
  rw [append_pointed_nil, fractionValue_nil, add_zero] at hvalue
  rw [read?_signed hsign hd, Option.some.injEq] at h
  rw [hvalue, ← h, signed]
  split
  · push_cast
    rfl
  · push_cast
    rfl

end RecordQuery
