import RecordQuery.Lowering.Literal

/-! Numbers are read back from their digits. The digits of a natural number have its value, and a
decimal whose digits fit the mantissa and the scale is read without rounding
(`Decimal.read?_pointed`), and one that is rounded keeps fraction digits or fills the mantissa
(`Decimal.ofDigits?_eq_some`); the text of a decimal consists of such digits
(`Decimal.exists_placePoint`). -/

namespace RecordQuery

/-- Decimal digits, one at least. -/
def IsDigits (chars : List Char) : Prop :=
  chars ≠ [] ∧ ∀ c ∈ chars, c.isDigit = true

/-- The fraction digits of a number behind their point; none are written as nothing. -/
def pointed (fraction : List Char) : List Char :=
  if fraction.isEmpty then [] else '.' :: fraction

theorem append_pointed_nil (chars : List Char) : chars ++ pointed [] = chars :=
  List.append_nil chars

theorem pointed_of_ne_nil {fraction : List Char} (h : fraction ≠ []) :
    pointed fraction = '.' :: fraction := by
  rw [pointed, if_neg (by simpa using h)]

theorem length_pointed (fraction : List Char) :
    (pointed fraction).length = if fraction.isEmpty then 0 else fraction.length + 1 := by
  unfold pointed
  split <;> rfl

theorem isDigits_toDigits (n : Nat) : IsDigits (Nat.toDigits 10 n) :=
  ⟨Nat.toDigits_ne_nil, fun _ hc => Nat.isDigit_of_mem_toDigits (by decide) (by decide) hc⟩

theorem digitsValue_toDigits (n : Nat) : digitsValue (Nat.toDigits 10 n) = n :=
  Nat.ofDigitChars_ten_toDigits

/-- Further digits never make a number smaller. -/
theorem le_ofDigitChars (digits : List Char) (n : Nat) : n ≤ Nat.ofDigitChars 10 digits n := by
  rw [Nat.ofDigitChars_eq_ofDigitChars_zero]
  have hpos : 0 < 10 ^ digits.length := Nat.pow_pos (by decide)
  have hle := Nat.le_mul_of_pos_left n hpos
  omega

/-- Digits are read as the integer that they write, behind a minus sign or not. -/
theorem Integer.read?_signed {sign digits : List Char} (hsign : sign = [] ∨ sign = ['-'])
    (hd : IsDigits digits) : read? (sign ++ digits) =
      some (if sign == ['-'] then -(digitsValue digits : Int) else digitsValue digits) := by
  have hdigits : readDigits? digits = some (digitsValue digits) := by
    have hall : (!digits.isEmpty && digits.all Char.isDigit) = true := by
      simpa [IsDigits, List.all_eq_true] using hd
    rw [readDigits?, if_pos hall]
  rcases hsign with rfl | rfl
  · cases digits with
    | nil => exact absurd rfl hd.1
    | cons c digits =>
      have hc : c.isDigit = true := hd.2 c (by simp)
      rw [List.nil_append, read?, hdigits]
      · rfl
      · rintro _ ⟨⟩
        cases hc
      · rintro _ ⟨⟩
        cases hc
  · rw [List.singleton_append, read?, hdigits]
    rfl

theorem Integer.read?_digits {sign digits : List Char} (hsign : sign = [] ∨ sign = ['-'])
    (hd : IsDigits digits) :
    ∃ n : Int, read? (sign ++ digits) = some n ∧ n.natAbs = digitsValue digits := by
  refine ⟨_, read?_signed hsign hd, ?_⟩
  split
  · rw [Int.natAbs_neg, Int.natAbs_natCast]
  · rw [Int.natAbs_natCast]

/-- An integer is lowered to the narrowest type that holds it. -/
theorem Value.ofIntegerText_eq {text : String} {n : Int} (h : Integer.read? text.toList = some n) :
    Value.ofIntegerText text =
      if Integer.fits32 n then .ok (.int n)
      else if Integer.fits64 n then .ok (.long n)
      else
        match Decimal.read? text.toList with
        | some d => .ok (.decimal d)
        | none => .error (.overflow text) := by
  simp only [ofIntegerText, Integer.read32?, Integer.read64?, h, Option.filter_some]
  by_cases h32 : Integer.fits32 n = true
  · simp only [if_pos h32]
  · by_cases h64 : Integer.fits64 n = true
    · simp only [if_neg h32, if_pos h64]
    · cases Decimal.read? text.toList with
      | none => simp only [if_neg h32, if_neg h64]
      | some d => simp only [if_neg h32, if_neg h64]

/-- What an integer that a decimal can hold is lowered to. -/
theorem Value.exists_ofIntegerText {text : String} {n : Int} {d : Decimal} {p : Value → Prop}
    (hn : Integer.read? text.toList = some n) (hd : Decimal.read? text.toList = some d)
    (hint : p (.int n)) (hlong : p (.long n)) (hdecimal : p (.decimal d)) :
    ∃ value, Value.ofIntegerText text = .ok value ∧ p value := by
  rw [ofIntegerText_eq hn, hd]
  split
  · exact ⟨.int n, rfl, hint⟩
  · split
    · exact ⟨.long n, rfl, hlong⟩
    · exact ⟨.decimal d, rfl, hdecimal⟩

namespace Decimal

variable {whole fraction : List Char}

theorem digitsOf?_eq_some {digits : List Char} (hd : ∀ c ∈ digits, c.isDigit = true)
    (seen : Bool) : digitsOf? seen digits = some digits := by
  induction digits generalizing seen with
  | nil => rfl
  | cons c digits ih =>
    rw [List.forall_mem_cons] at hd
    rw [digitsOf?, if_pos hd.1, ih hd.2]
    rfl

/-- Fraction digits that fit are appended one after another, and none is rounded. -/
theorem appendFraction?_eq_some (mantissa scale : Nat)
    (hscale : scale + fraction.length ≤ maxScale)
    (hlt : Nat.ofDigitChars 10 fraction mantissa < mantissaBound) :
    appendFraction? mantissa scale fraction =
      some (Nat.ofDigitChars 10 fraction mantissa, scale + fraction.length) := by
  induction fraction generalizing mantissa scale with
  | nil => rw [appendFraction?, Nat.ofDigitChars_nil, List.length_nil, Nat.add_zero]
  | cons c fraction ih =>
    have hcons : Nat.ofDigitChars 10 (c :: fraction) mantissa =
        Nat.ofDigitChars 10 fraction (Nat.ofDigitChars 10 [c] mantissa) :=
      Nat.ofDigitChars_append (l := [c]) mantissa
    rw [hcons] at hlt ⊢
    rw [List.length_cons] at hscale ⊢
    have hnext := Nat.lt_of_le_of_lt (le_ofDigitChars fraction _) hlt
    have hfits : (scale < maxScale && Nat.ofDigitChars 10 [c] mantissa < mantissaBound) = true := by
      rw [Bool.and_eq_true, decide_eq_true_eq, decide_eq_true_eq]
      exact ⟨by omega, hnext⟩
    rw [appendFraction?, if_pos hfits, ih _ _ (by omega) hlt, Nat.add_right_comm, Nat.add_assoc]

theorem ne_point_of_isDigit {c : Char} (h : c.isDigit = true) : (c != '.') = true := by
  rw [bne_iff_ne]
  rintro rfl
  cases h

/-- The digits before a point and those after it are found again. -/
theorem split_pointed (hw : ∀ c ∈ whole, c.isDigit = true) :
    (whole ++ pointed fraction).takeWhile (· != '.') = whole ∧
      ((whole ++ pointed fraction).dropWhile (· != '.')).drop 1 = fraction := by
  have hw : ∀ c ∈ whole, (c != '.') = true := fun c hc => ne_point_of_isDigit (hw c hc)
  rw [List.takeWhile_append_of_pos hw, List.dropWhile_append_of_pos hw]
  cases fraction with
  | nil => simp [pointed]
  | cons c fraction => simp [pointed]

theorem readUnsigned?_of_digits (negative : Bool) (hw : ∀ c ∈ whole, c.isDigit = true)
    (hf : ∀ c ∈ fraction, c.isDigit = true) :
    readUnsigned? negative (whole ++ pointed fraction) = ofDigits? negative whole fraction := by
  rw [readUnsigned?]
  simp only [(split_pointed hw).1, (split_pointed hw).2, digitsOf?_eq_some hw,
    digitsOf?_eq_some hf]

/-- Digits that fit are read as they are written; a zero gets no sign. -/
theorem readUnsigned?_pointed (negative : Bool) (hw : IsDigits whole)
    (hf : ∀ c ∈ fraction, c.isDigit = true) (hscale : fraction.length ≤ maxScale)
    (hlt : digitsValue (whole ++ fraction) < mantissaBound) :
    readUnsigned? negative (whole ++ pointed fraction) =
      some ⟨negative && digitsValue (whole ++ fraction) != 0, digitsValue (whole ++ fraction),
        fraction.length, hlt, hscale⟩ := by
  obtain ⟨hne, hw⟩ := hw
  have hvalue : digitsValue (whole ++ fraction) =
      Nat.ofDigitChars 10 fraction (digitsValue whole) := Nat.ofDigitChars_append 0
  have hwhole : digitsValue whole < mantissaBound :=
    Nat.lt_of_le_of_lt (le_ofDigitChars fraction _) (hvalue ▸ hlt)
  have happend := appendFraction?_eq_some (digitsValue whole) 0 (by omega) (hvalue ▸ hlt)
  rw [← hvalue, Nat.zero_add] at happend
  have hempty : whole.isEmpty = false := by simpa using hne
  rw [readUnsigned?_of_digits negative hw hf]
  simp only [ofDigits?, hempty, Bool.false_and, Bool.false_eq_true, if_false, if_pos hwhole,
    happend, ofParts?, dif_pos (And.intro hlt hscale)]

theorem readPlain?_of_digits (hw : IsDigits whole) (rest : List Char) :
    readPlain? (whole ++ rest) = readUnsigned? false (whole ++ rest) := by
  cases whole with
  | nil => exact absurd rfl hw.1
  | cons c whole =>
    have hc : c.isDigit = true := hw.2 c (by simp)
    rw [List.cons_append, readPlain?]
    · rintro _ ⟨⟩
      cases hc
    · rintro _ ⟨⟩
      cases hc

/-- A decimal whose digits fit is read from them as it is written. -/
theorem read?_pointed (hw : IsDigits whole) (hf : ∀ c ∈ fraction, c.isDigit = true)
    (hscale : fraction.length ≤ maxScale) (hlt : digitsValue (whole ++ fraction) < mantissaBound) :
    read? (whole ++ pointed fraction) =
      some ⟨false, digitsValue (whole ++ fraction), fraction.length, hlt, hscale⟩ := by
  rw [read?, readPlain?_of_digits hw, readUnsigned?_pointed false hw hf hscale hlt]
  rfl

/-- A minus sign before the digits is read as the sign of the decimal. -/
theorem read?_minus_pointed (hw : IsDigits whole) (hf : ∀ c ∈ fraction, c.isDigit = true)
    (hscale : fraction.length ≤ maxScale) (hlt : digitsValue (whole ++ fraction) < mantissaBound) :
    read? ('-' :: (whole ++ pointed fraction)) =
      some ⟨digitsValue (whole ++ fraction) != 0, digitsValue (whole ++ fraction),
        fraction.length, hlt, hscale⟩ := by
  rw [read?, readPlain?, readUnsigned?_pointed true hw hf hscale hlt]
  rfl

/-! ### What digits are read as, rounded or not -/

section Rounding

variable {mantissa scale : Nat} {result : Nat × Nat}

/-- Rounding leaves fraction digits, or a mantissa that has no room for one more digit. -/
theorem roundLast?_eq_some {dropped : Char} (h : roundLast? mantissa scale dropped = some result)
    (hlarge : 1 < scale ∨ mantissaBound ≤ 10 * mantissa + 9) :
    0 < result.2 ∨ mantissaBound ≤ 10 * result.1 + 9 := by
  unfold roundLast? at h
  split at h
  · cases h
    simp only
    omega
  · split at h
    · cases h
      simp only
      omega
    · split at h
      · cases h
      · cases h
        rw [mantissaBound] at *
        simp only
        omega

/-- Where there are fraction digits, some of them are left, or the mantissa has no room for one
more digit. -/
theorem appendFraction?_eq_some_of_ne_nil
    (h : appendFraction? mantissa scale fraction = some result)
    (hf : ∀ c ∈ fraction, c.isDigit = true) (hsome : 0 < scale ∨ fraction ≠ []) :
    0 < result.2 ∨ mantissaBound ≤ 10 * result.1 + 9 := by
  induction fraction generalizing mantissa scale with
  | nil =>
    cases h
    exact .inl (hsome.resolve_right fun hne => hne rfl)
  | cons c fraction ih =>
    rw [List.forall_mem_cons, Char.isDigit_iff_toNat] at hf
    rw [appendFraction?] at h
    split at h
    · exact ih h hf.2 (.inl (Nat.succ_pos _))
    · next hfull =>
      refine roundLast?_eq_some h ?_
      have hnext : Nat.ofDigitChars 10 [c] mantissa ≤ 10 * mantissa + 9 := by
        have hnine : '9'.toNat = '0'.toNat + 9 := by decide
        rw [Nat.ofDigitChars_cons, Nat.ofDigitChars_nil]
        omega
      rw [Bool.and_eq_true, decide_eq_true_eq, decide_eq_true_eq, maxScale] at hfull
      omega

/-- A decimal that is read from digits has the value of the whole digits, if there are no others;
if there are, it has fraction digits too, or a mantissa that has no room for one more digit. -/
theorem ofDigits?_eq_some {negative : Bool} {d : Decimal}
    (h : ofDigits? negative whole fraction = some d) (hf : ∀ c ∈ fraction, c.isDigit = true) :
    (fraction = [] → d.scale = 0 ∧ d.mantissa = digitsValue whole) ∧
      (fraction ≠ [] → 0 < d.scale ∨ mantissaBound ≤ 10 * d.mantissa + 9) := by
  simp only [ofDigits?] at h
  split at h
  · cases h
  · split at h
    · split at h
      · cases h
      · next mantissa scale happend =>
        unfold ofParts? at h
        split at h
        · cases h
          constructor
          · rintro rfl
            cases happend
            exact ⟨rfl, rfl⟩
          · exact fun hne => appendFraction?_eq_some_of_ne_nil happend hf (.inr hne)
        · cases h
    · cases h

end Rounding

/-- Where no exponent is marked, the second reading never comes into play. -/
theorem read?_eq_readPlain? {chars : List Char} (h : ∀ c ∈ chars, c ≠ 'e' ∧ c ≠ 'E') :
    read? chars = readPlain? chars := by
  have hmark : ∀ c ∈ chars, (!(c == 'e' || c == 'E')) = true := by
    intro c hc
    simp [h c hc]
  have hend : chars.dropWhile (fun c => !(c == 'e' || c == 'E')) = [] := by
    rw [← List.append_nil chars, List.dropWhile_append_of_pos hmark]
    rfl
  rw [read?, readScientific?]
  simp only [hend, Option.or_none]

example : readPlain? ['1', '.', '5', 'E', '3'] = none ∧
    read? ['1', '.', '5', 'E', '3'] = ofInt? 1500 := by decide

theorem ne_mark_of_isDigit {c : Char} (h : c.isDigit = true) : c ≠ 'e' ∧ c ≠ 'E' := by
  constructor
  · rintro rfl
    cases h
  · rintro rfl
    cases h

/-- Digits are read as a decimal whether they fit or not, and as a negative one behind a minus
sign. -/
theorem read?_signed {sign : List Char} (hsign : sign = [] ∨ sign = ['-']) (hw : IsDigits whole)
    (hf : ∀ c ∈ fraction, c.isDigit = true) : read? (sign ++ whole ++ pointed fraction) =
      ofDigits? (sign == ['-']) whole fraction := by
  have hmark : ∀ c ∈ whole ++ pointed fraction, c ≠ 'e' ∧ c ≠ 'E' := by
    intro c hc
    rw [List.mem_append, pointed] at hc
    rcases hc with hc | hc
    · exact ne_mark_of_isDigit (hw.2 c hc)
    · split at hc
      · cases hc
      · rcases List.mem_cons.1 hc with rfl | hc
        · decide
        · exact ne_mark_of_isDigit (hf c hc)
  rcases hsign with rfl | rfl
  · rw [List.nil_append, read?_eq_readPlain? hmark, readPlain?_of_digits hw,
      readUnsigned?_of_digits false hw.2 hf]
    rfl
  · have hminus : ∀ c ∈ '-' :: (whole ++ pointed fraction), c ≠ 'e' ∧ c ≠ 'E' :=
      List.forall_mem_cons.2 ⟨by decide, hmark⟩
    rw [List.append_assoc, List.singleton_append, read?_eq_readPlain? hminus, readPlain?,
      readUnsigned?_of_digits true hw.2 hf]
    rfl

/-- Digits are read as a decimal, behind a minus sign or not, whether they fit or not. -/
theorem read?_digits {sign : List Char} (hsign : sign = [] ∨ sign = ['-']) (hw : IsDigits whole)
    (hf : ∀ c ∈ fraction, c.isDigit = true) :
    ∃ negative, read? (sign ++ whole ++ pointed fraction) = ofDigits? negative whole fraction :=
  ⟨_, read?_signed hsign hw hf⟩

/-- Digits without a point are read as the decimal of the integer that they are read as. -/
theorem read?_of_integer {sign : List Char} (hsign : sign = [] ∨ sign = ['-'])
    (hw : IsDigits whole) {n : Int} (h : Integer.read? (sign ++ whole) = some n) :
    read? (sign ++ whole) = ofInt? n := by
  have hread := read?_signed hsign hw (List.forall_mem_nil _)
  have hempty : whole.isEmpty = false := by simpa using hw.1
  rw [append_pointed_nil] at hread
  rw [Integer.read?_signed hsign hw, Option.some.injEq] at h
  have habs : n.natAbs = digitsValue whole := by
    rw [← h]
    split <;> omega
  have hneg : decide (n < 0) = (sign == ['-'] && digitsValue whole != 0) := by
    rw [Bool.eq_iff_iff, decide_eq_true_eq, Bool.and_eq_true, bne_iff_ne, ← h]
    split
    · next hminus =>
      simp only [hminus, true_and]
      omega
    · next hplain =>
      simp only [hplain, Bool.false_eq_true, false_and, iff_false]
      omega
  rw [hread, ofInt?, hneg, habs]
  simp only [ofDigits?, hempty, Bool.false_and, Bool.false_eq_true, if_false, appendFraction?]
  split
  · rfl
  · next hge => rw [ofParts?, dif_neg fun hfits => hge hfits.1]

/-- A decimal that is read from digits is no zero with a sign. -/
theorem ne_zero_of_ofDigits? {negative : Bool} {d : Decimal}
    (h : ofDigits? negative whole fraction = some d) (hneg : d.negative = true) :
    d.mantissa ≠ 0 := by
  simp only [ofDigits?] at h
  split at h
  · cases h
  · split at h
    · split at h
      · cases h
      · unfold ofParts? at h
        split at h
        · cases h
          rw [Bool.and_eq_true, bne_iff_ne] at hneg
          exact hneg.2
        · cases h
    · cases h

/-- The digits of a mantissa behind zeros, if need be, one more of them than the scale at least. -/
def padded (scale mantissa : Nat) : List Char :=
  List.replicate (scale + 1 - (Nat.toDigits 10 mantissa).length) '0' ++ Nat.toDigits 10 mantissa

theorem placePoint_eq (scale mantissa : Nat) : placePoint scale mantissa =
    if scale = 0 then String.ofList (padded scale mantissa)
    else
      String.ofList ((padded scale mantissa).take ((padded scale mantissa).length - scale)) ++
        "." ++
        String.ofList ((padded scale mantissa).drop ((padded scale mantissa).length - scale)) :=
  rfl

theorem lt_length_padded (scale mantissa : Nat) : scale < (padded scale mantissa).length := by
  rw [padded, List.length_append, List.length_replicate]
  omega

theorem isDigit_of_mem_padded {scale mantissa : Nat} {c : Char} (hc : c ∈ padded scale mantissa) :
    c.isDigit = true := by
  rw [padded, List.mem_append] at hc
  rcases hc with hc | hc
  · rw [(List.mem_replicate.1 hc).2]
    rfl
  · exact (isDigits_toDigits mantissa).2 c hc

theorem digitsValue_padded (scale mantissa : Nat) :
    digitsValue (padded scale mantissa) = mantissa := by
  rw [padded, digitsValue, Nat.ofDigitChars_append, Nat.ofDigitChars_replicate_zero, Nat.mul_zero,
    Nat.ofDigitChars_ten_toDigits]

/-- The digits of a mantissa with a point among them. -/
theorem exists_placePoint (scale mantissa : Nat) :
    ∃ whole fraction, IsDigits whole ∧ (∀ c ∈ fraction, c.isDigit = true) ∧
      fraction.length = scale ∧ digitsValue (whole ++ fraction) = mantissa ∧
      placePoint scale mantissa = String.ofList (whole ++ pointed fraction) := by
  have hlength := lt_length_padded scale mantissa
  have hdigit : ∀ c ∈ padded scale mantissa, c.isDigit = true := fun c => isDigit_of_mem_padded
  have hvalue := digitsValue_padded scale mantissa
  rw [placePoint_eq]
  generalize padded scale mantissa = digits at hlength hdigit hvalue
  refine ⟨digits.take (digits.length - scale), digits.drop (digits.length - scale), ⟨?_, ?_⟩, ?_,
    ?_, ?_, ?_⟩
  · rw [← List.length_pos_iff, List.length_take]
    omega
  · exact fun c hc => hdigit c (List.mem_of_mem_take hc)
  · exact fun c hc => hdigit c (List.mem_of_mem_drop hc)
  · rw [List.length_drop]
    omega
  · rw [List.take_append_drop, hvalue]
  · by_cases h0 : scale = 0
    · rw [if_pos h0, h0, Nat.sub_zero, List.take_length, List.drop_length]
      simp [pointed]
    · have hne : (digits.drop (digits.length - scale)).isEmpty = false := by
        rw [List.isEmpty_eq_false_iff, ← List.length_pos_iff, List.length_drop]
        omega
      rw [if_neg h0, pointed, hne, if_neg Bool.false_ne_true, String.ofList_append,
        ← List.singleton_append, String.ofList_append, ← String.append_assoc]

end Decimal

end RecordQuery
