import RecordQuery.Proofs.Exactness
import RecordQuery.Proofs.Formula.RoundTrip
import RecordQuery.Proofs.Formula.Soundness

/-! Integers behind any number of minus signs. Each sign negates the number that stands behind it,
in the narrowest type that holds it, so no number is lost where a type is left or entered
(`Formula.parse_signedDigits`). -/

namespace RecordQuery

open RecordQuery.Parser

/-! ### Negation -/

theorem Decimal.value_negate (d : Decimal) : d.negate.value = -d.value := by
  rw [value, value, ← neg_div]
  congr 1
  show ((d.negate.coefficient : ℤ) : ℚ) = -(d.coefficient : ℚ)
  rw [← Int.cast_neg]
  congr 1
  cases hnegative : d.negative with
  | false => simp [coefficient, negate, hnegative]
  | true => simp [coefficient, negate, hnegative]

namespace Value

variable {value : Value} {x : ℚ}

theorem isNumber_of_number? (h : value.number? = some x) : value.isNumber = true := by
  cases value <;> first | rfl | cases h

/-- A number changes its sign and nothing else. -/
theorem number?_negate (hw : value.WellFormed) (h : value.number? = some x) :
    value.negate.number? = some (-x) := by
  cases value with
  | int n =>
    cases h
    rw [negate]
    split <;> exact congrArg some (Int.cast_neg n)
  | long n =>
    cases h
    rw [negate]
    split
    · exact congrArg some (Int.cast_neg n)
    · split
      · exact congrArg some (Int.cast_neg n)
      · have hsmall : (-n).natAbs < Decimal.mantissaBound := by
          have hw : Integer.fits64 n = true := hw
          rw [Formula.fits64_iff] at hw
          rw [Decimal.mantissaBound]
          omega
        obtain ⟨d, hd, hvalue⟩ := Decimal.exists_ofInt? hsmall
        rw [hd]
        exact congrArg some (hvalue.trans (Int.cast_neg n))
  | decimal d =>
    cases h
    exact congrArg some d.value_negate
  | double | boolean | string => cases h

/-- A number behind `count` minus signs. -/
def negated (count : ℕ) (value : Value) : Value := negate^[count] value

theorem negated_succ (count : ℕ) (value : Value) :
    value.negated (count + 1) = (value.negated count).negate :=
  Function.iterate_succ_apply' negate count value

theorem negated_wellFormed (hw : value.WellFormed) (count : ℕ) :
    (value.negated count).WellFormed := by
  induction count with
  | zero => exact hw
  | succ count ih => exact negated_succ count value ▸ wellFormed_negate ih

theorem number?_negated (hw : value.WellFormed) (h : value.number? = some x) (count : ℕ) :
    (value.negated count).number? = some ((-1) ^ count * x) := by
  induction count with
  | zero => rw [pow_zero, one_mul]; exact h
  | succ count ih =>
    rw [negated_succ, number?_negate (negated_wellFormed hw count) ih, pow_succ]
    congr 1
    ring

end Value

namespace Formula

namespace Grammar

/-! ### Signed operands -/

section Signs

variable {primary : Parser Token Formula} {p : Token → Prop} {token : Token}
  {tokens : List Token} {value : Value}

/-- The tokens are taken as a signed operand, as a literal. -/
def IsSigned (primary : Parser Token Formula) (p : Token → Prop) (tokens : List Token)
    (value : Value) : Prop :=
  ∀ count, tokens.length ≤ count →
    Parses (unaryOf primary count) tokens (.literal value) p

/-- A minus sign negates the number behind it, the magnitude of the least long number apart. -/
theorem IsSigned.minus (h : IsSigned primary p (token :: tokens) value)
    (hnumber : value.isNumber = true) (htoken : token ≠ .leastLong) :
    IsSigned primary p (.sign .minus :: token :: tokens) value.negate := by
  intro count hcount
  cases count with
  | zero => cases hcount
  | succ count =>
    have hnegate : (Formula.literal value).negate = .literal value.negate := by
      rw [Formula.negate, if_pos hnumber]
    have hinner : Parses (do return (← unaryOf primary count).negate) _ _ p :=
      (h count (Nat.le_of_succ_le_succ hcount)).map
    rw [hnegate] at hinner
    refine .look (.advance_bind (.look ?_))
    split
    · exact absurd rfl htoken
    · exact hinner

theorem isSigned_leastLong :
    IsSigned primary p [.sign .minus, .leastLong] (.long (-Token.leastLongMagnitude)) := by
  intro count hcount
  cases count with
  | zero => cases hcount
  | succ count => exact .look (.advance_bind (.look (.advance_bind .pure)))

theorem isSigned_literal (h : Parses primary [.literal value] (.literal value) p) :
    IsSigned primary p [.literal value] value :=
  fun count _ => parses_unaryOf (by simp) (by simp) h count

/-- Any number of minus signs before a signed operand. -/
theorem IsSigned.minusSigns {x : ℚ} (h : IsSigned primary p (token :: tokens) value)
    (htoken : token ≠ .leastLong) (hw : value.WellFormed) (hvalue : value.number? = some x)
    (count : ℕ) :
    IsSigned primary p (List.replicate count (.sign .minus) ++ token :: tokens)
      (value.negated count) := by
  induction count with
  | zero => exact h
  | succ count ih =>
    have hnumber := Value.isNumber_of_number? (Value.number?_negated hw hvalue count)
    rw [Value.negated_succ, List.replicate_succ]
    cases count with
    | zero => exact ih.minus hnumber htoken
    | succ count => exact ih.minus hnumber (by nofun)

end Signs

end Grammar

open Grammar

theorem Reads.of_signed {token : Token} {tokens : List Token} {value : Value}
    (hopens : token.opens = true)
    (h : ∀ depth, IsSigned (primary (depth + 1)) (·.tightness ≤ 7) (token :: tokens) value) :
    Reads 7 (token :: tokens) (.literal value) :=
  .of_unary hopens fun depth _ => .budget_bind (h depth)

/-- Minus signs before a number. -/
theorem reads_negated {value : Value} {x : ℚ} (hw : value.WellFormed)
    (hvalue : value.number? = some x) (count : ℕ) :
    Reads 7 (List.replicate count (.sign .minus) ++ [.literal value])
      (.literal (value.negated count)) := by
  have hsigned : ∀ depth, IsSigned (primary (depth + 1)) (·.tightness ≤ 7)
      (List.replicate count (.sign .minus) ++ [.literal value]) (value.negated count) :=
    fun depth => (isSigned_literal (Reads.parses_literal depth value)).minusSigns (by nofun) hw
      hvalue count
  cases count with
  | zero => exact .of_signed rfl hsigned
  | succ count => exact .of_signed rfl hsigned

theorem wellFormed_leastLong : (Value.long (-Token.leastLongMagnitude)).WellFormed := by
  rw [Token.leastLongMagnitude]
  exact fits64_iff.2 (by omega)

/-- Minus signs before the magnitude of the least long number, one at least. -/
theorem reads_leastLong_negated (count : ℕ) :
    Reads 7 (List.replicate (count + 1) (.sign .minus) ++ [.leastLong])
      (.literal ((Value.long (-Token.leastLongMagnitude)).negated count)) := by
  have hsigned : ∀ depth, IsSigned (primary (depth + 1)) (·.tightness ≤ 7)
      (List.replicate count (.sign .minus) ++ [.sign .minus, .leastLong])
      ((Value.long (-Token.leastLongMagnitude)).negated count) :=
    fun depth => isSigned_leastLong.minusSigns (by nofun) wellFormed_leastLong rfl count
  rw [List.replicate_succ', List.append_assoc]
  cases count with
  | zero => exact .of_signed rfl hsigned
  | succ count => exact .of_signed rfl hsigned

namespace Token

/-! ### Spelling -/

/-- Minus signs before a text are tokens by themselves. -/
theorem spells_minusSigns {chars : List Char} {tokens : List Token}
    (h : Spells read Text.isBlank endsWord chars tokens) (count : ℕ) :
    Spells read Text.isBlank endsWord (List.replicate count '-' ++ chars)
      (List.replicate count (.sign .minus) ++ tokens) := by
  induction count with
  | zero => exact h
  | succ count ih =>
    have hminus : Spells read Text.isBlank (fun _ => true) ['-'] [.sign .minus] := signs_minus
    exact hminus.append_of_all ih

variable {digits : List Char}

/-- An integer without a suffix is a number if a decimal can hold it, and too large if not. -/
theorem ofNumber_none (hd : IsDigits digits) :
    (digitsValue digits < Decimal.mantissaBound →
      ∃ value, ofNumber digits [] none = .ok (.literal value) ∧
        value.number? = some (digitsValue digits : ℚ)) ∧
    (Decimal.mantissaBound ≤ digitsValue digits →
      ofNumber digits [] none = .error (.overflow (String.ofList digits))) := by
  have hread : Decimal.read? digits = Decimal.ofInt? (digitsValue digits) :=
    Decimal.read?_of_integer (.inl rfl) hd (Integer.read?_signed (.inl rfl) hd)
  show (_ → ∃ value, ofInteger digits = _ ∧ _) ∧ (_ → ofInteger digits = _)
  simp only [ofInteger, hread]
  constructor
  · intro hlt
    have hlt : ((digitsValue digits : ℕ) : ℤ).natAbs < Decimal.mantissaBound := hlt
    obtain ⟨d, hd, hvalue⟩ := Decimal.exists_ofInt? hlt
    rw [hd]
    split
    · exact ⟨_, rfl, rfl⟩
    · split
      · exact ⟨_, rfl, rfl⟩
      · exact ⟨_, rfl, congrArg some hvalue⟩
  · intro hle
    have hnot64 : ¬ Integer.fits64 (digitsValue digits) = true := by
      rw [Decimal.mantissaBound] at hle
      rw [fits64_iff]
      omega
    have hnot32 : ¬ Integer.fits32 (digitsValue digits) = true := by
      rw [Decimal.mantissaBound] at hle
      rw [fits32_iff]
      omega
    have hnone : Decimal.ofInt? (digitsValue digits) = none :=
      dif_neg fun h => Nat.not_lt.2 hle h.1
    rw [if_neg hnot32, if_neg hnot64, hnone]

/-- An integer with the suffix of long numbers is one, or the magnitude of the least, or
malformed. -/
theorem ofNumber_long (digits : List Char) :
    (digitsValue digits < leastLongMagnitude →
      ofNumber digits [] (some .long) = .ok (.literal (.long (digitsValue digits)))) ∧
    (digitsValue digits = leastLongMagnitude → ofNumber digits [] (some .long) = .ok .leastLong) ∧
    (leastLongMagnitude < digitsValue digits → ofNumber digits [] (some .long) =
      .error (.fault (.malformedNumber (String.ofList digits)))) := by
  have hfits : Integer.fits64 (digitsValue digits) = true ↔
      digitsValue digits < leastLongMagnitude := by
    rw [fits64_iff, leastLongMagnitude]
    omega
  have hsame : (digitsValue digits : ℤ) = leastLongMagnitude ↔
      digitsValue digits = leastLongMagnitude := Int.ofNat_inj
  show (_ → ofLong digits = _) ∧ (_ → ofLong digits = _) ∧ (_ → ofLong digits = _)
  simp only [ofLong, hfits, hsame]
  refine ⟨fun hlt => if_pos hlt, fun heq => ?_, fun hgt => ?_⟩
  · rw [if_neg (by omega), if_pos heq]
  · rw [if_neg (by omega), if_neg (by omega)]

/-- The lexeme of an integer with its suffix is its token, or its flaw at the place where it
starts. -/
theorem next_of_digits (hd : IsDigits digits) (suffix : Option Suffix) (position : Position) :
    (next ⟨digits ++ Suffix.text suffix, position⟩).1 =
      ⟨position, (ofNumber digits [] suffix).mapError (Flaw.at position)⟩ := by
  cases digits with
  | nil => exact absurd rfl hd.1
  | cons c digits =>
    have hdigit : c.isDigit = true := hd.2 c List.mem_cons_self
    have hends : Ends endsWord [] := fun _ hc => nomatch hc
    have hnumber : readNumber (c :: digits ++ (pointed [] ++ (Suffix.text suffix ++ []))) = _ :=
      readNumber_suffixed hd.2 (List.forall_mem_nil _) hends
    rw [List.append_nil, show pointed [] = [] from rfl, List.nil_append] at hnumber
    have hread : read (c :: digits ++ Suffix.text suffix) = _ :=
      (read_of_notMem_signs (notMem_signs_of_isDigit hdigit)).trans
        ((if_pos hdigit).trans hnumber)
    simp only [next, Lexeme.next, Source.skipWhile, List.cons_append, List.dropWhile_cons,
      List.takeWhile_cons, Text.not_isBlank_of_isDigit hdigit, Bool.false_eq_true, if_false,
      Position.afterAll_nil] at hread ⊢
    rw [hread]
    cases ofNumber (c :: digits) [] suffix <;> rfl

end Token

/-- The text of so many minus signs and an integer with its suffix. -/
def signedDigits (count : ℕ) (digits : List Char) (suffix : Option Token.Suffix) : String :=
  String.ofList (List.replicate count '-' ++ (digits ++ Token.Suffix.text suffix))

/-! ### Numbers that are none -/

section Flawed

variable {word digits : List Char} {flaw : Flaw} {cursor : Cursor Token}

theorem next_minus (chars : List Char) (position : Position) :
    Token.next ⟨'-' :: chars, position⟩ =
      (⟨position, .ok (.sign .minus)⟩, ⟨chars, position.after '-'⟩) := rfl

/-- There is an item for each minus sign at the front of a text. -/
theorem le_length_ofSource (word : List Char) (count : ℕ) (position : Position) :
    count ≤ (Stream.ofSource Token.read Text.isBlank
      ⟨List.replicate count '-' ++ word, position⟩).items.length := by
  induction count generalizing position with
  | zero => exact Nat.zero_le _
  | succ count ih =>
    have hnext := next_minus (List.replicate count '-' ++ word) position
    have hlength : (Stream.ofSource Token.read Text.isBlank _).items.length = _ :=
      Stream.length_ofSource Token.orderly_read (congrArg (·.1.token) hnext) (by nofun)
    rw [List.replicate_succ, List.cons_append, hlength]
    exact Nat.succ_le_succ (congrArg Prod.snd hnext ▸ ih _)

theorem fails_unaryOf_of_advance {primary : Parser Token Formula} {most : ℕ} {error : Error}
    (hc : cursor.current = .sign .minus) (h : Fails advance cursor error) :
    Fails (unaryOf primary (most + 1)) cursor error := by
  unfold unaryOf
  rw [Fails.current_bind, hc]
  exact h.bind

theorem fails_unaryOf_of_behind {primary : Parser Token Formula} {next : Cursor Token} {most : ℕ}
    {error : Error} (hc : cursor.current = .sign .minus) (ha : advance cursor = .ok () next)
    (hnext : next.current ≠ .leastLong) (h : Fails (unaryOf primary most) next error) :
    Fails (unaryOf primary (most + 1)) cursor error := by
  unfold unaryOf
  rw [Fails.current_bind, hc]
  refine .bind_of_ok ha ?_
  rw [Fails.current_bind]
  split
  · next hleast => exact absurd hleast hnext
  · exact h.bind

/-- Behind minus signs, a flaw of the number makes the operand fail. -/
theorem fails_unaryOf (primary : Parser Token Formula)
    (hword : ∀ position, (Token.next ⟨word, position⟩).1.token = .error (flaw.at position))
    (count : ℕ) {position : Position}
    (hat : cursor.At Token.read Text.isBlank ⟨List.replicate (count + 1) '-' ++ word, position⟩)
    {most : ℕ} (hmost : count < most) :
    Fails (unaryOf primary most) cursor
      (flaw.at (position.afterAll (List.replicate (count + 1) '-'))) := by
  obtain ⟨most, rfl⟩ := Nat.exists_eq_succ_of_ne_zero (Nat.ne_zero_of_lt hmost)
  have hcurrent : cursor.current = .sign .minus := (Except.ok.inj hat.current).symm
  have hne : cursor.current ≠ .done := hcurrent ▸ Token.sign_ne_done _
  induction count generalizing cursor position most with
  | zero =>
    exact fails_unaryOf_of_advance hcurrent
      (hat.advance_eq_error hne (hword (position.after '-')))
  | succ count ih =>
    obtain ⟨next, ha, hnext⟩ := hat.exists_advance Token.orderly_read hne
      (congrArg (·.1.token) (next_minus (List.replicate count '-' ++ word) _))
    have hcurrent' : next.current = .sign .minus := (Except.ok.inj hnext.current).symm
    obtain ⟨most, rfl⟩ := Nat.exists_eq_succ_of_ne_zero
      (Nat.ne_zero_of_lt (Nat.lt_of_succ_lt_succ hmost))
    refine fails_unaryOf_of_behind hcurrent ha (hcurrent' ▸ by nofun) ?_
    exact ih hnext most (Nat.lt_of_succ_lt_succ hmost) hcurrent'
      (hcurrent' ▸ Token.sign_ne_done _)

/-- A formula fails where its first signed operand does. -/
theorem fails_whole {error : Error}
    (h : ∀ depth, Fails (unary (primary (depth + 1))) cursor error) :
    Fails whole cursor error := by
  have hcompared (depth : ℕ) : Fails (compared (primary (depth + 1))) cursor error :=
    (h depth).bind.bind.bind
  have hdisjunction (depth : ℕ) : Fails (disjunction (primary (depth + 1))) cursor error :=
    (hcompared depth).bind.bind.bind.bind
  exact Fails.budget_bind.2 (hdisjunction _).bind.bind

/-- A flaw of a number is the error of a text of minus signs and the number. -/
theorem parse_of_flawed {suffix : Option Token.Suffix} (hd : IsDigits digits)
    (h : Token.ofNumber digits [] suffix = .error flaw) (count : ℕ) :
    parse (signedDigits count digits suffix) =
      .error (flaw.at (Position.start.afterAll (List.replicate count '-'))) := by
  have hword : ∀ position, (Token.next ⟨digits ++ Token.Suffix.text suffix, position⟩).1.token =
      .error (flaw.at position) := by
    intro position
    rw [Token.next_of_digits hd, h]
    rfl
  unfold parse Token.stream signedDigits
  rw [Source.ofString, String.toList_ofList]
  generalize digits ++ Token.Suffix.text suffix = word at hword
  cases count with
  | zero =>
    have hfirst : (Stream.ofSource Token.read Text.isBlank ⟨word, .start⟩).next.1.token =
        .error (flaw.at .start) := by
      rw [Stream.next_ofSource]
      exact hword .start
    simp only [Parser.run, Cursor.start, List.replicate_zero, List.nil_append, hfirst,
      Position.afterAll_nil]
  | succ count =>
    have hnext := next_minus (List.replicate count '-' ++ word) .start
    obtain ⟨cursor, hstart, hat⟩ := Cursor.At.exists_start_of_token Token.orderly_read
      (congrArg (·.1.token) hnext)
    have hne : cursor.current ≠ .done := by
      rw [← Except.ok.inj hat.current]
      exact Token.sign_ne_done _
    have hlength := le_length_ofSource word count (Position.start.after '-')
    refine (fails_whole fun depth => Fails.budget_bind.2 ?_).run hstart
    rw [hat.stream hne]
    exact fails_unaryOf (primary (depth + 1)) hword count hat (Nat.lt_succ_of_le hlength)

/-- The magnitude of the least long number is no operand. -/
theorem fails_unary_leastLong (hc : cursor.current = .leastLong) (depth : ℕ) :
    Fails (unary (primary (depth + 1))) cursor
      (.malformed (.unexpectedToken Token.leastLong.describe) cursor.position) := by
  rw [unary, Fails.budget_bind, unaryOf, Fails.current_bind, hc]
  rw [primary, Fails.current_bind, hc, unexpected, Fails.current_bind, hc]
  exact ⟨cursor, rfl⟩

theorem parse_of_leastLong {suffix : Option Token.Suffix} (hd : IsDigits digits)
    (h : Token.ofNumber digits [] suffix = .ok .leastLong) :
    parse (signedDigits 0 digits suffix) =
      .error (.malformed (.unexpectedToken Token.leastLong.describe) .start) := by
  have hfirst : (Stream.ofSource Token.read Text.isBlank
      ⟨digits ++ Token.Suffix.text suffix, .start⟩).next.1 = ⟨.start, .ok .leastLong⟩ := by
    rw [Stream.next_ofSource]
    exact (Token.next_of_digits hd suffix .start).trans (by rw [h]; rfl)
  obtain ⟨stream, hstart⟩ : ∃ stream, Cursor.start (Stream.ofSource Token.read Text.isBlank
      ⟨digits ++ Token.Suffix.text suffix, .start⟩) = .ok ⟨.leastLong, .start, stream⟩ :=
    ⟨_, by simp only [Cursor.start, hfirst]; rfl⟩
  unfold parse Token.stream signedDigits
  rw [Source.ofString, String.toList_ofList]
  exact (fails_whole (fails_unary_leastLong rfl)).run hstart

end Flawed

section Digits

variable {digits : List Char} {suffix : Option Token.Suffix}

/-- Minus signs before a text are read with it, where its tokens are read with them. -/
theorem parse_of_signs {word : List Char} {tokens : List Token} {formula : Formula} (count : ℕ)
    (hword : Spells Token.read Text.isBlank Token.endsWord word tokens)
    (hreads : Reads 7 (List.replicate count (.sign .minus) ++ tokens) formula) :
    parse (String.ofList (List.replicate count '-' ++ word)) = .ok formula := by
  have hwrites : Token.Writes (String.ofList (List.replicate count '-' ++ word))
      (List.replicate count (.sign .minus) ++ tokens) := by
    unfold Token.Writes
    rw [String.toList_ofList]
    exact Token.spells_minusSigns hword count
  exact IsWritten.parse_eq ⟨_, hwrites, hreads⟩

theorem spells_digits {token : Token} (hd : IsDigits digits)
    (h : Token.ofNumber digits [] suffix = .ok token) (hne : token ≠ .done) :
    Spells Token.read Text.isBlank Token.endsWord (digits ++ Token.Suffix.text suffix)
      [token] := by
  have hwrites := Token.writes_number hd (List.forall_mem_nil _) h hne
  unfold Token.Writes at hwrites
  rwa [String.toList_ofList, append_pointed_nil] at hwrites

theorem parse_negated {value : Value} {x : ℚ} (hd : IsDigits digits)
    (h : Token.ofNumber digits [] suffix = .ok (.literal value)) (hvalue : value.number? = some x)
    (count : ℕ) : ∃ result, parse (signedDigits count digits suffix) = .ok (.literal result) ∧
      result.WellFormed ∧ result.number? = some ((-1) ^ count * x) := by
  have hw : value.WellFormed := Token.wellFormed_ofNumber h
  exact ⟨_, parse_of_signs count (spells_digits hd h (by nofun)) (reads_negated hw hvalue count),
    Value.negated_wellFormed hw count, Value.number?_negated hw hvalue count⟩

end Digits

/-- A text of minus signs and an integer is the literal of its value: without a suffix if a decimal
can hold the magnitude, which is too large otherwise, and with the suffix of long numbers if a long
number can, the least one behind a minus sign included, and malformed otherwise. -/
theorem parse_signedDigits (count : ℕ) {digits : List Char} (hd : IsDigits digits) :
    (digitsValue digits < 2 ^ 96 → ∃ value,
      parse (signedDigits count digits none) = .ok (.literal value) ∧ value.WellFormed ∧
        value.number? = some ((-1) ^ count * (digitsValue digits : ℚ))) ∧
    (2 ^ 96 ≤ digitsValue digits →
      parse (signedDigits count digits none) = .error (.overflow (String.ofList digits))) ∧
    (digitsValue digits < 2 ^ 63 ∨ digitsValue digits = 2 ^ 63 ∧ 1 ≤ count → ∃ value,
      parse (signedDigits count digits (some .long)) = .ok (.literal value) ∧ value.WellFormed ∧
        value.number? = some ((-1) ^ count * (digitsValue digits : ℚ))) ∧
    (¬ (digitsValue digits < 2 ^ 63 ∨ digitsValue digits = 2 ^ 63 ∧ 1 ≤ count) → ∃ fault,
      parse (signedDigits count digits (some .long)) =
        .error (.malformed fault (Position.start.afterAll (List.replicate count '-')))) := by
  obtain ⟨hnumber, hoverflow⟩ := Token.ofNumber_none hd
  obtain ⟨hlong, hleast, hmalformed⟩ := Token.ofNumber_long digits
  have hbound : Decimal.mantissaBound = 2 ^ 96 := by decide
  have hmagnitude : Token.leastLongMagnitude = 2 ^ 63 := by decide
  rw [hbound] at hnumber hoverflow
  rw [hmagnitude] at hlong hleast hmalformed
  refine ⟨fun hlt => ?_, fun hle => ?_, fun hfits => ?_, fun hnot => ?_⟩
  · obtain ⟨value, htoken, hvalue⟩ := hnumber hlt
    exact parse_negated hd htoken hvalue count
  · exact parse_of_flawed hd (hoverflow hle) count
  · rcases hfits with hlt | ⟨heq, hpos⟩
    · exact parse_negated hd (hlong hlt) rfl count
    · obtain ⟨count, rfl⟩ := Nat.exists_eq_add_of_le' hpos
      refine ⟨_, parse_of_signs _ (spells_digits hd (hleast heq) (by nofun))
        (reads_leastLong_negated count), Value.negated_wellFormed wellFormed_leastLong count, ?_⟩
      rw [Value.number?_negated wellFormed_leastLong rfl, heq, hmagnitude, pow_succ]
      push_cast
      congr 1
      ring
  · rcases Nat.lt_trichotomy (digitsValue digits) (2 ^ 63) with hlt | heq | hgt
    · exact absurd (.inl hlt) hnot
    · obtain rfl : count = 0 := by omega
      exact ⟨_, parse_of_leastLong hd (hleast heq)⟩
    · exact ⟨_, parse_of_flawed hd (hmalformed hgt) count⟩

/-- The magnitude that ends the long numbers, behind signs and without a sign, and one that is too
large for a decimal. -/
theorem parse_signedDigits_of_least :
    (∃ value, parse "---009223372036854775808L" = .ok (.literal value) ∧ value.WellFormed ∧
      value.number? = some (-9223372036854775808)) ∧
    (∃ fault, parse "9223372036854775808L" = .error (.malformed fault .start)) ∧
    parse "--79228162514264337593543950336" =
      .error (.overflow "79228162514264337593543950336") := by
  have hzeros : IsDigits "009223372036854775808".toList :=
    ⟨by decide, List.all_eq_true.1 (by decide)⟩
  have hleast : IsDigits "9223372036854775808".toList :=
    ⟨by decide, List.all_eq_true.1 (by decide)⟩
  have hlarge : IsDigits "79228162514264337593543950336".toList :=
    ⟨by decide, List.all_eq_true.1 (by decide)⟩
  have hvalue : ((-1) ^ 3 * (digitsValue "009223372036854775808".toList : ℚ)) =
      -9223372036854775808 := by
    rw [show digitsValue "009223372036854775808".toList = 9223372036854775808 by decide]
    norm_num
  refine ⟨?_, ?_, ?_⟩
  · obtain ⟨-, -, hlong, -⟩ := parse_signedDigits 3 hzeros
    rw [hvalue] at hlong
    exact hlong (.inr ⟨by decide, by decide⟩)
  · exact (parse_signedDigits 0 hleast).2.2.2 (by decide)
  · exact (parse_signedDigits 2 hlarge).2.1 (by decide)

end Formula

end RecordQuery
