import Mathlib.Tactic.Ring
import RecordQuery.Number.Double
import RecordQuery.Proofs.Numerals

/-! Doubles that are no whole numbers are written with a point. No whole number lies in the interval
of numbers that read as such a double, so its shortest digits are found on a grid finer than that
of the whole numbers (`shortest_power_neg`). -/

namespace RecordQuery.Double

variable {tie : Tie} {power exponent : Int} {mantissa digits : Nat}

/-- A grid point that is nearest to a double lies in the interval of the double. -/
theorem Interval.mem_of_nearest? {i : Interval} (h : i.nearest? tie power = some digits) :
    i.low * tenTo (-power).toNat ≤ digits * (i.unit * tenTo power.toNat) ∧
      digits * (i.unit * tenTo power.toNat) ≤ i.high * tenTo (-power).toNat := by
  unfold nearest? at h
  extract_lets grow step value inside down twice at h
  have hinside : inside digits := by
    split at h
    · next hdown =>
      split at h
      · next hup =>
        split at h
        · exact Option.some.inj h ▸ hdown
        · split at h
          · exact Option.some.inj h ▸ hup
          · split at h
            · exact Option.some.inj h ▸ hdown
            · exact Option.some.inj h ▸ hup
      · exact Option.some.inj h ▸ hdown
    · split at h
      · next hup => exact Option.some.inj h ▸ hup
      · cases h
  unfold inside at hinside
  split at hinside
  · exact hinside
  · exact ⟨Nat.le_of_lt hinside.1, Nat.le_of_lt hinside.2⟩

/-- The interval of a double with a fraction holds no multiple of a power of ten from one on. -/
theorem nearest?_eq_none (hexponent : exponent < 0)
    (hfraction : mantissa % twoTo (-exponent).toNat ≠ 0) (hpower : 0 ≤ power) :
    (interval mantissa exponent).nearest? tie power = none := by
  cases h : (interval mantissa exponent).nearest? tie power with
  | none => rfl
  | some digits =>
    obtain ⟨hlow, hhigh⟩ := Interval.mem_of_nearest? h
    have hgrow : (exponent - 2).toNat = 0 := by omega
    have hpoint : (-power).toNat = 0 := by omega
    have hunit : twoTo (2 - exponent).toNat = twoTo (-exponent).toNat * 2 * 2 := by
      rw [← twoTo_succ, ← twoTo_succ]
      congr 1
      omega
    simp only [interval, hgrow, hpoint, hunit, twoTo_zero, tenTo_zero, Nat.mul_one] at hlow hhigh
    have hstep : digits * (twoTo (-exponent).toNat * 2 * 2 * tenTo power.toNat) =
        4 * (twoTo (-exponent).toNat * (digits * tenTo power.toNat)) := by ring
    rw [hstep] at hlow hhigh
    -- The numbers that read as the double are less than one apart from it.
    have hvalue : mantissa = twoTo (-exponent).toNat * (digits * tenTo power.toNat) := by
      split at hlow <;> omega
    rw [hvalue, Nat.mul_mod_right] at hfraction
    exact absurd rfl hfraction

/-- A search that finds no grid point from the whole numbers on ends below them. -/
theorem Interval.coarsest_power_neg {i : Interval}
    (h : ∀ power, 0 ≤ power → i.nearest? tie power = none) (tries : Nat)
    (hpower : power < tries) : (i.coarsest tie tries power).2 < 0 := by
  induction tries generalizing power with
  | zero => exact hpower
  | succ tries ih =>
    rw [coarsest]
    split
    · next digits hfound =>
      refine Int.not_le.1 fun hle => ?_
      rw [h power hle] at hfound
      cases hfound
    · exact ih (by omega)

/-- The shortest digits of a double with a fraction are on a grid finer than the whole numbers. -/
theorem shortest_power_neg (hexponent : exponent < 0) (hmantissa : mantissa < twoTo 53)
    (hfraction : mantissa % twoTo (-exponent).toNat ≠ 0) :
    (shortest tie mantissa exponent).2 < 0 := by
  have hbits : Nat.log2 mantissa < 53 := by
    refine (Nat.log2_lt ?_).2 hmantissa
    rintro rfl
    exact hfraction (Nat.zero_mod _)
  refine Interval.coarsest_power_neg (fun _ => nearest?_eq_none hexponent hfraction) 30 ?_
  omega

theorem lt_of_parts {x : Float} {negative : Bool}
    (h : parts x = .finite negative mantissa exponent) : mantissa < twoTo 53 := by
  unfold parts at h
  extract_lets bits sign biased fraction at h
  have hfraction : fraction < twoTo 52 := Nat.mod_lt _ (twoTo_pos 52)
  have hdouble : twoTo 53 = twoTo 52 * 2 := twoTo_succ 52
  split at h
  · split at h <;> cases h
  · split at h
    · obtain ⟨-, hmantissa, -⟩ := Parts.finite.inj h
      omega
    · obtain ⟨-, hmantissa, -⟩ := Parts.finite.inj h
      omega

/-- The sign, the whole digits and the fraction digits of a double that is no whole number. -/
theorem exists_digits_of_fraction {x : Float} {negative : Bool}
    (hparts : parts x = .finite negative mantissa exponent) (h : whole? x = none) :
    ∃ whole fraction, IsDigits whole ∧ IsDigits fraction ∧
      plain.text x = (if negative then "-" else "") ++
        String.ofList (whole ++ '.' :: fraction) := by
  unfold whole? at h
  rw [hparts] at h
  simp only at h
  split at h
  · cases h
  · next hfraction =>
    have hexponent : exponent < 0 := by
      refine Int.not_le.1 fun hle => hfraction ?_
      rw [show (-exponent).toNat = 0 by omega, twoTo_zero, Nat.mod_one]
    have hne : mantissa ≠ 0 := by
      rintro rfl
      exact hfraction (Nat.zero_mod _)
    have hpower : (shortest .up mantissa exponent).2 < 0 :=
      shortest_power_neg hexponent (lt_of_parts hparts) hfraction
    cases hshortest : shortest .up mantissa exponent with
    | mk digits power =>
      rw [hshortest] at hpower
      obtain ⟨whole, fraction, hwhole, hdigits, hlength, _, htext⟩ :=
        Decimal.exists_placePoint (-power).toNat digits
      have hsome : fraction ≠ [] := by
        rintro rfl
        rw [List.length_nil] at hlength
        omega
      refine ⟨whole, fraction, hwhole, ⟨hsome, hdigits⟩, ?_⟩
      rw [pointed_of_ne_nil hsome] at htext
      simp only [Format.text, hparts, Format.writeFinite, if_neg hne, plain, hshortest, if_true,
        Format.writePositional, if_pos hpower, htext]

end RecordQuery.Double
