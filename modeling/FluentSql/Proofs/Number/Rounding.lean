import Mathlib.Algebra.Order.Field.Rat
import Mathlib.Algebra.Order.Field.Power
import Mathlib.Data.Nat.Cast.Field
import Mathlib.Tactic.Positivity
import Mathlib.Tactic.NormNum
import FluentSql.Number.Binary64
/-
# FluentSql.Proofs.Number.Rounding — which integers rounding leaves alone.

A ratio is rounded in units of a power of two in which it has 53 bits before the point (`exponentOf_spec`). An integer
that is a mantissa times a power of two has no bits behind the point in these units, so it is rounded to itself; any
other integer is no double and is rounded to something else (`toInteger?_ofDecimal`).
-/

namespace FluentSql.Number.Binary64

/-! ## Units -/

theorem inUnits_pos {n d : Nat} (hd : 0 < d) (e : Int) : 0 < (inUnits n d e).2 := by
  cases e with
  | ofNat k => exact Nat.mul_pos hd (Nat.pow_pos (by decide))
  | negSucc k => exact hd

theorem ratio_inUnits (n d : Nat) (e : Int) :
    ((inUnits n d e).1 : ℚ) / (inUnits n d e).2 = (n : ℚ) / d * 2 ^ (-e) := by
  cases e with
  | ofNat k =>
      have hpow : ((Nat.pow 2 k : Nat) : ℚ) = 2 ^ k := Nat.cast_pow 2 k
      rw [inUnits, Nat.cast_mul, hpow, Int.ofNat_eq_natCast, zpow_neg, zpow_natCast, ← div_eq_mul_inv, div_div]
  | negSucc k =>
      have hpow : ((Nat.pow 2 (k + 1) : Nat) : ℚ) = 2 ^ (k + 1) := Nat.cast_pow 2 (k + 1)
      rw [inUnits, Nat.cast_mul, hpow, Int.neg_negSucc, zpow_natCast, mul_div_right_comm]

theorem ratio_scaled (m : Nat) (e : Int) : ((scaled m e).1 : ℚ) / (scaled m e).2 = (m : ℚ) * 2 ^ e := by
  cases e with
  | ofNat k =>
      have hpow : ((Nat.pow 2 k : Nat) : ℚ) = 2 ^ k := Nat.cast_pow 2 k
      rw [scaled, Nat.cast_mul, hpow, Nat.cast_one, div_one, Int.ofNat_eq_natCast, zpow_natCast]
  | negSucc k =>
      have hpow : ((Nat.pow 2 (k + 1) : Nat) : ℚ) = 2 ^ (k + 1) := Nat.cast_pow 2 (k + 1)
      rw [scaled, hpow, zpow_negSucc, div_eq_mul_inv]

theorem scaled_pos (m : Nat) (e : Int) : 0 < (scaled m e).2 := by
  cases e with
  | ofNat k => exact Nat.one_pos
  | negSucc k => exact Nat.pow_pos (by decide)

/-- The integer part of a ratio is below a bound where the ratio is. -/
theorem div_lt_iff_ratio {d : Nat} (hd : 0 < d) (n bound : Nat) : n / d < bound ↔ (n : ℚ) / d < bound := by
  rw [Nat.div_lt_iff_lt_mul hd, div_lt_iff₀ (by exact_mod_cast hd)]
  exact_mod_cast Iff.rfl

/-! ## The exponent -/

/-- The number of bits of a ratio is known to within one. -/
theorem ratio_bounds {n d : Nat} (hn : n ≠ 0) (hd : 0 < d) :
    (2 : ℚ) ^ ((Nat.log2 n : Int) - Nat.log2 d - 1) ≤ (n : ℚ) / d ∧
      (n : ℚ) / d < 2 ^ ((Nat.log2 n : Int) - Nat.log2 d + 1) := by
  have hd' : (0 : ℚ) < d := by exact_mod_cast hd
  have hnlow : (2 : ℚ) ^ Nat.log2 n ≤ n := by exact_mod_cast Nat.log2_self_le hn
  have hnhigh : (n : ℚ) < 2 ^ (Nat.log2 n + 1) := by exact_mod_cast Nat.lt_log2_self
  have hdlow : (2 : ℚ) ^ Nat.log2 d ≤ d := by exact_mod_cast Nat.log2_self_le hd.ne'
  have hdhigh : (d : ℚ) < 2 ^ (Nat.log2 d + 1) := by exact_mod_cast Nat.lt_log2_self
  constructor
  · rw [le_div_iff₀ hd']
    calc (2 : ℚ) ^ ((Nat.log2 n : Int) - Nat.log2 d - 1) * d
        ≤ 2 ^ ((Nat.log2 n : Int) - Nat.log2 d - 1) * 2 ^ (Nat.log2 d + 1) :=
          mul_le_mul_of_nonneg_left hdhigh.le (by positivity)
      _ = 2 ^ Nat.log2 n := by
          rw [← zpow_natCast, ← zpow_natCast, ← zpow_add₀ two_ne_zero]
          congr 1
          push_cast
          omega
      _ ≤ n := hnlow
  · rw [div_lt_iff₀ hd']
    calc (n : ℚ) < 2 ^ (Nat.log2 n + 1) := hnhigh
      _ = 2 ^ ((Nat.log2 n : Int) - Nat.log2 d + 1) * 2 ^ Nat.log2 d := by
          rw [← zpow_natCast, ← zpow_natCast, ← zpow_add₀ two_ne_zero]
          congr 1
          push_cast
          omega
      _ ≤ 2 ^ ((Nat.log2 n : Int) - Nat.log2 d + 1) * d := mul_le_mul_of_nonneg_left hdlow (by positivity)

/-- The exponent by the number of bits alone. -/
def firstExponent (n d : Nat) : Int := max leastExponent ((Nat.log2 n : Int) - Nat.log2 d - 53)

theorem exponentOf_eq (n d : Nat) : exponentOf n d =
    if (inUnits n d (firstExponent n d)).1 / (inUnits n d (firstExponent n d)).2 < mantissaLimit then firstExponent n d
    else firstExponent n d + 1 := by
  have hfirst : (if (Nat.log2 n : Int) - Nat.log2 d - 53 < leastExponent then leastExponent
      else (Nat.log2 n : Int) - Nat.log2 d - 53) = firstExponent n d := by
    rw [firstExponent]
    split <;> omega
  rw [exponentOf, hfirst]

theorem ratio_lt_firstExponent {n d : Nat} (hn : n ≠ 0) (hd : 0 < d) :
    (n : ℚ) / d * 2 ^ (-firstExponent n d) < 2 ^ (54 : Int) := by
  have hle : (Nat.log2 n : Int) - Nat.log2 d + 1 ≤ 54 + firstExponent n d := by
    have hmax := le_max_right leastExponent ((Nat.log2 n : Int) - Nat.log2 d - 53)
    rw [firstExponent]
    omega
  rw [zpow_neg, mul_inv_lt_iff₀ (by positivity), ← zpow_add₀ two_ne_zero]
  exact (ratio_bounds hn hd).2.trans_le (zpow_le_zpow_right₀ one_le_two hle)

theorem le_ratio_firstExponent {n d : Nat} (hn : n ≠ 0) (hd : 0 < d) (h : leastExponent < firstExponent n d) :
    (2 : ℚ) ^ (52 : Int) ≤ n / d * 2 ^ (-firstExponent n d) := by
  have heq : firstExponent n d = (Nat.log2 n : Int) - Nat.log2 d - 53 := by
    rw [firstExponent] at h ⊢
    omega
  have hle : 52 + firstExponent n d ≤ (Nat.log2 n : Int) - Nat.log2 d - 1 := by omega
  rw [zpow_neg, le_mul_inv_iff₀ (by positivity), ← zpow_add₀ two_ne_zero]
  exact (zpow_le_zpow_right₀ one_le_two hle).trans (ratio_bounds hn hd).1

/-- In units of its exponent a ratio has at most 53 bits before the point, and not less unless the exponent is the least
one. -/
theorem exponentOf_spec {n d : Nat} (hn : n ≠ 0) (hd : 0 < d) :
    leastExponent ≤ exponentOf n d ∧ (n : ℚ) / d * 2 ^ (-exponentOf n d) < 2 ^ (53 : Int) ∧
      (leastExponent < exponentOf n d → (2 : ℚ) ^ (52 : Int) ≤ n / d * 2 ^ (-exponentOf n d)) := by
  have hleast : leastExponent ≤ firstExponent n d := le_max_left ..
  have hunits : (inUnits n d (firstExponent n d)).1 / (inUnits n d (firstExponent n d)).2 < mantissaLimit ↔
      (n : ℚ) / d * 2 ^ (-firstExponent n d) < 2 ^ (53 : Int) := by
    have hlimit : ((mantissaLimit : Nat) : ℚ) = 2 ^ (53 : Int) := Nat.cast_pow 2 53
    rw [div_lt_iff_ratio (inUnits_pos hd _), ratio_inUnits, hlimit]
  rw [exponentOf_eq]
  split
  next hlt => exact ⟨hleast, hunits.1 hlt, le_ratio_firstExponent hn hd⟩
  next hnot =>
    -- One bit more is before the point than fits, so the unit is doubled.
    have hge : (2 : ℚ) ^ (53 : Int) ≤ n / d * 2 ^ (-firstExponent n d) := not_lt.1 fun hlt => hnot (hunits.2 hlt)
    have hlt := ratio_lt_firstExponent hn hd
    have hhalf : (n : ℚ) / d * 2 ^ (-(firstExponent n d + 1)) = n / d * 2 ^ (-firstExponent n d) / 2 := by
      rw [neg_add, zpow_add₀ two_ne_zero, zpow_neg_one, ← mul_assoc, div_eq_mul_inv (_ * _)]
    refine ⟨by omega, ?_, fun _ => ?_⟩
    · rw [hhalf, div_lt_iff₀ two_pos, ← zpow_add_one₀ two_ne_zero]
      exact hlt
    · rw [hhalf, le_div_iff₀ two_pos, ← zpow_add_one₀ two_ne_zero]
      exact hge

/-! ## Rounding -/

theorem roundDiv_le {n d bound : Nat} (h : n / d < bound) : roundDiv n d ≤ bound := by
  have hbit := Nat.mod_lt (n / d) two_pos
  simp only [roundDiv]
  split
  · exact h.le
  · split
    · exact h
    · omega

/-- A ratio that is an integer is rounded to it. -/
theorem roundDiv_of_ratio {n d m : Nat} (hd : 0 < d) (h : (n : ℚ) / d = m) : roundDiv n d = m := by
  have hn : n = m * d := by
    rw [div_eq_iff (by exact_mod_cast hd.ne')] at h
    exact_mod_cast h
  have hquotient : n / d = m := by rw [hn, Nat.mul_div_cancel _ hd]
  have hrest : n % d = 0 := by rw [hn, Nat.mul_mod_left]
  simp only [roundDiv]
  rw [hquotient, hrest, if_pos (by omega)]

/-- The mantissa before a carry. -/
def roundedMantissa (n d : Nat) : Nat :=
  roundDiv (inUnits n d (exponentOf n d)).1 (inUnits n d (exponentOf n d)).2

theorem ofRatio_eq (negative : Bool) {n : Nat} (hn : n ≠ 0) (d : Nat) : ofRatio negative n d =
    if roundedMantissa n d = mantissaLimit then
      if greatestExponent < exponentOf n d + 1 then .infinity negative
      else .finite negative (mantissaLimit / 2) (exponentOf n d + 1)
    else
      if greatestExponent < exponentOf n d then .infinity negative
      else .finite negative (roundedMantissa n d) (exponentOf n d) := by
  have hcarried : ofRatio negative n d =
      (fun r : Nat × Int => if greatestExponent < r.2 then infinity negative else .finite negative r.1 r.2)
        (if roundedMantissa n d = mantissaLimit then (mantissaLimit / 2, exponentOf n d + 1)
          else (roundedMantissa n d, exponentOf n d)) := by
    rw [ofRatio, if_neg hn]
    rfl
  rw [hcarried]
  split <;> rfl

theorem roundedMantissa_le {n d : Nat} (hn : n ≠ 0) (hd : 0 < d) : roundedMantissa n d ≤ mantissaLimit := by
  have hlimit : ((mantissaLimit : Nat) : ℚ) = 2 ^ (53 : Int) := Nat.cast_pow 2 53
  refine roundDiv_le ?_
  rw [div_lt_iff_ratio (inUnits_pos hd _), ratio_inUnits, hlimit]
  exact (exponentOf_spec hn hd).2.1

/-- The mantissa and the exponent of a double are in range. -/
def IsRegular : Binary64 → Prop
  | .finite _ m e => m < mantissaLimit ∧ e ≤ greatestExponent
  | _ => True

theorem isRegular_zero (negative : Bool) : (zero negative).IsRegular := ⟨by decide, by decide⟩

theorem isRegular_ofRatio (negative : Bool) (n : Nat) {d : Nat} (hd : 0 < d) : (ofRatio negative n d).IsRegular := by
  by_cases hn : n = 0
  · rw [ofRatio, if_pos hn]
    exact isRegular_zero negative
  · have hle := roundedMantissa_le hn hd
    rw [ofRatio_eq negative hn]
    split
    · split
      next => trivial
      next hexponent => exact ⟨by decide, not_lt.1 hexponent⟩
    · split
      next => trivial
      next hne hexponent => exact ⟨lt_of_le_of_ne hle hne, not_lt.1 hexponent⟩

/-! ## Integers -/

/-- A natural number that is a mantissa times a power of two that a double has. -/
def IsDouble (n : Nat) : Prop := ∃ m k : Nat, m < mantissaLimit ∧ (k : Int) ≤ greatestExponent ∧ n = m * 2 ^ k

theorem isDouble_of_le {n : Nat} (h : n ≤ mantissaLimit) : IsDouble n := by
  rcases h.lt_or_eq with hlt | rfl
  · exact ⟨n, 0, hlt, by decide, (Nat.mul_one n).symm⟩
  · exact ⟨2 ^ 52, 1, by decide, by decide, by decide⟩

/-- An integer that is a double has no bits behind the point in units of its exponent. -/
theorem exists_mantissa {n d N : Nat} (hn : n ≠ 0) (hd : 0 < d) (hvalue : (n : ℚ) / d = N) (h : IsDouble N) :
    exponentOf n d ≤ greatestExponent ∧ ∃ m : Nat, m < mantissaLimit ∧ (N : ℚ) * 2 ^ (-exponentOf n d) = m := by
  have hlimit : ((mantissaLimit : Nat) : ℚ) = 2 ^ (53 : Int) := Nat.cast_pow 2 53
  obtain ⟨-, hlt, hge⟩ := exponentOf_spec hn hd
  rw [hvalue] at hlt hge
  obtain ⟨m, k, hm, hk, rfl⟩ := h
  have hunits : ((m * 2 ^ k : Nat) : ℚ) * 2 ^ (-exponentOf n d) = m * 2 ^ ((k : Int) - exponentOf n d) := by
    rw [Nat.cast_mul, Nat.cast_pow, Nat.cast_ofNat, mul_assoc, ← zpow_natCast, ← zpow_add₀ two_ne_zero, sub_eq_add_neg]
  rw [hunits] at hlt hge ⊢
  have hle : exponentOf n d ≤ k := by
    by_contra! hlow
    -- Otherwise the unit is so large that fewer bits than 53 are before the point.
    have hhalf : (2 : ℚ) ^ ((k : Int) - exponentOf n d) ≤ 2 ^ (-1 : Int) := zpow_le_zpow_right₀ one_le_two (by omega)
    have hm' : (m : ℚ) < 2 ^ (53 : Int) := by
      rw [← hlimit]
      exact_mod_cast hm
    have hbits : (2 : ℚ) ^ (52 : Int) ≤ m * 2 ^ ((k : Int) - exponentOf n d) := by
      refine hge ?_
      rw [leastExponent]
      omega
    have hsmall : (m : ℚ) * 2 ^ ((k : Int) - exponentOf n d) < 2 ^ (53 : Int) * 2 ^ (-1 : Int) :=
      (mul_le_mul_of_nonneg_left hhalf (Nat.cast_nonneg m)).trans_lt (mul_lt_mul_of_pos_right hm' (by positivity))
    rw [← zpow_add₀ two_ne_zero] at hsmall
    exact absurd hbits (not_le.2 hsmall)
  refine ⟨hle.trans hk, m * 2 ^ ((k : Int) - exponentOf n d).toNat, ?_, ?_⟩
  · have hnat : ((m * 2 ^ ((k : Int) - exponentOf n d).toNat : Nat) : ℚ) < (mantissaLimit : Nat) := by
      rw [hlimit, Nat.cast_mul, Nat.cast_pow, Nat.cast_ofNat, ← zpow_natCast, Int.toNat_of_nonneg (by omega)]
      exact hlt
    exact_mod_cast hnat
  · rw [Nat.cast_mul, Nat.cast_pow, Nat.cast_ofNat, ← zpow_natCast, Int.toNat_of_nonneg (by omega)]

/-- Such an integer is rounded to itself. -/
theorem ofRatio_of_isDouble (negative : Bool) {n d N : Nat} (hn : n ≠ 0) (hd : 0 < d) (hvalue : (n : ℚ) / d = N)
    (h : IsDouble N) : ∃ m e, ofRatio negative n d = .finite negative m e ∧ (m : ℚ) * 2 ^ e = N := by
  obtain ⟨hexponent, m, hm, hmantissa⟩ := exists_mantissa hn hd hvalue h
  have hrounded : roundedMantissa n d = m := by
    refine roundDiv_of_ratio (inUnits_pos hd _) ?_
    rw [ratio_inUnits, hvalue, hmantissa]
  refine ⟨m, exponentOf n d, ?_, ?_⟩
  · rw [ofRatio_eq negative hn, hrounded, if_neg hm.ne, if_neg (not_lt.2 hexponent)]
  · rw [← hmantissa, mul_assoc, ← zpow_add₀ two_ne_zero, neg_add_cancel, zpow_zero, mul_one]

/-- A number with a sign in front. -/
def signed (negative : Bool) (x : ℚ) : ℚ := if negative then -x else x

theorem signed_natCast_eq_intCast {negative : Bool} {n : Nat} {z : Int} :
    signed negative (n : ℚ) = z ↔ (if negative then -(n : Int) else n) = z := by
  cases negative with
  | true =>
      rw [signed, if_pos rfl, if_pos rfl]
      exact_mod_cast Iff.rfl
  | false =>
      rw [signed, if_neg Bool.false_ne_true, if_neg Bool.false_ne_true]
      exact_mod_cast Iff.rfl

theorem signed_eq_intCast {negative : Bool} {x : ℚ} {z : Int} (hx : 0 ≤ x) (h : signed negative x = z) :
    x = z.natAbs := by
  rw [Nat.cast_natAbs, Int.cast_abs, ← h, signed]
  cases negative with
  | true => exact ((abs_neg x).trans (abs_of_nonneg hx)).symm
  | false => exact (abs_of_nonneg hx).symm

/-- The integer of a double is its value. -/
theorem toInteger?_eq_some {negative : Bool} {m : Nat} {e z : Int} :
    (finite negative m e).toInteger? = some z ↔ signed negative (m * 2 ^ e) = z := by
  have hd := scaled_pos m e
  have hratio := ratio_scaled m e
  have hne : ((scaled m e).2 : ℚ) ≠ 0 := by exact_mod_cast hd.ne'
  simp only [toInteger?]
  split
  next hrest =>
    have hvalue : (m : ℚ) * 2 ^ e = ((scaled m e).1 / (scaled m e).2 : Nat) := by
      rw [← hratio, Nat.cast_div (Nat.dvd_of_mod_eq_zero hrest) hne]
    rw [hvalue, signed_natCast_eq_intCast, Option.some_inj]
  next hrest =>
    refine iff_of_false (fun h => by cases h) fun h => hrest ?_
    have hx : (0 : ℚ) ≤ m * 2 ^ e := by positivity
    have hmul : (scaled m e).1 = z.natAbs * (scaled m e).2 := by
      have hvalue := hratio.trans (signed_eq_intCast hx h)
      rw [div_eq_iff hne] at hvalue
      exact_mod_cast hvalue
    rw [hmul, Nat.mul_mod_left]

/-- The integer of a double is a mantissa times a power of two. -/
theorem isDouble_of_toInteger? {x : Binary64} (hx : x.IsRegular) {z : Int} (h : x.toInteger? = some z) :
    IsDouble z.natAbs := by
  cases x with
  | nan => cases h
  | infinity negative => cases h
  | finite negative m e =>
      obtain ⟨hm, he⟩ := hx
      have hvalue := signed_eq_intCast (by positivity) (toInteger?_eq_some.1 h)
      rcases Int.lt_or_le e 0 with hneg | hnonneg
      · -- Bits behind the point can only make the integer smaller.
        have hle : (z.natAbs : ℚ) ≤ m := by
          rw [← hvalue]
          exact mul_le_of_le_one_right (Nat.cast_nonneg m) (zpow_le_one_of_nonpos₀ one_le_two hneg.le)
        exact isDouble_of_le ((Nat.cast_le.1 hle).trans hm.le)
      · obtain ⟨k, rfl⟩ := Int.eq_ofNat_of_zero_le hnonneg
        refine ⟨m, k, hm, he, ?_⟩
        rw [zpow_natCast] at hvalue
        exact_mod_cast hvalue.symm

/-- An integer that is a double has no more bits than the largest doubles. -/
theorem IsDouble.lt {n bits : Nat} (h : IsDouble n) (hbits : 53 + greatestExponent ≤ bits) : n < 2 ^ bits := by
  obtain ⟨m, k, hm, hk, rfl⟩ := h
  calc m * 2 ^ k < 2 ^ 53 * 2 ^ k := Nat.mul_lt_mul_of_pos_right hm (Nat.two_pow_pos k)
    _ = 2 ^ (53 + k) := (Nat.pow_add 2 53 k).symm
    _ ≤ 2 ^ bits := Nat.pow_le_pow_right two_pos (by omega)

/-! ## Decimal fractions -/

/-- What a decimal fraction is equal to. -/
def decimalValue (negative : Bool) (c : Nat) (e : Int) : ℚ := signed negative (c * 10 ^ e)

theorem isRegular_ofDecimal (negative : Bool) (c : Nat) (e : Int) : (ofDecimal negative c e).IsRegular := by
  rw [ofDecimal]
  split
  · exact isRegular_zero negative
  · cases e with
    | ofNat k =>
        dsimp only
        split
        · trivial
        · exact isRegular_ofRatio negative _ Nat.one_pos
    | negSucc k =>
        dsimp only
        split
        · exact isRegular_zero negative
        · exact isRegular_ofRatio negative _ (Nat.pow_pos (by decide))

/-- A power of ten is worth more than three bits. -/
theorem two_pow_le_ten_pow (k : Nat) : 2 ^ (3 * k) ≤ 10 ^ k := by
  rw [Nat.pow_mul]
  exact Nat.pow_le_pow_left (by decide) k

/-- An integer that is a double is not told to be too large. -/
theorem not_large {c k : Nat} (hc : c ≠ 0) (h : IsDouble (c * 10 ^ k)) :
    ¬(1100 : Int) < (Nat.log2 c : Int) + 3 * Int.ofNat k := by
  intro hlarge
  have hexponent : 53 + greatestExponent ≤ (Nat.log2 c + 3 * k : Nat) := by
    rw [Int.ofNat_eq_natCast] at hlarge
    rw [greatestExponent]
    omega
  have hle : 2 ^ (Nat.log2 c + 3 * k) ≤ c * 10 ^ k := by
    rw [Nat.pow_add]
    exact Nat.mul_le_mul (Nat.log2_self_le hc) (two_pow_le_ten_pow k)
  exact absurd (h.lt hexponent) (not_lt.2 hle)

/-- An integer is not told to be too small. -/
theorem not_small {N k : Nat} (hN : N * 10 ^ (k + 1) ≠ 0) :
    ¬(Nat.log2 (N * 10 ^ (k + 1)) : Int) + 3 * Int.negSucc k < -1100 := by
  intro hsmall
  have hpos : 0 < N := Nat.pos_of_ne_zero (Nat.ne_zero_of_mul_ne_zero_left hN)
  have hle : 2 ^ (3 * (k + 1)) ≤ N * 10 ^ (k + 1) :=
    (two_pow_le_ten_pow (k + 1)).trans (Nat.le_mul_of_pos_left _ hpos)
  have hexponent : 3 * (k + 1) ≤ Nat.log2 (N * 10 ^ (k + 1)) := (Nat.le_log2 hN).2 hle
  rw [Int.negSucc_eq] at hsmall
  omega

/-- A decimal fraction that is an integer that a double has is converted to it. -/
theorem ofDecimal_of_isDouble (negative : Bool) {c : Nat} {e : Int} {N : Nat} (h : (c : ℚ) * 10 ^ e = N)
    (hN : IsDouble N) : ∃ m k, ofDecimal negative c e = .finite negative m k ∧ (m : ℚ) * 2 ^ k = N := by
  by_cases hc : c = 0
  · have hzero : N = 0 := by
      rw [hc, Nat.cast_zero, zero_mul] at h
      exact_mod_cast h.symm
    refine ⟨0, leastExponent, ?_, ?_⟩
    · rw [ofDecimal, if_pos hc]
      rfl
    · rw [hzero, Nat.cast_zero, zero_mul]
  · rw [ofDecimal, if_neg hc]
    cases e with
    | ofNat k =>
        have hnat : c * 10 ^ k = N := by
          rw [Int.ofNat_eq_natCast, zpow_natCast] at h
          exact_mod_cast h
        have hvalue : ((c * Nat.pow 10 k : Nat) : ℚ) / (1 : Nat) = N := by
          rw [Nat.cast_one, div_one]
          exact congrArg Nat.cast hnat
        dsimp only
        rw [if_neg (not_large hc (hnat ▸ hN))]
        exact ofRatio_of_isDouble negative (Nat.mul_ne_zero hc (Nat.pow_pos (by decide)).ne') Nat.one_pos hvalue hN
    | negSucc k =>
        have hpow : ((Nat.pow 10 (k + 1) : Nat) : ℚ) = 10 ^ (k + 1) := Nat.cast_pow 10 (k + 1)
        have hvalue : (c : ℚ) / (Nat.pow 10 (k + 1) : Nat) = N := by
          rw [← h, hpow, zpow_negSucc, div_eq_mul_inv]
        have hnat : c = N * 10 ^ (k + 1) := by
          rw [hpow, div_eq_iff (by positivity)] at hvalue
          exact_mod_cast hvalue
        have hbits : ¬(Nat.log2 c : Int) + 3 * Int.negSucc k < -1100 := by
          rw [hnat] at hc ⊢
          exact not_small hc
        dsimp only
        rw [if_neg hbits]
        exact ofRatio_of_isDouble negative hc (Nat.pow_pos (by decide)) hvalue hN

/-- **A decimal fraction that is an integer keeps its value as a double if and only if a double has it.** -/
theorem toInteger?_ofDecimal {negative : Bool} {c : Nat} {e z : Int} (h : decimalValue negative c e = z) :
    (ofDecimal negative c e).toInteger? = some z ↔ IsDouble z.natAbs := by
  refine ⟨isDouble_of_toInteger? (isRegular_ofDecimal negative c e), fun hz => ?_⟩
  have hvalue := signed_eq_intCast (by positivity) h
  obtain ⟨m, k, hfinite, hsame⟩ := ofDecimal_of_isDouble negative hvalue hz
  rw [hfinite, toInteger?_eq_some, hsame, ← hvalue]
  exact h

end FluentSql.Number.Binary64
