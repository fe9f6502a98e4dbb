/-
# FluentSql.Number.Exact — numbers by their factors two and five.

Integers, doubles and decimals are all a natural number, with a sign, times powers of two and five.
Such a number has one form whose natural number holds neither factor, so that two numbers are equal
exactly if their forms are. Exponents may be of any size: no power is computed to tell whether numbers
are equal, and to order them only where their sizes are close. Taking factors out of a number loses
nothing of it (`pow_mul_takeFactor`).
-/

namespace FluentSql.Number

/-- The number `core * 2 ^ twos * 5 ^ fives`, with a sign; zero has no sign and no exponents. -/
structure Exact where
  negative : Bool
  core : Nat
  twos : Int
  fives : Int
  deriving Repr, DecidableEq

/-- Takes a factor out of a number, at most as often as given: how often it was taken, and what is
left. -/
def takeFactor (p : Nat) : (times : Nat) → Nat → Nat × Nat
  | 0, n => (0, n)
  | times + 1, n =>
    if n % p = 0 then
      let taken := takeFactor p times (n / p)
      (taken.1 + 1, taken.2)
    else (0, n)

theorem pow_mul_takeFactor (p times n : Nat) :
    Nat.pow p (takeFactor p times n).1 * (takeFactor p times n).2 = n := by
  induction times generalizing n with
  | zero => simp [takeFactor]
  | succ times ih =>
    by_cases h : n % p = 0
    · simp only [takeFactor, h, if_true]
      rw [show Nat.pow p ((takeFactor p times (n / p)).1 + 1)
          = Nat.pow p (takeFactor p times (n / p)).1 * p from rfl, Nat.mul_right_comm, ih]
      exact Nat.div_mul_cancel (Nat.dvd_of_mod_eq_zero h)
    · simp [takeFactor, h]

namespace Exact

/-- The number `n * 2 ^ twos * 5 ^ fives` with a sign. -/
def ofFactors (negative : Bool) (n : Nat) (twos fives : Int) : Exact :=
  if n = 0 then ⟨false, 0, 0, 0⟩
  else
    -- No number holds a factor more often than it has bits.
    let even := takeFactor 2 (Nat.log2 n) n
    let core := takeFactor 5 (Nat.log2 n) even.2
    ⟨negative, core.2, twos + even.1, fives + core.1⟩

/-- An integer. -/
def ofInt (n : Int) : Exact := ofFactors (decide (n < 0)) n.natAbs 0 0

/-! ## Order -/

/-- A power of two that the size of a number other than zero reaches: five is at least four, and a
fifth at least an eighth. -/
def leastBits (x : Exact) : Int :=
  Nat.log2 x.core + x.twos + (if 0 ≤ x.fives then 2 * x.fives else 3 * x.fives)

/-- A power of two that the size of a number does not reach. -/
def mostBits (x : Exact) : Int :=
  Nat.log2 x.core + 1 + x.twos + (if 0 ≤ x.fives then 3 * x.fives else 2 * x.fives)

/-- The size of a number as a multiple of powers of two and five that are not above its own. -/
def multiple (x : Exact) (twos fives : Int) : Nat :=
  x.core * Nat.pow 2 (x.twos - twos).toNat * Nat.pow 5 (x.fives - fives).toNat

/-- Whether a number is of a smaller size than another. -/
def isSmaller (x y : Exact) : Bool :=
  if x.core == 0 || y.core == 0 then y.core != 0 && x.core == 0
  else if x.mostBits ≤ y.leastBits then true
  else if y.mostBits ≤ x.leastBits then false
  else
    -- The sizes are close, so the powers to compute are small.
    let twos := min x.twos y.twos
    let fives := min x.fives y.fives
    x.multiple twos fives < y.multiple twos fives

/-- Whether a number is less than another. -/
def isLess (x y : Exact) : Bool :=
  match x.negative, y.negative with
  | false, false => x.isSmaller y
  | true, true => y.isSmaller x
  | negative, _ => negative

end Exact

end FluentSql.Number
