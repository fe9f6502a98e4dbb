import FluentSql.Number.Digits
/-
# FluentSql.Number.Binary64 — double-precision numbers in exact arithmetic.

A finite double is a sign, a mantissa below 2^53 and an exponent of two; the mantissa is at least
2^52 unless the exponent is the least one. A ratio of natural numbers is rounded to the nearest
double, to the one with the even mantissa when two are equally near, and to infinity when it is too
large. Everything here is computed on natural numbers, so statements about it need no facts about
the machine's arithmetic.
-/

namespace FluentSql.Number

/-- A double-precision number. -/
inductive Binary64 where
  | nan
  | infinity (negative : Bool)
  /-- The number `mantissa * 2 ^ exponent`, with a sign also for zero. -/
  | finite (negative : Bool) (mantissa : Nat) (exponent : Int)
  deriving Repr, DecidableEq, Inhabited

namespace Binary64

/-- The exponent of the smallest doubles. -/
def leastExponent : Int := -1074

/-- The exponent of the largest doubles. -/
def greatestExponent : Int := 971

/-- The first number too large for a mantissa, `2 ^ 53`. -/
def mantissaLimit : Nat := Nat.pow 2 53

/-- A zero with a sign. -/
def zero (negative : Bool) : Binary64 := .finite negative 0 leastExponent

/-- `n * 2 ^ e` as a ratio of natural numbers. -/
def scaled (n : Nat) (e : Int) : Nat × Nat :=
  match e with
  | .ofNat k => (n * Nat.pow 2 k, 1)
  | .negSucc k => (n, Nat.pow 2 (k + 1))

/-- The nearest integer to `n / d`, the even one of two. -/
def roundDiv (n d : Nat) : Nat :=
  let q := n / d
  let r := n % d
  if 2 * r < d then q
  else if d < 2 * r then q + 1
  else q + q % 2

/-- The ratio `n / d` in units of `2 ^ e`, again as a ratio. -/
def inUnits (n d : Nat) (e : Int) : Nat × Nat :=
  match e with
  | .ofNat k => (n, d * Nat.pow 2 k)
  | .negSucc k => (n * Nat.pow 2 (k + 1), d)

/-- The exponent at which `n / d` has 53 bits before the point, or the least exponent. -/
def exponentOf (n d : Nat) : Int :=
  let fitting : Int := (Nat.log2 n : Int) - (Nat.log2 d : Int) - 53
  let e := if fitting < leastExponent then leastExponent else fitting
  let (n, d) := inUnits n d e
  if n / d < mantissaLimit then e else e + 1

/-- The nearest double to `n / d`, for a positive `d`. -/
def ofRatio (negative : Bool) (n d : Nat) : Binary64 :=
  if n = 0 then zero negative
  else
    let e := exponentOf n d
    let (n, d) := inUnits n d e
    let m := roundDiv n d
    let (m, e) := if m = mantissaLimit then (mantissaLimit / 2, e + 1) else (m, e)
    if greatestExponent < e then .infinity negative else .finite negative m e

/-- The nearest double to `coefficient * 10 ^ exponent`. Each power of ten is worth more than three bits, which tells
magnitudes far outside the range of doubles without computing them. -/
def ofDecimal (negative : Bool) (coefficient : Nat) (exponent : Int) : Binary64 :=
  if coefficient = 0 then zero negative
  else
    let bits := (Nat.log2 coefficient : Int) + 3 * exponent
    match exponent with
    | .ofNat k =>
      if 1100 < bits then .infinity negative else ofRatio negative (coefficient * Nat.pow 10 k) 1
    | .negSucc k =>
      if bits < -1100 then zero negative else ofRatio negative coefficient (Nat.pow 10 (k + 1))

/-- The integer that a double is equal to, if it is one. -/
def toInteger? : Binary64 → Option Int
  | .finite negative mantissa exponent =>
    let (n, d) := scaled mantissa exponent
    if n % d = 0 then some (if negative then -(n / d : Nat) else (n / d : Nat)) else none
  | _ => none

/-- Whether a double is neither infinite nor not a number. -/
def isFinite : Binary64 → Bool
  | .finite .. => true
  | _ => false

end Binary64

end FluentSql.Number
