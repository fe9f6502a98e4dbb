/-
# FluentSql.Number.Digits — decimal digits of natural numbers and integers.

Long numerals are read by combining neighbouring digits to one digit of the squared base, round after
round, which gives the same number as reading digit by digit (`ofDigits_eq_foldl`).
-/

namespace FluentSql.Number

/-- The decimal digits of a number, the highest first. -/
def digits (n : Nat) : List Char := Nat.toDigits 10 n

/-- How many decimal digits a number has; zero has one. -/
def digitCount (n : Nat) : Nat := (digits n).length

/-- The text of an integer. -/
def integerText : Int → String
  | .ofNat n => String.ofList (digits n)
  | .negSucc n => String.ofList ('-' :: digits (n + 1))

/-- Digit values to a base, the lowest first, as digit values to the square of the base. -/
def pairUp (base : Nat) : List Nat → List Nat
  | low :: high :: rest => (low + base * high) :: pairUp base rest
  | ds => ds

/-- The number that digit values to a base spell, the lowest first. The given number of rounds of
pairing comes before the reading. -/
def ofLowFirst : (rounds base : Nat) → List Nat → Nat
  | 0, base, ds => ds.foldr (fun d n => d + base * n) 0
  | rounds + 1, base, ds => ofLowFirst rounds (base * base) (pairUp base ds)

/-- The number that a list of digit values spells, the highest first. -/
def ofDigits (ds : List Nat) : Nat := ofLowFirst (Nat.log2 ds.length) 10 ds.reverse

theorem foldr_pairUp (base : Nat) (ds : List Nat) :
    (pairUp base ds).foldr (fun d n => d + base * base * n) 0 =
      ds.foldr (fun d n => d + base * n) 0 := by
  fun_induction pairUp base ds with
  | case1 low high rest ih =>
    simp only [List.foldr_cons, ih]
    rw [Nat.mul_add, Nat.mul_assoc, Nat.add_assoc]
  | case2 ds few =>
    match ds, few with
    | [], _ => rfl
    | [d], _ => simp
    | low :: high :: rest, few => exact absurd rfl (few low high rest)

theorem ofLowFirst_eq_foldr (rounds base : Nat) (ds : List Nat) :
    ofLowFirst rounds base ds = ds.foldr (fun d n => d + base * n) 0 := by
  induction rounds generalizing base ds with
  | zero => rfl
  | succ rounds ih => rw [ofLowFirst, ih, foldr_pairUp]

theorem ofDigits_eq_foldl (ds : List Nat) :
    ofDigits ds = ds.foldl (fun n d => n * 10 + d) 0 := by
  rw [ofDigits, ofLowFirst_eq_foldr, List.foldr_reverse]
  simp only [Nat.add_comm, Nat.mul_comm]

end FluentSql.Number
