import FluentSql.Number.Binary64
import FluentSql.Text.Blank
/-
# FluentSql.Number.Shortest — the shortest decimal text that reads back as a double.

For one, two, … up to seventeen digits the two neighbours of the double on that decimal grid are
tried; the first grid with a neighbour that rounds back to the double gives the digits, the nearer of
two such neighbours, and of two equally near ones the even one. The text is positional when the
decimal exponent of the first digit is at least -4 and below 16, and has an exponent of two digits or
more otherwise.
-/

namespace FluentSql.Number.Binary64

/-- The decimal number `coefficient * 10 ^ exponent`. -/
structure DecimalForm where
  coefficient : Nat
  exponent : Int

/-- `n / d` divided by `10 ^ k`, as a ratio. -/
def inTens (n d : Nat) (k : Int) : Nat × Nat :=
  match k with
  | .ofNat j => (n, d * Nat.pow 10 j)
  | .negSucc j => (n * Nat.pow 10 (j + 1), d)

/-- The `point` for which `n / d` lies between `10 ^ (point - 1)` and `10 ^ point`. -/
def decimalPoint (n d : Nat) : Int :=
  if d ≤ n then digitCount (n / d) else 1 - digitCount (d / n)

/-- The best number of `count` digits that reads back as the double, if there is one. -/
def candidate? (x : Binary64) (n d : Nat) (point : Int) (count : Nat) : Option DecimalForm :=
  let k := point - count
  let (a, b) := inTens n d k
  -- The exact number lies between `low` and the next coefficient.
  let low := a / b
  let readsBack (c : Nat) : Bool := ofDecimal false c k == x
  let lowFits := readsBack low
  let highFits := readsBack (low + 1)
  -- If both read back the nearer one is taken, and the even one halfway between them.
  let twice := 2 * (a % b)
  let preferLow := twice < b || (twice == b && low % 2 == 0)
  if lowFits && (preferLow || !highFits) then some ⟨low, k⟩
  else if highFits then some ⟨low + 1, k⟩
  else none

/-- The shortest decimal form of a positive double. -/
def shortest (mantissa : Nat) (exponent : Int) : DecimalForm :=
  let x := Binary64.finite false mantissa exponent
  let (n, d) := scaled mantissa exponent
  let point := decimalPoint n d
  ((List.range 17).findSome? fun i => candidate? x n d point (i + 1)).getD ⟨0, 0⟩

/-- The exponent in the text of a number: a sign and two digits or more. -/
def exponentText (e : Int) : List Char :=
  let ds := digits e.natAbs
  (if e < 0 then '-' else '+') :: (if ds.length < 2 then '0' :: ds else ds)

/-- The text of the number `0.d₁d₂… * 10 ^ point`. -/
def layout (ds : List Char) (point : Int) : List Char :=
  let exponent := point - 1
  -- Very small and very large numbers are written with an exponent.
  if -4 ≤ exponent && exponent < 16 then
    if point ≤ 0 then '0' :: '.' :: (List.replicate (-point).toNat '0' ++ ds)
    else if (ds.length : Int) ≤ point then
      ds ++ List.replicate (point.toNat - ds.length) '0' ++ ['.', '0']
    else ds.take point.toNat ++ '.' :: ds.drop point.toNat
  else
    match ds with
    | [] => []
    | [d] => d :: 'e' :: exponentText exponent
    | d :: more => d :: '.' :: (more ++ 'e' :: exponentText exponent)

/-- The digits of a decimal form without zeros at the end. -/
def DecimalForm.digits (form : DecimalForm) : List Char :=
  Text.dropEndWhile (· == '0') (Number.digits form.coefficient)

/-- The place of the point relative to the first digit. -/
def DecimalForm.point (form : DecimalForm) : Int := form.exponent + digitCount form.coefficient

/-- The text of a double. -/
def text : Binary64 → String
  | .nan => "nan"
  | .infinity negative => if negative then "-inf" else "inf"
  | .finite negative mantissa exponent =>
    let body :=
      if mantissa = 0 then ['0', '.', '0']
      else
        let form := shortest mantissa exponent
        layout form.digits form.point
    String.ofList (if negative then '-' :: body else body)

end FluentSql.Number.Binary64
