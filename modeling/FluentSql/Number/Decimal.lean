import FluentSql.Number.Numeral
/-
# FluentSql.Number.Decimal — decimal numbers that keep their written precision.

A finite decimal is a sign, a coefficient and an exponent of ten, so 1.5 and 1.50 are different
numbers of equal value. The text is positional when the exponent is not positive and the first digit
stands at most six places behind the point; otherwise the point follows the first digit and an
exponent says by how much it moved.
-/

namespace FluentSql.Number

/-- A decimal number. The payload of a not-a-number is zero when it has none. -/
inductive Decimal where
  | finite (negative : Bool) (coefficient : Nat) (exponent : Int)
  | infinity (negative : Bool)
  | nan (signaling negative : Bool) (payload : Nat)
  deriving Repr, DecidableEq, Inhabited

namespace Decimal

/-- The digits with a point `place` digits after the first one's left edge. -/
def withPoint (ds : List Char) (place : Int) : List Char :=
  if place ≤ 0 then '0' :: '.' :: (List.replicate (-place).toNat '0' ++ ds)
  else if (ds.length : Int) ≤ place then ds ++ List.replicate (place.toNat - ds.length) '0'
  else ds.take place.toNat ++ '.' :: ds.drop place.toNat

/-- The text of an exponent, which always has a sign. -/
def exponentText (e : Int) : List Char :=
  'E' :: (if e < 0 then '-' else '+') :: digits e.natAbs

/-- The text of a coefficient and an exponent. -/
def finiteText (coefficient : Nat) (exponent : Int) : List Char :=
  let ds := digits coefficient
  let left := exponent + ds.length
  if exponent ≤ 0 && -6 < left then withPoint ds left
  else withPoint ds 1 ++ (if left = 1 then [] else exponentText (left - 1))

/-- The text of a decimal number. -/
def text (d : Decimal) : String :=
  let sign (negative : Bool) : List Char := if negative then ['-'] else []
  String.ofList <| match d with
    | .finite negative coefficient exponent => sign negative ++ finiteText coefficient exponent
    | .infinity negative => sign negative ++ "Infinity".toList
    | .nan signaling negative payload =>
      sign negative ++ (if signaling then "sNaN" else "NaN").toList ++
        (if payload = 0 then [] else digits payload)

/-- Reads the payload of a not-a-number. -/
def readPayload? (cs : List Char) : Option Nat :=
  if cs.all Char.isDigit then some (ofAscii cs) else none

/-- Reads a decimal number. -/
def read? (s : String) : Option Decimal :=
  let (negative, body) := takeSign (numeralChars s)
  let word := body.map Char.toLower
  match word with
  | 'n' :: 'a' :: 'n' :: payload => (readPayload? payload).map (.nan false negative)
  | 's' :: 'n' :: 'a' :: 'n' :: payload => (readPayload? payload).map (.nan true negative)
  | _ =>
    match Numeral.ofChars? (numeralChars s) with
    | some (.decimal negative coefficient exponent) => some (.finite negative coefficient exponent)
    | some (.infinity negative) => some (.infinity negative)
    | _ => none

/-- The double nearest to a decimal number; a signaling not-a-number has none. -/
def toBinary64? : Decimal → Option Binary64
  | .finite negative coefficient exponent => some (.ofDecimal negative coefficient exponent)
  | .infinity negative => some (.infinity negative)
  | .nan signaling _ _ => if signaling then none else some .nan

end Decimal

end FluentSql.Number
