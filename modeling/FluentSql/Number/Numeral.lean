import FluentSql.Number.Binary64
import FluentSql.Text.Blank
import FluentSql.Text.DigitValue
/-
# FluentSql.Number.Numeral — reading numbers from texts.

Decimal digits of every script count as digits, blanks at both ends are skipped, and a single
underscore may stand between two digits. An integer is an optional sign and digits, at most
`integerDigitLimit` of them. A number may also have a point, an exponent, or be one of the words for
infinity and not-a-number in any case.

Outside ASCII every blank counts as a space here, within ASCII only the space and the controls from
the tabulator to the carriage return do.
-/

namespace FluentSql.Number

/-- How many digits an integer may be written with. -/
def integerDigitLimit : Nat := 4300

/-- The ASCII character that a character counts as: a digit for a digit, a space for a blank. -/
def asciiForm (c : Char) : Char :=
  if c.toNat < 0x7F then c
  else if Text.isBlank c then ' '
  else
    match Text.digitValue? c with
    | some d => Char.ofNat (0x30 + d)
    | none => '?'

/-- The blanks that may surround a number. -/
def isNumeralBlank (c : Char) : Bool := (0x09 ≤ c.toNat && c.toNat ≤ 0x0D) || c == ' '

/-- The characters of a numeral, in ASCII and without the blanks around it. -/
def numeralChars (s : String) : List Char :=
  Text.dropEndWhile isNumeralBlank ((s.toList.map asciiForm).dropWhile isNumeralBlank)

/-- Removes the underscores, each of which has to stand between two digits. -/
def dropUnderscores? (afterDigit : Bool) : List Char → Option (List Char)
  | [] => some []
  | c :: rest =>
    if c = '_' then
      if afterDigit && rest.head?.any Char.isDigit then dropUnderscores? false rest else none
    else (dropUnderscores? c.isDigit rest).map (c :: ·)

/-- Takes an optional sign off the front; the flag says whether it was a minus. -/
def takeSign : List Char → Bool × List Char
  | '-' :: rest => (true, rest)
  | '+' :: rest => (false, rest)
  | cs => (false, cs)

/-- The value of an ASCII digit. -/
def asciiDigit (c : Char) : Nat := c.toNat - 0x30

/-- The number that ASCII digits spell. -/
def ofAscii (cs : List Char) : Nat := ofDigits (cs.map asciiDigit)

/-- Reads an integer. -/
def readInteger? (s : String) : Option Int := do
  let cs ← dropUnderscores? false (numeralChars s)
  let (negative, ds) := takeSign cs
  if ds.isEmpty || !ds.all Char.isDigit || integerDigitLimit < ds.length then none
  else some (if negative then -(ofAscii ds : Int) else (ofAscii ds : Int))

/-- A number as it is written: a decimal fraction, or a word. -/
inductive Numeral where
  | decimal (negative : Bool) (coefficient : Nat) (exponent : Int)
  | infinity (negative : Bool)
  | nan
  deriving Repr, DecidableEq

namespace Numeral

/-- Reads an exponent: nothing, or a letter, an optional sign and digits. -/
def readExponent? : List Char → Option Int
  | [] => some 0
  | c :: rest =>
    if c = 'e' || c = 'E' then
      let (negative, ds) := takeSign rest
      if ds.isEmpty || !ds.all Char.isDigit then none
      else some (if negative then -(ofAscii ds : Int) else (ofAscii ds : Int))
    else none

/-- Reads digits with an optional point and exponent. -/
def readDecimal? (negative : Bool) (cs : List Char) : Option Numeral := do
  let whole := cs.takeWhile Char.isDigit
  let rest := cs.dropWhile Char.isDigit
  let (fraction, rest) :=
    match rest with
    | '.' :: more => (more.takeWhile Char.isDigit, more.dropWhile Char.isDigit)
    | _ => ([], rest)
  if whole.isEmpty && fraction.isEmpty then none
  else
    let exponent ← readExponent? rest
    -- Each digit behind the point counts as one power of ten less.
    some (.decimal negative (ofAscii (whole ++ fraction)) (exponent - fraction.length))

/-- Reads a number from ASCII characters without blanks and underscores. -/
def ofChars? (cs : List Char) : Option Numeral :=
  let (negative, body) := takeSign cs
  let word := String.ofList (body.map Char.toLower)
  if word == "inf" || word == "infinity" then some (.infinity negative)
  else if word == "nan" then some .nan
  else readDecimal? negative body

/-- Reads a number. -/
def read? (s : String) : Option Numeral := dropUnderscores? false (numeralChars s) >>= ofChars?

/-- The double nearest to a number. -/
def toBinary64 : Numeral → Binary64
  | .decimal negative coefficient exponent => .ofDecimal negative coefficient exponent
  | .infinity negative => .infinity negative
  | .nan => .nan

end Numeral

/-- Reads a double. -/
def Binary64.read? (s : String) : Option Binary64 := (Numeral.read? s).map Numeral.toBinary64

end FluentSql.Number
