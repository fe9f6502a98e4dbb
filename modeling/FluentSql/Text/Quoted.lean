import FluentSql.Text.Hex
import FluentSql.Text.Printable
/-
# FluentSql.Text.Quoted — the quoted form of texts and bytes.

A text stands in single quotes, or in double quotes if it holds a single quote and no double one.
The backslash, the quote in use, and the line and tabulator controls are escaped by a letter, every
other character that is not printable by its code in the shortest of the widths 2, 4 and 8.
Bytes are quoted like texts, with a mark in front and everything outside ASCII's graphic range
escaped.
-/

namespace FluentSql.Text

/-- The quote that goes around a text. -/
def chooseQuote (cs : List Char) : Char :=
  if cs.contains '\x27' && !cs.contains '\x22' then '\x22' else '\x27'

/-- The characters that are escaped by a letter, whatever the quote. -/
def letterEscape? (c : Char) : Option Char :=
  if c = '\x5c' then some '\x5c'
  else if c = '\n' then some 'n'
  else if c = '\r' then some 'r'
  else if c = '\t' then some 't'
  else none

/-- A code in the shortest of the widths 2, 4 and 8. -/
def codeEscape (n : Nat) : List Char :=
  if n < 0x100 then '\x5c' :: 'x' :: hexDigits 2 n
  else if n < 0x10000 then '\x5c' :: 'u' :: hexDigits 4 n
  else '\x5c' :: 'U' :: hexDigits 8 n

/-- One character between quotes; `shown` says which characters stand for themselves. -/
def quoteChar (shown : Char → Bool) (quote c : Char) : List Char :=
  if c = quote then ['\x5c', c]
  else
    match letterEscape? c with
    | some letter => ['\x5c', letter]
    | none => if shown c then [c] else codeEscape c.toNat

/-- The characters in quotes. -/
def quoteWith (shown : Char → Bool) (cs : List Char) : List Char :=
  let quote := chooseQuote cs
  quote :: (cs.flatMap (quoteChar shown quote) ++ [quote])

/-- The quoted form of a text. -/
def quoted (s : String) : String := String.ofList (quoteWith isPrintable s.toList)

/-- The quoted form of bytes. -/
def quotedBytes (bytes : List UInt8) : String :=
  let chars := bytes.map fun b => Char.ofNat b.toNat
  "b" ++ String.ofList (quoteWith (fun c => 0x20 ≤ c.toNat && c.toNat < 0x7F) chars)

end FluentSql.Text
