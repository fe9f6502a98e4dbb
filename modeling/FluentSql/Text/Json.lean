import FluentSql.Text.Hex
/-
# FluentSql.Text.Json — arrays and objects of texts in JSON, in ASCII only.

Every character outside ASCII's graphic range is written as an escape; one above the basic plane
becomes the two halves of a surrogate pair. Elements are separated by a comma and a space, a key from
its value by a colon and a space.
-/

namespace FluentSql.Text.Json

/-- The 16-bit units of a code point. -/
def units (n : Nat) : List Nat :=
  if n < 0x10000 then [n]
  else [0xD800 + (n - 0x10000) / 0x400, 0xDC00 + (n - 0x10000) % 0x400]

/-- One character inside a JSON text. -/
def escapeChar (c : Char) : List Char :=
  if c = '\x22' || c = '\x5c' then ['\x5c', c]
  else if c = '\n' then ['\x5c', 'n']
  else if c = '\r' then ['\x5c', 'r']
  else if c = '\t' then ['\x5c', 't']
  else if c = '\x08' then ['\x5c', 'b']
  else if c = '\x0c' then ['\x5c', 'f']
  else if 0x20 ≤ c.toNat && c.toNat < 0x7F then [c]
  else (units c.toNat).flatMap fun unit => '\x5c' :: 'u' :: hexDigits 4 unit

/-- A JSON text. -/
def string (s : String) : List Char := '\x22' :: (s.toList.flatMap escapeChar ++ ['\x22'])

/-- A JSON array of texts. -/
def array (items : List String) : List Char :=
  '[' :: ([',', ' '].intercalate (items.map string) ++ [']'])

/-- A JSON object whose values are texts, in the order given. -/
def object (entries : List (String × String)) : List Char :=
  '\x7b' :: ([',', ' '].intercalate
    (entries.map fun e => string e.1 ++ ':' :: ' ' :: string e.2) ++ ['\x7d'])

end FluentSql.Text.Json
