/-
# FluentSql.Text.Utf8 — reading bytes as UTF-8, with replacement characters.

Well-formed sequences become their characters. Where the bytes are not well formed, the longest
piece that still begins a well-formed sequence becomes one replacement character, and reading goes
on after it; a byte that begins nothing is such a piece of its own.
-/

namespace FluentSql.Text

/-- What stands for bytes that are not well formed. -/
def replacementChar : Char := '\uFFFD'

/-- What the first byte of a sequence says: the bits it contributes, how many bytes follow, and the
range of the first of them. -/
structure LeadByte where
  bits : Nat
  following : Nat
  low : UInt8
  high : UInt8

/-- The reading of a byte that can begin a sequence of several bytes. -/
def leadByte? (b : UInt8) : Option LeadByte :=
  if 0xC2 ≤ b ∧ b ≤ 0xDF then some ⟨b.toNat - 0xC0, 1, 0x80, 0xBF⟩
  else if b = 0xE0 then some ⟨0, 2, 0xA0, 0xBF⟩
  else if b = 0xED then some ⟨0xD, 2, 0x80, 0x9F⟩
  else if 0xE1 ≤ b ∧ b ≤ 0xEF then some ⟨b.toNat - 0xE0, 2, 0x80, 0xBF⟩
  else if b = 0xF0 then some ⟨0, 3, 0x90, 0xBF⟩
  else if 0xF1 ≤ b ∧ b ≤ 0xF3 then some ⟨b.toNat - 0xF0, 3, 0x80, 0xBF⟩
  else if b = 0xF4 then some ⟨4, 3, 0x80, 0x8F⟩
  else none

/-- What is being read: nothing, or a sequence with the bits so far, the number of bytes still to
come and the range of the next one. -/
inductive DecodeState where
  | start
  | inside (bits following : Nat) (low high : UInt8)

/-- Reads bytes from a state. A byte that does not continue a sequence is read anew. -/
def decodeFrom : DecodeState → List UInt8 → List Char
  | .start, [] => []
  | .inside .., [] => [replacementChar]
  | .start, b :: rest => begin b rest
  | .inside bits following low high, b :: rest =>
    if low ≤ b ∧ b ≤ high then
      let bits := bits * 64 + (b.toNat - 0x80)
      match following with
      | 0 | 1 => Char.ofNat bits :: decodeFrom .start rest
      | n + 2 => decodeFrom (.inside bits (n + 1) 0x80 0xBF) rest
    else replacementChar :: begin b rest
where
  /-- Reads a byte that begins something. -/
  begin (b : UInt8) (rest : List UInt8) : List Char :=
    if b < 0x80 then Char.ofNat b.toNat :: decodeFrom .start rest
    else
      match leadByte? b with
      | some lead => decodeFrom (.inside lead.bits lead.following lead.low lead.high) rest
      | none => replacementChar :: decodeFrom .start rest

/-- The text that the bytes hold, with replacement characters where they are not well formed. -/
def decodeUtf8 (bytes : List UInt8) : String := String.ofList (decodeFrom .start bytes)

end FluentSql.Text
