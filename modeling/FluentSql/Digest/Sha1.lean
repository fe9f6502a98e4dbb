import FluentSql.Text.Hex
/-
# FluentSql.Digest.Sha1 — the SHA-1 digest.

The message is padded to blocks of 64 bytes with a one bit, zeros and the length in bits. A block is
sixteen 32-bit words, extended to eighty; every word takes the five words of the state through one
round, and the result is added to the state.
-/

namespace FluentSql.Digest.Sha1

/-- The five words that the digest is computed in. -/
structure State where
  a : UInt32
  b : UInt32
  c : UInt32
  d : UInt32
  e : UInt32
  deriving Repr, DecidableEq

/-- The state before the first block. -/
def start : State := ⟨0x67452301, 0xEFCDAB89, 0x98BADCFE, 0x10325476, 0xC3D2E1F0⟩

/-- Turns a word to the left by fewer than 32 bits. -/
def turn (k : UInt32) (x : UInt32) : UInt32 := (x <<< k) ||| (x >>> (32 - k))

/-- The word of the bytes, the highest first. -/
def word (bytes : List UInt8) : UInt32 := bytes.foldl (fun w b => (w <<< 8) ||| b.toUInt32) 0

/-- The bytes of a number in `width` places, the highest first. -/
def bytesOf : (width n : Nat) → List UInt8
  | 0, _ => []
  | width + 1, n => bytesOf width (n / 256) ++ [UInt8.ofNat n]

/-- The message with its padding. -/
def pad (message : List UInt8) : List UInt8 :=
  message ++ 0x80 :: List.replicate ((119 - message.length % 64) % 64) 0 ++
    bytesOf 8 (8 * message.length)

/-- Cuts a list into pieces of `n + 1` elements; what is left over is dropped. -/
def pieces {α : Type} (n : Nat) (xs : List α) : List (List α) :=
  if h : (xs.drop n).isEmpty then [] else xs.take (n + 1) :: pieces n (xs.drop (n + 1))
termination_by xs.length
decreasing_by
  simp only [List.isEmpty_iff, List.drop_eq_nil_iff, Nat.not_le] at h
  simp only [List.length_drop]
  omega

/-- Appends `count` further words to a schedule that is given in reverse. -/
def extend : (count : Nat) → (reversed : List UInt32) → List UInt32
  | 0, reversed => reversed
  | count + 1, reversed =>
    -- A word is made from those 3, 8, 14 and 16 places before it.
    extend count (turn 1 (reversed.getD 2 0 ^^^ reversed.getD 7 0 ^^^ reversed.getD 13 0 ^^^
      reversed.getD 15 0) :: reversed)

/-- The eighty words of a block. -/
def schedule (block : List UInt8) : List UInt32 :=
  (extend 64 ((pieces 3 block).map word).reverse).reverse

/-- The mixing function and the constant of a round. -/
def mix (round : Nat) (s : State) : UInt32 × UInt32 :=
  if round < 20 then ((s.b &&& s.c) ||| (~~~s.b &&& s.d), 0x5A827999)
  else if round < 40 then (s.b ^^^ s.c ^^^ s.d, 0x6ED9EBA1)
  else if round < 60 then ((s.b &&& s.c) ||| (s.b &&& s.d) ||| (s.c &&& s.d), 0x8F1BBCDC)
  else (s.b ^^^ s.c ^^^ s.d, 0xCA62C1D6)

/-- One round. -/
def round (s : State) (step : UInt32 × Nat) : State :=
  let (f, k) := mix step.2 s
  ⟨turn 5 s.a + f + s.e + k + step.1, s.a, turn 30 s.b, s.c, s.d⟩

/-- Takes the state through a block. -/
def absorb (s : State) (block : List UInt8) : State :=
  let t := (schedule block).zipIdx.foldl round s
  ⟨s.a + t.a, s.b + t.b, s.c + t.c, s.d + t.d, s.e + t.e⟩

/-- The state after a message. -/
def run (message : List UInt8) : State := (pieces 63 (pad message)).foldl absorb start

/-- The digest of a message in hexadecimal digits. -/
def hex (message : List UInt8) : String :=
  let s := run message
  String.ofList ([s.a, s.b, s.c, s.d, s.e].flatMap fun w => Text.hexDigits 8 w.toNat)

/-- The digest of a text. -/
def hexOfText (s : String) : String := hex s.toUTF8.toList

end FluentSql.Digest.Sha1
