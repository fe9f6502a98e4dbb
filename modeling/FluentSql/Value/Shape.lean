import FluentSql.Failure
import FluentSql.Text.Search
import FluentSql.Value
/-
# FluentSql.Value.Shape — taking values apart.

A value is gone through item by item: a text by its characters, bytes by their numbers, a mapping by
its keys. References lead nowhere here; who has a heap looks them up first.
-/

namespace FluentSql.Value

/-- The characters of a text as texts. -/
def characters (s : String) : List Value := s.toList.map fun c => .text (String.ofList [c])

/-- The items of a value, in order. -/
def items? : Value → Except Failure (List Value)
  | .text s => .ok (characters s)
  | .style s => .ok (characters s.word)
  | .bytes bs => .ok (bs.map fun b => .int b.toNat)
  | .list items => .ok items
  | .tuple items | .tupleAt _ items => .ok items
  | .map entries => .ok (Entries.keys entries)
  | .stream items => .ok items
  | _ => .error .notIterable

/-- The number of items of a value that is there as a whole. -/
def length? : Value → Except Failure Nat
  | .text s => .ok s.length
  | .style s => .ok s.word.length
  | .bytes bs => .ok bs.length
  | .list items => .ok items.length
  | .tuple items | .tupleAt _ items => .ok items.length
  | .map entries => .ok entries.length
  | _ => .error .notContainer

/-- A text, where nothing else will do. -/
def text? (v : Value) : Except Failure String :=
  match v.asText? with
  | some s => .ok s
  | none => .error .badArguments

/-- Texts from a sequence of them. -/
def texts? (v : Value) : Except Failure (List String) := do (← v.items?).mapM text?

/-- A byte as a character, for searching. -/
def byteChar (b : UInt8) : Char := Char.ofNat b.toNat

/-- Whether bytes hold a piece or a number. -/
def bytesHold? (bs : List UInt8) : Value → Except Failure Bool
  | .bytes piece => .ok (Text.occursIn (piece.map byteChar) (bs.map byteChar))
  | .bool b => .ok (bs.contains (if b then 1 else 0))
  | .int n =>
    if 0 ≤ n ∧ n < 256 then .ok (bs.contains (UInt8.ofNat n.toNat)) else .error .badValue
  | _ => .error .badArguments

end FluentSql.Value
