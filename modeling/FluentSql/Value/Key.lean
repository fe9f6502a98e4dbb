import FluentSql.Number.Exact
import FluentSql.Value
/-
# FluentSql.Value.Key — when two values are the same key.

Numbers are the same key when they have the same value, whatever their kind: the truth values count as
one and zero, and doubles and decimals are compared exactly. A limit style is the same key as its
word. Texts, bytes and tuples are the same only as their own kind, and what is held by reference only
as itself; whether a tuple has a number does not matter.

A key is compared by its tokens, a list in which equal things look alike. So being the same key is an
equivalence whatever the values are.
-/

namespace FluentSql.Value

open Number (Binary64 Decimal Exact)

/-- A number as it is compared. -/
inductive NumberForm where
  | exact (x : Exact)
  | infinity (negative : Bool)
  | nan
  /-- A not-a-number that refuses to be compared. -/
  | signaling
  deriving Repr, DecidableEq

/-- The number that a value is. -/
def number? : Value → Option NumberForm
  | .bool b => some (.exact (.ofInt (if b then 1 else 0)))
  | .int n => some (.exact (.ofInt n))
  | .float .nan => some .nan
  | .float (.infinity negative) => some (.infinity negative)
  | .float (.finite negative mantissa exponent) =>
    some (.exact (.ofFactors negative mantissa exponent 0))
  | .decimal (.nan signaling _ _) => some (if signaling then .signaling else .nan)
  | .decimal (.infinity negative) => some (.infinity negative)
  | .decimal (.finite negative coefficient exponent) =>
    some (.exact (.ofFactors negative coefficient exponent exponent))
  | _ => none

/-- What keys are compared by. -/
inductive KeyToken where
  | null
  | number (n : NumberForm)
  | text (s : String)
  | bytes (bs : List UInt8)
  | object (label : String)
  | ref (id : Nat)
  /-- The tokens of so many items follow, or of so many keys and values. -/
  | list (count : Nat)
  | tuple (count : Nat)
  | map (count : Nat)
  | stream (count : Nat)
  deriving Repr, DecidableEq

mutual

/-- The tokens of a value. -/
def keyTokens : Value → List KeyToken
  | .null => [.null]
  | .text s => [.text s]
  | .style s => [.text s.word]
  | .bytes bs => [.bytes bs]
  | .object label => [.object label]
  | .ref id => [.ref id]
  | .list items => .list items.length :: keyTokensOfAll items
  | .tuple items => .tuple items.length :: keyTokensOfAll items
  | .tupleAt _ items => .tuple items.length :: keyTokensOfAll items
  | .map entries => .map entries.length :: keyTokensOfEntries entries
  | .stream items => .stream items.length :: keyTokensOfAll items
  | v => ((number? v).map KeyToken.number).toList

/-- The tokens of several values. -/
def keyTokensOfAll : List Value → List KeyToken
  | [] => []
  | v :: rest => keyTokens v ++ keyTokensOfAll rest

/-- The tokens of keys and values. -/
def keyTokensOfEntries : List (Value × Value) → List KeyToken
  | [] => []
  | (key, v) :: rest => keyTokens key ++ keyTokens v ++ keyTokensOfEntries rest

end

/-- Two values are the same key. -/
instance : BEq Value := ⟨fun v w => keyTokens v == keyTokens w⟩

theorem beq_iff_keyTokens_eq (v w : Value) : (v == w) = true ↔ keyTokens v = keyTokens w :=
  beq_iff_eq (a := keyTokens v)

instance : EquivBEq Value where
  symm h := by rw [beq_iff_keyTokens_eq] at h ⊢; exact h.symm
  trans h h' := by rw [beq_iff_keyTokens_eq] at h h' ⊢; exact h.trans h'
  rfl := by simp [beq_iff_keyTokens_eq]

/-- Texts are the same key only if they are equal. -/
@[simp] theorem text_beq_text (s t : String) : (Value.text s == .text t) = (s == t) := by
  rw [Bool.eq_iff_iff, beq_iff_keyTokens_eq]
  simp [keyTokens]

end FluentSql.Value
