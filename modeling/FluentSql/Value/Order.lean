import FluentSql.Failure
import FluentSql.Value.Key
/-
# FluentSql.Value.Order — keys in order.

Numbers of all kinds are in order by size, texts by code points, bytes by their numbers, and tuples by
the first of their items that differ, or else by their lengths. Values of different kinds have no
order. A not-a-number is less than no number and no number less than it; beside a decimal it cannot be
compared at all.

Values that cannot be compared differ in kind at one place only. Whatever lies between them in order
differs there as well, so that sorting by what can be compared puts two such values side by side
(`sorted?`).
-/

namespace FluentSql.Value

/-- Whether the value is a decimal. -/
def isDecimal : Value → Bool
  | .decimal _ => true
  | _ => false

/-- Whether the number is none. -/
def NumberForm.isNan : NumberForm → Bool
  | .nan | .signaling => true
  | _ => false

/-- Whether a number is less than another. -/
def NumberForm.isLess : NumberForm → NumberForm → Bool
  | .exact x, .exact y => x.isLess y
  | .infinity negative, .infinity negative' => negative && !negative'
  | .infinity negative, .exact _ => negative
  | .exact _, .infinity negative => !negative
  | _, _ => false

/-- Whether a value that holds no others is less than another. -/
def plainLess? (v w : Value) : Except Failure Bool :=
  match v.number?, w.number? with
  | some x, some y =>
    -- Among doubles a not-a-number is only never less.
    if (v.isDecimal || w.isDecimal) && (x.isNan || y.isNan) then .error .incomparable
    else .ok (x.isLess y)
  | _, _ =>
    match v, w, v.asText?, w.asText? with
    | .bytes bs, .bytes bs', _, _ => .ok (decide (bs < bs'))
    | _, _, some s, some s' => .ok (decide (s < s'))
    | _, _, _, _ => .error .badArguments

mutual

/-- Whether a value is less than another. -/
def isLess? : Value → Value → Except Failure Bool
  | .tuple xs, .tuple ys => areLess? xs ys
  | v, w => plainLess? v w

/-- Whether items are less than others: the first that differ decide. -/
def areLess? : List Value → List Value → Except Failure Bool
  | v :: vs, w :: ws => if v == w then areLess? vs ws else isLess? v w
  | [], ws => .ok !ws.isEmpty
  | _ :: _, [] => .ok false

end

/-- Whether a value may stand before another: it does so as well if they cannot be compared. -/
def mayPrecede (v w : Value) : Bool :=
  match isLess? w v with
  | .ok less => !less
  | .error _ => true

/-- Fails unless all neighbours can be compared. -/
def requireComparable : List Value → Except Failure Unit
  | v :: w :: rest => do
    discard <| isLess? v w
    requireComparable (w :: rest)
  | _ => .ok ()

/-- Values in order, if they have one. -/
def sorted? (vs : List Value) : Except Failure (List Value) := do
  let sorted := vs.mergeSort mayPrecede
  requireComparable sorted
  .ok sorted

end FluentSql.Value
