import FluentSql.Value.Shape
/-
# FluentSql.Slice — positions in a sequence.

A position is counted from the front, or from the end if it is negative. A slice goes from a start
towards a stop by steps that may be negative; bounds outside the sequence are moved to its ends.
-/

namespace FluentSql.Slice

/-- An index from a value: an integer, or a truth value as one or zero. -/
def index? : Value → Except Failure Int
  | .int n => .ok n
  | .bool b => .ok (if b then 1 else 0)
  | _ => .error .badIndex

/-- An index or nothing. -/
def bound? : Value → Except Failure (Option Int)
  | .null => .ok none
  | v => do .ok (some (← index? v))

/-- The largest index that a sequence could have. -/
def greatestIndex : Int := 9223372036854775807

/-- Whether an index lies beyond every sequence. -/
def isBeyond (index : Int) : Bool := index < -greatestIndex - 1 || greatestIndex < index

/-- The place of an index in a sequence. -/
def position? (length : Nat) (index : Int) : Except Failure Nat :=
  let place := if index < 0 then index + length else index
  if 0 ≤ place && place < length then .ok place.toNat else .error .outOfRange

/-- A bound moved into a sequence. -/
def clamp (length : Nat) (descending : Bool) (bound : Int) : Int :=
  -- Going down, the place in front of the sequence is a bound as well, and the one behind it is none.
  let least : Int := if descending then -1 else 0
  let greatest : Int := if descending then (length : Int) - 1 else length
  let place := if bound < 0 then bound + length else bound
  max least (min greatest place)

/-- How many steps lead from a start to a stop. -/
def stepCount (start stop step : Int) : Nat :=
  if 0 < step then ((stop - start + step - 1) / step).toNat
  else ((start - stop - step - 1) / (-step)).toNat

/-- The positions of a slice with the given bounds. -/
def positions (length : Nat) (start stop : Option Int) (step : Int) : List Nat :=
  let descending := decide (step < 0)
  let first := (start.map (clamp length descending)).getD
    (if descending then (length : Int) - 1 else 0)
  let last := (stop.map (clamp length descending)).getD (if descending then -1 else length)
  (List.range (stepCount first last step)).map fun (k : Nat) => (first + step * (k : Int)).toNat

/-- The step of a slice, one as a rule; a step of zero is a mistake. -/
def step? (step : Value) : Except Failure Int := do
  let step := (← bound? step).getD 1
  if step = 0 then .error .badValue else .ok step

/-- The positions between two values by steps. The step is looked at before the bounds. -/
def between? (length : Nat) (start stop step : Value) : Except Failure (List Nat) := do
  let step ← step? step
  let start ← bound? start
  .ok (positions length start (← bound? stop) step)

/-- The positions that values describe: nothing for all, a stop, a start and a stop, or these and a
step. -/
def ofValues? (length : Nat) : List Value → Except Failure (List Nat)
  | [] => between? length .null .null .null
  | [stop] => between? length .null stop .null
  | [start, stop] => between? length start stop .null
  | [start, stop, step] => between? length start stop step
  | _ => .error .badArguments

/-- Whether the slice that values describe goes forward place by place. -/
def isStepwise : List Value → Bool
  | [_, _, step] => (step? step).toOption == some 1
  | _ => true

variable {α : Type}

/-- The elements at the positions. -/
def takeAt (positions : List Nat) (xs : List α) : List α :=
  let all := xs.toArray
  positions.filterMap fun k => all[k]?

/-- For each place of a sequence of the given length, whether it is among the positions. -/
def marks (length : Nat) (positions : List Nat) : Array Bool :=
  positions.foldl (fun marked k => marked.setIfInBounds k true) (Array.replicate length false)

/-- The elements at all other positions. -/
def dropAt (positions : List Nat) (xs : List α) : List α :=
  let marked := marks xs.length positions
  (xs.zipIdx.filter fun e => !marked.getD e.2 false).map (·.1)

end FluentSql.Slice
