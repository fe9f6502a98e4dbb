import FluentSql.Heap.View
import FluentSql.Value.Key
/-
# FluentSql.Heap.Equality — when two values are equal.

What is held by reference is equal to itself. Apart from that numbers are equal when they have the
same value, whatever their kind, and lists, tuples, mappings and compiled statements when what they
hold is equal. A not-a-number is equal to no number; one that refuses to be compared makes every
comparison with a number fail.

Two values are compared from the front, and no further than the first difference. Lists and mappings of
different sizes differ before anything else is looked at; mappings are compared key by key, in any
order. Values that lie too deep inside one another, as those do that hold themselves, cannot be
compared at all.
-/

namespace FluentSql.Heap

/-- How deep values may lie inside one another to be compared. -/
def comparableDepth : Nat := 1000

/-- Whether two numbers are equal. -/
def numbersEqual? : Value.NumberForm → Value.NumberForm → Except Failure Bool
  | .signaling, _ => .error .incomparable
  | _, .signaling => .error .incomparable
  | .nan, _ => .ok false
  | x, y => .ok (x == y)

/-- Whether two values that hold no others are equal. -/
def plainEqual? (v w : Value) : Except Failure Bool :=
  match v.number?, w.number? with
  | some x, some y => numbersEqual? x y
  | _, _ => .ok (v == w)

/-- Whether two values refer to the same thing. -/
def isSame : Value → Value → Bool
  | .ref id, .ref id' => id == id'
  | .tupleAt id _, .tupleAt id' _ => id == id'
  | _, _ => false

/-- Whether two lists have equal items as far as the shorter one goes. -/
def allEqual? (eq : Value → Value → Except Failure Bool) : List Value → List Value →
    Except Failure Bool
  | v :: vs, w :: ws => do if ← eq v w then allEqual? eq vs ws else .ok false
  | _, _ => .ok true

/-- Whether every key has an equal value in other entries. -/
def matched? (eq : Value → Value → Except Failure Bool) : Row → Row → Except Failure Bool
  | [], _ => .ok true
  | (key, v) :: rest, others =>
    match Entries.get? key others with
    -- The value of the other mapping is the one that does the comparing.
    | some w => do if ← eq w v then matched? eq rest others else .ok false
    | none => .ok false

/-- The text and the parameters of a compiled statement. -/
def sqlParts? (h : Heap) (v : Value) : Option (Value × Value) :=
  match v with
  | .ref id =>
    match h.cell? id with
    | some (.sql text params) => some (text, params)
    | _ => none
  | _ => none

/-- Whether two values are equal, looking as deep as given. -/
def equalWithin? (h : Heap) : (depth : Nat) → Value → Value → Except Failure Bool
  | 0, _, _ => .error .tooDeep
  | depth + 1, v, w =>
    let eq := h.equalWithin? depth
    if isSame v w then .ok true
    else
      match h.sqlParts? v, h.sqlParts? w with
      | some (text, params), some (text', params') => do
        if ← eq text text' then eq params params' else .ok false
      | _, _ =>
        match h.content v, h.content w with
        -- Tuples are compared as far as the shorter one goes before their lengths are.
        | .list xs, .list ys => if xs.length = ys.length then allEqual? eq xs ys else .ok false
        | .tuple xs, .tuple ys => do .ok ((← allEqual? eq xs ys) && xs.length == ys.length)
        | .map xs, .map ys => if xs.length = ys.length then matched? eq xs ys else .ok false
        | v, w => plainEqual? v w

/-- Whether two values are equal. -/
def equal? (h : Heap) (v w : Value) : Except Failure Bool := h.equalWithin? comparableDepth v w

/-- Looks for an item among several: how many were looked at, and whether it is there. -/
def seek (h : Heap) (item : Value) : List Value → Nat × Except Failure Bool
  | [] => (0, .ok false)
  | v :: rest =>
    match h.equal? v item with
    | .ok false =>
      let sought := seek h item rest
      (sought.1 + 1, sought.2)
    | outcome => (1, outcome)

/-- What refers to something is equal to itself, however it looks. -/
theorem equal?_ref_self (h : Heap) (id : Nat) : h.equal? (.ref id) (.ref id) = .ok true := by
  simp [equal?, comparableDepth, equalWithin?, isSame]

end FluentSql.Heap
