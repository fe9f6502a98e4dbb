import FluentSql.Changes
import FluentSql.Failure
/-
# FluentSql.Changes.Edit — the operations on a row as values.

Every way to change a row and its edits, so that a history of a row is a list.
-/

namespace FluentSql.Changes

/-- An operation on a row. -/
inductive Edit where
  /-- Writes a field, as a value to bind or as SQL text. -/
  | set (field value : Value) (asSql : Bool)
  | unset (field : Value)
  | hydrate (row : Row)
  | forceAllDirty
  | markClean
  | setNew (isNew : Bool)
  deriving Repr, Inhabited

/-- The row after an operation. -/
def apply (c : Changes) : Edit → Changes
  | .set field value asSql => c.set field value asSql
  | .unset field => c.unset field
  | .hydrate row => c.hydrate row
  | .forceAllDirty => c.forceAllDirty
  | .markClean => c.markClean
  | .setNew isNew => { c with isNew }

/-- The row after several operations. -/
def applyAll (c : Changes) (edits : List Edit) : Changes := edits.foldl apply c

/-- The rows after each of several operations. -/
def history : List Edit → Changes → List Changes
  | [], _ => []
  | edit :: rest, c => c.apply edit :: history rest (c.apply edit)

/-- The last of the rows is the one that all the operations leave. -/
theorem getLast?_history (edit : Edit) (rest : List Edit) (c : Changes) :
    (history (edit :: rest) c).getLast? = some (c.applyAll (edit :: rest)) := by
  induction rest generalizing edit c with
  | nil => rfl
  | cons next rest ih =>
    have later := ih next (c.apply edit)
    simp only [history, List.getLast?_cons_cons] at later ⊢
    rw [later]
    rfl

/-- The rows after each of several operations, some of which fail. One that fails changes nothing. -/
def outcomes : List (Except Failure Edit) → Changes → List (Except Failure Changes)
  | [], _ => []
  | .ok edit :: rest, c => .ok (c.apply edit) :: outcomes rest (c.apply edit)
  | .error failure :: rest, c => .error failure :: outcomes rest c

/-- Where nothing fails the outcomes are the history. -/
theorem outcomes_map_ok (edits : List Edit) (c : Changes) :
    outcomes (edits.map .ok) c = (history edits c).map .ok := by
  induction edits generalizing c with
  | nil => rfl
  | cons edit rest ih => simp [outcomes, history, ih]

end FluentSql.Changes
