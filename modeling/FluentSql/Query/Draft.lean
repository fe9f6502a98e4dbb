import FluentSql.Query.Select
/-
# FluentSql.Query.Draft — a query whose fragments come with values that nobody has gone through yet.

The values of a fragment may be anything that can be gone through, and are gone through when a
statement needs them. What can be gone through only once has nothing left for the next statement.
-/

namespace FluentSql.Query

/-- A fragment before its values are gone through. -/
structure LooseFragment where
  text : Piece
  values : Value
  deriving Repr, Inhabited

/-- A query with the fragments of its clauses apart. -/
structure Draft where
  query : Query
  joins : List LooseFragment := []
  wheres : List LooseFragment := []
  havings : List LooseFragment := []
  deriving Repr, Inhabited

namespace LooseFragment

/-- The fragment with its values in a list. -/
def fragment? (f : LooseFragment) : Except Failure Fragment := do
  .ok ⟨f.text, ← f.values.items?⟩

/-- The fragment after its values were gone through. -/
def used (f : LooseFragment) : LooseFragment :=
  match f.values with
  | .stream _ => { f with values := .stream [] }
  | _ => f

end LooseFragment

namespace Draft

/-- The SELECT of a draft. A raw statement is given without looking at anything else. -/
def select (r : Rendering) (d : Draft) : Except Failure Sql :=
  match d.query.raw with
  | some raw => .ok raw
  | none => do
    discard <| headClause r d.query
    let joins ← d.joins.mapM LooseFragment.fragment?
    let wheres ← d.wheres.mapM LooseFragment.fragment?
    let havings ← d.havings.mapM LooseFragment.fragment?
    { d.query with joins, wheres, havings }.select r

/-- The draft after its SELECT was made. -/
def afterSelect (d : Draft) : Draft :=
  if d.query.raw.isSome then d else { d with wheres := d.wheres.map LooseFragment.used }

/-- The statement that deletes the rows that the draft selects. -/
def deleteMany (r : Rendering) (d : Draft) : Except Failure Sql := do
  let wheres ← d.wheres.mapM LooseFragment.fragment?
  { d.query with wheres }.deleteMany r

end Draft

end FluentSql.Query
