import FluentSql.Sql
/-
# FluentSql.Query — what a builder has collected for one statement.

A fragment is a piece of SQL with the values that its placeholders bind. A query holds the fragments
of its joins and conditions in the order of the calls, and everything else that a SELECT is made of.
A raw statement, if there is one, takes the place of all the rest.
-/

namespace FluentSql

/-- A piece of SQL with its values. -/
structure Fragment where
  text : Piece
  values : List Value := []
  deriving Repr, Inhabited

/-- The two clauses that hold conditions. -/
inductive ConditionKind where
  | whereClause
  | havingClause
  deriving Repr, DecidableEq

/-- The word that starts the clause. -/
def ConditionKind.keyword : ConditionKind → String
  | .whereClause => "WHERE"
  | .havingClause => "HAVING"

/-- The state of a builder. -/
structure Query where
  table : String
  tableAlias : Option Value := none
  /-- The result columns as they are written. -/
  columns : List Piece := [.text "*"]
  /-- Whether the columns are still those that nobody chose. -/
  usesDefaultColumns : Bool := true
  distinct : Bool := false
  joins : List Fragment := []
  wheres : List Fragment := []
  havings : List Fragment := []
  groupBy : List Piece := []
  orderBy : List Piece := []
  limit : Option Value := none
  offset : Option Value := none
  raw : Option Sql := none
  deriving Repr, Inhabited

namespace Query

/-- What qualifies the columns of the table: its alias if it has one, or else its name. -/
def source (q : Query) : Value := q.tableAlias.getD (.text q.table)

/-- The conditions of a clause. -/
def conditions (q : Query) : ConditionKind → List Fragment
  | .whereClause => q.wheres
  | .havingClause => q.havings

/-- Adds a condition to a clause. -/
def addCondition (kind : ConditionKind) (fragment : Fragment) (q : Query) : Query :=
  match kind with
  | .whereClause => { q with wheres := q.wheres ++ [fragment] }
  | .havingClause => { q with havings := q.havings ++ [fragment] }

/-- Adds a result column; the first one replaces the default. -/
def addColumn (column : Piece) (q : Query) : Query :=
  if q.usesDefaultColumns then { q with columns := [column], usesDefaultColumns := false }
  else { q with columns := q.columns ++ [column] }

/-- Returns to the default result columns. -/
def resetColumns (q : Query) : Query :=
  { q with columns := [.text "*"], usesDefaultColumns := true }

/-- Adds a join. -/
def addJoin (fragment : Fragment) (q : Query) : Query := { q with joins := q.joins ++ [fragment] }

/-- Adds an entry to GROUP BY. -/
def addGroup (entry : Piece) (q : Query) : Query := { q with groupBy := q.groupBy ++ [entry] }

/-- Adds an entry to ORDER BY. -/
def addOrder (entry : Piece) (q : Query) : Query := { q with orderBy := q.orderBy ++ [entry] }

@[simp] theorem conditions_addCondition (kind : ConditionKind) (fragment : Fragment) (q : Query) :
    (q.addCondition kind fragment).conditions kind = q.conditions kind ++ [fragment] := by
  cases kind <;> rfl

end Query

end FluentSql
