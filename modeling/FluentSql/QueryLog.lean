import FluentSql.Value
/-
# FluentSql.QueryLog — the statements that were executed, as people read them.

The log keeps the statements of every connection in order, and the one logged last on any of them. A
statement is a text as a rule; one that was given as something else is logged as it was given.
-/

namespace FluentSql

/-- The log of a session. -/
structure QueryLog where
  entries : Entries String (List Value) := []
  latest : Option Value := none
  deriving Repr, Inhabited

namespace QueryLog

/-- The statements of a connection. -/
def of (connection : String) (log : QueryLog) : List Value :=
  (Entries.get? connection log.entries).getD []

/-- Adds a statement. -/
def record (connection : String) (query : Value) (log : QueryLog) : QueryLog where
  entries := Entries.put connection (log.of connection ++ [query]) log.entries
  latest := some query

/-- The last statement of a connection, or the empty text if it has none. -/
def lastOf (connection : String) (log : QueryLog) : Value :=
  (log.of connection).getLast?.getD (.text "")

@[simp] theorem of_record_self (connection : String) (query : Value) (log : QueryLog) :
    (log.record connection query).of connection = log.of connection ++ [query] := by
  simp [record, of]

theorem of_record_of_ne {connection other : String} (h : other ≠ connection) (query : Value)
    (log : QueryLog) : (log.record connection query).of other = log.of other := by
  simp [record, of, Entries.get?_put_of_ne (beq_false_of_ne h)]

end QueryLog

end FluentSql
