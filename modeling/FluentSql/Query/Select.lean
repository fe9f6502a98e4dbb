import FluentSql.Query
import FluentSql.Rendering
import FluentSql.Text.Blank
/-
# FluentSql.Query.Select — the statements that a query stands for.

A SELECT is written clause by clause: head, joins, WHERE, GROUP BY, HAVING, ORDER BY, limit, offset.
Clauses that are blank are left out and the others are separated by single spaces. The values of the
joins bind first, then those of WHERE, then those of HAVING, which is the order in which their
placeholders stand in the text.

The limit is written behind SELECT or at the end, as the limit style says; the words for limit and
offset are the dialect's. The DELETE of a query keeps nothing but its table and its WHERE conditions.
There is no statement if a piece of it cannot be written, or if the alias is no name.
-/

namespace FluentSql.Query

/-- The values of fragments, in order. -/
def boundValues (fragments : List Fragment) : List Value := fragments.flatMap (·.values)

/-- The table with its alias. -/
def sourceText? (r : Rendering) (q : Query) : Except Failure String :=
  match q.tableAlias with
  | none => .ok (r.quote q.table)
  | some name => do .ok (r.quote q.table ++ " " ++ (← Identifier.quote? r.mark name))

/-- The start of a SELECT, up to the table and its alias. -/
def headClause (r : Rendering) (q : Query) : Except Failure String := do
  let top :=
    -- A limit of the other style stands at the end of the statement.
    match q.limit, r.limitStyle with
    | some n, .top => "TOP " ++ n.display ++ " "
    | _, _ => ""
  let distinct := if q.distinct then "DISTINCT " else ""
  let columns ← Piece.texts? q.columns
  let source ← sourceText? r q
  .ok ("SELECT " ++ top ++ distinct ++ ", ".intercalate columns ++ " FROM " ++ source)

/-- The texts of fragments. -/
def fragmentTexts (fragments : List Fragment) : Except Failure (List String) :=
  Piece.texts? (fragments.map (·.text))

/-- The joins, in order. -/
def joinClause (q : Query) : Except Failure String := do
  .ok (" ".intercalate (← fragmentTexts q.joins))

/-- A clause that is a keyword and entries, or nothing if there are no entries. -/
def listClause (keyword separator : String) (entries : List String) : String :=
  if entries.isEmpty then "" else keyword ++ " " ++ separator.intercalate entries

/-- The conditions of one kind. -/
def conditionClause (kind : ConditionKind) (q : Query) : Except Failure String := do
  .ok (listClause kind.keyword " AND " (← fragmentTexts (q.conditions kind)))

/-- The limit at the end of the statement. -/
def limitClause (r : Rendering) (q : Query) : String :=
  match q.limit, r.limitStyle with
  | some n, .limit => r.dialect.limitKeyword ++ " " ++ n.display
  | _, _ => ""

/-- The offset. -/
def offsetClause (r : Rendering) (q : Query) : String :=
  match q.offset with
  | some n => r.dialect.offsetKeyword ++ " " ++ n.display
  | none => ""

/-- The clauses of a SELECT in the order in which they are written. -/
def clauses (r : Rendering) (q : Query) : Except Failure (List String) := do
  let head ← headClause r q
  let joins ← joinClause q
  let wheres ← conditionClause .whereClause q
  let groups ← Piece.texts? q.groupBy
  let havings ← conditionClause .havingClause q
  let order ← Piece.texts? q.orderBy
  .ok [head, joins, wheres, listClause "GROUP BY" ", " groups, havings,
    listClause "ORDER BY" ", " order, limitClause r q, offsetClause r q]

/-- The SELECT of a query, or its raw statement. -/
def select (r : Rendering) (q : Query) : Except Failure Sql :=
  match q.raw with
  | some raw => .ok raw
  | none => do
    .ok {
      text := .text (Text.joinNonBlank " " (← clauses r q))
      params := .positional (boundValues q.joins ++ boundValues q.wheres ++ boundValues q.havings) }

/-- The statement that deletes the rows that the query selects. -/
def deleteMany (r : Rendering) (q : Query) : Except Failure Sql := do
  let wheres ← conditionClause .whereClause q
  .ok {
    text := .text (Text.joinNonBlank " " ["DELETE FROM", r.quote q.table, wheres])
    params := .positional (boundValues q.wheres) }

end FluentSql.Query
