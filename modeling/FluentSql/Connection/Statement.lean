import FluentSql.Heap.Walk
import FluentSql.Value.Literal
/-
# FluentSql.Connection.Statement — statements on their way to a database and into the log.

A statement is a text as a rule. One that is something else passes as it is as long as nobody has to
look for placeholders in it; if it holds a question mark as an item it cannot be taken apart.
-/

namespace FluentSql.Connection

/-- Fails if a statement that is no text holds a placeholder as an item. -/
def refusePlaceholder (sql : Value) : Step Heap Unit := do
  if ← Heap.contains (.text "?") sql then throw .badArguments

/-- The statement text in a placeholder style. -/
def restyle (style : ParamStyle) (sql : Value) : Step Heap Value := do
  match sql.asText?, style with
  | some _, .positional => return sql
  | some s, style => return .text (String.ofList (style.restyle s.toList))
  | none, .positional => return sql
  | none, .percent =>
    match (← get).content sql with
    | .bytes _ => throw .badArguments
    | _ => throw .noMember
  | none, _ =>
    refusePlaceholder sql
    return sql

/-- The statement and the parameters that an interface of the style receives. Named parameters pass
unchanged, and without parameters the statement passes unchanged and alone. -/
def adapt (style : ParamStyle) (sql params : Value) : Step Heap (Value × Option Value) := do
  match ← Heap.params params with
  | .named entries => return (sql, some (.map entries))
  | .positional [] => return (sql, none)
  | .positional values => return (← restyle style sql, some (style.bound values))

/-- The statement and the parameters as a driver sends them; absent parameters are not sent. -/
def prepare (kind : DriverKind) (sql params : Value) : Step Heap (Value × Option Value) := do
  match kind with
  | .native _ => return (sql, some params)
  | .sqlite =>
    match ← Heap.params params with
    | .named entries => return (sql, some (.map entries))
    | .positional values => return (sql, some (.tuple values))
  | .toolkit _ style => adapt (ParamStyle.ofName style) sql params

/-- The statement with the literals of its parameters in place of its placeholders. -/
def forDisplay (sql params : Value) : Step Heap Value := do
  match ← Heap.params params with
  | .named _ => return sql
  | .positional [] => return sql
  | .positional values =>
    match sql with
    | .text s =>
      return .text (bindForDisplay Value.literal s (.positional ((← get).settleAll values)))
    | sql =>
      refusePlaceholder sql
      return sql

end FluentSql.Connection
