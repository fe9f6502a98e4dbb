import FluentSql.Opening
import FluentSql.World
/-
# FluentSql.Environment — what lies outside a session.

Databases, and the functions that callers configure, are transitions of a state that the session
cannot look into. Nothing is assumed of them: a database may answer anything and may fail at any
point. A caller's function may fail too, and it may do anything in the world that a caller can do,
because callers know the session and hold what the heap keeps. The digest behind the cache keys is
given from outside too.
-/

namespace FluentSql

/-- A connection that was opened: its link, and what its interface reports about itself. -/
structure Opened where
  link : Link
  dialectName : String
  paramStyle : String
  deriving Repr, Inhabited

/-- The driver of what was opened. -/
def Opening.driver (opening : Opening) (opened : Opened) : Driver :=
  match opening with
  | .file _ => ⟨.sqlite, opened.link⟩
  | .engine _ _ => ⟨.toolkit opened.dialectName opened.paramStyle, opened.link⟩

/-- What lies outside. -/
structure Environment where
  State : Type
  /-- The digest of a text. -/
  digest : String → String
  connect : Opening → State → Except Failure Opened × State
  /-- Executes a statement, with parameters if there are any. -/
  execute : Link → Value → Option Value → State → Except Failure Reply × State
  /-- Hands out the next rows under a cursor, all that are left or at most as many as given. -/
  fetch : Nat → Option Nat → State → Except Failure (List Value) × State
  /-- The number that a native driver reports for its last insertion. -/
  insertId : Link → State → Except Failure Value × State
  /-- Calls a caller's function. -/
  call : Hook → HookCall → Step (World State) Value

end FluentSql
