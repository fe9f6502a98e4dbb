import FluentSql.Failure
import FluentSql.Text.Search
import FluentSql.Value
/-
# FluentSql.Opening — what a connection string opens.

A string that starts with `sqlite:` but not with `sqlite://` names a database file, or a database in
memory if nothing follows. Every other string is an address for the database toolkit, whose engine
commits by itself.
-/

namespace FluentSql

/-- What is to be opened. -/
inductive Opening where
  /-- A database file. -/
  | file (path : Value)
  /-- An engine of the toolkit, with options for the engine. -/
  | engine (address : Value) (options : Entries String Value)
  deriving Repr, Inhabited

namespace Opening

/-- What follows a given beginning of a text. -/
def after? (start s : String) : Option String :=
  (Text.afterMatch? start.toList s.toList).map String.ofList

/-- What a connection string opens. -/
def ofString (s : String) : Opening :=
  match after? "sqlite:" s, after? "sqlite://" s with
  | some path, none => .file (.text (if path.isEmpty then ":memory:" else path))
  | _, _ => .engine (.text s) []

/-- The names that no option of an engine can have. -/
def reservedNames : List String := ["cls", "url"]

/-- An engine with options. Of several options of one name the last counts. -/
def withOptions? (address : Value) (options : List (String × Value)) : Except Failure Opening :=
  if options.any fun e => reservedNames.contains e.1 then .error .badArguments
  else .ok (.engine address (Entries.ofPairs options))

/-- The function that opens it, its argument and its options. -/
def request : Opening → String × Value × Entries String Value
  | .file path => ("sqlite3.connect", path, [("isolation_level", .null)])
  | .engine address options => ("create_engine", address, options)

/-- The options that are set on the connection once it is open. -/
def connectionOptions : Opening → Entries String Value
  | .file _ => []
  | .engine _ _ => [("isolation_level", .text "AUTOCOMMIT")]

/-- Fails if opening needs the toolkit and the toolkit is missing. -/
def check (toolkitInstalled : Bool) : Opening → Except Failure Unit
  | .file _ => .ok ()
  | .engine address _ =>
    if toolkitInstalled then .ok () else .error (.missingToolkit (.opening address))

end Opening

end FluentSql
