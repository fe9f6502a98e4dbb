import FluentSql.QueryLog
import FluentSql.Settings
/-
# FluentSql.Session — named connections and everything that belongs to them.

A session holds, by connection name, the settings, the registered driver with its dialect, the cache
store that was chosen, and the log. Settings that were never touched are the default ones. Forgetting
the settings starts a new era; a cache that was made in an earlier era keeps the settings of then.
-/

namespace FluentSql

/-- The state of a session. -/
structure Session where
  settings : Entries String Settings := []
  /-- The settings of earlier eras. -/
  earlierSettings : List (Entries String Settings) := []
  /-- The dialects that drivers are matched with. -/
  knownDialects : Dialects := .standard
  drivers : Entries String Driver := []
  /-- The dialects of the registered drivers. -/
  dialects : Entries String MadeDialect := []
  /-- How many dialects were made. -/
  dialectCount : Nat := 0
  /-- The numbers that databases reported for the last statement on a link. -/
  lastRowIds : List (Link × Value) := []
  /-- The store of connections that have no other. -/
  memory : Cache.Store := []
  /-- The stores that callers made, by number. -/
  givenStores : List Cache.Store := []
  /-- What was chosen to keep the reads of connections. -/
  chosenStores : Entries String Value := []
  log : QueryLog := {}
  lastStatement : Option Statement := none
  deriving Inhabited

namespace Session

/-- The settings of a connection. -/
def settingsOf (connection : String) (s : Session) : Settings :=
  (Entries.get? connection s.settings).getD {}

/-- The number of the current era. -/
def era (s : Session) : Nat := s.earlierSettings.length

/-- The settings of a connection in an era. -/
def settingsIn (era : Nat) (connection : String) (s : Session) : Settings :=
  match s.earlierSettings[era]? with
  | some settings => (Entries.get? connection settings).getD {}
  | none => s.settingsOf connection

/-- The number that the database reported for the last statement on a link. -/
def lastRowId (link : Link) (s : Session) : Value :=
  ((s.lastRowIds.find? fun e => e.1 == link).map (·.2)).getD .null

/-- The session without the settings of any connection. -/
def forgetSettings (s : Session) : Session :=
  { s with settings := [], earlierSettings := s.earlierSettings ++ [s.settings] }

end Session

end FluentSql
