import FluentSql.Heap.Walk
import FluentSql.Hook
import FluentSql.Text.Utf8
/-
# FluentSql.Settings — the options of a connection.

Options are known by their names. Each accepts only certain values: texts and bytes that spell one,
truth values and the words and numbers that stand for them, limit styles, keys, or functions of the
caller. A rejected value changes nothing.

The keys that are configured may be shared with callers, who can change them in place. A key is
therefore looked up through the heap whenever it is needed.
-/

namespace FluentSql

/-- What an option is set to. -/
inductive SettingValue where
  | value (v : Value)
  | hook (h : Hook)
  deriving Repr, Inhabited

/-- The options of a connection. -/
structure Settings where
  connectionString : String := "sqlite::memory:"
  /-- The mark around identifiers; absent means that of the dialect. -/
  quoteMark : Option String := none
  /-- The limit style; absent means that of the dialect. -/
  limitStyle : Option LimitStyle := none
  /-- The key of tables: a column, or a list of columns. -/
  keyColumns : Value := .text "id"
  /-- The keys of tables that have another one, by table. -/
  keyOverrides : Value := .map []
  logging : Bool := false
  logger : Option Hook := none
  caching : Bool := false
  /-- Whether writes through records clear the cache of the connection. -/
  cachingAutoClear : Bool := false
  createKey : Option Hook := none
  checkCache : Option Hook := none
  storeResult : Option Hook := none
  clearCache : Option Hook := none
  /-- Whether reading many rows gives a result set. -/
  returnResultSets : Bool := false
  deriving Repr, Inhabited

namespace Settings

/-- Whether any function of the caller takes part in caching. -/
def hasCacheHooks (s : Settings) : Bool :=
  s.createKey.isSome || s.checkCache.isSome || s.storeResult.isSome || s.clearCache.isSome

/-- The key of a table. -/
def keyOf (h : Heap) (table : String) (s : Settings) : KeyColumns :=
  let overrides := (h.entries? s.keyOverrides).getD []
  let key := (Entries.get? (.text table) overrides).getD s.keyColumns
  match h.content key with
  | .list columns => .compound columns
  | _ => .single key

/-! ## Reading values -/

/-- A text, or bytes that spell one. -/
def readText? : Value → Option String
  | .bytes bs =>
    let s := Text.decodeUtf8 bs
    if s.toUTF8.toList = bs then some s else none
  | v => v.asText?

/-- A text or nothing. -/
def readOptionalText? : Value → Option (Option String)
  | .null => some none
  | v => (readText? v).map some

/-- The words for true. -/
def trueWords : List String := ["1", "on", "t", "true", "y", "yes"]

/-- The words for false. -/
def falseWords : List String := ["0", "off", "f", "false", "n", "no"]

/-- The truth value of a number that is equal to one or zero. -/
def readNumber? (v : Value) : Option Bool :=
  if v == .int 1 then some true else if v == .int 0 then some false else none

/-- A truth value, a number equal to one or zero, or a word for either in any case. Of a decimal the
nearest double counts. -/
def readBool? : Value → Option Bool
  | .bool b => some b
  | .int n => readNumber? (.int n)
  | .float x => readNumber? (.float x)
  | .decimal d => d.toBinary64?.bind fun x => readNumber? (.float x)
  | v => (readText? v).bind fun s =>
    let word := String.ofList (s.toList.map Char.toLower)
    if trueWords.contains word then some true
    else if falseWords.contains word then some false
    else none

/-- A limit style by its word, or nothing. -/
def readLimitStyle? : Value → Option (Option LimitStyle)
  | .null => some none
  | v => ((readText? v).bind LimitStyle.ofWord?).map some

/-- A key: a text or a list of texts. -/
def readKey? : Value → Option Value
  | .list items => (items.mapM readText?).map .ofTexts
  | v => (readText? v).map .text

/-- A table with its key. -/
def readOverride? (e : Value × Value) : Option (Value × Value) := do
  let table ← readText? e.1
  let key ← readKey? e.2
  return (.text table, key)

/-- Keys by table. Of several keys of one table the last counts. -/
def readKeys? : Value → Option Value
  | .map entries => (entries.mapM readOverride?).map fun read => .map (Entries.ofPairs read)
  | _ => none

end Settings

/-- An option: its name, how it is read from the settings, and how a value changes them. -/
structure Setting where
  name : String
  read : Settings → SettingValue
  write? : SettingValue → Settings → Option Settings
  /-- How a value is looked into before it is judged. -/
  examine : Value → Step Heap Value := fun v => return (← get).settle v
  /-- Keeps a value that is shared with the caller from now on. -/
  keepShared : Value → Settings → Settings := fun _ s => s

namespace Setting

open Settings

/-- A sequence as a list, which is gone through; texts, bytes and mappings as they are. -/
def examineKey (v : Value) : Step Heap Value := do
  let h ← get
  match h.content v with
  | .text _ | .style _ | .bytes _ | .map _ => return h.settle v
  | _ => if h.isIterable v then return .list (h.settleAll (← Heap.items v)) else return h.settle v

/-- A mapping with its sequences as lists. -/
def examineKeys (v : Value) : Step Heap Value := do
  let h ← get
  match h.entries? v with
  | some entries => return .map (← entries.mapM fun e => do return (e.1, ← examineKey e.2))
  | none => return h.settle v

/-- An option that is a plain value. -/
def plain {α : Type} (name : String) (read? : Value → Option α) (read : Settings → Value)
    (write : α → Settings → Settings) : Setting where
  name := name
  read := fun s => .value (read s)
  write? := fun given s =>
    match given with
    | .value v => (read? v).map fun x => write x s
    | .hook _ => none

/-- An option that is a function of the caller, or nothing. -/
def function (name : String) (read : Settings → Option Hook)
    (write : Option Hook → Settings → Settings) : Setting where
  name := name
  read := fun s =>
    match read s with
    | none => .value .null
    | some hook => .hook hook
  write? := fun given s =>
    match given with
    | .hook hook => some (write (some hook) s)
    | .value .null => some (write none s)
    | .value _ => none

/-- All options, in the order in which they are shown. -/
def all : List Setting := [
  plain "connection_string" readText? (fun s => .text s.connectionString)
    fun x s => { s with connectionString := x },
  plain "identifier_quote_character" readOptionalText? (fun s => .ofText? s.quoteMark)
    fun x s => { s with quoteMark := x },
  plain "limit_clause_style" readLimitStyle? (fun s => .ofOption (s.limitStyle.map .style))
    fun x s => { s with limitStyle := x },
  { plain "id_column" readKey? keyColumns fun x s => { s with keyColumns := x } with
    examine := examineKey
    keepShared := fun v s => { s with keyColumns := v } },
  { plain "id_column_overrides" readKeys? keyOverrides fun x s => { s with keyOverrides := x } with
    examine := examineKeys
    keepShared := fun v s => { s with keyOverrides := v } },
  plain "logging" readBool? (fun s => .bool s.logging) fun x s => { s with logging := x },
  function "logger" logger fun x s => { s with logger := x },
  plain "caching" readBool? (fun s => .bool s.caching) fun x s => { s with caching := x },
  plain "caching_auto_clear" readBool? (fun s => .bool s.cachingAutoClear)
    fun x s => { s with cachingAutoClear := x },
  function "create_cache_key" createKey fun x s => { s with createKey := x },
  function "check_query_cache" checkCache fun x s => { s with checkCache := x },
  function "cache_query_result" storeResult fun x s => { s with storeResult := x },
  function "clear_cache" clearCache fun x s => { s with clearCache := x },
  plain "return_result_sets" readBool? (fun s => .bool s.returnResultSets)
    fun x s => { s with returnResultSets := x }]

/-- The option of a name. -/
def ofName? (name : String) : Option Setting := all.find? fun s => s.name == name

/-- The option that a value names. The value has to be one that can be looked up by. -/
def named? (h : Heap) (connection : String) (key : Value) : Except Failure Setting :=
  match key.asText?.bind ofName? with
  | some setting => .ok setting
  | none =>
    .error (if h.isKey key then .unknownOption key (h.settle key).display connection else .notKey)

end Setting

end FluentSql
