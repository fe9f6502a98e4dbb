import FluentSql.Object
import FluentSql.Object.Container
/-
# FluentSql.Object.Method — calling the methods of objects by name.

A name that an object does not have is one mistake, arguments that do not fit the parameters another;
an attribute that is a value cannot be called. A result set passes a method on to everything that it
holds, in order, and stops at the first that fails.

Two methods belong to a kind of drivers rather than to one of them: they open another driver.
-/

namespace FluentSql.Object

open Parameter (required)

variable {E : Environment}

/-- Fails unless there are no arguments. -/
def requireNone (arguments : Arguments Value) : Action E Unit := do discard <| arguments.bind []

/-! ## Records -/

/-- What a call of a record gives. -/
def shareOutcome (self : Value) : Record.Outcome → Action E Value
  | .itself => return self
  | .value v => return v
  | .record none => return .null
  | .record (some r) => newRecord r
  | .records rs => do return .list (← rs.mapM newRecord)
  | .resultSet rs => do Session.inHeap (Heap.shareResultSet (← rs.mapM newRecord))
  | .sql s => do
    let params ← share s.params.toValue
    Session.inHeap (Heap.add (.sql s.text params))

/-- Calls a method of a record. -/
def callRecord (id : Nat) (r : Record) (method : String) (arguments : Arguments Value) :
    Action E Value := do
  let call ← Record.Method.call method arguments
  shareOutcome (.ref id) (← Record.act id r (Record.perform call))

/-! ## Statements, drivers and caches -/

/-- Calls a method of a statement. -/
def callStatement (s : Statement) (method : String) (arguments : Arguments Value) :
    Action E Value := do
  match method with
  | "fetch_row" =>
    requireNone arguments
    return .ofOption (← Connection.fetchRow s)
  | "fetch_all" =>
    requireNone arguments
    return .list (← Connection.fetchAll s)
  | _ => throw .noMember

/-- The method of a kind of drivers that opens another one. -/
def openingMethod? : DriverKind → Option String
  | .native _ => none
  | .sqlite => some "connect"
  | .toolkit _ _ => some "from_url"

/-- What the arguments of an opening method ask for. -/
def openingOf (method : String) (arguments : Arguments Value) : Except Failure Opening := do
  match method, arguments.positional, Entries.get? "url" arguments.named with
  | "connect", _, _ =>
    match ← arguments.bind [⟨"database", some (.text ":memory:")⟩] with
    | [database] => .ok (.file database)
    | _ => .error .badArguments
  | "from_url", [url], _ => Opening.withOptions? url arguments.named
  | "from_url", [], some url => Opening.withOptions? url (Entries.erase "url" arguments.named)
  | "from_url", _, _ => .error .badArguments
  | _, _, _ => .error .noMember

/-- Opens a driver. -/
def openDriver (method : String) (arguments : Arguments Value) : Action E Value := do
  let opening ← openingOf method arguments
  let opened ← Session.outside (E.connect opening)
  Session.inHeap (Heap.shareDriver (opening.driver opened))

/-- Calls a method of a driver. -/
def callDriver (d : Driver) (method : String) (arguments : Arguments Value) : Action E Value := do
  match method with
  | "execute" =>
    match ← arguments.bind [required "sql", ⟨"params", some (.tuple [])⟩] with
    | [sql, params] => do Session.inHeap (Heap.shareStatement (← Connection.send d sql params))
    | _ => throw .badArguments
  | "last_insert_id" =>
    requireNone arguments
    Connection.lastInsertId d
  | "quote" =>
    match ← arguments.bind [required "value"] with
    | [v] => return .text ((← heap).settle v).literal
    | _ => throw .badArguments
  | method =>
    if openingMethod? d.kind == some method then openDriver method arguments else throw .noMember

/-- Calls a method of a cache. -/
def callCache (c : CacheRef) (method : String) (arguments : Arguments Value) : Action E Value := do
  let place := [required "table_name", required "connection_name"]
  match method with
  | "make_key" =>
    match ← arguments.bind ([required "query", required "parameters"] ++ place) with
    | [query, params, table, connection] => Connection.cacheKey c query params table connection
    | _ => throw .badArguments
  | "get" =>
    match ← arguments.bind (required "key" :: place) with
    | [key, table, connection] => Connection.lend c key table connection
    | _ => throw .badArguments
  | "set" =>
    match ← arguments.bind ([required "key", required "rows"] ++ place) with
    | [key, rows, table, connection] =>
      Connection.keep c key rows table connection
      return .null
    | _ => throw .badArguments
  | "clear" =>
    match ← arguments.bind place with
    | [table, connection] =>
      Connection.clear c table connection
      return .null
    | _ => throw .badArguments
  | "clear_all" =>
    match c with
    | .hooks _ _ => throw .noMember
    | c =>
      requireNone arguments
      Connection.putStore c []
      return .null
  | _ => throw .noMember

/-! ## Compiled statements and result sets -/

/-- Calls a method of a compiled statement. -/
def callSql (params : Value) (method : String) (arguments : Arguments Value) : Action E Value := do
  match method with
  | "positional_params" =>
    requireNone arguments
    match (← heap).entries? params with
    | some _ => return .list []
    | none => return .list (← (← heap).items? params)
  | _ => throw .noMember

/-- The method that a result set is to pass on, and the arguments for it. The name of the result set
itself is taken. -/
def forwarded (arguments : Arguments Value) : Except Failure (Value × Arguments Value) :=
  if Entries.contains "self" arguments.named then .error .badArguments
  else
    match arguments.positional, Entries.get? "method" arguments.named with
    | method :: positional, none => .ok (method, { arguments with positional })
    | [], some method =>
      .ok (method, { arguments with named := Entries.erase "method" arguments.named })
    | _, _ => .error .badArguments

/-- Does something with every item of a list, from a place on, at most as many times as given. Items
that come in the meantime are met as well. -/
def forEachItem (list : Nat) (action : Value → Action E Unit) : (times place : Nat) →
    Action E Unit
  | 0, _ => throw .tooDeep
  | times + 1, place => do
    match ((← heap).listItems list)[place]? with
    | some item =>
      action item
      forEachItem list action times (place + 1)
    | none => pure ()

/-- How many items of a list are met at most. -/
def itemLimit : Nat := 10000

/-- Calls a method of a result set; `callItem` calls one of what it holds. -/
def callResultSet (callItem : Value → String → Arguments Value → Action E Value) (id list : Nat)
    (method : String) (arguments : Arguments Value) : Action E Value := do
  match method with
  | "call" =>
    let (method, rest) ← forwarded arguments
    forEachItem list (fun item => do discard <| callItem item (← method.text?) rest) itemLimit 0
    return .ref id
  | "get_results" =>
    requireNone arguments
    return .ref list
  | "as_list" =>
    requireNone arguments
    return .list ((← heap).listItems list)
  | "set_results" =>
    match ← arguments.bind [required "results"] with
    | [results] =>
      match ← Session.inHeap (do Heap.add (.list (← Heap.items results))) with
      | .ref list => Session.inHeap (Heap.put id (.resultSet list))
      | _ => pure ()
      return .null
    | _ => throw .badArguments
  | _ => throw .noMember

/-! ## All objects -/

/-- An attribute of an object that is a value. -/
def property? (object : Value) (name : String) : Action E (Option Value) := do
  match ← cell? object, name with
  | some (.record r), "table_name" => return some (.text r.table)
  | some (.record r), "connection_name" => return some (.text r.connection)
  | some (.statement s), "rowcount" => return some (.int s.rowcount)
  | some (.statement s), "lastrowid" => return s.lastRowId
  | some (.driver d), "dialect_name" => return some (.text d.kind.dialectName)
  | some (.driver ⟨.toolkit _ style, _⟩), "paramstyle" => return some (.text style)
  | some (.sql text _), "sql" => return some text
  | some (.sql _ params), "params" => return some params
  | some (.dialect d), "name" => return some (.text d.dialect.name)
  | some (.dialect d), "quote_character" => return some (.text d.dialect.quoteMark)
  | some (.dialect d), "limit_style" => return some (.style d.dialect.limitStyle)
  | some (.dialect d), "limit_keyword" => return some (.text d.dialect.limitKeyword)
  | some (.dialect d), "offset_keyword" => return some (.text d.dialect.offsetKeyword)
  | some (.dialect d), "returns_inserted_ids" => return some (.bool d.dialect.returnsIds)
  | some (.dialect d), "driver_names" => return some (.tuple (d.dialect.driverNames.map .text))
  | _, _ =>
    match object, name with
    | .style s, "value" => return some (.text s.word)
    | .style s, "name" => return some (.text s.memberName)
    | _, _ => return none

/-- Calls a method of an object; result sets are followed as deep as given. -/
def callWithin : (depth : Nat) → Value → String → Arguments Value → Action E Value
  | depth, object, method, arguments => do
    if (← property? object method).isSome then throw .badArguments
    match object, ← cell? object, depth with
    | .ref id, some (.record r), _ => callRecord id r method arguments
    | _, some (.statement s), _ => callStatement s method arguments
    | _, some (.driver d), _ => callDriver d method arguments
    | _, some (.cache c), _ => callCache c method arguments
    | .ref id, some (.map entries), _ =>
      Session.inHeap (Container.callMap id entries method arguments)
    | .ref id, some (.list items), _ =>
      if arguments.named.isEmpty then
        Session.inHeap (Container.callList id items method arguments.positional)
      else throw (if Container.listMethods.contains method then .badArguments else .noMember)
    | _, some (.sql _ params), _ => callSql params method arguments
    | .ref id, some (.resultSet list), depth + 1 =>
      callResultSet (callWithin depth) id list method arguments
    | _, _, _ => throw .noMember

/-- Calls a method of an object. A result set takes an argument away for each method that it passes
on. -/
def call (object : Value) (method : String) (arguments : Arguments Value) : Action E Value :=
  callWithin (arguments.positional.length + arguments.named.length + 1) object method arguments

/-- Calls a method of an object, or one that belongs to a kind of objects. -/
def callMethod (owner : Option Nat) (name : String) (arguments : Arguments Value) :
    Action E Value :=
  match owner with
  | some id => call (.ref id) name arguments
  | none => openDriver name arguments

/-- Whether an object has a method of a name, apart from those that belong to its kind. -/
def hasMethod (cell : Cell) (name : String) : Bool :=
  match cell with
  | .record _ => Record.Method.isName name
  | .resultSet _ => ["call", "get_results", "as_list", "set_results"].contains name
  | .statement _ => ["fetch_row", "fetch_all"].contains name
  | .driver _ => ["execute", "last_insert_id", "quote"].contains name
  | .cache (.hooks _ _) => ["make_key", "get", "set", "clear"].contains name
  | .cache _ => ["make_key", "get", "set", "clear", "clear_all"].contains name
  | .list _ => Container.listMethods.contains name
  | .map _ => Container.mapMethods.contains name
  | .sql _ _ => name == "positional_params"
  | _ => false

/-- An attribute of an object: a value, or a method as something that can be called. -/
def member (object : Value) (name : String) : Action E Value := do
  match ← property? object name, object, ← cell? object with
  | some v, _, _ => return v
  | none, .ref id, some cell =>
    if hasMethod cell name then Session.inHeap (Heap.shareMethod (some id) name)
    else
      match cell with
      | .driver d =>
        if openingMethod? d.kind == some name then Session.inHeap (Heap.shareMethod none name)
        else throw .noMember
      | _ => throw .noMember
  | none, _, _ => throw .noMember

end FluentSql.Object
