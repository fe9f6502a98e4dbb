import FluentSql.Arguments
import FluentSql.Record.Call
/-
# FluentSql.Record.Method — the calls of a record by name.

A method has a name, parameters, and a reading of its arguments as a call. Two methods take any
number of arguments and no named ones.
-/

namespace FluentSql.Record

/-- A method of a record. -/
structure Method where
  name : String
  parameters : List Parameter
  call? : List Value → Except Failure Call

namespace Method

open Parameter (required optional)

/-- A method without arguments. -/
def plain (name : String) (call : Call) : Method := ⟨name, [], fun _ => .ok call⟩

/-- A method with one argument. -/
def unary (name : String) (parameter : Parameter) (call : Value → Except Failure Call) : Method :=
  ⟨name, [parameter], fun arguments =>
    match arguments with
    | [a] => call a
    | _ => .error .badArguments⟩

/-- A method with two arguments. -/
def binary (name : String) (first second : Parameter) (call : Value → Value → Except Failure Call) :
    Method :=
  ⟨name, [first, second], fun arguments =>
    match arguments with
    | [a, b] => call a b
    | _ => .error .badArguments⟩

/-- A builder call as a method result. -/
def built (call : BuilderCall) : Except Failure Call := .ok (.build call)

/-- A method that adds comparisons. -/
def compares (kind : ConditionKind) (operator name : String) : Method :=
  binary name (required "column") (optional "value") fun column value =>
    built (.condition kind (.compare operator column value))

/-- A method that adds membership conditions. -/
def contains (kind : ConditionKind) (operator name : String) : Method :=
  binary name (required "column") (optional "values") fun column values =>
    built (.among kind operator column values)

/-- A method that adds tests. -/
def tests (kind : ConditionKind) (operator name : String) : Method :=
  unary name (required "column") fun column =>
    built (.condition kind (.check operator column))

/-- A method that joins a table. -/
def joins (kind : JoinKind) (name : String) : Method :=
  ⟨name, [required "table", required "constraint", optional "table_alias"], fun arguments =>
    match arguments with
    | [table, constraint, asName] => built (.join kind table constraint asName)
    | _ => .error .badArguments⟩

/-- A method that reads an aggregate. -/
def aggregates (aggregation : Aggregation) (parameter : Parameter) : Method :=
  unary aggregation.column parameter fun column => .ok (.aggregate aggregation column)

/-- The methods that add conditions of one kind, by the word that their names start with. -/
def conditionMethods (kind : ConditionKind) (word : String) : List Method := [
  compares kind "=" word,
  compares kind "=" (word ++ "_equal"),
  compares kind "!=" (word ++ "_not_equal"),
  compares kind "LIKE" (word ++ "_like"),
  compares kind "NOT LIKE" (word ++ "_not_like"),
  compares kind ">" (word ++ "_gt"),
  compares kind "<" (word ++ "_lt"),
  compares kind ">=" (word ++ "_gte"),
  compares kind "<=" (word ++ "_lte"),
  contains kind "IN" (word ++ "_in"),
  contains kind "NOT IN" (word ++ "_not_in"),
  tests kind "IS NULL" (word ++ "_null"),
  tests kind "IS NOT NULL" (word ++ "_not_null"),
  unary (word ++ "_id_is") (required "id") fun id => built (.keyIs kind id),
  binary (word ++ "_raw") (required "clause") ⟨"parameters", some (.tuple [])⟩ fun clause values =>
    built (.condition kind (.verbatim clause values))]

/-- The methods that choose columns, tables and conditions. -/
def builderMethods : List Method := [
  binary "select" (required "column") (optional "alias") fun column asName =>
    built (.select column asName),
  binary "select_expr" (required "expr") (optional "alias") fun text asName =>
    built (.selectExpr text asName),
  plain "distinct" (.build .distinct),
  unary "table_alias" (required "alias") fun asName => built (.tableAlias asName),
  joins .plain "join",
  joins .inner "inner_join",
  joins .leftOuter "left_outer_join",
  joins .rightOuter "right_outer_join",
  joins .fullOuter "full_outer_join",
  ⟨"raw_join", [required "table", required "constraint", required "table_alias",
      ⟨"parameters", some (.tuple [])⟩], fun arguments =>
    match arguments with
    | [table, constraint, asName, params] => built (.rawJoin table constraint asName params)
    | _ => .error .badArguments⟩,
  unary "where_id_in" (required "ids") fun ids => built (.keyIn ids),
  binary "where_any_is" (required "values") ⟨"operator", some (.text "=")⟩ fun groups operator =>
    built (.condition .whereClause (.anyOf groups operator)),
  unary "group_by" (required "column") fun column => built (.groupBy column),
  unary "group_by_expr" (required "expr") fun text => built (.groupByExpr text),
  unary "order_by_desc" (required "column") fun column => built (.orderBy column true),
  unary "order_by_asc" (required "column") fun column => built (.orderBy column false),
  unary "order_by_expr" (required "clause") fun text => built (.orderByExpr text),
  unary "limit" (required "limit") fun n => built (.limit n),
  unary "offset" (required "offset") fun n => built (.offset n),
  binary "raw_query" (required "query") (optional "parameters") fun query params =>
    built (.raw query params)]

/-- The methods that read, edit and write. -/
def rowMethods : List Method := [
  unary "create" (optional "data") fun data => .ok (.create data),
  unary "hydrate" (optional "data") fun data => .ok (.hydrate data),
  plain "force_all_dirty" .forceAllDirty,
  unary "use_id_column" (required "id_column") fun key => .ok (.useKey key),
  unary "find_one" (optional "id") fun id => .ok (.findOne id),
  plain "find_many" .findMany,
  plain "find_result_set" .findResultSet,
  plain "find_array" .findArray,
  aggregates .count ⟨"column", some (.text "*")⟩,
  aggregates .max (required "column"),
  aggregates .min (required "column"),
  aggregates .avg (required "column"),
  aggregates .sum (required "column"),
  plain "compile_select" .compileSelect,
  unary "get" (required "key") fun key => .ok (.valueAt key),
  binary "set" (required "key") (optional "value") fun key value => .ok (.write key value false),
  binary "set_expr" (required "key") (optional "value") fun key value => .ok (.write key value true),
  unary "is_dirty" (required "key") fun key => .ok (.isDirty key),
  plain "is_new" .isNew,
  unary "id" ⟨"disallow_null", some (.bool false)⟩ fun flag => .ok (.keyValue flag),
  plain "count_null_id_columns" .nullKeyCount,
  plain "save" .save,
  plain "delete" .delete,
  plain "delete_many" .deleteMany]

/-- All methods that have a fixed number of parameters. -/
def all : List Method :=
  builderMethods ++ conditionMethods .whereClause "where" ++
    conditionMethods .havingClause "having" ++ rowMethods

/-- The methods that take any number of arguments. -/
def variadic : List (String × (List Value → Call)) := [
  ("select_many", fun columns => .build (.selectMany columns)),
  ("select_many_expr", fun texts => .build (.selectManyExpr texts)),
  ("as_dict", .dataAt)]

/-- Whether a record has a method of this name. -/
def isName (name : String) : Bool :=
  all.any (fun m => m.name == name) || variadic.any fun m => m.1 == name

/-- The call of a method by name with its arguments. -/
def call (name : String) (arguments : Arguments Value) : Except Failure Call :=
  match variadic.find? fun m => m.1 == name, all.find? fun m => m.name == name with
  | some m, _ =>
    if arguments.named.isEmpty then .ok (m.2 arguments.positional) else .error .badArguments
  | none, some m => do m.call? (← arguments.bind m.parameters)
  | none, none => .error .noMember

end Method

end FluentSql.Record
