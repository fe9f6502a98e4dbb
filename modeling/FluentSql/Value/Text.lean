import FluentSql.Number.Shortest
import FluentSql.Text.Quoted
import FluentSql.Value
/-
# FluentSql.Value.Text — the two texts of a value.

The plain text of a text is the text itself; almost every other value's plain text is its quoted
form. The quoted form shows what kind of value it is: texts and bytes in quotes, lists in brackets,
tuples in parentheses (with a comma after a single item), mappings in braces.
-/

namespace FluentSql.Value

/-- Items between two brackets. -/
def enclose (left right : String) (items : List String) : String :=
  left ++ ", ".intercalate items ++ right

mutual

/-- The quoted form of a value. -/
def quoted : Value → String
  | .null => "None"
  | .bool b => if b then "True" else "False"
  | .int n => Number.integerText n
  | .float x => x.text
  | .decimal d => "Decimal('" ++ d.text ++ "')"
  | .text s => Text.quoted s
  | .style s => "<" ++ s.label ++ ": " ++ Text.quoted s.word ++ ">"
  | .bytes bs => Text.quotedBytes bs
  | .list items => enclose "[" "]" (quotedItems items)
  | .tuple items =>
    match quotedItems items with
    | [item] => "(" ++ item ++ ",)"
    | texts => enclose "(" ")" texts
  | .map entries => enclose "\x7b" "\x7d" (quotedEntries entries)
  | .stream items => enclose "<" ">" (quotedItems items)
  | .object label => label
  | .ref _ | .tupleAt _ _ => ""

/-- The quoted forms of values. -/
def quotedItems : List Value → List String
  | [] => []
  | v :: rest => quoted v :: quotedItems rest

/-- The quoted forms of keys with their values. -/
def quotedEntries : List (Value × Value) → List String
  | [] => []
  | (key, v) :: rest => (quoted key ++ ": " ++ quoted v) :: quotedEntries rest

end

/-- The plain text of a value. -/
def display : Value → String
  | .text s => s
  | .style s => s.label
  | .decimal d => d.text
  | v => quoted v

theorem quotedItems_eq_map (items : List Value) : quotedItems items = items.map quoted := by
  induction items with
  | nil => rfl
  | cons v rest ih => simp [quotedItems, ih]

end FluentSql.Value
