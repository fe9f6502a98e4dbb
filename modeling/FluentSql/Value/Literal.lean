import FluentSql.Literal
import FluentSql.Sql
import FluentSql.Text.Utf8
/-
# FluentSql.Value.Literal — values as SQL literals, and statements as they are shown in a log.

A literal is for reading by people, not for execution: null is the keyword, a truth value a quoted
digit, and everything else its plain text in single quotes with the quotes inside doubled. Bytes are
read as UTF-8.

For display the placeholders of a statement outside its literals are filled with the literals of its
parameters in one pass from left to right. Placeholders without a parameter stay as they are, and so
does the whole statement if its parameters are named or missing.
-/

namespace FluentSql

namespace Value

/-- A text in single quotes, with the quotes inside doubled. -/
def singleQuoted (s : String) : String :=
  String.ofList ('\x27' :: (Text.replaceAll ['\x27'] ['\x27', '\x27'] s.toList ++ ['\x27']))

/-- The SQL literal of a value. -/
def literal : Value → String
  | .null => "NULL"
  | .bool b => if b then "'1'" else "'0'"
  | .bytes bs => singleQuoted (Text.decodeUtf8 bs)
  | v => singleQuoted v.display

end Value

/-- Fills the placeholders of a statement with texts, from left to right, outside its literals. -/
def fillPlaceholders (query : String) (texts : List String) : String :=
  String.ofList
    (Literal.replaceEach ['?'] (Literal.supplyOf (texts.map String.toList).toArray ['?'])
      query.toList)

/-- The statement with the literals of its parameters in place of its placeholders. -/
def bindForDisplay (quote : Value → String) (query : String) : Params → String
  | .named _ => query
  | .positional [] => query
  | .positional values => fillPlaceholders query (values.map quote)

end FluentSql
