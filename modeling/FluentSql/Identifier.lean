import FluentSql.Text.Search
import FluentSql.Value.Shape
/-
# FluentSql.Identifier — quoting table and column names.

A name consists of parts separated by points. Every part is put between quote marks, and a mark
inside a part is doubled; the part `*` stays as it is. A list of names is quoted one by one and
separated by commas.
-/

namespace FluentSql.Identifier

/-- One part of a name between quote marks. -/
def quotePart (mark part : List Char) : List Char :=
  if part = ['*'] then part else mark ++ Text.replaceAll mark (mark ++ mark) part ++ mark

/-- The characters of a quoted name. -/
def quoteChars (mark name : List Char) : List Char :=
  ['.'].intercalate ((Text.splitOn ['.'] name).map (quotePart mark))

/-- A quoted name. -/
def quoteName (mark name : String) : String := String.ofList (quoteChars mark.toList name.toList)

/-- Quoted names, separated by commas. -/
def quoteNames (mark : String) (names : List String) : String :=
  ", ".intercalate (names.map (quoteName mark))

/-- A name inside a list of names. -/
def name? (v : Value) : Except Failure String :=
  match v.asText?, v with
  | some name, _ => .ok name
  | none, .bytes _ => .error .badArguments
  | none, _ => .error .notText

/-- A quoted name, or the names of a list quoted one by one. -/
def quote? (mark : String) (v : Value) : Except Failure String :=
  match v.asText? with
  | some name => .ok (quoteName mark name)
  | none => do .ok (quoteNames mark (← (← v.items?).mapM name?))

theorem quote?_text (mark name : String) : quote? mark (.text name) = .ok (quoteName mark name) := rfl

end FluentSql.Identifier
