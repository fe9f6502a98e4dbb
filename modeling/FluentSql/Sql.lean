import FluentSql.Value.Shape
/-
# FluentSql.Sql — statements with their parameters.

Parameters bind by position, in the order of the placeholders, or by name. The text of a statement is
put together from pieces. A piece is taken as its caller gives it; that it is no text shows only when
a statement is made of it. A statement that a caller gives as a whole is not looked into at all.
-/

namespace FluentSql

/-- The parameters of a statement. -/
inductive Params where
  | positional (values : List Value)
  | named (entries : Row)
  deriving Repr, Inhabited

namespace Params

/-- The parameters as one value. -/
def toValue : Params → Value
  | .positional values => .list values
  | .named entries => .map entries

/-- The parameters that bind to placeholders. -/
def bound : Params → List Value
  | .positional values => values
  | .named _ => []

end Params

/-- A piece of a statement: a text, or something that cannot be written. -/
inductive Piece where
  | text (s : String)
  | unwritable
  deriving Repr, DecidableEq, Inhabited

namespace Piece

instance : Coe String Piece := ⟨.text⟩

/-- A value as a piece of a statement. -/
def ofValue (v : Value) : Piece :=
  match v.asText? with
  | some s => .text s
  | none => .unwritable

/-- The text of a piece. -/
def text? : Piece → Except Failure String
  | .text s => .ok s
  | .unwritable => .error .badArguments

/-- The texts of pieces. -/
def texts? (pieces : List Piece) : Except Failure (List String) := pieces.mapM text?

end Piece

/-- A statement with its parameters. -/
structure Sql where
  text : Value
  params : Params
  deriving Repr, Inhabited

end FluentSql
