import FluentSql.Literal
import FluentSql.Number.Digits
import FluentSql.Value
/-
# FluentSql.ParamStyle — placeholders in the styles of database interfaces.

Statements are compiled with `?`. An interface that wants another style gets its placeholders
restyled outside literals: `%s` (where the interface interpolates the whole text, so every percent
sign is doubled first, also inside literals), `:1`, `:2`, …, or `:p1`, `:p2`, … with the parameters
under the names `p1`, `p2`, …. Named parameters need no restyling.
-/

namespace FluentSql

/-- How an interface writes placeholders. -/
inductive ParamStyle where
  /-- A question mark, or any style that needs no change. -/
  | positional
  /-- The mark `%s`. -/
  | percent
  /-- A colon and the position. -/
  | numbered
  /-- A colon and a name. -/
  | named
  deriving Repr, DecidableEq

namespace ParamStyle

/-- The style that an interface announces by its name. -/
def ofName (name : String) : ParamStyle :=
  if name == "format" || name == "pyformat" then .percent
  else if name == "numeric" then .numbered
  else if name == "named" then .named
  else .positional

/-- The text with every percent sign doubled. -/
def doublePercents (cs : List Char) : List Char := Text.replaceAll ['%'] ['%', '%'] cs

/-- The name of the k-th parameter, counted from zero. -/
def parameterName (k : Nat) : List Char := 'p' :: Number.digits (k + 1)

/-- The statement text in the style. -/
def restyle (style : ParamStyle) (cs : List Char) : List Char :=
  match style with
  | .positional => cs
  | .percent => Literal.replaceOutside ['?'] ['%', 's'] (doublePercents cs)
  | .numbered => Literal.replaceEach ['?'] (fun k => ':' :: Number.digits (k + 1)) cs
  | .named => Literal.replaceEach ['?'] (fun k => ':' :: parameterName k) cs

/-- The parameters in the style. -/
def bound (style : ParamStyle) (params : List Value) : Value :=
  match style with
  | .named =>
    .map (params.mapIdx fun k v => (.text (String.ofList (parameterName k)), v))
  | _ => .tuple params

end ParamStyle

end FluentSql
