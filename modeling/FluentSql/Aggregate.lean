import FluentSql.Number.Numeral
import FluentSql.Value
/-
# FluentSql.Aggregate — the result of an aggregate as a number.

Databases report aggregates as integers, doubles, decimals or texts. An integral result becomes an
integer and any other finite number a double. Nothing counts as zero; what is no number, or is not
finite, stays as it is.
-/

namespace FluentSql.Aggregate

open Number (Binary64)

/-- A double as an integer if it is integral, and otherwise as it is; `otherwise` stands for a double
that is not finite. -/
def ofBinary64 (otherwise : Value) (x : Binary64) : Value :=
  if x.isFinite then
    match x.toInteger? with
    | some n => .int n
    | none => .float x
  else otherwise

/-- The result of an aggregate as a number. -/
def coerce (v : Value) : Value :=
  match v with
  | .null => .int 0
  | .text s =>
    match Number.readInteger? s with
    | some n => .int n
    | none =>
      match Binary64.read? s with
      | some x => ofBinary64 v x
      | none => v
  | .float x => ofBinary64 v x
  | .decimal d =>
    match d.toBinary64? with
    | some x => ofBinary64 v x
    | none => v
  | _ => v

end FluentSql.Aggregate
