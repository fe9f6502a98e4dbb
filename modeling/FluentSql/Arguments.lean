import FluentSql.Failure
/-
# FluentSql.Arguments — matching the arguments of a call with its parameters.

Arguments are given by position or by name. Every parameter takes one argument or its default; an
argument without a parameter, a parameter that gets two, and a parameter that gets none and has no
default are mistakes of the caller.
-/

namespace FluentSql

/-- A parameter of a call. -/
structure Parameter where
  name : String
  default : Option Value := none
  deriving Repr, Inhabited

namespace Parameter

/-- A parameter that may be left out and is null then. -/
def optional (name : String) : Parameter := { name, default := some .null }

/-- A parameter that has to be given. -/
def required (name : String) : Parameter := { name }

end Parameter

/-- The arguments of a call. -/
structure Arguments (α : Type) where
  positional : List α := []
  named : List (String × α) := []
  deriving Repr, Inhabited

namespace Arguments

/-- The arguments in the order of the parameters. -/
def fill : List Parameter → List Value → Entries String Value → Except Failure (List Value)
  | [], [], _ => .ok []
  | [], _ :: _, _ => .error .badArguments
  | p :: ps, given :: rest, named =>
    if Entries.contains p.name named then .error .badArguments
    else do .ok (given :: (← fill ps rest named))
  | p :: ps, [], named =>
    match Entries.get? p.name named, p.default with
    | some given, _ => do .ok (given :: (← fill ps [] named))
    | none, some value => do .ok (value :: (← fill ps [] named))
    | none, none => .error .badArguments

/-- The arguments in the order of the parameters; every name has to be that of a parameter. -/
def bind (parameters : List Parameter) (arguments : Arguments Value) : Except Failure (List Value) :=
  if arguments.named.all fun e => parameters.any fun p => p.name == e.1 then
    fill parameters arguments.positional arguments.named
  else .error .badArguments

end Arguments

end FluentSql
