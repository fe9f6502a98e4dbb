import FluentSql.Sql
import FluentSql.Text.Json
/-
# FluentSql.Cache.Key — the key under which a read is cached.

A read is identified by the digest of a text: the statement, a colon, and its parameters in JSON. A
sequence of parameters is an array of their quoted forms, named parameters are an object under the
plain texts of their names in code point order; of several names with one text the last counts. The
quoted forms keep null, false, zero and the empty text apart, and the JSON keeps neighbouring
parameters apart.
-/

namespace FluentSql.Cache

/-- Named texts in the order of their names. -/
def sorted (entries : List (String × String)) : List (String × String) :=
  entries.mergeSort fun e f => e.1 ≤ f.1

/-- The parameters of a read in JSON. -/
def encodeParams : Params → String
  | .named entries =>
    let texts := Entries.ofPairs (entries.map fun e => (e.1.display, e.2.quoted))
    String.ofList (Text.Json.object (sorted texts))
  | .positional values => String.ofList (Text.Json.array (values.map Value.quoted))

/-- The text that identifies a read. -/
def keyText (query : String) (params : Params) : String := query ++ ":" ++ encodeParams params

/-- The key of a read: the digest of the text that identifies it. -/
def key (digest : String → String) (query : String) (params : Params) : String :=
  digest (keyText query params)

end FluentSql.Cache
