import FluentSql.Session
/-
# FluentSql.World — a session, the heap, and what lies outside.

Whatever happens to a session happens in a world.
-/

namespace FluentSql

/-- A session, the heap, and the state of what lies outside. -/
structure World (σ : Type) where
  session : Session := {}
  heap : Heap := {}
  outside : σ

end FluentSql
