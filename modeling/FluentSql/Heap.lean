import FluentSql.Cache.Store
import FluentSql.Dialect
import FluentSql.Driver
import FluentSql.Record
import FluentSql.Step
/-
# FluentSql.Heap — what several holders share.

Lists and mappings that several hold, records, statements and everything else that is known by
identity live in cells of a heap. A value refers to a cell by number. Cells are never freed, so a
number stays good, and two references are the same thing exactly if their numbers are equal. Adding a
cell changes no other (`cell?_extend_of_lt`), and neither does replacing one (`cell?_replace_of_ne`).
-/

namespace FluentSql

/-- What a cell holds. -/
inductive Cell where
  /-- A value that is equal to nothing but itself. -/
  | scalar (v : Value)
  | list (items : List Value)
  /-- The items of a tuple; its cell is never replaced. -/
  | tuple (items : List Value)
  | map (entries : Row)
  /-- What is left of a sequence that can be gone through once. -/
  | stream (rest : List Value)
  | record (r : Record)
  /-- A result set, by the number of the list of its records. -/
  | resultSet (list : Nat)
  /-- A compiled statement with its parameters. -/
  | sql (text params : Value)
  | driver (d : Driver)
  | statement (s : Statement)
  | dialect (d : MadeDialect)
  | cache (c : CacheRef)
  /-- A function that a caller made, by number. -/
  | function (number : Nat)
  /-- A method of what a number refers to, or one that belongs to a kind of things as a whole. -/
  | method (owner : Option Nat) (name : String)
  deriving Inhabited

/-- Cells by number. -/
structure Heap where
  cells : List Cell := []
  deriving Inhabited

namespace Heap

/-- The cell of a number. -/
def cell? (h : Heap) (id : Nat) : Option Cell := h.cells[id]?

/-- How many cells there are; the number of the next one. -/
def size (h : Heap) : Nat := h.cells.length

/-- The heap with one more cell. -/
def extend (h : Heap) (cell : Cell) : Heap := ⟨h.cells ++ [cell]⟩

/-- The heap with another cell under a number. -/
def replace (h : Heap) (id : Nat) (cell : Cell) : Heap := ⟨h.cells.set id cell⟩

/-- Adds a cell and refers to it. -/
def add (cell : Cell) : Step Heap Value := do
  let h ← get
  set (h.extend cell)
  return .ref h.size

/-- Adds a tuple. -/
def addTuple (items : List Value) : Step Heap Value := do
  let h ← get
  set (h.extend (.tuple items))
  return .tupleAt h.size items

/-- Replaces a cell. -/
def put (id : Nat) (cell : Cell) : Step Heap Unit := modify (·.replace id cell)

/-- Refers to the first cell that passes a test, or to a new one if there is none. -/
def intern (isSame : Cell → Bool) (cell : Cell) : Step Heap Value := do
  match (← get).cells.findIdx? isSame with
  | some id => return .ref id
  | none => add cell

@[simp] theorem cell?_extend_self (h : Heap) (cell : Cell) :
    (h.extend cell).cell? h.size = some cell := by simp [cell?, extend, size]

theorem cell?_extend_of_lt {h : Heap} {id : Nat} (hid : id < h.size) (cell : Cell) :
    (h.extend cell).cell? id = h.cell? id := by
  simp only [size] at hid
  simp only [cell?, extend]
  exact List.getElem?_append_left hid

theorem cell?_replace_of_ne {h : Heap} {id other : Nat} (hne : other ≠ id) (cell : Cell) :
    (h.replace id cell).cell? other = h.cell? other := by
  simp [cell?, replace, List.getElem?_set_ne hne.symm]

end Heap

end FluentSql
