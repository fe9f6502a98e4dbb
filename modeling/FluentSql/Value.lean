import FluentSql.Entries
import FluentSql.LimitStyle
import FluentSql.Number.Binary64
import FluentSql.Number.Decimal
/-
# FluentSql.Value — the values that statements bind and rows hold.

Values are dynamic: what a column holds is known only when a row arrives, and a builder accepts
whatever its caller has. Lists and tuples differ only in their text; a stream is a sequence that can
be read once and is neither a list nor a mapping.

A list or a mapping by content belongs to its only holder. What several may hold, and change, is
held by reference: a number under which a heap keeps it. A tuple that several hold has a number as
well, but as it never changes every holder has its items too. `fill` replaces what has a number by what
someone knows of it; a value without numbers stays as it is (`fill_eq_self`).

Columns are named by texts as a rule. Rows and mappings take any value as a key that can be looked up
by, however, and keep it as it was given.
-/

namespace FluentSql

open Number (Binary64 Decimal)

/-- A value. -/
inductive Value where
  | null
  | bool (b : Bool)
  | int (n : Int)
  | float (x : Binary64)
  | decimal (d : Decimal)
  | text (s : String)
  /-- A limit style, which serves as the text of its word. -/
  | style (s : LimitStyle)
  | bytes (bs : List UInt8)
  | list (items : List Value)
  | tuple (items : List Value)
  /-- Values under keys, in order. -/
  | map (entries : List (Value × Value))
  | stream (items : List Value)
  /-- An object of which only the text that shows it is known. -/
  | object (label : String)
  /-- What a heap keeps under a number. -/
  | ref (id : Nat)
  /-- A tuple that a heap keeps under a number. -/
  | tupleAt (id : Nat) (items : List Value)
  deriving Repr, Inhabited

/-- A row: its columns in order, with their values. -/
abbrev Row := Entries Value Value

namespace Value

/-- Whether the value is the null value. -/
def isNull : Value → Bool
  | .null => true
  | _ => false

/-- A value that may be absent: null is absent. -/
def toOption : Value → Option Value
  | .null => none
  | v => some v

/-- The value of an optional one: absent is null. -/
def ofOption : Option Value → Value
  | none => .null
  | some v => v

/-- A text that may be absent. -/
def ofText? : Option String → Value
  | none => .null
  | some s => .text s

/-- The text that a value serves as. -/
def asText? : Value → Option String
  | .text s => some s
  | .style s => some s.word
  | _ => none

/-- A list of texts. -/
def ofTexts (texts : List String) : Value := .list (texts.map .text)

/-- Named values as the row that has the names as its keys. -/
def keyedByText (entries : Entries String Value) : Row := entries.map fun e => (.text e.1, e.2)

/-- A mapping whose keys are texts. -/
def ofNamed (entries : Entries String Value) : Value := .map (keyedByText entries)

/-- Whether the value counts as empty: null, false, a zero, or nothing inside. -/
def isEmpty : Value → Bool
  | .null => true
  | .bool b => !b
  | .int n => n == 0
  | .float x => match x with
    | .finite _ mantissa _ => mantissa == 0
    | _ => false
  | .decimal d => match d with
    | .finite _ coefficient _ => coefficient == 0
    | _ => false
  | .text s => s.isEmpty
  | .bytes bs => bs.isEmpty
  | .list items => items.isEmpty
  | .tuple items | .tupleAt _ items => items.isEmpty
  | .map entries => entries.isEmpty
  | _ => false

mutual

/-- Whether the value can be looked up by: it holds no list, mapping or the like. What a reference
leads to decides about the reference. -/
def isKey (refIsKey : Nat → Bool) : Value → Bool
  | .list _ => false
  | .map _ => false
  | .decimal (.nan true _ _) => false
  | .tuple items => areKeys refIsKey items
  | .tupleAt _ items => areKeys refIsKey items
  | .ref id => refIsKey id
  | _ => true

/-- Whether all the values can be looked up by. -/
def areKeys (refIsKey : Nat → Bool) : List Value → Bool
  | [] => true
  | v :: rest => isKey refIsKey v && areKeys refIsKey rest

end

mutual

/-- The value with everything replaced that has a number. -/
def fill (known : Nat → Value) : Value → Value
  | .list items => .list (fillAll known items)
  | .tuple items => .tuple (fillAll known items)
  | .map entries => .map (fillEntries known entries)
  | .stream items => .stream (fillAll known items)
  | .ref id => known id
  | .tupleAt id _ => known id
  | v => v

/-- Values with everything replaced that has a number. -/
def fillAll (known : Nat → Value) : List Value → List Value
  | [] => []
  | v :: rest => fill known v :: fillAll known rest

/-- Keys and values with everything replaced that has a number. -/
def fillEntries (known : Nat → Value) : List (Value × Value) → List (Value × Value)
  | [] => []
  | (key, v) :: rest => (fill known key, fill known v) :: fillEntries known rest

end

mutual

/-- Whether the value holds nothing that has a number. -/
def isClosed : Value → Bool
  | .list items => areClosed items
  | .tuple items => areClosed items
  | .map entries => entriesClosed entries
  | .stream items => areClosed items
  | .ref _ => false
  | .tupleAt _ _ => false
  | _ => true

/-- Whether all the values hold nothing that has a number. -/
def areClosed : List Value → Bool
  | [] => true
  | v :: rest => isClosed v && areClosed rest

/-- Whether all the keys and values hold nothing that has a number. -/
def entriesClosed : List (Value × Value) → Bool
  | [] => true
  | (key, v) :: rest => isClosed key && isClosed v && entriesClosed rest

end

mutual

/-- A value without numbers stays as it is. -/
theorem fill_eq_self (known : Nat → Value) (v : Value) (h : isClosed v = true) :
    fill known v = v := by
  cases v with
  | list items => simp [fill, fillAll_eq_self known items (by simpa [isClosed] using h)]
  | tuple items => simp [fill, fillAll_eq_self known items (by simpa [isClosed] using h)]
  | stream items => simp [fill, fillAll_eq_self known items (by simpa [isClosed] using h)]
  | map entries => simp [fill, fillEntries_eq_self known entries (by simpa [isClosed] using h)]
  | ref id => simp [isClosed] at h
  | tupleAt id items => simp [isClosed] at h
  | _ => rfl

theorem fillAll_eq_self (known : Nat → Value) (items : List Value) (h : areClosed items = true) :
    fillAll known items = items := by
  cases items with
  | nil => rfl
  | cons v rest =>
    simp only [areClosed, Bool.and_eq_true] at h
    simp [fillAll, fill_eq_self known v h.1, fillAll_eq_self known rest h.2]

theorem fillEntries_eq_self (known : Nat → Value) (entries : List (Value × Value))
    (h : entriesClosed entries = true) : fillEntries known entries = entries := by
  match entries with
  | [] => rfl
  | (key, v) :: rest =>
    simp only [entriesClosed, Bool.and_eq_true] at h
    simp [fillEntries, fill_eq_self known key h.1.1, fill_eq_self known v h.1.2,
      fillEntries_eq_self known rest h.2]

end

end Value

end FluentSql
