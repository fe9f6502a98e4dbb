import FluentSql.Query.Select
import FluentSql.Proofs.Connection.Marks
import FluentSql.Proofs.Number.Spelling
import FluentSql.Proofs.Text.Joining
import FluentSql.Proofs.Value.Quoted
/-
# FluentSql.Proofs.Query.Window — the rows that a limit and an offset select.

Databases write a row window in one of two ways: as a number of rows and a number of rows before them, or as a first and a
last row (`RowWindow`). The text of a window determines it, so a clause selects what the one window selects that it is the
text of (`Selects`).

A query has a limit and an offset whatever the database is, and they stand at the end of its SELECT in this order, each
behind a word of the dialect (`select_unwindowed`). Where the words are LIMIT and OFFSET that is a window of the first kind
and selects as many rows as the limit says behind those that the offset says. Where they are ROWS and TO it is one of the
second kind. Then the limit stands in the place of the first row and the offset in that of the last, and the rows are others.
-/

namespace FluentSql

open Number (digits integerText)
open Text (IsSolid joinNonBlank solidPieces)

/-! ## Row windows -/

/-- The rows from a first to a last one, both included and numbered from one. -/
def rowsFrom {α : Type} (first last : Nat) (rows : List α) : List α := (rows.take last).drop (first - 1)

/-- A row window as a database writes it. -/
inductive RowWindow where
  /-- A number of rows and the number of those before them that are skipped: LIMIT and OFFSET. -/
  | counted (count skipped : Nat)
  /-- A first and a last row, both included and numbered from one: ROWS and TO. -/
  | between (first last : Nat)
  deriving Repr, DecidableEq

namespace RowWindow

/-- The words in front of the two numbers. -/
def words : RowWindow → String × String
  | counted .. => ("LIMIT", "OFFSET")
  | between .. => ("ROWS", "TO")

/-- The two numbers. -/
def numbers : RowWindow → Nat × Nat
  | counted count skipped => (count, skipped)
  | between first last => (first, last)

/-- The window as it is written. -/
def text (window : RowWindow) : String :=
  (window.words.1 ++ " " ++ integerText window.numbers.1) ++ " " ++ (window.words.2 ++ " " ++ integerText window.numbers.2)

/-- The rows that the window selects from a result. -/
def page {α : Type} : RowWindow → List α → List α
  | counted count skipped, rows => (rows.drop skipped).take count
  | between first last, rows => rowsFrom first last rows

end RowWindow

/-- The clause is a row window that selects the rows from a first to a last one from every result. -/
def Selects (clause : String) (first last : Nat) : Prop :=
  ∃ window : RowWindow,
    clause = window.text ∧ ∀ {α : Type} (rows : List α), window.page rows = rowsFrom first last rows

/-- In a result whose rows are numbered from zero, the rows of the right numbers are those selected. -/
theorem mem_rowsFrom_range {first last count k : Nat} :
    k ∈ rowsFrom first last (List.range count) ↔ first ≤ k + 1 ∧ k < last ∧ k < count := by
  simp only [rowsFrom, List.take_range, List.mem_drop_iff_getElem, List.getElem_range, List.length_range]
  constructor
  · rintro ⟨i, hi, rfl⟩
    omega
  · intro h
    exact ⟨k - (first - 1), by omega, by omega⟩

namespace RowWindow

/-- Skipping rows and counting others selects the rows behind the skipped ones. -/
theorem page_counted {α : Type} (count skipped : Nat) (rows : List α) :
    (counted count skipped).page rows = rowsFrom (skipped + 1) (skipped + count) rows := by
  rw [page, rowsFrom, Nat.add_sub_cancel, List.drop_take, Nat.add_sub_cancel_left]

/-- A number ends where a space follows it. -/
theorem digits_append_space_inj {n n' : Nat} {cs cs' : List Char}
    (h : digits n ++ ' ' :: cs = digits n' ++ ' ' :: cs') : n = n' ∧ cs = cs' := by
  have hread : ∀ n cs, (digits n ++ ' ' :: cs).takeWhile Char.isDigit = digits n := by
    intro n cs
    rw [List.takeWhile_append_of_pos fun c hc => Number.isDigit_of_mem_digits hc,
      List.takeWhile_cons_of_neg (by decide), List.append_nil]
  have hn : n = n' := Number.digits_injective (by rw [← hread n cs, h, hread])
  subst hn
  exact ⟨rfl, List.tail_eq_of_cons_eq (List.append_cancel_left h)⟩

/-- A window can be read from its text. -/
theorem text_injective : Function.Injective text := by
  have hnumbers : ∀ {first second : String} {n m n' m' : Nat},
      (first ++ " " ++ integerText n) ++ " " ++ (second ++ " " ++ integerText m) =
        (first ++ " " ++ integerText n') ++ " " ++ (second ++ " " ++ integerText m') → n = n' ∧ m = m' := by
    intro first second n m n' m' h
    have hchars := congrArg String.toList h
    simp only [integerText, String.toList_append, String.toList_ofList, List.append_assoc,
      List.append_cancel_left_eq] at hchars
    obtain ⟨hn, hrest⟩ := digits_append_space_inj hchars
    exact ⟨hn, Number.digits_injective (by simpa using hrest)⟩
  intro window other h
  cases window <;> cases other
  case counted.counted =>
    obtain ⟨rfl, rfl⟩ := hnumbers h
    rfl
  case between.between =>
    obtain ⟨rfl, rfl⟩ := hnumbers h
    rfl
  all_goals
    have hfirst := congrArg (·.toList.head?) h
    simp [text, words] at hfirst

theorem isBlank_of_isDigit {c : Char} (h : c.isDigit = true) : Text.isBlank c = false := by
  have hrange := Number.toNat_of_isDigit h
  simp only [Text.isBlank, Bool.or_eq_false_iff, Bool.and_eq_false_iff, decide_eq_false_iff_not, beq_eq_false_iff_ne]
  omega

/-- A number with a word in front of it is solid. -/
theorem isSolid_numbered {word : String} (hword : IsSolid word.toList) (n : Nat) :
    IsSolid (word ++ " " ++ integerText n).toList := by
  have hdigits : IsSolid (digits n) := by
    refine ⟨Number.digits_ne_nil n, fun c hc => ?_, fun c hc => ?_⟩
    · exact isBlank_of_isDigit (Number.isDigit_of_mem_digits (List.mem_of_head? hc))
    · exact isBlank_of_isDigit (Number.isDigit_of_mem_digits (List.mem_of_getLast? hc))
  simpa [integerText] using hword.append hdigits [' ']

theorem isSolid_words (window : RowWindow) : IsSolid window.words.1.toList ∧ IsSolid window.words.2.toList := by
  cases window with
  | counted =>
      change IsSolid "LIMIT".toList ∧ IsSolid "OFFSET".toList
      exact ⟨.of_ends (by decide) (by decide), .of_ends (by decide) (by decide)⟩
  | between =>
      change IsSolid "ROWS".toList ∧ IsSolid "TO".toList
      exact ⟨.of_ends (by decide) (by decide), .of_ends (by decide) (by decide)⟩

/-- Both halves of the text of a window are solid. -/
theorem isSolid_halves (window : RowWindow) :
    IsSolid (window.words.1 ++ " " ++ integerText window.numbers.1).toList ∧
      IsSolid (window.words.2 ++ " " ++ integerText window.numbers.2).toList :=
  ⟨isSolid_numbered window.isSolid_words.1 _, isSolid_numbered window.isSolid_words.2 _⟩

/-- The text of a window selects what the window does. -/
theorem selects_text_iff {window : RowWindow} {first last : Nat} :
    Selects window.text first last ↔ ∀ {α : Type} (rows : List α), window.page rows = rowsFrom first last rows := by
  constructor
  · rintro ⟨other, htext, hpage⟩
    rw [text_injective htext]
    exact hpage
  · intro hpage
    exact ⟨window, rfl, hpage⟩

theorem selects_counted (count skipped : Nat) : Selects (counted count skipped).text (skipped + 1) (skipped + count) :=
  selects_text_iff.2 (page_counted count skipped)

theorem selects_between (first last : Nat) : Selects (between first last).text first last :=
  selects_text_iff.2 fun _ => rfl

/-- With the limit for the first row and the offset for the last one, the row behind the offset is missing. -/
theorem not_selects_between {n m : Nat} (hn : 1 ≤ n) : ¬ Selects (between n m).text (m + 1) (m + n) := by
  intro h
  have hrows := selects_text_iff.1 h (List.range (m + n))
  have hmem : m ∈ rowsFrom (m + 1) (m + n) (List.range (m + n)) := mem_rowsFrom_range.2 (by omega)
  rw [← hrows] at hmem
  have hlt := (mem_rowsFrom_range.1 hmem).2.1
  exact Nat.lt_irrefl m hlt

end RowWindow

/-! ## The window of a SELECT -/

/-- The statement with a clause behind it. -/
def Sql.followedBy (clause : String) (sql : Sql) : Sql :=
  { sql with text := .text (sql.text.display ++ " " ++ clause) }

namespace Query

variable {r : Rendering} {q : Query}

/-- The query without its limit and its offset. -/
def unwindowed (q : Query) : Query := { q with limit := none, offset := none }

/-- The limit and the offset, as they stand next to each other. -/
def windowClause (r : Rendering) (q : Query) : String := limitClause r q ++ " " ++ offsetClause r q

/-- The clauses of a SELECT in front of the limit and the offset. -/
def frontClauses (r : Rendering) (q : Query) : Except Failure (List String) := do
  let head ← headClause r q
  let joins ← joinClause q
  let wheres ← conditionClause .whereClause q
  let groups ← Piece.texts? q.groupBy
  let havings ← conditionClause .havingClause q
  let order ← Piece.texts? q.orderBy
  .ok [head, joins, wheres, listClause "GROUP BY" ", " groups, havings, listClause "ORDER BY" ", " order]

theorem clauses_eq (r : Rendering) (q : Query) :
    clauses r q = (· ++ [limitClause r q, offsetClause r q]) <$> frontClauses r q := by
  simp only [clauses, frontClauses, map_bind]
  rfl

/-- A limit that stands at the end leaves the other clauses as they are. -/
theorem frontClauses_unwindowed (hstyle : r.limitStyle = .limit) (q : Query) :
    frontClauses r q.unwindowed = frontClauses r q := by
  have hhead : headClause r q.unwindowed = headClause r q := by
    unfold headClause
    rw [hstyle]
    cases q.limit <;> rfl
  unfold frontClauses
  rw [hhead]
  rfl

theorem exists_of_bind_eq_ok {ε α β : Type} {x : Except ε α} {f : α → Except ε β} {b : β} (h : x >>= f = .ok b) :
    ∃ a, x = .ok a ∧ f a = .ok b := by
  cases x with
  | error _ => cases h
  | ok a => exact ⟨a, rfl, h⟩

theorem exists_headClause_eq {head : String} (h : headClause r q = .ok head) : ∃ rest, head = "SELECT " ++ rest := by
  obtain ⟨columns, -, h⟩ := exists_of_bind_eq_ok h
  obtain ⟨source, -, h⟩ := exists_of_bind_eq_ok h
  cases h
  exact ⟨_, by simp only [String.append_assoc]; rfl⟩

/-- There is something in front of the limit and the offset. -/
theorem solidPieces_frontClauses {front : List String} (h : frontClauses r q = .ok front) : solidPieces front ≠ [] := by
  obtain ⟨head, hhead, h⟩ := exists_of_bind_eq_ok h
  obtain ⟨joins, -, h⟩ := exists_of_bind_eq_ok h
  obtain ⟨wheres, -, h⟩ := exists_of_bind_eq_ok h
  obtain ⟨groups, -, h⟩ := exists_of_bind_eq_ok h
  obtain ⟨havings, -, h⟩ := exists_of_bind_eq_ok h
  obtain ⟨order, -, h⟩ := exists_of_bind_eq_ok h
  obtain ⟨rest, rfl⟩ := exists_headClause_eq hhead
  cases h
  intro hnil
  have hblank := Text.solidPieces_eq_nil_iff.1 hnil _ List.mem_cons_self 'S' (by simp)
  exact absurd hblank (by decide)

/-- The limit and the offset stand behind the statement without them. -/
theorem select_unwindowed (hraw : q.raw = none) (hstyle : r.limitStyle = .limit)
    (hlimit : IsSolid (limitClause r q).toList) (hoffset : IsSolid (offsetClause r q).toList) :
    q.select r = (q.unwindowed.select r).map (Sql.followedBy (windowClause r q)) := by
  have hnone : q.unwindowed.raw = none := hraw
  simp only [select, hraw, hnone, clauses_eq, frontClauses_unwindowed hstyle]
  cases hfront : frontClauses r q with
  | error failure => rfl
  | ok front =>
      have hne : solidPieces front ≠ [] := solidPieces_frontClauses hfront
      have hbefore : joinNonBlank " " (front ++ ["", ""]) = joinNonBlank " " front := by
        simp [Text.joinNonBlank_eq, Text.solidPieces_cons_of_blank]
      have hlimited : joinNonBlank " " (front ++ [limitClause r q]) = _ := Text.joinNonBlank_concat hne hlimit
      have hwhole : joinNonBlank " " (front ++ [limitClause r q] ++ [offsetClause r q]) = _ :=
        Text.joinNonBlank_concat (by simp [hne]) hoffset
      have htext : joinNonBlank " " (front ++ [limitClause r q, offsetClause r q]) =
          joinNonBlank " " (front ++ ["", ""]) ++ " " ++ windowClause r q := by
        rw [List.append_cons, hwhole, hlimited, hbefore, windowClause]
        simp only [String.append_assoc]
      exact congrArg (fun text => Except.ok (Sql.mk (.text text) (.positional _))) htext

end Query

/-! ## The words of the dialects -/

namespace Dialects

theorem words_standard : ∀ e ∈ standard, (e.2.limitKeyword, e.2.offsetKeyword) =
    if e.1 = "firebird" then ("ROWS", "TO") else ("LIMIT", "OFFSET") := by
  decide +kernel

theorem isSome_firebird : (Entries.get? "firebird" standard).isSome = true := by decide +kernel

theorem words_dialect? {spec : DialectSpec} {D : Dialect} (h : spec.dialect? = .ok D) :
    (D.limitKeyword, D.offsetKeyword) = (spec.limitKeyword, spec.offsetKeyword) := by
  unfold DialectSpec.dialect? at h
  split at h
  · cases h
    rfl
  · cases h

/-- Of the databases that are known from the start one has words of its own. -/
theorem words_create {name : String} {D : Dialect} (h : standard.create name = .ok D) :
    (D.limitKeyword, D.offsetKeyword) = if Text.lower name = "firebird" then ("ROWS", "TO") else ("LIMIT", "OFFSET") := by
  unfold create at h
  cases hspec : Entries.get? (Text.lower name) standard with
  | some spec =>
      rw [hspec] at h
      rw [words_dialect? h]
      exact words_standard _ (Entries.mem_of_get? hspec)
  | none =>
      rw [hspec] at h
      cases h
      rw [if_neg]
      · rfl
      · intro hname
        have hpresent := isSome_firebird
        rw [← hname, hspec] at hpresent
        cases hpresent

end Dialects

/-! ## What a query selects -/

namespace Query

variable {name : String} {r : Rendering} {q : Query} {n m : Nat}

/-- The window that a limit and an offset are written as, by the name of the driver. -/
def windowFor (name : String) (n m : Nat) : RowWindow :=
  if Text.lower name = "firebird" then .between n m else .counted n m

theorem windowFor_words (h : Dialects.standard.create name = .ok r.dialect) (n m : Nat) :
    (windowFor name n m).words = (r.dialect.limitKeyword, r.dialect.offsetKeyword) := by
  rw [Dialects.words_create h, windowFor]
  split <;> rfl

theorem windowFor_numbers (name : String) (n m : Nat) : (windowFor name n m).numbers = (n, m) := by
  unfold windowFor
  split <;> rfl

theorem limitClause_eq (hdialect : Dialects.standard.create name = .ok r.dialect) (hstyle : r.limitStyle = .limit)
    (hlimit : q.limit = some (.int n)) (m : Nat) :
    limitClause r q = (windowFor name n m).words.1 ++ " " ++ integerText (windowFor name n m).numbers.1 := by
  rw [windowFor_words hdialect, windowFor_numbers, limitClause, hlimit, hstyle]
  rfl

theorem offsetClause_eq (hdialect : Dialects.standard.create name = .ok r.dialect)
    (hoffset : q.offset = some (.int m)) (n : Nat) :
    offsetClause r q = (windowFor name n m).words.2 ++ " " ++ integerText (windowFor name n m).numbers.2 := by
  rw [windowFor_words hdialect, windowFor_numbers, offsetClause, hoffset]
  rfl

/-- A limit and an offset are written as the window of the driver. -/
theorem windowClause_eq (hdialect : Dialects.standard.create name = .ok r.dialect) (hstyle : r.limitStyle = .limit)
    (hlimit : q.limit = some (.int n)) (hoffset : q.offset = some (.int m)) :
    windowClause r q = (windowFor name n m).text := by
  rw [windowClause, limitClause_eq hdialect hstyle hlimit m, offsetClause_eq hdialect hoffset n, RowWindow.text]

/-- **A limit and an offset select as many rows as the limit says behind those that the offset says, except where windows are
written by first and last row.** The two stand behind the statement that the query has without them, whatever else is in it.
With the dialects that are there from the start, and with that of a database that nobody knows, they select rows m + 1 to
m + n. The exception writes the same numbers behind ROWS and TO: it selects rows n to m, which are never those. -/
theorem selects_window_iff (hdialect : Dialects.standard.create name = .ok r.dialect) (hstyle : r.limitStyle = .limit)
    (hraw : q.raw = none) (hlimit : q.limit = some (.int n)) (hoffset : q.offset = some (.int m)) (hn : 1 ≤ n) :
    q.select r = (q.unwindowed.select r).map (Sql.followedBy (windowClause r q)) ∧
      (Selects (windowClause r q) (m + 1) (m + n) ↔ Text.lower name ≠ "firebird") ∧
      (Text.lower name = "firebird" → Selects (windowClause r q) n m) := by
  obtain ⟨hfirst, hsecond⟩ := (windowFor name n m).isSolid_halves
  refine ⟨select_unwindowed hraw hstyle ?_ ?_, ?_, ?_⟩
  · rw [limitClause_eq hdialect hstyle hlimit m]
    exact hfirst
  · rw [offsetClause_eq hdialect hoffset n]
    exact hsecond
  · rw [windowClause_eq hdialect hstyle hlimit hoffset, windowFor]
    split
    · rename_i hname
      exact iff_of_false (RowWindow.not_selects_between hn) (not_not_intro hname)
    · rename_i hname
      exact iff_of_true (RowWindow.selects_counted n m) hname
  · intro hname
    rw [windowClause_eq hdialect hstyle hlimit hoffset, windowFor, if_pos hname]
    exact RowWindow.selects_between n m

/-- Five rows behind the first ten. -/
def widgetPage : Query := { table := "widget", limit := some (.int 5), offset := some (.int 10) }

theorem selects_window_iff_widgetPage : ∃ mysql firebird,
    Dialects.standard.create "mysql" = .ok mysql ∧ Dialects.standard.create "Firebird" = .ok firebird ∧
      Selects (windowClause (.ofDialect mysql) widgetPage) 11 15 ∧
      ¬ Selects (windowClause (.ofDialect firebird) widgetPage) 11 15 ∧
      Selects (windowClause (.ofDialect firebird) widgetPage) 5 10 := by
  have hmysql : Dialects.standard.create "mysql" = .ok _ := rfl
  have hfirebird : Dialects.standard.create "Firebird" = .ok _ := rfl
  have hnamed : Text.lower "Firebird" = "firebird" := by decide +kernel
  obtain ⟨-, hcounted, -⟩ := selects_window_iff (r := .ofDialect _) (q := widgetPage) hmysql rfl rfl rfl rfl (by decide)
  obtain ⟨-, hbetween, hrows⟩ :=
    selects_window_iff (r := .ofDialect _) (q := widgetPage) hfirebird rfl rfl rfl rfl (by decide)
  exact ⟨_, _, hmysql, hfirebird, hcounted.2 (by decide +kernel), fun h => hbetween.1 h hnamed, hrows hnamed⟩

/-- Where windows are written by first and last row, the page is not what is selected. -/
theorem not_selects_widgetPage : ∃ firebird, Dialects.standard.create "firebird" = .ok firebird ∧
    (widgetPage.select (.ofDialect firebird)).toOption.map (·.text.display) =
      some "SELECT * FROM \x22widget\x22 ROWS 5 TO 10" ∧
      windowClause (.ofDialect firebird) widgetPage = "ROWS 5 TO 10" ∧ ¬ Selects "ROWS 5 TO 10" 11 15 := by
  refine ⟨_, rfl, by decide +kernel, by decide +kernel, ?_⟩
  exact RowWindow.not_selects_between (n := 5) (m := 10) (by decide)

end Query

end FluentSql
