import FluentSql.Proofs.Identifier.Inert
import FluentSql.Proofs.Query.Reading
import FluentSql.Proofs.Record.Building
import FluentSql.Proofs.Record.Statements
import Mathlib.Data.List.Induction
/-
# FluentSql.Proofs.Record.Reading — which names statements may hold.

The builder quotes names by its own rule, and the readers of a statement look for literals by theirs. Where
every quoted name is inert, the two agree about every statement of a record. A name that is not inert is
misread in some statement, even if all other names in it are inert (`not_countsRight_of_not_isInert`).
-/

namespace FluentSql

open Literal (isInert slotsOutside)

namespace Vocabulary

/-- The given marks and names. All other letters are ordinary ones. -/
def ofNames (marks names : String → Prop) : Vocabulary where
  marks := marks
  names := names
  letters c := Literal.isOrdinary c = true
  ordinary c hslot hquote := by simp [Literal.isOrdinary, hslot, hquote]

/-- The given names, and beside them all names that are inert with each of the marks. -/
def besideInert (marks names : String → Prop) : Vocabulary :=
  ofNames marks fun name => names name ∨ ∀ mark, marks mark → Identifier.IsInert mark name

theorem hasSolidMarks {voc : Vocabulary} (h : ∀ mark, voc.marks mark → Identifier.IsStandardMark mark) :
    voc.HasSolidMarks := by
  intro mark hmark
  rcases (h mark hmark).cases with rfl | rfl <;> exact .of_ends rfl rfl

/-- Every name is inert with every mark. -/
def IsInert (voc : Vocabulary) : Prop :=
  ∀ mark name, voc.marks mark → voc.names name → Identifier.IsInert mark name

theorem isInert_of_in {marks names : String → Prop} (h : (ofNames marks names).IsInert) {t : Token}
    (ht : t.In (ofNames marks names)) : t.IsInert := by
  cases t with
  | letter c =>
      have hc : Literal.isOrdinary c = true := ht
      exact Literal.isInert_of_all_isOrdinary (by simpa [Token.chars] using hc)
  | name mark text => exact h mark text ht.1 ht.2
  | slot => trivial

end Vocabulary

/-- Readers find one placeholder for each parameter. -/
def Sql.CountsRight (sql : Sql) : Prop :=
  ∃ text, sql.text = .text text ∧ slotsOutside text.toList = sql.params.bound.length

/-- The statement was written from the vocabulary, and its readers find the slots that were written. -/
def Sql.IsReadRight (voc : Vocabulary) (sql : Sql) : Prop :=
  ∃ ts : Template, (∀ t ∈ ts, t.In voc) ∧ sql.IsReadAs ts

theorem Sql.IsReadRight.countsRight {voc : Vocabulary} {sql : Sql} (h : sql.IsReadRight voc) :
    sql.CountsRight := by
  obtain ⟨ts, -, hread⟩ := h
  exact ⟨_, hread.text, by rw [String.toList_ofList, hread.found]⟩

/-- A spelled statement of inert names is read right, unless it has a slot without a parameter. -/
theorem Sql.IsSpelled.read_right {marks names : String → Prop}
    (h : (Vocabulary.ofNames marks names).IsInert) {surplus : Nat} {sql : Sql}
    (hsql : sql.IsSpelled (.ofNames marks names) surplus) :
    (sql.CountsRight ↔ surplus = 0) ∧ (surplus = 0 → sql.IsReadRight (.ofNames marks names)) := by
  obtain ⟨s, values, rfl, ts, htext, hslots, hts⟩ := hsql
  have hinert : ∀ t ∈ ts, t.IsInert := fun t ht => Vocabulary.isInert_of_in h (hts t ht)
  constructor
  · have hfound := Template.slotsOutside_text hinert
    rw [htext, hslots] at hfound
    constructor
    · rintro ⟨text, heq, hcount⟩
      cases heq
      rw [hfound] at hcount
      exact Nat.add_eq_left.1 hcount
    · rintro rfl
      exact ⟨s, rfl, hfound⟩
  · rintro rfl
    refine ⟨ts, hts, Template.isReadAs hinert ?_ rfl hslots⟩
    rw [htext, String.ofList_toList]

namespace Record

variable {E : Environment} {voc : Vocabulary}

/-- A record that was built with the vocabulary, and whose row can be written with it if the request writes
the row, sends the statement. -/
structure Sends (voc : Vocabulary) (s : Scope E) (request : Request) (sql : Sql) : Prop where
  built : Built voc s
  row : request.WritesRow → s.WritesPlainly voc
  sent : ((statement request).perform s).1 = .ok (some sql)

/-- What a record sends is spelled. -/
theorem Sends.isSpelled {s : Scope E} {request : Request} {sql : Sql} (hvoc : voc.HasSolidMarks)
    (h : Sends voc s request sql) : ∃ surplus, sql.IsSpelled voc surplus ∧
      (surplus = 0 ↔ (request.FindsByKey s.record → s.key.columns.Nodup)) := by
  have hspeaks := h.built.speaks
  have hstatement := triple_statement hvoc hspeaks.query h.row s (holds_self hspeaks.marks)
  rcases hrun : (statement request).perform s with ⟨result, s'⟩
  have hsent := h.sent
  rw [hrun] at hstatement hsent
  cases hsent
  exact hstatement sql rfl

/-! ## A record that compares columns -/

/-- A record of the table `*` that compares some columns with null. Its connection quotes with a mark and
has a dialect. -/
def comparing (mark : String) (names : List String) : Scope .quiet where
  record := { connection := "default", query := {
    table := "*"
    wheres := names.map fun name => .comparison (Identifier.quoteName mark name) "=" [.null] } }
  world := {
    session := {
      settings := [("default", { quoteMark := some mark })]
      dialects := [("default", ⟨0, { name := "", label := "", quoteMark := mark }⟩)] }
    outside := () }

/-- The comparisons as they are written. -/
def comparisons (mark : String) (names : List String) : String :=
  " AND ".intercalate (names.map fun name => Identifier.quoteName mark name ++ " = ?")

/-- The statement of a record that compares columns. -/
def comparingSql (mark : String) (names : List String) : Sql where
  text := .text ("SELECT * FROM * WHERE " ++ comparisons mark names)
  params := .positional (names.map fun _ => .null)

variable {mark : String} {names : List String}

/-- Each comparison is added by a call. -/
theorem perform_compare (hmark : Identifier.IsStandardMark mark) (names : List String) (name : String) :
    (build (.condition .whereClause (.compare "=" (.text name) .null))).perform (comparing mark names) =
      (.ok (), comparing mark (names ++ [name])) := by
  unfold comparing
  rw [List.map_append]
  rcases hmark.cases with rfl | rfl <;> rfl

theorem built_comparing (hstandard : Identifier.IsStandardMark mark) (hmark : voc.marks mark)
    (htable : voc.names "*") (hnames : ∀ name ∈ names, voc.names name) :
    Built voc (comparing mark names) := by
  have hne : mark.isEmpty = false := by rcases hstandard.cases with rfl | rfl <;> decide
  induction names using List.reverseRecOn with
  | nil => exact .start htable rfl (.inl ⟨mark, rfl, hne, hmark⟩)
  | append_singleton names name ih =>
      have hbuilt := ih fun n hn => hnames n (List.mem_append_left _ hn)
      have hlast := hnames name (by simp)
      have hrun := perform_compare hstandard names name
      have hcall := Built.call (.condition .whereClause (.compare "=" (.text name) .null)) hbuilt ?_
      · rwa [hrun] at hcall
      · refine ⟨⟨voc.words_ordinary "=" (by decide), ?_⟩, ?_⟩
        · intro e he
          rw [List.mem_singleton.1 he]
          exact ⟨name, rfl, hlast⟩
        · intro e he
          rw [List.mem_singleton.1 he]
          rfl

theorem fragmentTexts_comparing : Query.fragmentTexts (comparing mark names).record.query.wheres =
    .ok (names.map fun name => Identifier.quoteName mark name ++ " = ?") := by
  have htext : ∀ p ∈ (comparing mark names).record.query.wheres.map (·.text), ∃ s, p = Piece.text s := by
    intro p hp
    simp only [comparing, List.map_map, List.mem_map] at hp
    obtain ⟨name, -, rfl⟩ := hp
    exact ⟨_, rfl⟩
  rw [Query.fragmentTexts, Piece.texts?_eq_ok htext]
  simp [comparing, Fragment.comparison, Piece.written, String.append_assoc]

theorem isSolid_comparisons (hmark : Identifier.IsStandardMark mark) (hnames : names ≠ []) :
    Text.IsSolid (comparisons mark names).toList := by
  have hsolid : Text.IsSolid mark.toList := by
    rcases hmark.cases with rfl | rfl <;> exact .of_ends rfl rfl
  have hslot : Text.IsSolid "= ?".toList := .of_ends rfl rfl
  rw [comparisons, String.toList_intercalate]
  refine Text.isSolid_intercalate _ (by simpa using hnames) fun piece hpiece => ?_
  simp only [List.map_map, List.mem_map] at hpiece
  obtain ⟨name, -, rfl⟩ := hpiece
  have hpiece := (Identifier.isSolid_quoteChars hsolid name.toList).append hslot [' ']
  simpa [Identifier.quoteName] using hpiece

theorem clauses_comparing (hnames : names ≠ []) {r : Rendering} (htable : r.quote "*" = "*") :
    Query.clauses r (comparing mark names).record.query =
      .ok ["SELECT * FROM *", "", "WHERE " ++ comparisons mark names, "", "", "", "", ""] := by
  have hhead : Query.headClause r (comparing mark names).record.query = .ok "SELECT * FROM *" := by
    have htext : "SELECT " ++ "" ++ "" ++ ", ".intercalate ["*"] ++ " FROM " ++ "*" =
        "SELECT * FROM *" := by decide
    show (.ok ("SELECT " ++ "" ++ "" ++ ", ".intercalate ["*"] ++ " FROM " ++ r.quote "*") :
      Except Failure String) = _
    rw [htable, htext]
  have hwheres : Query.conditionClause .whereClause (comparing mark names).record.query =
      .ok ("WHERE " ++ comparisons mark names) := by
    have hlist : (names.map fun name => Identifier.quoteName mark name ++ " = ?").isEmpty = false := by
      simpa using hnames
    have hword : ConditionKind.whereClause.keyword ++ " " = "WHERE " := by decide
    simp only [Query.conditionClause, Query.conditions, fragmentTexts_comparing, comparisons]
    show Except.ok (Query.listClause _ _ _) = _
    rw [Query.listClause, hlist, if_neg (by decide), hword]
  simp only [Query.clauses, hhead, hwheres]
  rfl

theorem select_comparing (hmark : Identifier.IsStandardMark mark) (hnames : names ≠ [])
    {r : Rendering} (hr : r.mark = mark) :
    (comparing mark names).record.query.select r = .ok (comparingSql mark names) := by
  have htable : r.quote "*" = "*" := by
    rw [Rendering.quote, hr, Identifier.quoteName, Identifier.quoteChars_star]
  have hjoined : Text.joinNonBlank " " ["SELECT * FROM *", "", "WHERE " ++ comparisons mark names, "", "",
      "", "", ""] = "SELECT * FROM * WHERE " ++ comparisons mark names := by
    have hword : Text.IsSolid "WHERE".toList := .of_ends rfl rfl
    have hwheres : Text.IsSolid ("WHERE " ++ comparisons mark names).toList := by
      simpa using hword.append (isSolid_comparisons hmark hnames) [' ']
    have hhead : Text.trimChars "SELECT * FROM *".toList = "SELECT * FROM *".toList := by decide
    have hempty : Text.trimChars "".toList = [] := by decide
    rw [← String.toList_inj, Text.toList_joinNonBlank]
    simp only [List.map_cons, List.map_nil, hwheres.trimChars_eq, hhead, hempty]
    simp
  have hvalues : Query.boundValues (comparing mark names).record.query.wheres =
      names.map fun _ => .null := by
    simp only [comparing, Query.boundValues, Fragment.comparison, List.flatMap_map]
    exact List.map_eq_flatMap.symm
  simp only [Query.select, clauses_comparing hnames htable]
  rw [comparingSql, ← hjoined, hvalues]
  simp only [comparing, Query.boundValues, List.flatMap_nil, List.nil_append, List.append_nil]
  rfl

/-- The record sends its statement. -/
theorem sends_comparing (hstandard : Identifier.IsStandardMark mark) (hmark : voc.marks mark)
    (htable : voc.names "*") (hin : ∀ name ∈ names, voc.names name) (hnames : names ≠ []) :
    Sends voc (comparing mark names) .rows (comparingSql mark names) := by
  refine ⟨built_comparing hstandard hmark htable hin, False.elim, ?_⟩
  have hselect := select_comparing hstandard hnames
    (r := ⟨{ name := "", label := "", quoteMark := mark }, mark, .limit⟩) rfl
  have hcompile : compileSelect.perform (comparing mark names) =
      (.ok (comparingSql mark names), comparing mark names) := by
    have hrun : compileSelect.perform (comparing mark names) =
        Step.perform (liftM ((comparing mark names).record.query.select
          ⟨{ name := "", label := "", quoteMark := mark }, mark, .limit⟩)) (comparing mark names) := by
      rcases hstandard.cases with rfl | rfl <;> rfl
    rw [hrun, hselect]
    rfl
  rw [statement, map_eq_pure_bind, Step.perform_bind, hcompile]
  rfl

/-! ## Misread names -/

theorem toList_comparisons_singleton (mark name : String) : (comparisons mark [name]).toList =
    Identifier.quoteChars mark.toList name.toList ++ " = ?".toList := by
  simp [comparisons, Identifier.quoteName]

theorem toList_comparisons_cons (mark name : String) (hnames : names ≠ []) :
    (comparisons mark (name :: names)).toList = Identifier.quoteChars mark.toList name.toList ++
      (" = ? AND ".toList ++ (comparisons mark names).toList) := by
  obtain ⟨next, rest, rfl⟩ := List.exists_cons_of_ne_nil hnames
  have hglue : " = ? AND ".toList = " = ?".toList ++ " AND ".toList := by decide
  simp only [comparisons, String.toList_intercalate, List.map_cons, List.intercalate_cons_cons,
    String.toList_append, Identifier.quoteName, String.toList_ofList, hglue, List.append_assoc]

/-- The head of the statement has no placeholders. -/
theorem countsRight_comparingSql : (comparingSql mark names).CountsRight ↔
    slotsOutside (comparisons mark names).toList = names.length := by
  have hhead : isInert "SELECT * FROM * WHERE ".toList = true :=
    Literal.isInert_of_all_isOrdinary (by decide)
  have hcount : slotsOutside ("SELECT * FROM * WHERE " ++ comparisons mark names).toList =
      slotsOutside (comparisons mark names).toList := by
    rw [String.toList_append, Literal.slotsOutside_append_of_isInert hhead]
  have hlength : (comparingSql mark names).params.bound.length = names.length := List.length_map _
  constructor
  · rintro ⟨text, htext, hfound⟩
    cases htext
    rwa [hcount, hlength] at hfound
  · intro hfound
    exact ⟨_, rfl, by rw [hcount, hlength, hfound]⟩

/-- A name that is not inert is misread in a statement of comparisons, next to inert names. -/
theorem not_countsRight_of_not_isInert (hmark : Identifier.IsStandardMark mark) {name : String}
    (hname : ¬ Identifier.IsInert mark name) : ∃ names, names ≠ [] ∧
      (∀ other ∈ names, other = name ∨
        ∀ mark, Identifier.IsStandardMark mark → Identifier.IsInert mark other) ∧
      ¬ (comparingSql mark names).CountsRight := by
  rcases Literal.dangles_or_isAdditive (Identifier.quoteChars mark.toList name.toList) with
    ⟨before, quote, after, hdangles⟩ | ⟨hadditive, hslots⟩
  · -- The dangling quote hides one slot as well as two, up to the next such quote.
    obtain ⟨first, rest, hquoted, hfirst, hescape⟩ :=
      Identifier.quoteChars_twoQuotes hmark hdangles.isQuote
    have hcases : quote = '\x27' ∨ quote = '\x22' := by simpa [Literal.isQuote] using hdangles.isQuote
    have hlast := Identifier.getLast?_quoteChars hmark name.toList
    have hcount : ∀ hidden : List Char, quote ∉ hidden → '\x5c' ∉ hidden →
        slotsOutside (Identifier.quoteChars mark.toList name.toList ++
          (hidden ++ (first ++ quote :: rest ++ " = ?".toList))) =
            slotsOutside before + slotsOutside (rest ++ " = ?".toList) := by
      intro hidden hquote hbackslash
      have hsplit : hidden ++ (first ++ quote :: rest ++ " = ?".toList) =
          (hidden ++ first) ++ quote :: (rest ++ " = ?".toList) := by simp
      rw [hsplit]
      exact hdangles.slotsOutside_append hlast (by simp [hquote, hfirst])
        (by simp [hbackslash, hescape]) _
    have htwo : slotsOutside (comparisons mark [name, Identifier.twoQuotes quote]).toList =
        slotsOutside before + slotsOutside (rest ++ " = ?".toList) := by
      rw [toList_comparisons_cons mark name (by simp), toList_comparisons_singleton, hquoted]
      exact hcount _ (by rcases hcases with rfl | rfl <;> decide) (by decide)
    have hthree : slotsOutside (comparisons mark [name, "*", Identifier.twoQuotes quote]).toList =
        slotsOutside before + slotsOutside (rest ++ " = ?".toList) := by
      rw [toList_comparisons_cons mark name (by simp), toList_comparisons_cons mark "*" (by simp),
        toList_comparisons_singleton, hquoted, Identifier.quoteChars_star]
      have hmiddle := hcount (" = ? AND ".toList ++ '*' :: " = ? AND ".toList)
        (by rcases hcases with rfl | rfl <;> decide) (by decide)
      simpa only [List.append_assoc, List.cons_append, List.nil_append] using hmiddle
    have hquotes : ∀ mark, Identifier.IsStandardMark mark →
        Identifier.IsInert mark (Identifier.twoQuotes quote) := by
      intro mark hmark
      exact Identifier.isInert_twoQuotes hmark hdangles.isQuote
    have hpoint : ∀ mark, Identifier.IsStandardMark mark → Identifier.IsInert mark "*" :=
      fun _ _ => Identifier.isInert_star
    -- Both statements show as many placeholders, but one has more parameters, so one is misread.
    by_cases hright : (comparingSql mark [name, Identifier.twoQuotes quote]).CountsRight
    · refine ⟨[name, "*", Identifier.twoQuotes quote], by simp, ?_, ?_⟩
      · simp only [List.forall_mem_cons, List.not_mem_nil, false_imp_iff, implies_true, and_true]
        exact ⟨.inl trivial, .inr hpoint, .inr hquotes⟩
      · intro hwrong
        rw [countsRight_comparingSql, htwo] at hright
        rw [countsRight_comparingSql, hthree, hright] at hwrong
        simp at hwrong
    · refine ⟨[name, Identifier.twoQuotes quote], by simp, ?_, hright⟩
      simp only [List.forall_mem_cons, List.not_mem_nil, false_imp_iff, implies_true, and_true]
      exact ⟨.inl trivial, .inr hquotes⟩
  · -- No quote dangles, so the name shows slots of its own.
    refine ⟨[name], by simp, by simp, ?_⟩
    intro hright
    rw [countsRight_comparingSql, toList_comparisons_singleton, hadditive] at hright
    have hslot : slotsOutside " = ?".toList = 1 := by decide +kernel
    have hpos := hslots (by simpa [Identifier.IsInert] using hname)
    rw [hslot, List.length_singleton] at hright
    omega

/-! ## The names that statements may hold -/

/-- Every statement that is sent has one placeholder for each parameter, unless its row is found by a key
that repeats a column. -/
def CountsAlways (voc : Vocabulary) : Prop :=
  ∀ (E : Environment) (s : Scope E) (request : Request) (sql : Sql), Sends voc s request sql →
    (sql.CountsRight ↔ (request.FindsByKey s.record → s.key.columns.Nodup))

/-- Every statement that is sent is read as it was written, unless its row is found by such a key. -/
def ReadsAlways (voc : Vocabulary) : Prop :=
  ∀ (E : Environment) (s : Scope E) (request : Request) (sql : Sql), Sends voc s request sql →
    (request.FindsByKey s.record → s.key.columns.Nodup) → sql.IsReadRight voc

/-- **Readers find one placeholder for each parameter in every statement, next to inert names, exactly if
the names are inert with every mark that they may be quoted with. Then the placeholders that they find are
those that were written.** -/
theorem counts_iff_isInert {marks names : String → Prop}
    (hstandard : ∀ mark, marks mark → Identifier.IsStandardMark mark) :
    (CountsAlways (.besideInert marks names) ↔
      ∀ mark name, marks mark → names name → Identifier.IsInert mark name) ∧
    (CountsAlways (.besideInert marks names) → ReadsAlways (.besideInert marks names)) := by
  have hforward : CountsAlways (.besideInert marks names) →
      ∀ mark name, marks mark → names name → Identifier.IsInert mark name := by
    intro hcounts mark name hmark hname
    by_contra hmisread
    obtain ⟨others, hne, hothers, hwrong⟩ :=
      not_countsRight_of_not_isInert (hstandard mark hmark) hmisread
    have hin : ∀ other ∈ others, (Vocabulary.besideInert marks names).names other := by
      intro other hother
      rcases hothers other hother with rfl | hinert
      · exact .inl hname
      · exact .inr fun mark hmark => hinert mark (hstandard mark hmark)
    have htable : (Vocabulary.besideInert marks names).names "*" :=
      .inr fun _ _ => Identifier.isInert_star
    have hsends := sends_comparing (hstandard mark hmark) hmark htable hin hne
    exact hwrong ((hcounts _ _ _ _ hsends).2 False.elim)
  have hinert : (∀ mark name, marks mark → names name → Identifier.IsInert mark name) →
      (Vocabulary.besideInert marks names).IsInert := by
    rintro hall mark name hmark (hname | hname)
    · exact hall mark name hmark hname
    · exact hname mark hmark
  have hvoc : (Vocabulary.besideInert marks names).HasSolidMarks := Vocabulary.hasSolidMarks hstandard
  refine ⟨⟨hforward, ?_⟩, ?_⟩
  · intro hall E s request sql hsends
    obtain ⟨surplus, hspelled, hsurplus⟩ := hsends.isSpelled hvoc
    rw [← hsurplus]
    exact (hspelled.read_right (hinert hall)).1
  · intro hcounts E s request sql hsends hkey
    obtain ⟨surplus, hspelled, hsurplus⟩ := hsends.isSpelled hvoc
    exact (hspelled.read_right (hinert (hforward hcounts))).2 (hsurplus.2 hkey)

/-- Between double quotes, a name with an apostrophe and a question mark is read right. -/
theorem counts_iff_isInert_comparing : (comparingSql "\x22" ["who's?"]).CountsRight := by
  have hmark : Identifier.IsStandardMark "\x22" := ⟨Dialects.standardSpecs[2], List.getElem_mem _, rfl⟩
  have hinert : Identifier.IsInert "\x22" "who's?" := Identifier.isInert_of_doubleQuotes (by decide)
  have hall : ∀ mark, mark = "\x22" → Identifier.IsStandardMark mark := fun mark h => h ▸ hmark
  obtain ⟨⟨-, hcounts⟩, -⟩ := @counts_iff_isInert (· = "\x22") (· = "who's?") hall
  refine (hcounts ?_ _ _ .rows _ (sends_comparing hmark rfl ?_ ?_ (by simp))).2 False.elim
  · rintro mark name rfl rfl
    exact hinert
  · exact .inr fun _ _ => Identifier.isInert_star
  · intro name hname
    exact .inl (List.mem_singleton.1 hname)

/-- Between backticks, the question mark of a name is taken for a placeholder. -/
theorem not_countsRight_of_questionMark :
    Sends (.ofNames (· = "\x60") fun _ => True) (comparing "\x60" ["what?"]) .rows
        ⟨.text "SELECT * FROM * WHERE \x60what?\x60 = ?", .positional [.null]⟩ ∧
      slotsOutside "SELECT * FROM * WHERE \x60what?\x60 = ?".toList = 2 := by
  have hmark : Identifier.IsStandardMark "\x60" := ⟨Dialects.standardSpecs[0], List.getElem_mem _, rfl⟩
  have hsends : Sends (.ofNames (· = "\x60") fun _ => True) (comparing "\x60" ["what?"]) .rows
      (comparingSql "\x60" ["what?"]) :=
    sends_comparing hmark rfl trivial (fun _ _ => trivial) (by simp)
  have htext : "SELECT * FROM * WHERE " ++ comparisons "\x60" ["what?"] =
      "SELECT * FROM * WHERE \x60what?\x60 = ?" := by decide +kernel
  rw [comparingSql, htext] at hsends
  exact ⟨hsends, by decide +kernel⟩

end Record

end FluentSql
