import FluentSql.Proofs.Connection.Looks
/-
# FluentSql.Proofs.Database.Machine — databases as state machines.

A database refuses a statement and stays as it is, or answers it and may change its state. As the outside of
a session it keeps the rows of its answers under cursors until they are fetched.

A statement with a text and parameters is prepared for its driver without looking at the heap
(`perform_prepare`), so what a database answers to it in a state is known before it is executed.
-/

namespace FluentSql

open Step (Keeps Triple perform_bind_ok perform_bind_error)

/-! ## Answers -/

namespace DriverKind

/-- A row as it arrives: a mapping from a native driver, and values in the order of the columns from the
others. -/
def Arrival : DriverKind → Type
  | .native _ => Row
  | _ => List Value

/-- A row that arrives, as a value. -/
def arrived : (kind : DriverKind) → kind.Arrival → Value
  | .native _, row => .map row
  | .sqlite, items => .tuple items
  | .toolkit _ _, items => .tuple items

end DriverKind

/-- What a database answers to a statement. -/
structure Answer (kind : DriverKind) where
  columns : Option (List String)
  rows : List kind.Arrival
  rowcount : Int
  lastRowId : Value

/-- The rows that an answer gives. -/
def Answer.found : {kind : DriverKind} → Answer kind → List Row
  | .native _, answer => answer.rows
  | .sqlite, answer =>
    match DriverKind.sqlite.rowShape answer.columns with
    | .positional columns => answer.rows.map (RowShape.rowOf columns)
    | _ => []
  | .toolkit name style, answer =>
    match (DriverKind.toolkit name style).rowShape answer.columns with
    | .positional columns => answer.rows.map (RowShape.rowOf columns)
    | _ => []

/-! ## Databases -/

/-- A database behind drivers of a kind. A statement that it refuses leaves it as it is. -/
structure Database (kind : DriverKind) where
  State : Type
  ask : Value → Option Value → State → Except Failure (Answer kind × State)
  /-- The number that is reported for the last insertion. -/
  insertId : State → Except Failure Value

namespace Database

variable {kind : DriverKind}

/-- The database as an outside, with the rows that are left under its cursors. No driver is opened there, and no
function of a caller is called. -/
def environment (db : Database kind) (digest : String → String) : Environment where
  State := db.State × List (List Value)
  digest := digest
  connect _ s := (.error .badArguments, s)
  execute _ text params s :=
    match db.ask text params s.1 with
    | .ok (answer, state) =>
      (.ok ⟨s.2.length, answer.columns, answer.rowcount, answer.lastRowId⟩,
        state, s.2 ++ [answer.rows.map kind.arrived])
    | .error failure => (.error failure, s)
  fetch cursor count s :=
    let rows := s.2.getD cursor []
    match count with
    | none => (.ok rows, s.1, s.2.set cursor [])
    | some n => (.ok (rows.take n), s.1, s.2.set cursor (rows.drop n))
  insertId _ s := (db.insertId s.1, s)
  call _ _ := throw .badArguments

end Database

/-! ## Prepared statements -/

namespace Connection

/-- The text of a statement in a placeholder style. -/
def restyled (style : ParamStyle) (sql : String) : String := String.ofList (style.restyle sql.toList)

/-- A statement and its parameters as a driver of a kind sends them. -/
def prepared : DriverKind → String → Params → Value × Option Value
  | .native _, sql, params => (.text sql, some params.toValue)
  | .sqlite, sql, .named entries => (.text sql, some (.map entries))
  | .sqlite, sql, .positional values => (.text sql, some (.tuple values))
  | .toolkit _ _, sql, .named entries => (.text sql, some (.map entries))
  | .toolkit _ _, sql, .positional [] => (.text sql, none)
  | .toolkit _ style, sql, .positional values =>
    (.text (restyled (ParamStyle.ofName style) sql), some ((ParamStyle.ofName style).bound values))

theorem perform_restyle (style : ParamStyle) (sql : String) (h : Heap) :
    (restyle style (.text sql)).perform h = (.ok (.text (restyled style sql)), h) := by
  cases style with
  | positional =>
      have hsame : restyled .positional sql = sql := String.ofList_toList
      rw [hsame]
      rfl
  | percent => rfl
  | numbered => rfl
  | named => rfl

theorem perform_prepare (kind : DriverKind) (sql : String) (params : Params) (h : Heap) :
    (prepare kind (.text sql) params.toValue).perform h = (.ok (prepared kind sql params), h) := by
  cases kind with
  | native name => rfl
  | sqlite => cases params <;> rfl
  | toolkit name style =>
      rw [prepare, adapt, perform_bind_ok (perform_params params h)]
      match params with
      | .named entries => rfl
      | .positional [] => rfl
      | .positional (v :: values) =>
          show (restyle _ _ >>= _).perform h = _
          rw [perform_bind_ok (perform_restyle _ sql h)]
          rfl

theorem perform_forDisplay (sql : String) (params : Params) (h : Heap) :
    ∃ shown, (forDisplay (.text sql) params.toValue).perform h = (.ok shown, h) := by
  match params with
  | .named entries => exact ⟨_, rfl⟩
  | .positional [] => exact ⟨_, rfl⟩
  | .positional (v :: values) => exact ⟨_, rfl⟩

/-! ## Executing -/

variable {E : Environment} {connection : String} {d : Driver} {w : World E.State}

/-- A refused statement leaves no trace in the session. -/
theorem perform_execute_refused (hd : Entries.get? connection w.session.drivers = some d) {sql : String}
    {params : Params} {failure : Failure} {s : E.State}
    (hrefused : E.execute d.link (prepared d.kind sql params).1 (prepared d.kind sql params).2 w.outside =
      (.error failure, s)) :
    (execute connection (.text sql) params.toValue : Action E Statement).perform w =
      (.error failure, { w with outside := s }) := by
  have hsend : (send d (.text sql) params.toValue : Action E Statement).perform w =
      (.error failure, { w with outside := s }) := by
    rw [send, perform_bind_ok (Session.perform_inHeap (perform_prepare d.kind sql params w.heap))]
    exact perform_bind_error (Session.perform_outside hrefused)
  rw [execute, perform_bind_ok (perform_driver hd), perform_bind_error hsend]

/-- Logging a statement cannot fail where no function of the caller is told of it. -/
theorem perform_logQuery (hd : Entries.get? connection w.session.drivers = some d)
    (hlogger : (w.session.settingsOf connection).logger = none) (sql : String) (params : Params) :
    ∃ log, (logQuery connection (.text sql) params.toValue : Action E Unit).perform w =
      (.ok (), { w with session := { w.session with log := log } }) := by
  obtain ⟨shown, hshown⟩ := perform_forDisplay sql params w.heap
  rw [logQuery, perform_bindSettings]
  split
  · have hdriver : (discard <| driver connection : Action E Unit).perform w = (.ok (), w) :=
      perform_bind_ok (perform_driver hd)
    rw [perform_bind_ok hdriver, perform_bind_ok (Session.perform_inHeap hshown)]
    exact ⟨_, by rw [hlogger]; rfl⟩
  · exact ⟨w.session.log, rfl⟩

/-- An accepted statement changes nothing of what is kept of reads, or of the drivers. -/
theorem perform_execute_accepted (hd : Entries.get? connection w.session.drivers = some d)
    (hlogger : (w.session.settingsOf connection).logger = none) {sql : String} {params : Params} {reply : Reply}
    {s : E.State}
    (haccepted : E.execute d.link (prepared d.kind sql params).1 (prepared d.kind sql params).2 w.outside =
      (.ok reply, s)) :
    ∃ session, w.session.Stays session ∧
      (execute connection (.text sql) params.toValue : Action E Statement).perform w =
        (.ok (d.kind.statement reply), { w with session := session, outside := s }) := by
  have hsend : ∃ ids, (send d (.text sql) params.toValue : Action E Statement).perform w =
      (.ok (d.kind.statement reply),
        { w with session := { w.session with lastRowIds := ids }, outside := s }) := by
    rw [send, perform_bind_ok (Session.perform_inHeap (perform_prepare d.kind sql params w.heap)),
      perform_bind_ok (Session.perform_outside haccepted)]
    generalize d.kind = kind
    cases kind with
    | native name => exact ⟨w.session.lastRowIds, rfl⟩
    | sqlite => exact ⟨_, rfl⟩
    | toolkit name style => exact ⟨_, rfl⟩
  obtain ⟨ids, hsend⟩ := hsend
  let last : Session := { w.session with
    lastRowIds := ids
    lastStatement := some (d.kind.statement reply) }
  obtain ⟨log, hlog⟩ := perform_logQuery (w := { w with session := last, outside := s }) hd hlogger sql params
  refine ⟨{ last with log := log }, ⟨⟨rfl, rfl, fun _ => ⟨_, _, rfl⟩⟩, rfl⟩, ?_⟩
  rw [execute, perform_bind_ok (perform_driver hd), perform_bind_ok hsend]
  have hchange : (Session.change fun s => { s with lastStatement := some (d.kind.statement reply) } :
      Action E Unit).perform { w with session := { w.session with lastRowIds := ids }, outside := s } =
        (.ok (), { w with session := last, outside := s }) := rfl
  rw [perform_bind_ok hchange, perform_bind_ok hlog]
  rfl

end Connection

/-! ## Reading from a database -/

namespace Database

open Connection (prepared)

variable {kind : DriverKind} (db : Database kind) {digest : String → String} {connection : String}

/-- What the database answers to a statement as its driver sends it. -/
def answer (sql : String) (params : Params) (state : db.State) : Except Failure (Answer kind × db.State) :=
  db.ask (prepared kind sql params).1 (prepared kind sql params).2 state

/-- The rows that the database gives for a statement in a state. -/
def rowsOf (sql : String) (params : Params) (state : db.State) : Except Failure (List Row) :=
  (db.answer sql params state).map fun answered => answered.1.found

variable {db}

theorem environment_execute (link : Link) (sql : String) (params : Params)
    (s : (db.environment digest).State) :
    (db.environment digest).execute link (prepared kind sql params).1 (prepared kind sql params).2 s =
      match db.answer sql params s.1 with
      | .ok (answer, state) =>
        (.ok ⟨s.2.length, answer.columns, answer.rowcount, answer.lastRowId⟩,
          state, s.2 ++ [answer.rows.map kind.arrived])
      | .error failure => (.error failure, s) := rfl

/-- Rows that arrive as values are matched with the columns. -/
theorem perform_matched {w : World (db.environment digest).State} (columns : List String)
    (rows : List (List Value)) :
    ((rows.map Value.tuple).mapM fun arrived => do
      return .map (RowShape.rowOf columns (← Session.inHeap (Heap.items arrived))) :
        Action (db.environment digest) (List Value)).perform w =
      (.ok ((rows.map (RowShape.rowOf columns)).map .map), w) := by
  induction rows with
  | nil => rfl
  | cons items rows ih =>
      rw [List.map_cons, List.mapM_cons]
      have hfirst : (do
          return .map (RowShape.rowOf columns (← Session.inHeap (Heap.items (.tuple items)))) :
            Action (db.environment digest) Value).perform w =
          (.ok (.map (RowShape.rowOf columns items)), w) := rfl
      rw [perform_bind_ok hfirst, perform_bind_ok ih]
      rfl

/-- The rows of an answer are fetched as its driver matches them with its columns. -/
theorem perform_fetchAll (answer : Answer kind) {reply : Reply} (hcolumns : reply.columns = answer.columns)
    {w : World (db.environment digest).State}
    (hrows : w.outside.2.getD reply.cursor [] = answer.rows.map kind.arrived) :
    ∃ cursors, (Connection.fetchAll (kind.statement reply) :
        Action (db.environment digest) (List Value)).perform w =
      (.ok (answer.found.map .map), { w with outside := (w.outside.1, cursors) }) := by
  obtain ⟨cursor, columns', rowcount, lastRowId⟩ := reply
  obtain rfl : columns' = answer.columns := hcolumns
  have hfetch : (Session.outside ((db.environment digest).fetch cursor none) :
      Action (db.environment digest) (List Value)).perform w =
        (.ok (answer.rows.map kind.arrived),
          { w with outside := (w.outside.1, w.outside.2.set cursor []) }) :=
    Session.perform_outside (congrArg (fun rows => (Except.ok rows, _)) hrows)
  have hmatched : ∀ (columns : List String) (rows : List (List Value)),
      rows.map Value.tuple = answer.rows.map kind.arrived →
      ∃ cursors, (Session.outside ((db.environment digest).fetch cursor none) >>= fun arrived =>
        arrived.mapM fun row => do
          return .map (RowShape.rowOf columns (← Session.inHeap (Heap.items row))) :
        Action (db.environment digest) (List Value)).perform w =
          (.ok ((rows.map (RowShape.rowOf columns)).map .map),
            { w with outside := (w.outside.1, cursors) }) := by
    intro columns rows harrived
    rw [← harrived] at hfetch
    exact ⟨_, (perform_bind_ok hfetch).trans (perform_matched columns rows)⟩
  obtain ⟨columns, rows, count, last⟩ := answer
  cases kind with
  | native name => exact ⟨_, hfetch⟩
  | sqlite =>
      match columns with
      | none => exact ⟨w.outside.2, rfl⟩
      | some [] => exact ⟨w.outside.2, rfl⟩
      | some (column :: columns) => exact hmatched (column :: columns) rows rfl
  | toolkit name style =>
      match columns with
      | none => exact ⟨w.outside.2, rfl⟩
      | some columns => exact hmatched columns rows rfl

section

variable {w : World (db.environment digest).State} {link : Link}
  (hd : Entries.get? connection w.session.drivers = some ⟨kind, link⟩) {sql : String} {params : Params}
include hd

/-- A statement that the database refuses changes nothing. -/
theorem perform_execute_of_error {failure : Failure}
    (hanswer : db.answer sql params w.outside.1 = .error failure) :
    (Connection.execute connection (.text sql) params.toValue :
      Action (db.environment digest) Statement).perform w = (.error failure, w) := by
  refine Connection.perform_execute_refused hd ?_
  rw [environment_execute, hanswer]

variable (hlogger : (w.session.settingsOf connection).logger = none)
include hlogger

/-- A statement that the database answers moves it on, and changes nothing of what is kept of reads. -/
theorem perform_execute_of_ok {answer : Answer kind} {state : db.State}
    (hanswer : db.answer sql params w.outside.1 = .ok (answer, state)) :
    ∃ session, w.session.Stays session ∧
      (Connection.execute connection (.text sql) params.toValue :
        Action (db.environment digest) Statement).perform w =
      (.ok (kind.statement ⟨w.outside.2.length, answer.columns, answer.rowcount, answer.lastRowId⟩),
        { w with
          session := session
          outside := (state, w.outside.2 ++ [answer.rows.map kind.arrived]) }) := by
  refine Connection.perform_execute_accepted hd hlogger ?_
  rw [environment_execute, hanswer]

/-- A read that is executed gives the rows of the database. -/
theorem perform_readFresh_of_ok {answer : Answer kind} {state : db.State}
    (hanswer : db.answer sql params w.outside.1 = .ok (answer, state)) :
    ∃ session cursors, w.session.Stays session ∧
      (Connection.readFresh connection (.text sql) params.toValue :
        Action (db.environment digest) (List Value)).perform w =
      (.ok (answer.found.map .map), { w with session := session, outside := (state, cursors) }) := by
  obtain ⟨session, hstays, hexecute⟩ := perform_execute_of_ok hd hlogger hanswer
  have hrows : (w.outside.2 ++ [answer.rows.map kind.arrived]).getD w.outside.2.length [] =
      answer.rows.map kind.arrived := by simp
  let executed : World (db.environment digest).State := { w with
    session := session
    outside := (state, w.outside.2 ++ [answer.rows.map kind.arrived]) }
  have hcolumns : (⟨w.outside.2.length, answer.columns, answer.rowcount, answer.lastRowId⟩ : Reply).columns =
    answer.columns := rfl
  obtain ⟨cursors, hfetch⟩ := perform_fetchAll answer hcolumns (w := executed) hrows
  exact ⟨session, cursors, hstays, (perform_bind_ok hexecute).trans hfetch⟩

end

end Database

end FluentSql
