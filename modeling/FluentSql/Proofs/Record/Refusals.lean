import FluentSql.Proofs.Record.Looks
import FluentSql.Proofs.Record.Requests
/-
# FluentSql.Proofs.Record.Refusals — what a refused statement leaves behind.

A record that reads, saves or deletes writes its statement first, consults the cache if it reads, and then sends the
statement (`asked`). All of this only looks, and so does sending until the database has accepted the statement.
So when a driver refuses it, everything is as it was before, and asking again sends the same
(`refused_leaves_all`).
-/

namespace FluentSql

open Step (Keeps perform_bind_ok perform_bind_error)

namespace Connection

open Session (inHeap outside)

variable {E : Environment}

/-- A statement that is refused leaves the session as it is, and the heap up to streams. -/
theorem shows_of_send_error {d : Driver} {sql params : Value} {failure : Failure} {w w' : World E.State}
    (hrefused : (send d sql params : Action E Statement).perform w = (.error failure, w')) :
    w'.Shows w.session w.heap := by
  have hprepare := (Connection.ignoresStreams_shows (E := E).keeps_inHeap fun h =>
    Connection.keeps_prepare h d.kind sql params).leaves (s := w) ⟨rfl, .refl w.heap⟩
  rw [send] at hrefused
  rcases hrun : (inHeap (prepare d.kind sql params) : Action E (Value × Option Value)).perform w with
    ⟨failure' | ⟨text, sent⟩, w₁⟩
  · rw [perform_bind_error hrun] at hrefused
    cases hrefused
    rw [hrun] at hprepare
    exact hprepare
  · rw [hrun] at hprepare
    rw [perform_bind_ok hrun] at hrefused
    dsimp only at hrefused
    rcases hexecute : E.execute d.link text sent w₁.outside with ⟨failure' | reply, o⟩
    · rw [perform_bind_error (Session.perform_outside hexecute)] at hrefused
      cases hrefused
      exact ⟨hprepare.session, hprepare.heap⟩
    · -- What the database accepts is not refused any more.
      rw [perform_bind_ok (Session.perform_outside hexecute)] at hrefused
      generalize d.kind = kind at hrefused
      cases kind <;> cases hrefused

end Connection

/-- An outside that refuses every statement, and counts them. -/
def Environment.refusing : Environment where
  State := Nat
  digest text := text
  connect _ s := (.error (.database "closed"), s)
  execute _ _ _ s := (.error (.database "locked"), s + 1)
  fetch _ _ s := (.ok [], s)
  insertId _ s := (.ok .null, s)
  call _ _ := pure .null

namespace Record

variable {E : Environment} {α β : Type}

/-! ## What is asked of the database -/

/-- What a request asks of the database. It asks for nothing if there is nothing to save, or if the cache has the
rows. -/
def asked : Request → Record.Action E (Option Sql)
  | .rows => do
    let sql ← compileSelect
    let r ← current
    match ← inWorld (Connection.consult r.connection sql.text sql.params.toValue (.text r.table)) with
    | .found _ => return none
    | .missing _ => return some sql
  | request => statement request

/-- The request that a call makes of the database, if it makes one of the whole query or of its own row. -/
def Call.request? : Call → Option Request
  | .findMany | .findResultSet | .findArray => some .rows
  | .save => some .save
  | .delete => some .delete
  | .deleteMany => some .deleteMany
  | _ => none

/-! ## Getting ready -/

/-- The action starts by finding out how statements are written. -/
def StartsByRendering (step : Record.Action E α) : Prop :=
  ∃ rest : Rendering → Record.Action E α, step = rendering >>= rest

theorem startsByRendering_statement (request : Request) :
    StartsByRendering (statement request : Record.Action E (Option Sql)) := by
  cases request <;> exact ⟨_, by
    simp only [statement, compileSelect, deletionOfMany, pendingWrite, deletion, map_eq_pure_bind, bind_assoc]
    rfl⟩

theorem startsByRendering_asked (request : Request) :
    StartsByRendering (asked request : Record.Action E (Option Sql)) := by
  cases request with
  | rows => exact ⟨_, by
      simp only [asked, compileSelect, bind_assoc]
      rfl⟩
  | deleteMany => exact startsByRendering_statement .deleteMany
  | save => exact startsByRendering_statement .save
  | delete => exact startsByRendering_statement .delete

/-- What a scope puts behind its record depends on the record and its number only. -/
theorem renewed_congr {s t : Scope E} (hrecord : t.record = s.record) (hnumber : t.number = s.number)
    (w : World E.State) : t.renewed w = s.renewed w := by
  obtain ⟨r, world, number⟩ := s
  obtain ⟨r', world', number'⟩ := t
  obtain rfl : r' = r := hrecord
  obtain rfl : number' = number := hnumber
  rfl

theorem perform_inWorld_congr {s t : Scope E} (hrecord : t.record = s.record) (hnumber : t.number = s.number)
    {action : FluentSql.Action E α} (hrun : action.perform t.published = action.perform s.published) :
    (inWorld action).perform t = (inWorld action).perform s := by
  rw [inWorld, Step.perform_onPart, Step.perform_onPart, hrun, renewed_congr hrecord hnumber]

/-- What starts by finding out how statements are written does the same wherever this is found alike. -/
theorem StartsByRendering.perform_congr {step : Record.Action E α} (h : StartsByRendering step) {s t : Scope E}
    (hrecord : t.record = s.record) (hnumber : t.number = s.number)
    (hrun : (Connection.rendering s.record.connection).perform t.published =
      (Connection.rendering s.record.connection).perform s.published) : step.perform t = step.perform s := by
  obtain ⟨rest, rfl⟩ := h
  have hrendering : (rendering : Record.Action E Rendering).perform t = rendering.perform s := by
    rw [rendering, perform_bindCurrent, perform_bindCurrent, hrecord]
    exact perform_inWorld_congr hrecord hnumber hrun
  rw [Step.perform_bind, Step.perform_bind, hrendering]

theorem exists_inSession (s : Scope E) (session : Session) :
    ∃ t : Scope E, t.Meets s.record s.number ⟨session, s.published.heap, s.world.outside⟩ := by
  obtain ⟨r, world, number⟩ := s
  cases number <;> exact ⟨⟨r, { world with session := session }, _⟩, rfl, rfl, rfl⟩

theorem World.eq_mk {σ : Type} {w : World σ} {s : Session} {o : σ} (hs : w.session = s) (ho : w.outside = o) :
    w = ⟨s, w.heap, o⟩ := by
  obtain ⟨session, heap, outside⟩ := w
  cases hs
  cases ho
  rfl

/-- A record of a connection that has a driver finds the connection ready, or cannot write statements. -/
theorem getsReady {s : Scope E} {d : Driver}
    (hd : Entries.get? s.record.connection s.world.session.drivers = some d) :
    (∀ {α : Type} {step : Record.Action E α}, StartsByRendering step →
        ∃ failure t, step.perform s = (.error failure, t)) ∨
      ∃ session t, session.IsReady s.record.connection ∧ s.world.session.SameButDialects session ∧
        t.Meets s.record s.number ⟨session, s.published.heap, s.world.outside⟩ ∧
        ∀ {α : Type} {step : Record.Action E α}, StartsByRendering step → step.perform s = step.perform t := by
  have hworld : s.published = ⟨s.world.session, s.published.heap, s.world.outside⟩ :=
    World.eq_mk s.session_published s.outside_published
  rcases Connection.getsReady_rendering (E := E) hd with ⟨failure, hfails⟩ | ⟨session, hready, hsame, hrun⟩
  · refine .inl fun {α step} hstep => ?_
    obtain ⟨rest, rfl⟩ := hstep
    have hrendering : (rendering : Record.Action E Rendering).perform s =
        (.error failure, s.renewed s.published) := by
      rw [rendering, perform_bindCurrent]
      refine perform_inWorld ?_
      rw [hworld]
      exact hfails _ _
    exact ⟨failure, _, perform_bind_error hrendering⟩
  · obtain ⟨t, ht⟩ := exists_inSession s session
    refine .inr ⟨session, t, hready, hsame, ht, fun {α step} hstep => ?_⟩
    refine (hstep.perform_congr ht.record ht.number ?_).symm
    rw [ht.published, hworld]
    exact (hrun _ _).symm

/-- What a record meets after a call is what it met before it, but for dialects that were made and for items that were
taken from streams. -/
structure Scope.IsAsBefore (s s' : Scope E) : Prop where
  record : s'.record = s.record
  number : s'.number = s.number
  session : s.world.session.SameButDialects s'.world.session
  heap : s.published.heap.Drains s'.published.heap

theorem perform_map_ok {step : Record.Action E α} {f : α → β} {a : α} {t t' : Scope E}
    (h : step.perform t = (.ok a, t')) : (f <$> step).perform t = (.ok (f a), t') := by
  rw [map_eq_pure_bind]
  exact perform_bind_ok h

theorem perform_map_eq_ok {step : Record.Action E α} {f : α → β} {b : β} {t t' : Scope E}
    (h : (f <$> step).perform t = (.ok b, t')) : ∃ a, step.perform t = (.ok a, t') ∧ f a = b := by
  rw [map_eq_pure_bind] at h
  rcases hrun : step.perform t with ⟨failure | a, t''⟩
  · rw [perform_bind_error hrun] at h
    cases h
  · rw [perform_bind_ok hrun] at h
    cases h
    exact ⟨a, rfl, rfl⟩

section

variable {r : Record} {number : Option Nat} {session : Session} {heap : Heap} {o : E.State} {s t t' : Scope E}
  {sql : Sql} {failure : Failure} {w : World E.State}

/-- A read is asked for after it was written and missed in the cache. -/
theorem asked_rows_eq_some (hasked : (asked .rows).perform t = (.ok (some sql), t')) :
    ∃ t₁ place w, compileSelect.perform t = (.ok sql, t₁) ∧
      (Connection.consult t₁.record.connection sql.text sql.params.toValue (.text t₁.record.table)).perform
        t₁.published = (.ok (.missing place), w) ∧ t' = t₁.renewed w := by
  rw [asked] at hasked
  rcases hcompile : (compileSelect : Record.Action E Sql).perform t with ⟨failure | sql', t₁⟩
  · rw [perform_bind_error hcompile] at hasked
    cases hasked
  rw [perform_bind_ok hcompile, perform_bindCurrent] at hasked
  rcases hconsult : (Connection.consult t₁.record.connection sql'.text sql'.params.toValue
      (.text t₁.record.table)).perform t₁.published with ⟨failure | consulted, w⟩
  · rw [perform_bind_error (perform_inWorld hconsult)] at hasked
    cases hasked
  rw [perform_bind_ok (perform_inWorld hconsult)] at hasked
  cases consulted with
  | found rows => cases hasked
  | missing place =>
      cases hasked
      exact ⟨t₁, place, w, rfl, hconsult, rfl⟩

theorem asked_eq_statement {request : Request} (hne : request ≠ .rows) :
    (asked request : Record.Action E (Option Sql)) = statement request := by
  cases request <;> first | rfl | exact absurd rfl hne

/-- What a request asks for is its statement. -/
theorem statement_of_asked {request : Request} (hasked : (asked request).perform s = (.ok (some sql), t)) :
    ∃ t₁, (statement request).perform s = (.ok (some sql), t₁) := by
  by_cases hrows : request = .rows
  · subst hrows
    obtain ⟨t₁, _, _, hcompile, -⟩ := asked_rows_eq_some hasked
    exact ⟨t₁, perform_map_ok hcompile⟩
  · exact ⟨t, asked_eq_statement (E := E) hrows ▸ hasked⟩

/-- A request whose cache finds reads alone is made without a change. -/
theorem looks_asked (hready : session.IsReady r.connection)
    (halone : Connection.FindsAlone r.connection session heap) (request : Request) :
    LooksFrom r number session heap (asked request : Record.Action E (Option Sql)) := by
  by_cases hrows : request = .rows
  · subst hrows
    refine LooksFrom.bind (looks_compileSelect hready heap) fun sql heap' hd => LooksFrom.bindCurrent ?_
    have hconsult := Connection.looks_consult (E := E) (halone.of_drains hd) sql.text sql.params.toValue
      (.text r.table)
    refine LooksFrom.bind (LooksFrom.inWorld hconsult) fun consulted heap'' _ => ?_
    cases consulted <;> exact Looks.pure _ heap''
  · rw [asked_eq_statement hrows]
    exact looks_statement hready request heap

/-! ## Refusals -/

theorem perform_execute_of_refused {d : Driver} (hd : Entries.get? r.connection w.session.drivers = some d)
    {w' : World E.State}
    (hrefused : (Connection.send d sql.text sql.params.toValue).perform w = (.error failure, w')) :
    (Connection.execute r.connection sql.text sql.params.toValue).perform w = (.error failure, w') := by
  rw [Connection.execute, perform_bind_ok (Connection.perform_driver hd)]
  exact perform_bind_error hrefused

/-- A read whose statement is refused fails with the refusal. -/
theorem rows_of_refused {place : Option (CacheRef × Value)} {t₁ : Scope E} {w₁ w : World E.State} {d : Driver}
    (hcompile : compileSelect.perform t = (.ok sql, t₁))
    (hconsult : (Connection.consult t₁.record.connection sql.text sql.params.toValue (.text t₁.record.table)).perform
      t₁.published = (.ok (.missing place), w₁))
    (hd : Entries.get? t₁.record.connection w₁.session.drivers = some d)
    (hrefused : (Connection.send d sql.text sql.params.toValue).perform w₁ = (.error failure, w)) :
    rows.perform t = (.error failure, t₁.renewed w) := by
  have hfresh : (Connection.readFresh t₁.record.connection sql.text sql.params.toValue).perform w₁ =
      (.error failure, w) := perform_bind_error (perform_execute_of_refused hd hrefused)
  have hread : (Connection.read t₁.record.connection sql.text sql.params.toValue (.text t₁.record.table)).perform
      t₁.published = (.error failure, w) := by
    rw [Connection.read_eq, perform_bind_ok hconsult]
    cases place with
    | none => exact hfresh
    | some kept => exact perform_bind_error hfresh
  rw [rows, perform_bind_ok hcompile, perform_bindCurrent, perform_bind_error (perform_inWorld hread)]

/-- A write whose statement is refused fails with the refusal. -/
theorem executeWrite_of_refused {d : Driver}
    (hd : Entries.get? t.record.connection t.published.session.drivers = some d)
    (hrefused : (Connection.send d sql.text sql.params.toValue).perform t.published = (.error failure, w)) :
    (executeWrite sql).perform t = (.error failure, t.renewed w) := by
  rw [executeWrite, perform_bindCurrent]
  exact perform_bind_error (perform_inWorld (perform_execute_of_refused hd hrefused))

/-- A call that reads many rows fails as getting the rows does. -/
theorem perform_of_rows_error {call : Call} (hcall : call.request? = some .rows)
    (hrows : rows.perform s = (.error failure, t)) : (perform call).perform s = (.error failure, t) := by
  have hmany : ∀ {s : Scope E}, rows.perform s = (.error failure, t) →
      findMany.perform s = (.error failure, t) := fun h => perform_bind_error h
  cases call with
  | findArray => exact perform_bind_error hrows
  | findResultSet => exact perform_bind_error (hmany hrows)
  | findMany =>
      -- The option is looked up first, and the record comes back as it was.
      obtain ⟨hrecord, hnumber, hpublished⟩ := Scope.renewed_eq (s := s) (Heap.Drains.refl s.published.heap)
      have hstarts : StartsByRendering (rows : Record.Action E (List Value)) := ⟨_, by
        simp only [rows, compileSelect, bind_assoc]
        rfl⟩
      have hrows' : rows.perform (s.renewed s.published) = (.error failure, t) := by
        rw [← hrows]
        exact hstarts.perform_congr hrecord hnumber (by rw [hpublished])
      obtain ⟨gives, hgives⟩ : ∃ gives, (givesResultSet : Record.Action E Bool).perform s =
          (.ok gives, s.renewed s.published) := ⟨_, rfl⟩
      rw [perform, perform_bind_ok hgives]
      cases gives <;> exact perform_bind_error (hmany hrows')
  | _ => cases hcall

/-- A call that writes fails as sending its statement does. -/
theorem perform_of_executeWrite_error {call : Call} {request : Request} (hcall : call.request? = some request)
    (hne : request ≠ .rows) {t₁ : Scope E} (hstatement : (statement request).perform s = (.ok (some sql), t₁))
    (hwrite : (executeWrite sql).perform t₁ = (.error failure, t)) :
    (perform call).perform s = (.error failure, t) := by
  have hdiscard : (discard <| executeWrite sql : Record.Action E Unit).perform t₁ = (.error failure, t) :=
    perform_bind_error hwrite
  cases call with
  | save =>
      cases hcall
      obtain ⟨pending, hpending, hsql⟩ := perform_map_eq_ok hstatement
      obtain ⟨⟨keyColumns, _⟩, rfl, rfl⟩ := Option.map_eq_some_iff.1 hsql
      have hsave : save.perform s = (.error failure, t) := by
        rw [save_eq, perform_bind_ok hpending]
        exact perform_bind_error hwrite
      exact perform_bind_error hsave
  | delete =>
      cases hcall
      obtain ⟨_, hdeletion, ⟨⟩⟩ := perform_map_eq_ok hstatement
      have hdelete : delete.perform s = (.error failure, t) := by
        rw [delete_eq, perform_bind_ok hdeletion]
        exact hdiscard
      exact perform_bind_error hdelete
  | deleteMany =>
      cases hcall
      obtain ⟨_, hdeletion, ⟨⟩⟩ := perform_map_eq_ok hstatement
      have hdelete : deleteMany.perform s = (.error failure, t) := by
        rw [deleteMany_eq, perform_bind_ok hdeletion]
        exact hdiscard
      exact perform_bind_error hdelete
  | findMany | findResultSet | findArray =>
      cases hcall
      exact absurd rfl hne
  | _ => cases hcall

/-! ## What is left -/

/-- Where the statement of a request is sent, the record is as it was where the statement was written, and so are the
session and the heap up to streams. If it is refused there, the call fails with the refusal. -/
theorem sent_of_asked (hE : E.SeeksOutside) {call : Call} {request : Request} (hcall : call.request? = some request)
    {t₁ : Scope E} (hstatement : (statement request).perform s = (.ok (some sql), t₁))
    (ht₁ : t₁.Meets r number ⟨session, heap, o⟩) {d : Driver}
    (hd : Entries.get? r.connection session.drivers = some d)
    (hasked : (asked request).perform s = (.ok (some sql), t))
    (hrefused : (Connection.send d sql.text sql.params.toValue).perform t.published = (.error failure, w)) :
    w.Shows session heap ∧ (perform call).perform s = (.error failure, t₁.renewed w) := by
  by_cases hrows : request = .rows
  · subst hrows
    obtain ⟨t₂, place, w₁, hcompile, hconsult, rfl⟩ := asked_rows_eq_some hasked
    -- The statement is the one that was compiled.
    obtain rfl : t₁ = t₂ := by
      have hsame := hstatement.symm.trans (perform_map_ok hcompile)
      exact congrArg Prod.snd hsame
    have hconsulted := (Connection.keeps_shows_consult (s := session) (h := heap) hE t₁.record.connection sql.text
      sql.params.toValue (.text t₁.record.table)).leaves (s := t₁.published) (ht₁.published ▸ ⟨rfl, .refl _⟩)
    rw [hconsult] at hconsulted
    rw [(ht₁.renewed hconsulted.heap).published] at hrefused
    have hleft := Connection.shows_of_send_error hrefused
    have hdriver : Entries.get? t₁.record.connection w₁.session.drivers = some d := by
      rw [ht₁.record, hconsulted.session]
      exact hd
    refine ⟨⟨hleft.session.trans hconsulted.session, hconsulted.heap.trans hleft.heap⟩, ?_⟩
    exact perform_of_rows_error hcall (rows_of_refused hcompile hconsult hdriver hrefused)
  · obtain rfl : t₁ = t := by
      rw [asked_eq_statement hrows, hstatement] at hasked
      exact congrArg Prod.snd hasked
    have hleft := Connection.shows_of_send_error hrefused
    have hdriver : Entries.get? t₁.record.connection t₁.published.session.drivers = some d := by
      rw [ht₁.record, ht₁.published]
      exact hd
    rw [ht₁.published] at hleft
    exact ⟨hleft, perform_of_executeWrite_error hcall hrows hstatement (executeWrite_of_refused hdriver hrefused)⟩

end

/-- **A refused statement leaves everything as it was.** A call that reads many rows, saves or deletes writes a
statement, and its driver refuses it: then the call fails with the refusal, and record, cache, log and drivers are as
before. Unless items were taken from streams meanwhile, the same call asks for the same statement again. -/
theorem refused_leaves_all (hE : E.SeeksOutside) {call : Call} {request : Request}
    (hcall : call.request? = some request) {s t : Scope E} {d : Driver} {sql : Sql} {failure : Failure}
    {w : World E.State} (hd : Entries.get? s.record.connection s.world.session.drivers = some d)
    (hasked : (asked request).perform s = (.ok (some sql), t))
    (hrefused : (Connection.send d sql.text sql.params.toValue).perform t.published = (.error failure, w)) :
    ∃ s', (perform call).perform s = (.error failure, s') ∧ s.IsAsBefore s' ∧ s'.published = w ∧
      (w.heap = s.published.heap →
        (∃ t', (statement request).perform s' = (.ok (some sql), t')) ∧
        (Connection.FindsAlone s.record.connection s.world.session s.published.heap →
          ∃ t', (asked request).perform s' = (.ok (some sql), t'))) := by
  rcases getsReady (s := s) hd with hfails | ⟨session, twin, hready, hsame, htwin, hperform⟩
  · obtain ⟨failure', t', hrun⟩ := hfails (startsByRendering_asked request)
    rw [hrun] at hasked
    cases hasked
  -- The statement is written in a session with the dialect; from there on nothing is changed but streams.
  have hwrites : LooksFrom s.record s.number session s.published.heap (statement request : Record.Action E _) :=
    looks_statement hready request _
  obtain ⟨result, heap₁, hd₁, hlooks⟩ := hwrites
  obtain ⟨t₁, hstatement, ht₁⟩ := hlooks _ twin htwin
  rw [← hperform (startsByRendering_statement request)] at hstatement
  obtain ⟨t₁', hwritten⟩ := statement_of_asked hasked
  obtain rfl : result = .ok (some sql) := congrArg Prod.fst (hstatement.symm.trans hwritten)
  rw [← hsame.drivers] at hd
  obtain ⟨hleft, hcalled⟩ := sent_of_asked hE hcall hstatement ht₁ hd hasked hrefused
  have hs' := ht₁.renewed hleft.heap
  refine ⟨t₁.renewed w, hcalled, ⟨hs'.record, hs'.number, ?_, ?_⟩, hs'.published, fun hheap => ?_⟩
  · rw [Scope.world_renewed, hleft.session]
    exact hsame
  · rw [hs'.published]
    exact hd₁.trans hleft.heap
  · have hw : w = ⟨session, s.published.heap, w.outside⟩ := by
      rw [← hleft.session, ← hheap]
    rw [hw] at hs'
    refine ⟨?_, fun halone => ?_⟩
    · obtain ⟨t', hagain, -⟩ := hlooks _ _ hs'
      rw [hw]
      exact ⟨t', hagain⟩
    · have hasked' : LooksFrom s.record s.number session s.published.heap (asked request : Record.Action E _) :=
        looks_asked hready (halone.of_sameButDialects hsame) request
      obtain ⟨result, _, -, hasks⟩ := hasked'
      obtain ⟨t', hfirst, -⟩ := hasks _ _ htwin
      rw [← hperform (startsByRendering_asked request), hasked] at hfirst
      obtain rfl : .ok (some sql) = result := congrArg Prod.fst hfirst
      obtain ⟨t'', hagain, -⟩ := hasks _ _ hs'
      rw [hw]
      exact ⟨t'', hagain⟩

/-- A record with a condition on a connection that caches its reads and has found no dialect yet, on an outside that
refuses every statement. -/
def onRefusingDesk : Scope .refusing where
  record := { onTable "orders" "default" with
    query.wheres := [⟨.text "total > ?", [.int 3]⟩] }
  world :=
    { session :=
        { settings := [("default", { caching := true })]
          drivers := [("default", ⟨.sqlite, ⟨0⟩⟩)] }
      heap := ⟨[.record (onTable "orders" "default")]⟩
      outside := (0 : Nat) }
  number := some 0

theorem refused_leaves_all_onRefusingDesk :
    ∃ sql s' t, (perform .findMany).perform onRefusingDesk = (.error (.database "locked"), s') ∧
      onRefusingDesk.IsAsBefore s' ∧ (asked .rows).perform s' = (.ok (some sql), t) := by
  have hE : Environment.refusing.SeeksOutside := fun _ _ w _ => ⟨w.outside, rfl⟩
  obtain ⟨sql, t, w, hasked, hrefused, hheap⟩ : ∃ sql t w,
      (asked .rows).perform onRefusingDesk = (.ok (some sql), t) ∧
      (Connection.send ⟨.sqlite, ⟨0⟩⟩ sql.text sql.params.toValue).perform t.published =
        (.error (.database "locked"), w) ∧
      w.heap = onRefusingDesk.published.heap := ⟨_, _, _, rfl, rfl, rfl⟩
  have hcall : Call.request? .findMany = some .rows := rfl
  obtain ⟨s', hcalled, hbefore, -, hagain⟩ := refused_leaves_all hE hcall rfl hasked hrefused
  have halone : Connection.FindsAlone "default" onRefusingDesk.world.session onRefusingDesk.published.heap := by
    rintro _ ⟨⟩
    rfl
  obtain ⟨t', hasks⟩ := (hagain hheap).2 halone
  exact ⟨sql, s', t', hcalled, hbefore, hasks⟩

end Record

end FluentSql
