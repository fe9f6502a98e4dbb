import FluentSql.Proofs.Connection.Quiet
import FluentSql.Proofs.Connection.Registering
import FluentSql.Proofs.Database.Machine
/-
# FluentSql.Proofs.Connection.Journal — accepted statements and logged ones.

A journal is what the databases have accepted, statement by statement. A statement that a connection is to execute is a
submission, with the world that it meets; what becomes of it there is decided by the driver alone (`accepted?`).
Executing it adds it to the journal if it is accepted and to the log if, moreover, the connection logs. Nothing else
happens to either, also if the logger fails (`accounts_execute`).
-/

namespace FluentSql

open Step (Keeps Triple perform_bind_ok perform_bind_error)

/-- A statement as it reaches a database: over a link, and with parameters if there are any. -/
structure Sent where
  link : Link
  text : Value
  params : Option Value
  deriving Repr, Inhabited

/-- What the databases outside have accepted so far, in order. A statement is accepted if executing it does not fail. -/
structure Journal (E : Environment) where
  accepted : E.State → List Sent
  connect : ∀ opening s, accepted (E.connect opening s).2 = accepted s
  fetch : ∀ cursor count s, accepted (E.fetch cursor count s).2 = accepted s
  insertId : ∀ link s, accepted (E.insertId link s).2 = accepted s
  executed : ∀ link text params s reply s', E.execute link text params s = (.ok reply, s') →
    accepted s' = accepted s ++ [⟨link, text, params⟩]
  refused : ∀ link text params s failure s', E.execute link text params s = (.error failure, s') →
    accepted s' = accepted s

/-- The functions of the caller may do anything and may fail, but they neither execute statements nor touch the log. -/
def Journal.Undisturbed {E : Environment} (journal : Journal E) : Prop :=
  ∀ log sent hook call,
    Keeps (fun w : World E.State => w.session.log = log ∧ journal.accepted w.outside = sent) (E.call hook call)

/-- Databases that write down what they accept. They accept everything but one statement, and the functions of the caller
always fail. -/
def Environment.jotting : Environment where
  State := List Sent
  digest := id
  connect _ s := (.error .noMember, s)
  execute link text params s :=
    if text.display = "nonsense" then (.error (.database "syntax error"), s)
    else (.ok ⟨0, none, -1, .null⟩, s ++ [⟨link, text, params⟩])
  fetch _ _ s := (.ok [], s)
  insertId _ s := (.ok .null, s)
  call _ _ := throw (.database "hook failed")

/-- What they write down. -/
def Journal.jotting : Journal .jotting where
  accepted := id
  connect _ _ := rfl
  fetch _ _ _ := rfl
  insertId _ _ := rfl
  executed := by
    intro link text params s reply s' h
    unfold Environment.jotting at h
    dsimp only at h
    split at h
    · cases h
    · cases h
      rfl
  refused := by
    intro link text params s failure s' h
    unfold Environment.jotting at h
    dsimp only at h
    split at h
    · cases h
      rfl
    · cases h

theorem Journal.undisturbed_jotting : Journal.jotting.Undisturbed := fun _ _ _ _ => Keeps.throw _

/-! ## Submissions -/

/-- The parameters that a list, a tuple or a mapping stands for. -/
def Heap.paramsOf (h : Heap) (params : Value) : Params :=
  match h.entries? params with
  | some entries => .named entries
  | none => .positional (h.asItems params)

/-- A statement that a connection is to execute, with the world that it meets. -/
structure Submission (E : Environment) where
  connection : String
  sql : Value
  params : Value
  world : World E.State

namespace Submission

variable {E : Environment}

/-- Finds the driver and what it sends. -/
def sending (q : Submission E) : Action E Sent := do
  let driver ← Connection.driver q.connection
  let (text, sent) ← Session.inHeap (Connection.prepare driver.kind q.sql q.params)
  return ⟨driver.link, text, sent⟩

/-- What the database accepts of the submission, unless it is refused or does not come that far. -/
def accepted? (q : Submission E) : Option Sent :=
  match q.sending.perform q.world with
  | (.ok sent, w) => if (E.execute sent.link sent.text sent.params w.outside).1.isOk then some sent else none
  | _ => none

/-- Whether the submission goes into the log: it is accepted while its connection logs. -/
def isLogged (q : Submission E) : Bool :=
  q.accepted?.isSome && (q.world.session.settingsOf q.connection).logging

/-- The statement with the literals of its parameters in place of its placeholders. -/
def text (q : Submission E) : Value :=
  .text (bindForDisplay Value.literal q.sql.display (q.world.heap.settleParams (q.world.heap.paramsOf q.params)))

/-- The statement is a text, and its parameters are a list, a tuple or a mapping. -/
structure IsPlain (q : Submission E) : Prop where
  sql : ∃ s, q.sql = .text s
  params : (∃ items, q.world.heap.content q.params = .list items) ∨
    (∃ items, q.world.heap.content q.params = .tuple items) ∨ ∃ entries, q.world.heap.content q.params = .map entries

/-- Whether the submission is plain, by what its statement and its parameters are. -/
def isPlain (q : Submission E) : Bool :=
  match q.sql, q.world.heap.content q.params with
  | .text _, .list _ | .text _, .tuple _ | .text _, .map _ => true
  | _, _ => false

theorem isPlain_iff (q : Submission E) : q.isPlain = true ↔ q.IsPlain := by
  refine ⟨fun h => ?_, fun h => ?_⟩
  · unfold isPlain at h
    split at h
    · exact ⟨⟨_, ‹_›⟩, .inl ⟨_, ‹_›⟩⟩
    · exact ⟨⟨_, ‹_›⟩, .inr (.inl ⟨_, ‹_›⟩)⟩
    · exact ⟨⟨_, ‹_›⟩, .inr (.inr ⟨_, ‹_›⟩)⟩
    · cases h
  · obtain ⟨⟨s, hs⟩, ⟨items, h⟩ | ⟨items, h⟩ | ⟨entries, h⟩⟩ := h <;> rw [isPlain, hs, h]

instance (q : Submission E) : Decidable q.IsPlain := decidable_of_iff _ q.isPlain_iff

end Submission

/-- The log after some statements were submitted. -/
def QueryLog.after {E : Environment} (qs : List (Submission E)) (log : QueryLog) : QueryLog :=
  (qs.filter Submission.isLogged).foldl (fun log q => log.record q.connection q.text) log

/-- One world comes from another, and the submissions account for all that was accepted and logged on the way. -/
structure Journal.Accounts {E : Environment} (journal : Journal E) (w : World E.State) (qs : List (Submission E))
    (w' : World E.State) : Prop where
  log : w'.session.log = w.session.log.after qs
  accepted : journal.accepted w'.outside = journal.accepted w.outside ++ qs.filterMap Submission.accepted?

namespace Journal.Accounts

variable {E : Environment} {journal : Journal E} {w w' w'' : World E.State} {qs qs' : List (Submission E)}

theorem refl (w : World E.State) : journal.Accounts w [] w := ⟨rfl, (List.append_nil _).symm⟩

theorem trans (h : journal.Accounts w qs w') (h' : journal.Accounts w' qs' w'') :
    journal.Accounts w (qs ++ qs') w'' where
  log := by rw [h'.log, h.log, QueryLog.after, QueryLog.after, QueryLog.after, List.filter_append, List.foldl_append]
  accepted := by rw [h'.accepted, h.accepted, List.filterMap_append, List.append_assoc]

/-- What is neither accepted nor logged leaves no trace. -/
theorem of_accepted?_eq_none {q : Submission E} (hnone : q.accepted? = none) (h : journal.Accounts w [] w') :
    journal.Accounts w [q] w' where
  log := by
    have hlogged : q.isLogged = false := by rw [Submission.isLogged, hnone, Option.isSome_none, Bool.false_and]
    rw [h.log, QueryLog.after, QueryLog.after, List.filter_cons_of_neg (by rw [hlogged]; decide)]
  accepted := by rw [h.accepted, List.filterMap_cons_none hnone]

end Journal.Accounts

/-- Accounts speak of logs and journals only. -/
theorem Journal.isQuiet_accounts {E : Environment} {journal : Journal E} (hundisturbed : journal.Undisturbed)
    (w : World E.State) (qs : List (Submission E)) : Connection.IsQuiet (journal.Accounts w qs) where
  heap _ h := ⟨h.log, h.accepted⟩
  session hs h := ⟨hs.trans h.log, h.accepted⟩
  connect opening _ h := ⟨h.log, (journal.connect opening _).trans h.accepted⟩
  fetch cursor count _ h := ⟨h.log, (journal.fetch cursor count _).trans h.accepted⟩
  insertId link _ h := ⟨h.log, (journal.insertId link _).trans h.accepted⟩
  call hook call := by
    have hkeeps := hundisturbed (w.session.log.after qs)
      (journal.accepted w.outside ++ qs.filterMap Submission.accepted?) hook call
    refine hkeeps.consequence (fun _ h => ⟨h.log, h.accepted⟩) ?_ ?_
    · exact fun _ _ h => ⟨h.1, h.2⟩
    · exact fun _ h => ⟨h.1, h.2⟩

/-! ## Plain statements -/

namespace Submission.IsPlain

variable {E : Environment} {q : Submission E} (hq : q.IsPlain)
include hq

theorem perform_params : (Heap.params q.params).perform q.world.heap =
    (.ok (q.world.heap.paramsOf q.params), q.world.heap) := by
  rw [Heap.params, perform_bind_ok (rfl : (get : Step Heap Heap).perform q.world.heap = _), Heap.paramsOf]
  have hitems : ∀ items, q.world.heap.content q.params = .list items ∨ q.world.heap.content q.params = .tuple items →
      (Heap.items q.params).perform q.world.heap = (.ok items, q.world.heap) := by
    intro items hitems
    have hall : q.world.heap.items? q.params = .ok items := by
      rcases hitems with h | h <;> (rw [Heap.items?, h]; rfl)
    have hskip : (Heap.skip q.params items.length).perform q.world.heap = (.ok (), q.world.heap) := by
      refine Heap.perform_skip_of_content_ne_stream (fun rest hrest => ?_) _
      rcases hitems with h | h <;> (rw [h] at hrest; cases hrest)
    rw [Heap.items, perform_bind_ok (rfl : (get : Step Heap Heap).perform q.world.heap = _), hall]
    exact perform_bind_ok hskip
  rcases hq.params with ⟨items, h⟩ | ⟨items, h⟩ | ⟨entries, h⟩
  · have hnone : q.world.heap.entries? q.params = none := by rw [Heap.entries?, h]
    rw [hnone, Heap.asItems, h]
    exact perform_bind_ok (hitems items (.inl h))
  · have hnone : q.world.heap.entries? q.params = none := by rw [Heap.entries?, h]
    rw [hnone, Heap.asItems, h]
    exact perform_bind_ok (hitems items (.inr h))
  · have hsome : q.world.heap.entries? q.params = some entries := by rw [Heap.entries?, h]
    rw [hsome]
    rfl

/-- Such a statement is prepared for its driver without a change. -/
theorem exists_prepared (kind : DriverKind) : ∃ sent,
    (Connection.prepare kind q.sql q.params).perform q.world.heap = (.ok sent, q.world.heap) := by
  obtain ⟨s, hs⟩ := hq.sql
  cases kind with
  | native name => exact ⟨_, rfl⟩
  | sqlite =>
      rw [Connection.prepare, perform_bind_ok hq.perform_params]
      cases q.world.heap.paramsOf q.params <;> exact ⟨_, rfl⟩
  | toolkit name style =>
      rw [Connection.prepare, Connection.adapt, perform_bind_ok hq.perform_params]
      rcases q.world.heap.paramsOf q.params with (_ | ⟨v, values⟩) | entries
      · exact ⟨_, rfl⟩
      · refine ⟨(.text (Connection.restyled (ParamStyle.ofName style) s),
          some ((ParamStyle.ofName style).bound (v :: values))), ?_⟩
        rw [hs]
        exact perform_bind_ok (Connection.perform_restyle _ s _)
      · exact ⟨_, rfl⟩

theorem perform_forDisplay : (Connection.forDisplay q.sql q.params).perform q.world.heap =
    (.ok q.text, q.world.heap) := by
  obtain ⟨s, hs⟩ := hq.sql
  rw [Connection.forDisplay, perform_bind_ok hq.perform_params, text, hs]
  rcases q.world.heap.paramsOf q.params with (_ | ⟨v, values⟩) | entries <;> rfl

end Submission.IsPlain

/-! ## Executing a submission -/

namespace Connection

open Session (change inHeap outside callHook)

variable {E : Environment}

theorem logging_registered (other connection : String) (d : Driver) (s : Session) :
    ((s.registered other d).settingsOf connection).logging = (s.settingsOf connection).logging := by
  rw [Session.registered]
  split
  · by_cases hc : connection = other
    · subst hc
      rw [Session.settingsOf_withSettings_self]
      rfl
    · rw [Session.settingsOf_withSettings_of_ne hc]
      rfl
  · rfl

/-- A driver that is found is registered. Looking for it leaves the heap as it is, and what is logged. -/
theorem triple_driver_found {connection : String} {w : World E.State} :
    Triple (· = w) (driver connection : Action E Driver)
      (fun d w' => w'.heap = w.heap ∧ Entries.get? connection w'.session.drivers = some d ∧
        (w'.session.settingsOf connection).logging = (w.session.settingsOf connection).logging)
      fun _ => True := by
  refine Session.triple_bindCurrent ?_
  rintro w rfl
  split
  · rename_i d hd
    refine Triple.pure ?_
    rintro _ rfl
    exact ⟨rfl, hd, rfl⟩
  · refine triple_bindSettings ?_
    rintro w rfl
    refine Triple.bind (R := fun _ w' => w'.heap = w.heap ∧ w'.session = w.session)
      (Session.triple_outside ?_ fun _ _ _ _ _ => trivial) fun opened => ?_
    · rintro _ _ _ rfl -
      exact ⟨rfl, rfl⟩
    · intro w' hw'
      have hleaves := leaves_registerDriver (E := E) connection
        ((Opening.ofString (w.session.settingsOf connection).connectionString).driver opened) w'
      rw [Step.perform_bind]
      rcases hrun : (registerDriver connection _ : Action E Unit).perform w' with ⟨failure | u, w''⟩
      · trivial
      · rw [hrun] at hleaves
        obtain rfl : w'' = _ := hleaves
        refine ⟨hw'.1, ?_, ?_⟩
        · rw [Session.drivers_registered, Entries.get?_put_self]
        · rw [logging_registered, hw'.2]

variable {journal : Journal E} {q : Submission E} {sent : Sent}

/-- The database has accepted the submission, and nobody has logged it yet. -/
structure IsTaken (journal : Journal E) (q : Submission E) (sent : Sent) (w : World E.State) : Prop where
  log : w.session.log = q.world.session.log
  accepted : journal.accepted w.outside = journal.accepted q.world.outside ++ [sent]
  heap : w.heap = q.world.heap
  driver : ∃ d, Entries.get? q.connection w.session.drivers = some d
  logging : (w.session.settingsOf q.connection).logging = (q.world.session.settingsOf q.connection).logging

theorem IsTaken.accounts {w : World E.State} (hw : IsTaken journal q sent w) (hsent : q.accepted? = some sent)
    {s : Session} (hs : s.log = if q.isLogged then w.session.log.record q.connection q.text else w.session.log) :
    journal.Accounts q.world [q] { w with session := s } where
  log := by
    rw [hs, hw.log, QueryLog.after]
    cases hlogged : q.isLogged with
    | true =>
        rw [List.filter_cons_of_pos hlogged]
        rfl
    | false =>
        rw [List.filter_cons_of_neg (by rw [hlogged]; decide)]
        rfl
  accepted := by rw [hw.accepted, List.filterMap_cons_some hsent, List.filterMap_nil]

/-- An accepted statement is logged if its connection logs, also if the logger fails. -/
theorem accounts_logQuery (hundisturbed : journal.Undisturbed) (hq : q.IsPlain) (hsent : q.accepted? = some sent) :
    Triple (IsTaken journal q sent) (logQuery q.connection q.sql q.params)
      (fun _ => journal.Accounts q.world [q]) (journal.Accounts q.world [q]) := by
  refine triple_bindSettings fun w hw => ?_
  have hlogged : q.isLogged = (w.session.settingsOf q.connection).logging := by
    rw [Submission.isLogged, hsent, Option.isSome_some, Bool.true_and, hw.logging]
  split
  · rename_i hlogging
    obtain ⟨d, hd⟩ := hw.driver
    intro w' hw'
    subst w'
    have hdisplay := hq.perform_forDisplay
    rw [← hw.heap] at hdisplay
    have hfound : (discard (driver q.connection) : Action E Unit).perform _ = (.ok (), _) :=
      perform_bind_ok (perform_driver hd)
    rw [perform_bind_ok hfound, perform_bind_ok (Session.perform_inHeap hdisplay), perform_bindChange]
    have hrecorded : journal.Accounts q.world [q]
        { w with session := { w.session with log := w.session.log.record q.connection q.text } } := by
      refine hw.accounts hsent ?_
      rw [hlogged, hlogging]
      rfl
    cases (w.session.settingsOf q.connection).logger with
    | none => exact hrecorded
    | some hook =>
        -- The entry is there, whatever the logger does.
        have hcall := (Journal.isQuiet_accounts hundisturbed q.world [q]).call
        exact Keeps.bind (hcall _ _) (fun _ => Keeps.pure _) _ hrecorded
  · rename_i hlogging
    refine Triple.pure fun w' hw' => ?_
    subst w'
    refine hw.accounts hsent (s := w.session) ?_
    rw [hlogged, if_neg hlogging]

/-- The session may remember more of an accepted statement. -/
theorem IsTaken.remembering {w : World E.State} (hw : IsTaken journal q sent w) {s : Session}
    (hlog : s.log = w.session.log) (hdrivers : s.drivers = w.session.drivers)
    (hsettings : s.settings = w.session.settings) : IsTaken journal q sent { w with session := s } where
  log := hlog.trans hw.log
  accepted := hw.accepted
  heap := hw.heap
  driver := by
    rw [hdrivers]
    exact hw.driver
  logging := by
    rw [← hw.logging, Session.settingsOf, hsettings]
    rfl

/-- A submission that its driver sends is taken, or leaves no trace. -/
theorem triple_send_opened (hundisturbed : journal.Undisturbed) (hq : q.IsPlain) {d : Driver} {w : World E.State}
    (hopened : (driver q.connection : Action E Driver).perform q.world = (.ok d, w)) :
    Triple (· = w) (send d q.sql q.params)
      (fun _ w' => ∃ sent, q.accepted? = some sent ∧ IsTaken journal q sent w')
      (journal.Accounts q.world [q]) := by
  have hquiet := Journal.isQuiet_accounts hundisturbed q.world []
  have haccounts := (hquiet.ignoresDrivers.keeps_driver q.connection).of_ok (.refl q.world) hopened
  obtain ⟨hheap, hd, hlogging⟩ := (triple_driver_found (E := E)).of_ok rfl hopened
  obtain ⟨⟨text, params⟩, hprepared⟩ := hq.exists_prepared d.kind
  rw [← hheap] at hprepared
  have hsending : q.sending.perform q.world = (.ok ⟨d.link, text, params⟩, w) := by
    rw [Submission.sending, perform_bind_ok hopened, perform_bind_ok (Session.perform_inHeap hprepared)]
    rfl
  intro w' hw'
  subst w'
  rw [send, perform_bind_ok (Session.perform_inHeap hprepared)]
  dsimp only
  rcases hexecute : E.execute d.link text params w.outside with ⟨failure | reply, o⟩
  · rw [perform_bind_error (Session.perform_outside hexecute)]
    refine Journal.Accounts.of_accepted?_eq_none ?_ ⟨haccounts.log, ?_⟩
    · rw [Submission.accepted?, hsending]
      dsimp only
      rw [hexecute]
      rfl
    · rw [journal.refused _ _ _ _ _ _ hexecute]
      exact haccounts.accepted
  · have hsent : q.accepted? = some ⟨d.link, text, params⟩ := by
      rw [Submission.accepted?, hsending]
      dsimp only
      rw [hexecute]
      rfl
    rw [perform_bind_ok (Session.perform_outside hexecute)]
    have htaken : IsTaken journal q ⟨d.link, text, params⟩ { w with heap := w.heap, outside := o } := by
      refine ⟨haccounts.log, ?_, hheap, ⟨d, hd⟩, hlogging⟩
      rw [journal.executed _ _ _ _ _ _ hexecute, haccounts.accepted, List.filterMap_nil, List.append_nil]
    generalize d.kind = kind
    cases kind with
    | native name => exact ⟨_, hsent, htaken⟩
    | _ => exact ⟨_, hsent, htaken.remembering rfl rfl rfl⟩

/-- **Executing a statement accounts for itself**: it is in the journal if its driver accepted it, in the log if its
connection logs as well, and nothing else is. -/
theorem accounts_execute (hundisturbed : journal.Undisturbed) (hq : q.IsPlain) :
    Triple (· = q.world) (execute q.connection q.sql q.params)
      (fun _ => journal.Accounts q.world [q]) (journal.Accounts q.world [q]) := by
  rintro _ rfl
  rw [execute]
  rcases hrun : (driver q.connection : Action E Driver).perform q.world with ⟨failure | d, w⟩
  · have hquiet := Journal.isQuiet_accounts hundisturbed q.world []
    rw [perform_bind_error hrun]
    refine Journal.Accounts.of_accepted?_eq_none ?_ ?_
    · rw [Submission.accepted?, Submission.sending, perform_bind_error hrun]
    · exact (hquiet.ignoresDrivers.keeps_driver q.connection).of_error (.refl q.world) hrun
  · rw [perform_bind_ok hrun]
    refine Triple.bind (triple_send_opened hundisturbed hq hrun) (fun statement => ?_) w rfl
    rintro w' ⟨sent, hsent, hw'⟩
    refine Triple.bind (R := fun _ => IsTaken journal q sent)
      (Session.triple_change fun _ hw => hw.remembering rfl rfl rfl) (fun _ => ?_) w' hw'
    exact Triple.bind (accounts_logQuery hundisturbed hq hsent) fun _ => Triple.pure fun _ h => h

end Connection

end FluentSql
