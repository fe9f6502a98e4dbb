import FluentSql.Proofs.Connection.Apart
import FluentSql.Proofs.Operation.Pairing
/-
# FluentSql.Proofs.Operation.Isolation — connections do not interfere.

All connections share one session: their settings, drivers and logs are in the same tables, and their reads in one
store. Still, of everything that is asked of several connections in any order, what is asked of the others can be
left out, and nothing that can be seen of a connection is different (`System.others_can_be_left_out`). Each
connection has a place of its own for what the session does not hold: its databases and the functions of the caller,
and the values and records that are used with it. A value that is used with several connections is in the place of
each of them.

Every operation of a connection is made of actions that are apart from the other connections (`isApart_perform`). The
theorem about runs follows by induction on what is asked for.
-/

namespace FluentSql

open Step (Keeps Triple Mirrors)

variable {E : Environment} {owner : Link → String} {connection : String}

/-! ## Options -/

namespace Connection

variable (hE : E.BelongsTo owner connection)
include hE

theorem isApart_configureOne (key value : Value) :
    IsApart owner connection Eq (configureOne connection key value : Action E Unit) := by
  intro numbers s₀ s₀'
  have hI := isPairing_isBeside hE s₀ s₀'
  refine hI.mirrors_bindNamed key fun hsetting _ => ?_
  refine Mirrors.bindEq (hI.mirrors_examined hsetting value) fun given => ?_
  refine Mirrors.bindEq (isApart_settings numbers s₀ s₀') fun settings => ?_
  split
  · exact (IsCommon.mirrors_change fun _ _ hw => hw.change (Session.changesOnly_withSettings _)).mono fun _ _ _ => rfl
  · exact Mirrors.throw _

theorem isApart_configure (key : Value) (value : Option Value) :
    IsApart owner connection Eq (configure connection key value : Action E Unit) := by
  intro numbers s₀ s₀'
  refine Mirrors.bindGet fun w w' hw => ?_
  rw [← hw.heap.1]
  split
  · refine (Mirrors.forM_same fun e _ => ?_).mono fun _ _ _ => rfl
    exact (isApart_configureOne hE e.1 e.2 numbers s₀ s₀').mono fun _ _ _ => trivial
  · exact isApart_configureOne hE _ _ numbers s₀ s₀'
  · exact isApart_configureOne hE _ _ numbers s₀ s₀'

theorem isApart_setting (key : Value) :
    IsApart owner connection Eq (setting connection key : Action E Value) := by
  intro numbers s₀ s₀'
  have hI := isPairing_isBeside hE s₀ s₀'
  refine hI.mirrors_bindNamed key fun _ _ => ?_
  refine Mirrors.bindEq (isApart_settings numbers s₀ s₀') fun settings => ?_
  refine Mirrors.bindEq (hI.mirrors_inHeap fun _ => Heap.keeps_suits_share _) fun value => ?_
  exact Mirrors.bind (IsCommon.mirrors_change fun _ _ hw => hw.change (Session.changesOnly_withSettings _)) fun _ _ _ =>
    Mirrors.pure rfl

theorem isApart_allSettings : IsApart owner connection Eq (allSettings connection : Action E Value) := by
  intro numbers s₀ s₀'
  have hI := isPairing_isBeside hE s₀ s₀'
  refine Mirrors.bindEq (isApart_settings numbers s₀ s₀') fun settings => ?_
  let copyIn (h : Heap) (setting : Setting) : Action E (String × Value) := do
    return (setting.name, ← h.copy? (shown (setting.read settings)))
  refine hI.mirrors_bindHeap (f := fun h => do return .ofNamed (← Setting.all.mapM (copyIn h)))
    (fun _ => rfl) fun heap _ => ?_
  have hcopies : Mirrors (World.IsBeside owner connection numbers s₀ s₀') Eq (Setting.all.mapM (copyIn heap))
      (Setting.all.mapM (copyIn heap)) := by
    refine Mirrors.mapM_same fun setting _ => ?_
    exact Mirrors.bindEq (Mirrors.lift (heap.copy? (shown (setting.read settings))) fun _ _ => rfl)
      fun copy => Mirrors.pure (a := (setting.name, copy)) rfl
  exact Mirrors.bindEq hcopies fun copies => Mirrors.pure (a := Value.ofNamed copies) rfl

omit hE in
theorem isApart_forgetDriver :
    IsApart owner connection Eq (forgetDriver connection : Action E Unit) := by
  intro numbers s₀ s₀'
  exact (IsCommon.mirrors_change fun _ _ hw => hw.change Session.changesOnly_withoutDriver).mono fun _ _ _ => rfl

/-- Worlds that agree on a connection are a pairing in which everything is done alike. -/
theorem isFullPairing_isBeside (s₀ s₀' : Session) :
    IsFullPairing connection (fun d => owner d.link = connection)
      (fun numbers (w w' : World E.State) => World.IsBeside owner connection numbers s₀ s₀' w w') where
  toIsPairing := isPairing_isBeside hE s₀ s₀'
  reads sql params table := isApart_read hE sql params table _ s₀ s₀'
  clears table := isApart_clearCache hE table _ s₀ s₀'
  forgets := isApart_forgetDriver _ s₀ s₀'
  sameLog h := h.agrees.log

end Connection

/-! ## Operations -/

namespace Operation

/-- An operation registers a driver of the connection only. -/
def IsOwn (owner : Link → String) (connection : String) : Operation → Prop
  | .setDriver (some d) => owner d.link = connection
  | _ => True

open Connection in
/-- **Whatever is asked of a connection is apart from the others.** -/
theorem isApart_perform (hE : E.BelongsTo owner connection) {operation : Operation}
    (hown : operation.IsOwn owner connection) :
    IsApart owner connection Eq (operation.perform connection : Action E Answer) := by
  intro numbers s₀ s₀'
  refine mirrors_perform (isFullPairing_isBeside hE s₀ s₀') (fun d hd => by subst hd; exact hown) fun hoptions => ?_
  match operation, hoptions with
  | .configure key value, _ =>
      exact Mirrors.bindEq (isApart_configure hE key value numbers s₀ s₀') fun _ => Mirrors.pure rfl
  | .setting key, _ => exact Mirrors.bindEq (isApart_setting hE key numbers s₀ s₀') fun _ => Mirrors.pure rfl
  | .allSettings, _ => exact Mirrors.bindEq (isApart_allSettings hE numbers s₀ s₀') fun _ => Mirrors.pure rfl

end Operation

/-! ## Runs over many connections -/

/-- What belongs to a connection besides its part of the session: the values and records that are used with it,
and its databases and the functions of the caller. -/
structure Place (E : Environment) where
  heap : Heap := {}
  outside : E.State

/-- A session with the places of all connections. -/
structure System (E : String → Environment) where
  session : Session := {}
  place : (connection : String) → Place (E connection)

namespace System

variable {E : String → Environment}

/-- The world of a connection. -/
def world (connection : String) (y : System E) : World (E connection).State where
  session := y.session
  heap := (y.place connection).heap
  outside := (y.place connection).outside

/-- The system with another world of a connection. -/
def withWorld (connection : String) (w : World (E connection).State) (y : System E) : System E where
  session := w.session
  place := Function.update y.place connection ⟨w.heap, w.outside⟩

/-- Asks something of a connection. -/
def ask (connection : String) (operation : Operation) (y : System E) :
    Except Failure Operation.Answer × System E :=
  let done := (operation.perform connection : Action (E connection) Operation.Answer).perform (y.world connection)
  (done.1, y.withWorld connection done.2)

/-- Asks one thing after the other, whether it fails or not. The results come with their connections. -/
def run : List (String × Operation) → System E → List (String × Except Failure Operation.Answer) × System E
  | [], y => ([], y)
  | (connection, operation) :: rest, y =>
    let done := y.ask connection operation
    let later := run rest done.2
    ((connection, done.1) :: later.1, later.2)

/-- Every connection has links and reads of its own, and nobody looks at the store of all connections. -/
structure IsDivided (owner : Link → String) (y : System E) : Prop where
  session : y.session.IsDivided owner
  noCache : ∀ connection id cache, (y.place connection).heap.cell? id ≠ some (.cache cache)

/-- Nothing that can be seen of the connection tells the systems apart: its values, records, databases and
functions, its settings, its driver, its cached reads and its log. -/
structure LooksAlike (connection : String) (y y' : System E) : Prop where
  place : y.place connection = y'.place connection
  settings : y.session.settingsOf connection = y'.session.settingsOf connection
  driver : Entries.get? connection y.session.drivers = Entries.get? connection y'.session.drivers
  cached : ∀ key, y.session.memory.get? key (.text connection) = y'.session.memory.get? key (.text connection)
  log : y.session.log.of connection = y'.session.log.of connection

/-- The systems hold the same for the connection. -/
structure AgreesOn (owner : Link → String) (connection : String) (y y' : System E) : Prop where
  place : y.place connection = y'.place connection
  session : y.session.AgreesOn owner connection y'.session

variable {y y' y'' : System E} {operation : Operation}

@[simp] theorem place_withWorld_self (w : World (E connection).State) :
    (y.withWorld connection w).place connection = ⟨w.heap, w.outside⟩ := Function.update_self _ _ _

theorem place_withWorld_of_ne {other : String} (hne : other ≠ connection) (w : World (E connection).State) :
    (y.withWorld connection w).place other = y.place other := Function.update_of_ne hne _ _

/-! ## One step -/

theorem AgreesOn.refl (y : System E) : y.AgreesOn owner connection y := ⟨rfl, .refl _⟩

theorem AgreesOn.trans (h : y.AgreesOn owner connection y') (h' : y'.AgreesOn owner connection y'') :
    y.AgreesOn owner connection y'' := ⟨h.place.trans h'.place, h.session.trans h'.session⟩

theorem AgreesOn.symm (h : y.AgreesOn owner connection y') : y'.AgreesOn owner connection y :=
  ⟨h.place.symm, h.session.symm⟩

theorem AgreesOn.looksAlike (h : y.AgreesOn owner connection y') : y.LooksAlike connection y' where
  place := h.place
  settings := h.session.settings
  driver := h.session.driver
  cached key := by rw [Cache.Store.get?, Cache.Store.get?, h.session.shelf]
  log := h.session.log

/-- Two systems that agree on a connection before it is asked for something. -/
theorem AgreesOn.isBeside (h : y.AgreesOn owner connection y') (hy : y.IsDivided owner)
    (hy' : y'.IsDivided owner) :
    World.IsBeside owner connection ∅ y.session y'.session (y.world connection) (y'.world connection) where
  agrees := h.session
  outside := congrArg Place.outside h.place
  heap := ⟨congrArg Place.heap h.place, hy.noCache connection, nofun⟩
  divided := hy.session
  divided' := hy'.session
  spares _ _ := .refl _
  spares' _ _ := .refl _

/-- A system is still divided after a connection did something. -/
theorem IsDivided.withWorld (hy : y.IsDivided owner) {w : World (E connection).State}
    (hw : w.session.IsDivided owner) (hheap : w.heap.Suits connection ∅) :
    (y.withWorld connection w).IsDivided owner := by
  refine ⟨hw, fun other id cache => ?_⟩
  by_cases hother : other = connection
  · subst hother
    rw [place_withWorld_self]
    exact hheap.noCache id cache
  · rw [place_withWorld_of_ne hother]
    exact hy.noCache other id cache

section

variable (hE : ∀ connection, (E connection).BelongsTo owner connection)
include hE

/-- **Systems that agree on a connection give the same result when it is asked, and agree on it afterwards.** -/
theorem AgreesOn.ask (h : y.AgreesOn owner connection y') (hy : y.IsDivided owner) (hy' : y'.IsDivided owner)
    (hown : operation.IsOwn owner connection) :
    (y.ask connection operation).1 = (y'.ask connection operation).1 ∧
      (y.ask connection operation).2.AgreesOn owner connection (y'.ask connection operation).2 ∧
      (y'.ask connection operation).2.IsDivided owner := by
  have hends := Operation.isApart_perform (hE connection) hown ∅ _ _ _ _ (h.isBeside hy hy')
  obtain ⟨hresult, hbeside⟩ := hends.same
  refine ⟨hresult, ⟨?_, hbeside.agrees⟩, hy'.withWorld hbeside.divided' (hbeside.heap.1 ▸ hbeside.heap.2)⟩
  unfold System.ask
  rw [place_withWorld_self, place_withWorld_self, hbeside.heap.1, hbeside.outside]

/-- **What another connection is asked for leaves a connection as it was.** -/
theorem agreesOn_ask_of_ne (hy : y.IsDivided owner) {other : String} (hne : other ≠ connection)
    (hown : operation.IsOwn owner other) :
    y.AgreesOn owner connection (y.ask other operation).2 ∧ (y.ask other operation).2.IsDivided owner := by
  have hrefl : y.AgreesOn owner other y := .refl y
  have hends := Operation.isApart_perform (hE other) hown ∅ _ _ _ _ (hrefl.isBeside hy hy)
  obtain ⟨-, hbeside⟩ := hends.same
  refine ⟨⟨?_, hbeside.spares connection hne.symm⟩, hy.withWorld hbeside.divided hbeside.heap.2⟩
  exact (place_withWorld_of_ne hne.symm _).symm

/-! ## Runs -/

/-- The induction is on what is asked for: a step of the connection is made in both systems, a step of another one
only in the first. -/
theorem AgreesOn.run (asked : List (String × Operation)) (hown : ∀ q ∈ asked, q.2.IsOwn owner q.1) :
    ∀ {y y' : System E}, y.AgreesOn owner connection y' → y.IsDivided owner → y'.IsDivided owner →
      (y.run asked).1.filter (·.1 = connection) = (y'.run (asked.filter (·.1 = connection))).1 ∧
        (y.run asked).2.AgreesOn owner connection (y'.run (asked.filter (·.1 = connection))).2 := by
  induction asked with
  | nil => exact fun h _ _ => ⟨rfl, h⟩
  | cons q asked ih =>
      intro y y' h hy hy'
      obtain ⟨hfirst, hrest⟩ := List.forall_mem_cons.1 hown
      by_cases hq : q.1 = connection
      · obtain ⟨other, operation⟩ := q
        subst hq
        obtain ⟨hresult, hafter, hdivided'⟩ := h.ask hE hy hy' hfirst
        have hdivided := (AgreesOn.ask hE h.symm hy' hy hfirst).2.2
        obtain ⟨hlater, hend⟩ := ih hrest hafter hdivided hdivided'
        simp only [List.filter_cons, decide_true, if_true, System.run, hlater, hresult]
        exact ⟨trivial, hend⟩
      · obtain ⟨hstays, hdivided⟩ := agreesOn_ask_of_ne hE hy hq hfirst
        obtain ⟨hlater, hend⟩ := ih hrest (hstays.symm.trans h) hdivided hy'
        simp only [List.filter_cons, hq, decide_false, Bool.false_eq_true, if_false, System.run]
        exact ⟨hlater, hend⟩

/-- **Connections do not interfere: without everything that is asked of the others, a connection gives the same
results, and nothing that can be seen of it is different.** -/
theorem others_can_be_left_out {y : System E} (hy : y.IsDivided owner) {asked : List (String × Operation)}
    (hown : ∀ q ∈ asked, q.2.IsOwn owner q.1) (connection : String) :
    (y.run asked).1.filter (·.1 = connection) = (y.run (asked.filter (·.1 = connection))).1 ∧
      (y.run asked).2.LooksAlike connection (y.run (asked.filter (·.1 = connection))).2 := by
  obtain ⟨hresults, hagrees⟩ := AgreesOn.run hE asked hown (AgreesOn.refl y) hy hy
  exact ⟨hresults, hagrees.looksAlike⟩

end

/-- The databases of every connection write down what they receive. -/
def recording (_connection : String) : Environment where
  State := List Value
  digest := id
  connect _ s := (.error .noMember, s)
  execute _ sql _ s := (.ok ⟨0, none, -1, .null⟩, s ++ [sql])
  fetch _ _ s := (.ok [], s)
  insertId _ s := (.ok .null, s)
  call _ _ := pure .null

/-- The first link belongs to one connection, all others to another one. -/
def ownerOfTwo (link : Link) : String := if link.id = 1 then "first" else "second"

/-- A new session, with nothing anywhere. -/
def twoNew : System recording := { place := fun _ => { outside := [] } }

/-- Two connections are used in turns. -/
def inTurns : List (String × Operation) :=
  [("first", .setDriver (some ⟨.native "mysql", ⟨1⟩⟩)), ("second", .setDriver (some ⟨.native "pgsql", ⟨2⟩⟩)),
    ("second", .configure (.text "logging") (some (.bool true))), ("first", .execute (.text "A") .null),
    ("second", .execute (.text "B") .null), ("second", .clearCache .null), ("first", .queryLog)]

/-- The databases of the first connection receive one statement, and it logs nothing. -/
theorem others_can_be_left_out_inTurns :
    ((twoNew.run inTurns).2.place "first").outside = [.text "A"] ∧
      (twoNew.run inTurns).2.session.log.of "first" = [] := by
  have hbelongs : ∀ connection, (recording connection).BelongsTo ownerOfTwo connection := fun connection =>
    ⟨fun hrun => (by cases hrun), fun _ _ _ _ _ => Mirrors.pure rfl⟩
  have hdivided : twoNew.IsDivided ownerOfTwo :=
    ⟨⟨.nil, .nil, .nil, fun _ _ hd => (by cases hd), rfl⟩, fun _ _ _ hcell => (by cases hcell)⟩
  have hown : ∀ q ∈ inTurns, q.2.IsOwn ownerOfTwo q.1 := by
    simp [inTurns, Operation.IsOwn, ownerOfTwo]
  obtain ⟨-, halike⟩ := others_can_be_left_out hbelongs hdivided hown "first"
  rw [halike.place, halike.log]
  exact ⟨rfl, rfl⟩

end System

end FluentSql
