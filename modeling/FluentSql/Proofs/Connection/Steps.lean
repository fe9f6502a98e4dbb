import FluentSql.Connection.Reads
import FluentSql.Record.Row
import FluentSql.Proofs.Heap.Drains
import FluentSql.Proofs.Session.Action
/-
# FluentSql.Proofs.Connection.Steps — what connections do, step by step.

Whatever a connection does is put together from a few steps: looking at the session, going through values in the heap,
changing a part of the session, asking what lies outside, and calling a function of the caller. A property of worlds that
the steps of an operation keep is kept by the operation. There is one rule for each operation, whose premises are the
steps that may break the property. Finding out how statements are written breaks none that has nothing to do with drivers
(`IgnoresDrivers`), and going through values none that has nothing to do with streams (`IgnoresStreams`).
-/

namespace FluentSql

open Step (Keeps Triple)

/-- The sessions differ at most in drivers, in dialects, and in settings. -/
def Session.SameButDrivers (s s' : Session) : Prop :=
  ∃ drivers dialects count settings,
    s' = { s with drivers := drivers, dialects := dialects, dialectCount := count, settings := settings }

theorem Session.SameButDrivers.refl (s : Session) : s.SameButDrivers s := ⟨_, _, _, _, rfl⟩

theorem Session.SameButDrivers.trans {s s' s'' : Session} (h : s.SameButDrivers s') (h' : s'.SameButDrivers s'') :
    s.SameButDrivers s'' := by
  obtain ⟨_, _, _, _, rfl⟩ := h
  obtain ⟨_, _, _, _, rfl⟩ := h'
  exact ⟨_, _, _, _, rfl⟩

variable {E : Environment} {α : Type} {J : World E.State → Prop}

/-! ## Looking -/

namespace Session

/-- Looking at the session breaks nothing. -/
theorem keeps_current : Keeps J (current : Action E Session) := Keeps.bind Keeps.get fun _ => Keeps.pure _

theorem keeps_settings (connection : String) : Keeps J (Connection.settings connection : Action E Settings) :=
  Keeps.bind keeps_current fun _ => Keeps.pure _

theorem keeps_outside {transition : E.State → Except Failure α × E.State}
    (h : ∀ {w}, J w → J { w with outside := (transition w.outside).2 }) :
    Keeps J (outside transition : Action E α) := by
  refine triple_outside (fun w a s hw hrun => ?_) fun w failure s hw hrun => ?_
  · have hleft := h hw
    rwa [hrun] at hleft
  · have hleft := h hw
    rwa [hrun] at hleft

/-- Whatever is done in the heap is done there only. -/
theorem keeps_inHeap_any (h : ∀ {w} heap, J w → J { w with heap := heap }) (step : Step Heap α) :
    Keeps J (inHeap step : Action E α) :=
  Triple.of_states fun w hw => triple_inHeap w rfl Triple.anything (fun _ _ _ => h _ hw) fun _ _ => h _ hw

end Session

namespace Connection

open Session (current change inHeap outside callHook keeps_current keeps_settings)

theorem keeps_cacheBehind? (v : Value) : Keeps J (cacheBehind? v : Action E (Option CacheRef)) := by
  unfold cacheBehind?
  split
  · refine Keeps.bind Keeps.get fun w => ?_
    split <;> exact Keeps.pure _
  · exact Keeps.pure _

theorem keeps_store (cache : CacheRef) : Keeps J (store cache : Action E Cache.Store) := by
  refine Keeps.bind keeps_current fun s => ?_
  split <;> exact Keeps.pure _

theorem keeps_length (v : Value) : Keeps J (length v : Action E Nat) := by
  refine Keeps.bind (keeps_cacheBehind? v) fun cache => ?_
  split
  · exact Keeps.throw _
  · exact Keeps.bind (keeps_store _) fun _ => Keeps.pure _
  · exact Keeps.bind Keeps.get fun _ => Keeps.lift _

theorem keeps_isTrue (v : Value) : Keeps J (isTrue v : Action E Bool) := by
  refine Keeps.bind (keeps_cacheBehind? v) fun cache => ?_
  split
  · exact Keeps.pure _
  · exact Keeps.bind (keeps_store _) fun _ => Keeps.pure _
  · exact Keeps.bind Keeps.get fun _ => Keeps.pure _

theorem keeps_cacheOf (connection : String) : Keeps J (cacheOf connection : Action E CacheRef) := by
  refine Keeps.bind keeps_current fun s => ?_
  split
  · refine Keeps.bind keeps_current fun s => ?_
    split <;> exact Keeps.pure _
  · refine Keeps.bind (keeps_cacheBehind? _) fun cache => ?_
    split
    · exact Keeps.pure _
    · exact Keeps.throw _

theorem keeps_hookOf (cache : CacheRef) (select : Settings → Option Hook) :
    Keeps J (hookOf cache select : Action E (Option Hook)) := by
  unfold hookOf
  split
  · exact Keeps.bind keeps_current fun _ => Keeps.pure _
  · exact Keeps.pure _

theorem keeps_refuseContainer (connection : String) : Keeps J (refuseContainer connection : Action E Unit) := by
  refine Keeps.bind keeps_current fun s => ?_
  split
  · exact Keeps.pure _
  · refine Keeps.bind Keeps.get fun w => ?_
    split
    · exact Keeps.throw _
    · exact Keeps.throw _
    · exact Keeps.pure _

/-! ## Drivers, dialects and marks -/

theorem keeps_dialect_of {connection : String} (hdriver : Keeps J (driver connection : Action E Driver))
    (hmake : ∀ d, Keeps J (makeDialect connection d : Action E MadeDialect)) :
    Keeps J (dialect connection : Action E Dialect) := by
  refine Keeps.bind (Keeps.bind keeps_current fun s => ?_) fun _ => Keeps.pure _
  split
  · exact Keeps.pure _
  · exact Keeps.bind hdriver hmake

/-- How the mark is found: the driver is looked for if no mark is set, a mark that is set is taken unless it is empty, and
else the dialect has one. -/
theorem triple_quoteMark_of {connection : String} {P R : World E.State → Prop} {Q : String → World E.State → Prop}
    {F : World E.State → Prop}
    (hset : ∀ w, P w → (w.session.settingsOf connection).quoteMark ≠ none → R w)
    (hdriver : Triple P (driver connection) (fun _ => R) F)
    (htaken : ∀ w mark, R w → (w.session.settingsOf connection).quoteMark = some mark → mark.isEmpty = false →
      Q mark w)
    (hdialect : Triple (fun w => R w ∧ ∀ mark, (w.session.settingsOf connection).quoteMark = some mark →
      mark.isEmpty = true) (dialect connection) (fun D => Q D.quoteMark) F) :
    Triple P (quoteMark connection) Q F := by
  have ofDialect : Triple _ (do return (← dialect connection).quoteMark : Action E String) Q F :=
    Triple.bind hdialect fun _ => Triple.pure fun _ hw => hw
  refine triple_bindSettings fun w hw => ?_
  extract_lets afterDriver
  have hafter : ∀ u, Triple R (afterDriver u) Q F := by
    intro u
    refine triple_bindSettings fun w hw => ?_
    cases hmark : (w.session.settingsOf connection).quoteMark with
    | none =>
        refine ofDialect.pre fun _ hsame => hsame ▸ ⟨hw, fun mark hset => ?_⟩
        rw [hmark] at hset
        cases hset
    | some mark =>
        dsimp only
        split
        · rename_i hempty
          refine ofDialect.pre fun _ hsame => hsame ▸ ⟨hw, fun other hset => ?_⟩
          rw [hmark] at hset
          cases hset
          exact hempty
        · rename_i hne
          exact Triple.pure fun _ hsame => hsame ▸ htaken w mark hw hmark (Bool.eq_false_iff.2 hne)
  split
  · refine Triple.bind (Triple.bind (hdriver.pre fun _ hsame => hsame ▸ hw) fun _ => ?_) hafter
    exact Triple.pure fun _ hw => hw
  · rename_i hmark
    refine (hafter ()).pre fun _ hsame => hsame ▸ hset w hw fun hnone => hmark ?_
    rw [hnone]
    rfl

theorem keeps_quoteMark_of {connection : String} (hdriver : Keeps J (driver connection : Action E Driver))
    (hdialect : Keeps J (dialect connection : Action E Dialect)) : Keeps J (quoteMark connection : Action E String) :=
  triple_quoteMark_of (fun _ hw _ => hw) hdriver (fun _ _ hw _ _ => hw) (hdialect.pre fun _ hw => hw.1)

theorem keeps_rendering_of {connection : String} (hdialect : Keeps J (dialect connection : Action E Dialect))
    (hmark : Keeps J (quoteMark connection : Action E String)) :
    Keeps J (rendering connection : Action E Rendering) :=
  Keeps.bind hdialect fun _ => Keeps.bind hmark fun _ => Keeps.bind (keeps_settings connection) fun _ => Keeps.pure _

/-- A property of worlds that has nothing to do with drivers, dialects and settings. -/
structure IgnoresDrivers (J : World E.State → Prop) : Prop where
  session : ∀ {w s}, w.session.SameButDrivers s → J w → J { w with session := s }
  connect : ∀ opening {w}, J w → J { w with outside := (E.connect opening w.outside).2 }

namespace IgnoresDrivers

variable (hJ : IgnoresDrivers J)
include hJ

theorem keeps_change {f : Session → Session} (hf : ∀ s : Session, s.SameButDrivers (f s)) :
    Keeps J (change f : Action E Unit) :=
  Session.triple_change fun w hw => hJ.session (hf w.session) hw

theorem keeps_makeDialect (connection : String) (d : Driver) :
    Keeps J (makeDialect connection d : Action E MadeDialect) :=
  Keeps.bind keeps_current fun _ => Keeps.bind (Keeps.lift _) fun _ =>
    Keeps.bind (hJ.keeps_change fun _ => ⟨_, _, _, _, rfl⟩) fun _ => Keeps.pure _

theorem keeps_registerDriver (connection : String) (d : Driver) :
    Keeps J (registerDriver connection d : Action E Unit) := by
  refine Keeps.bind (hJ.keeps_change fun _ => ⟨_, _, _, _, rfl⟩) fun _ => ?_
  refine Keeps.bind (hJ.keeps_makeDialect connection d) fun _ => ?_
  exact Keeps.bind (keeps_settings connection) fun _ => hJ.keeps_change fun _ => ⟨_, _, _, _, rfl⟩

theorem keeps_driver (connection : String) : Keeps J (driver connection : Action E Driver) := by
  refine Keeps.bind keeps_current fun s => ?_
  split
  · exact Keeps.pure _
  · refine Keeps.bind (keeps_settings connection) fun settings => ?_
    refine Keeps.bind (Session.keeps_outside fun hw => hJ.connect _ hw) fun opened => ?_
    exact Keeps.bind (hJ.keeps_registerDriver connection _) fun _ => Keeps.pure _

theorem keeps_dialect (connection : String) : Keeps J (dialect connection : Action E Dialect) :=
  keeps_dialect_of (hJ.keeps_driver connection) (hJ.keeps_makeDialect connection)

theorem keeps_quoteMark (connection : String) : Keeps J (quoteMark connection : Action E String) :=
  keeps_quoteMark_of (hJ.keeps_driver connection) (hJ.keeps_dialect connection)

theorem keeps_rendering (connection : String) : Keeps J (rendering connection : Action E Rendering) :=
  keeps_rendering_of (hJ.keeps_dialect connection) (hJ.keeps_quoteMark connection)

end IgnoresDrivers

/-! ## Statements in the heap -/

theorem keeps_params (h : Heap) (params : Value) : Keeps h.Drains (Heap.params params) := by
  refine Keeps.bind Keeps.get fun current => ?_
  split
  · exact Keeps.pure _
  · exact Keeps.bind (Heap.keeps_items h params) fun _ => Keeps.pure _

theorem keeps_refusePlaceholder (h : Heap) (sql : Value) : Keeps h.Drains (refusePlaceholder sql) := by
  refine Keeps.bind (Heap.keeps_contains h _ sql) fun found => ?_
  split
  · exact Keeps.throw _
  · exact Keeps.pure ()

theorem keeps_forDisplay (h : Heap) (sql params : Value) : Keeps h.Drains (forDisplay sql params) := by
  refine Keeps.bind (keeps_params h params) fun given => ?_
  split
  · exact Keeps.pure _
  · exact Keeps.pure _
  · split
    · exact Keeps.bind Keeps.get fun _ => Keeps.pure _
    · exact Keeps.bind (keeps_refusePlaceholder h _) fun _ => Keeps.pure _

theorem keeps_prepare (h : Heap) (kind : DriverKind) (sql params : Value) :
    Keeps h.Drains (prepare kind sql params) := by
  have hrestyle : ∀ style, Keeps h.Drains (restyle style sql) := by
    intro style
    unfold restyle
    split
    · exact Keeps.pure _
    · exact Keeps.pure _
    · exact Keeps.pure _
    · refine Keeps.bind Keeps.get fun current => ?_
      split <;> exact Keeps.throw _
    · exact Keeps.bind (keeps_refusePlaceholder h sql) fun _ => Keeps.pure _
  cases kind with
  | native name => exact Keeps.pure _
  | sqlite =>
      refine Keeps.bind (keeps_params h params) fun given => ?_
      split <;> exact Keeps.pure _
  | toolkit name style =>
      refine Keeps.bind (keeps_params h params) fun given => ?_
      split
      · exact Keeps.pure _
      · exact Keeps.pure _
      · exact Keeps.bind (hrestyle _) fun _ => Keeps.pure _

/-! ## Steps outside of the heap -/

theorem keeps_lastInsertId_of {d : Driver} (hreported : Keeps J (outside (E.insertId d.link) : Action E Value)) :
    Keeps J (lastInsertId d : Action E Value) := by
  unfold lastInsertId
  split
  · exact hreported
  · exact Keeps.bind keeps_current fun _ => Keeps.pure _

theorem keeps_execute_of {connection : String} {sql params : Value}
    (hdriver : Keeps J (driver connection : Action E Driver))
    (hsend : ∀ d, Keeps J (send d sql params : Action E Statement))
    (hlast : ∀ statement, Keeps J (change fun s => { s with lastStatement := some statement } : Action E Unit))
    (hlog : Keeps J (logQuery connection sql params : Action E Unit)) :
    Keeps J (execute connection sql params : Action E Statement) :=
  Keeps.bind hdriver fun d => Keeps.bind (hsend d) fun _ => Keeps.bind (hlast _) fun _ =>
    Keeps.bind hlog fun _ => Keeps.pure _

theorem keeps_putStore_of (hbuiltin : ∀ kept, Keeps J (change fun s => { s with memory := kept } : Action E Unit))
    (hgiven : ∀ id kept, Keeps J (change fun s => { s with givenStores := s.givenStores.set id kept } : Action E Unit))
    (cache : CacheRef) (kept : Cache.Store) : Keeps J (putStore cache kept : Action E Unit) := by
  unfold putStore
  split
  · exact hgiven _ _
  · exact hbuiltin _

/-! ## Going through values -/

/-- A property of worlds that stays when items of streams are taken away. -/
def IgnoresStreams (J : World E.State → Prop) : Prop := ∀ w h, w.heap.Drains h → J w → J { w with heap := h }

namespace IgnoresStreams

variable (hJ : IgnoresStreams J)
include hJ

theorem keeps_inHeap {step : Step Heap α} (h : ∀ h : Heap, Keeps h.Drains step) :
    Keeps J (inHeap step : Action E α) := by
  refine Triple.of_states fun w hw => ?_
  have hstep : Triple (· = w.heap) step (fun _ => w.heap.Drains) w.heap.Drains :=
    (h w.heap).pre fun _ hs => hs ▸ Heap.Drains.refl _
  exact Session.triple_inHeap w rfl hstep (fun _ h' hd => hJ w h' hd hw) fun h' hd => hJ w h' hd hw

theorem keeps_quote_of {connection : String} (hmark : Keeps J (quoteMark connection : Action E String))
    (identifier : Value) : Keeps J (quote connection identifier : Action E String) :=
  Keeps.bind hmark fun _ => Keeps.bind (hJ.keeps_inHeap fun h => Heap.keeps_identifier h identifier) fun _ =>
    Keeps.lift _

theorem keeps_rowOf (data : Value) : Keeps J (Record.rowOf data : Action E Row) := by
  refine Keeps.bind (keeps_isTrue data) fun isTrue => ?_
  split
  · exact hJ.keeps_inHeap fun h => Heap.keeps_row h data
  · exact Keeps.pure _

theorem keeps_copyOfRows (rows : List Value) : Keeps J (rows.mapM copyOfRow : Action E (List Value)) :=
  Keeps.mapM fun row _ => Keeps.bind (hJ.keeps_inHeap fun h => Heap.keeps_row h row) fun _ => Keeps.pure _

/-! ## Rows -/

theorem keeps_fetch_of {statement : Statement} {count : Option Nat}
    (harrived : Keeps J (outside (E.fetch statement.cursor count) : Action E (List Value))) :
    Keeps J (Connection.fetch statement count : Action E (List Value)) := by
  unfold Connection.fetch
  split
  · exact Keeps.pure _
  · exact harrived
  · refine Keeps.bind harrived fun arrived => Keeps.mapM fun row _ => ?_
    exact Keeps.bind (hJ.keeps_inHeap fun h => Heap.keeps_items h row) fun _ => Keeps.pure _

theorem keeps_fetchRow_of {statement : Statement}
    (harrived : Keeps J (outside (E.fetch statement.cursor (some 1)) : Action E (List Value))) :
    Keeps J (fetchRow statement : Action E (Option Value)) :=
  Keeps.bind (hJ.keeps_fetch_of harrived) fun _ => Keeps.pure _

/-! ## Statements -/

theorem keeps_send_of {d : Driver}
    (hsent : ∀ text params, Keeps J (outside (E.execute d.link text params) : Action E Reply))
    (hreply : ∀ lastRowId, Keeps J (change fun s => { s with
      lastRowIds := (d.link, lastRowId) :: s.lastRowIds.filter (·.1 != d.link) } : Action E Unit))
    (sql params : Value) : Keeps J (send d sql params : Action E Statement) := by
  refine Keeps.bind (hJ.keeps_inHeap fun h => keeps_prepare h d.kind sql params) fun prepared => ?_
  refine Keeps.bind (hsent _ _) fun reply => ?_
  split
  · exact Keeps.pure _
  · exact Keeps.bind (hreply _) fun _ => Keeps.pure _

theorem keeps_logQuery_of {connection : String} (hdriver : Keeps J (driver connection : Action E Driver))
    (hlogged : ∀ text, Keeps J (change fun s => { s with log := s.log.record connection text } : Action E Unit))
    (hcall : ∀ hook text, Keeps J (callHook hook (.log text) : Action E Value)) (sql params : Value) :
    Keeps J (logQuery connection sql params : Action E Unit) := by
  refine Keeps.bind (keeps_settings connection) fun settings => ?_
  split
  · refine Keeps.bind (Keeps.bind hdriver fun _ => Keeps.pure _) fun _ => ?_
    refine Keeps.bind (hJ.keeps_inHeap fun h => keeps_forDisplay h sql params) fun text => ?_
    refine Keeps.bind (hlogged text) fun _ => ?_
    split
    · exact Keeps.bind (hcall _ _) fun _ => Keeps.pure _
    · exact Keeps.pure _
  · exact Keeps.pure _

/-! ## The cache -/

theorem keeps_cacheKey_of {query params table connection : Value}
    (hcall : ∀ hook, Keeps J (callHook hook (.createKey query params table connection) : Action E Value))
    (cache : CacheRef) : Keeps J (cacheKey cache query params table connection : Action E Value) := by
  refine Keeps.bind (keeps_hookOf cache _) fun hook => ?_
  split
  · exact hcall _
  · refine Keeps.bind (hJ.keeps_inHeap fun h => keeps_params h params) fun _ => ?_
    exact Keeps.bind Keeps.get fun _ => Keeps.pure _

theorem keeps_lookUp_of {key table connection : Value}
    (hcall : ∀ hook, Keeps J (callHook hook (.checkCache key table connection) : Action E Value))
    (cache : CacheRef) : Keeps J (lookUp cache key table connection : Action E Value) := by
  refine Keeps.bind (keeps_hookOf cache _) fun hook => ?_
  split
  · exact hcall _
  · refine Keeps.bind (hJ.keeps_inHeap fun h => ?_) fun _ => Keeps.bind (keeps_store cache) fun _ => Keeps.pure _
    exact Keeps.bind (Heap.keeps_requireKey h connection) fun _ => Heap.keeps_requireKey h key

theorem keeps_keep_of {key rows table connection : Value} {cache : CacheRef}
    (hput : ∀ kept, Keeps J (putStore cache kept : Action E Unit))
    (hcall : ∀ hook, Keeps J (callHook hook (.storeResult key rows table connection) : Action E Value)) :
    Keeps J (keep cache key rows table connection : Action E Unit) := by
  refine Keeps.bind (keeps_hookOf cache _) fun hook => ?_
  split
  · exact Keeps.bind (hcall _) fun _ => Keeps.pure _
  · refine Keeps.bind (hJ.keeps_inHeap fun h => Heap.keeps_requireKey h connection) fun _ => ?_
    refine Keeps.bind (keeps_store cache) fun _ => Keeps.bind (hput _) fun _ => ?_
    refine Keeps.bind (hJ.keeps_inHeap fun h => Heap.keeps_requireKey h key) fun _ => ?_
    exact Keeps.bind (keeps_store cache) fun _ => hput _

theorem keeps_clearCache_of {table : Value} {connection : String}
    (hput : ∀ cache kept, Keeps J (putStore cache kept : Action E Unit))
    (hcall : ∀ hook, Keeps J (callHook hook (.clearCache table (.text connection)) : Action E Value)) :
    Keeps J (clearCache table connection : Action E Unit) := by
  refine Keeps.bind (keeps_refuseContainer connection) fun _ => Keeps.bind (keeps_cacheOf connection) fun cache => ?_
  refine Keeps.bind (keeps_store cache) fun kept => ?_
  extract_lets dropping
  have hdropping : ∀ u, Keeps J (dropping u) := by
    intro u
    refine Keeps.bind (hput cache _) fun _ => Keeps.bind (keeps_hookOf cache _) fun hook => ?_
    split
    · exact Keeps.bind (hcall _) fun _ => Keeps.pure _
    · exact Keeps.pure _
  split
  · exact Keeps.bind (hJ.keeps_inHeap fun h => Heap.keeps_requireKey h _) hdropping
  · exact hdropping ()

/-- A read finds its rows in the cache, or asks for them and keeps a copy. -/
theorem keeps_read_of {connection : String} {sql params table : Value}
    (hfresh : Keeps J (readFresh connection sql params : Action E (List Value)))
    (hkey : ∀ cache, Keeps J (cacheKey cache sql params table (.text connection) : Action E Value))
    (hlookUp : ∀ cache key, Keeps J (lookUp cache key table (.text connection) : Action E Value))
    (hkeep : ∀ cache key rows, Keeps J (keep cache key rows table (.text connection) : Action E Unit)) :
    Keeps J (read connection sql params table : Action E (List Value)) := by
  refine Keeps.bind (keeps_settings connection) fun settings => ?_
  split
  · refine Keeps.bind (keeps_cacheOf connection) fun cache => Keeps.bind (hkey cache) fun key => ?_
    refine Keeps.bind (hlookUp cache key) fun found => ?_
    split
    · refine Keeps.bind hfresh fun rows => Keeps.bind (hJ.keeps_copyOfRows rows) fun copies => ?_
      exact Keeps.bind (hkeep cache key _) fun _ => Keeps.pure _
    · refine hJ.keeps_inHeap fun h => Heap.keeps_forItems h _ fun row => ?_
      exact Keeps.bind (Heap.keeps_row h row) fun _ => Keeps.pure _
  · exact hfresh

end IgnoresStreams

end Connection

end FluentSql
