import FluentSql.Proofs.Connection.Looks
import FluentSql.Proofs.Connection.Ledger
/-
# FluentSql.Proofs.Connection.Consulting — what a read asks the cache before it is executed.

A read consults the cache first, if there is one, and goes on from what it finds (`read_eq`). Consulting looks only,
unless it asks a function of the caller (`looks_consult`); and if these touch nothing but what lies outside, so
does consulting (`keeps_shows_consult`).
-/

namespace FluentSql

open Step (Keeps Triple perform_bind_ok perform_bind_error)

/-- Whether a function of the caller is called to find a read in the cache. -/
def HookCall.seeksRead : HookCall → Bool
  | .createKey .. | .checkCache .. => true
  | _ => false

/-- The functions of the caller that find reads in the cache touch nothing but what lies outside. -/
def Environment.SeeksOutside (E : Environment) : Prop :=
  ∀ hook call (w : World E.State), call.seeksRead = true →
    ∃ o, ((E.call hook call).perform w).2 = { w with outside := o }

/-- The world has the session, and the heap up to what is left of streams. -/
structure World.Shows {σ : Type} (s : Session) (h : Heap) (w : World σ) : Prop where
  session : w.session = s
  heap : h.Drains w.heap

namespace Connection

open Session (current inHeap callHook)

variable {E : Environment} {α : Type} {connection : String} {s : Session}

/-- What the cache says of a read. -/
inductive Consulted where
  | found (rows : Value)
  /-- Nothing is found, with where the rows are to be kept, if anywhere. -/
  | missing (place : Option (CacheRef × Value))

/-- Asks a cache for a read. -/
def ask (cache : CacheRef) (connection : String) (sql params table : Value) : Action E Consulted := do
  let key ← cacheKey cache sql params table (.text connection)
  match ← lookUp cache key table (.text connection) with
  | .null => return .missing (some (cache, key))
  | found => return .found found

/-- Asks the cache of a connection for a read, if its reads are cached. -/
def consult (connection : String) (sql params table : Value) : Action E Consulted := do
  if (← settings connection).caching then
    ask (← cacheOf connection) connection sql params table
  else return .missing none

/-- The rows of a read, by what the cache says of it. -/
def rowsBy (connection : String) (sql params table : Value) : Consulted → Action E (List Value)
  | .found found => inHeap (Heap.forItems found fun row => do return .map (← Heap.row row))
  | .missing none => readFresh connection sql params
  | .missing (some (cache, key)) => do
    let rows ← readFresh connection sql params
    keep cache key (.list (← rows.mapM copyOfRow)) table (.text connection)
    return rows

/-- **A read consults the cache and is executed if it has to be.** -/
theorem read_eq (connection : String) (sql params table : Value) :
    (read connection sql params table : Action E (List Value)) =
      consult connection sql params table >>= rowsBy connection sql params table := by
  simp only [read, consult, bind_assoc]
  congr 1; funext settings
  split
  · simp only [ask, bind_assoc]
    congr 1; funext cache
    congr 1; funext key
    congr 1; funext found
    cases found <;> rfl
  · rfl

theorem IgnoresStreams.keeps_consult_of {J : World E.State → Prop} (hJ : IgnoresStreams J) {sql params table : Value}
    (hcreate : ∀ hook, Keeps J (callHook hook (.createKey sql params table (.text connection)) : Action E Value))
    (hcheck : ∀ hook key, Keeps J (callHook hook (.checkCache key table (.text connection)) : Action E Value)) :
    Keeps J (consult connection sql params table : Action E Consulted) := by
  refine Keeps.bind (Session.keeps_settings connection) fun settings => ?_
  split
  · refine Keeps.bind (keeps_cacheOf connection) fun cache => ?_
    refine Keeps.bind (hJ.keeps_cacheKey_of hcreate cache) fun key => ?_
    refine Keeps.bind (hJ.keeps_lookUp_of (fun hook => hcheck hook key) cache) fun found => ?_
    split <;> exact Keeps.pure _
  · exact Keeps.pure _

/-! ## The cache of a connection -/

/-- The cache of a connection, by what the session and the heap hold. -/
def cacheIn (connection : String) (s : Session) (h : Heap) : Except Failure CacheRef :=
  match Entries.get? connection s.chosenStores with
  | none => .ok (if (s.settingsOf connection).hasCacheHooks then .hooks connection s.era else .builtin)
  | some (.ref id) =>
    match h.cell? id with
    | some (.cache c) => .ok c
    | _ => .error .noMember
  | some _ => .error .noMember

theorem perform_cacheOf_eq (connection : String) (w : World E.State) :
    (cacheOf connection : Action E CacheRef).perform w = (cacheIn connection w.session w.heap, w) := by
  rw [cacheOf, Session.perform_bindCurrent, cacheIn]
  cases Entries.get? connection w.session.chosenStores with
  | none =>
      dsimp only
      rw [defaultCache, Session.perform_bindCurrent]
      cases (w.session.settingsOf connection).hasCacheHooks <;> rfl
  | some chosen =>
      cases chosen with
      | ref id =>
          dsimp only
          have hget : (get : Action E (World E.State)).perform w = (.ok w, w) := rfl
          rw [cacheBehind?, bind_assoc, perform_bind_ok hget]
          cases w.heap.cell? id with
          | none => rfl
          | some cell => cases cell <;> rfl
      | _ => rfl

/-- Draining streams leaves caches alone. -/
theorem cacheIn_of_drains {h h' : Heap} (hd : h.Drains h') : cacheIn connection s h' = cacheIn connection s h := by
  unfold cacheIn
  split
  · rfl
  · rename_i id _
    rcases hd id with heq | ⟨rest, rest', hrest, hrest'⟩
    · rw [heq]
    · rw [hrest, hrest']
  · rfl

/-! ## Consulting looks only -/

/-- Whether a cache asks a function of the caller for the key of a read or for what is kept under it. -/
def asksCaller (s : Session) : CacheRef → Bool
  | .hooks connection era =>
    (s.settingsIn era connection).createKey.isSome || (s.settingsIn era connection).checkCache.isSome
  | _ => false

/-- The cache of the connection finds reads without a function of the caller. -/
def FindsAlone (connection : String) (s : Session) (h : Heap) : Prop :=
  ∀ cache, cacheIn connection s h = .ok cache → asksCaller s cache = false

theorem FindsAlone.of_drains {h h' : Heap} (halone : FindsAlone connection s h) (hd : h.Drains h') :
    FindsAlone connection s h' := by
  intro cache hcache
  rw [cacheIn_of_drains hd] at hcache
  exact halone cache hcache

theorem FindsAlone.of_sameButDialects {s' : Session} {h : Heap} (halone : FindsAlone connection s h)
    (hsame : s.SameButDialects s') : FindsAlone connection s' h := by
  obtain ⟨_, _, rfl⟩ := hsame
  intro cache hcache
  have hasks := halone cache hcache
  cases cache <;> exact hasks

section

variable {cache : CacheRef} (halone : asksCaller s cache = false)
include halone

theorem hookOf_of_not_asksCaller (heap : Heap) (o : E.State) :
    (hookOf cache Settings.createKey : Action E (Option Hook)).perform ⟨s, heap, o⟩ = (.ok none, ⟨s, heap, o⟩) ∧
      (hookOf cache Settings.checkCache : Action E (Option Hook)).perform ⟨s, heap, o⟩ =
        (.ok none, ⟨s, heap, o⟩) := by
  cases cache with
  | hooks connection era =>
      obtain ⟨hkey, hcheck⟩ := Bool.or_eq_false_iff.1 halone
      rw [Option.isSome_eq_false_iff, Option.isNone_iff_eq_none] at hkey hcheck
      constructor
      · rw [hookOf, Session.perform_bindCurrent, hkey]
        rfl
      · rw [hookOf, Session.perform_bindCurrent, hcheck]
        rfl
  | _ => exact ⟨rfl, rfl⟩

theorem looks_cacheKey (sql params table holder : Value) :
    Looks s (cacheKey cache sql params table holder : Action E Value) := by
  refine Looks.bindKnown (fun heap o => (hookOf_of_not_asksCaller halone heap o).1) ?_
  refine Looks.bind (Looks.inHeap fun h => keeps_params h params) fun params => ?_
  exact Looks.bindHeap fun h => Looks.pure
    (Value.text (Cache.key E.digest (h.settle sql).display (Heap.settleParams h params)))

theorem looks_lookUp (key table holder : Value) :
    Looks s (lookUp cache key table holder : Action E Value) := by
  refine Looks.bindKnown (fun heap o => (hookOf_of_not_asksCaller halone heap o).2) ?_
  refine Looks.bind (Looks.inHeap fun h => ?_) fun _ => Looks.bind (Looks.bindCurrent ?_) fun _ => Looks.pure _
  · exact Keeps.bind (Heap.keeps_requireKey h _) fun _ => Heap.keeps_requireKey h _
  · split <;> exact Looks.pure _

theorem looks_ask (connection : String) (sql params table : Value) :
    Looks s (ask cache connection sql params table : Action E Consulted) := by
  refine Looks.bind (looks_cacheKey halone sql params table _) fun key => ?_
  refine Looks.bind (looks_lookUp halone key table _) fun found => ?_
  split <;> exact Looks.pure _

end

/-- A cache that finds reads alone is consulted without a change. -/
theorem looks_consult {h : Heap} (halone : FindsAlone connection s h) (sql params table : Value) :
    LooksFrom s h (consult connection sql params table : Action E Consulted) := by
  suffices hlooks : ∀ caching : Bool, LooksFrom s h
      (if caching then cacheOf connection >>= fun cache => ask cache connection sql params table
        else pure (.missing none) : Action E Consulted) from hlooks (s.settingsOf connection).caching
  intro caching
  cases caching with
  | false => exact Looks.pure (Consulted.missing none) h
  | true =>
      have hcacheOf : ∀ o, (cacheOf connection : Action E CacheRef).perform ⟨s, h, o⟩ =
          (cacheIn connection s h, ⟨s, h, o⟩) := fun o => perform_cacheOf_eq connection _
      cases hcache : cacheIn connection s h with
      | error failure =>
          rw [hcache] at hcacheOf
          exact ⟨.error failure, h, .refl h, fun o => perform_bind_error (hcacheOf o)⟩
      | ok cache =>
          rw [hcache] at hcacheOf
          obtain ⟨result, heap', hd, hrun⟩ := looks_ask (E := E) (halone cache hcache) connection sql params table h
          exact ⟨result, heap', hd, fun o => (perform_bind_ok (hcacheOf o)).trans (hrun o)⟩

/-! ## Consulting with functions of the caller -/

section

variable {h : Heap}

theorem ignoresStreams_shows : IgnoresStreams (World.Shows (σ := E.State) s h) :=
  fun _ _ hd hw => ⟨hw.session, hw.heap.trans hd⟩

variable (hE : E.SeeksOutside)
include hE

theorem keeps_shows_callHook (hook : Hook) {call : HookCall} (hcall : call.seeksRead = true) :
    Keeps (World.Shows s h) (callHook hook call : Action E Value) := by
  intro w hw
  obtain ⟨o, hleaves⟩ := hE hook call w hcall
  rcases hrun : (callHook hook call : Action E Value).perform w with ⟨result, w'⟩
  obtain rfl : w' = { w with outside := o } := (congrArg Prod.snd hrun).symm.trans hleaves
  cases result <;> exact ⟨hw.session, hw.heap⟩

/-- Where the functions of the caller touch nothing but what lies outside, consulting the cache leaves the session as
it is, and the heap up to streams. -/
theorem keeps_shows_consult (connection : String) (sql params table : Value) :
    Keeps (World.Shows s h) (consult connection sql params table : Action E Consulted) :=
  ignoresStreams_shows.keeps_consult_of (fun _ => keeps_shows_callHook hE _ rfl) fun _ _ => keeps_shows_callHook hE _ rfl

end

end Connection

end FluentSql
