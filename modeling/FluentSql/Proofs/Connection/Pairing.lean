import FluentSql.Record.Row
import FluentSql.Proofs.Connection.Ledger
import FluentSql.Proofs.Connection.Mirror
/-
# FluentSql.Proofs.Connection.Pairing — pairs of worlds in which a connection does alike.

A pairing relates worlds whose heaps are the same and which have in common all that statements of a connection depend
on, and stays when statements are executed (`IsPairing`). What else the worlds hold, for other connections or in a
cache, may be different. So a connection looks at values, executes statements and fetches rows alike in both
(`IsPairing.mirrors_execute`, `IsPairing.mirrors_readFresh`). Which numbers of the heap are known to hold records of the
connection is said with every pair.
-/

namespace FluentSql

open Step (Keeps Triple Mirrors)

/-! ## Heaps without caches -/

/-- Nothing in the heap is a cache, and what it keeps under certain numbers are records of the connection. -/
structure Heap.Suits (connection : String) (numbers : Set Nat) (h : Heap) : Prop where
  noCache : ∀ id cache, h.cell? id ≠ some (.cache cache)
  record : ∀ id ∈ numbers, ∃ r, h.cell? id = some (.record r) ∧ r.connection = connection

namespace Heap

variable {connection : String} {numbers : Set Nat}

theorem Suits.extend {h : Heap} (hh : h.Suits connection numbers) {cell : Cell}
    (hcell : ∀ c, cell ≠ .cache c) : (h.extend cell).Suits connection numbers := by
  refine ⟨fun id cache hfound => ?_, fun id hid => ?_⟩
  · rcases Nat.lt_or_ge id h.size with hlt | hge
    · rw [cell?_extend_of_lt hlt] at hfound
      exact hh.noCache id cache hfound
    · have hmem := List.mem_of_getElem? hfound
      rcases List.mem_append.1 hmem with hold | hlast
      · obtain ⟨other, hother⟩ := List.getElem?_of_mem hold
        exact hh.noCache other cache hother
      · exact hcell cache (List.mem_singleton.1 hlast).symm
  · obtain ⟨r, hr, hconnection⟩ := hh.record id hid
    have hlt : id < h.size := (List.getElem?_eq_some_iff.1 hr).1
    exact ⟨r, (cell?_extend_of_lt hlt cell).trans hr, hconnection⟩

theorem Suits.drains {h h' : Heap} (hh : h.Suits connection numbers) (hd : h.Drains h') :
    h'.Suits connection numbers := by
  refine ⟨fun id cache hfound => ?_, fun id hid => ?_⟩
  · rcases hd id with heq | ⟨_, rest', -, hrest'⟩
    · exact hh.noCache id cache (heq ▸ hfound)
    · rw [hrest'] at hfound
      cases hfound
  · obtain ⟨r, hr, hconnection⟩ := hh.record id hid
    exact ⟨r, hd.cell?_record hr, hconnection⟩

theorem Suits.replace_record {h : Heap} (hh : h.Suits connection numbers) {id : Nat} (hid : id ∈ numbers)
    {r : Record} (hr : r.connection = connection) : (h.replace id (.record r)).Suits connection numbers := by
  obtain ⟨old, hold, -⟩ := hh.record id hid
  have hself := cell?_replace_self hold (.record r)
  refine ⟨fun other cache hfound => ?_, fun other hother => ?_⟩
  · by_cases hne : other = id
    · subst hne
      rw [hself] at hfound
      cases hfound
    · rw [cell?_replace_of_ne hne] at hfound
      exact hh.noCache other cache hfound
  · by_cases hne : other = id
    · subst hne
      exact ⟨r, hself, hr⟩
    · obtain ⟨r', hr', hconnection⟩ := hh.record other hother
      exact ⟨r', (cell?_replace_of_ne hne _).trans hr', hconnection⟩

theorem keeps_suits_of_drains {α : Type} {step : Step Heap α} (h : ∀ h : Heap, Keeps h.Drains step) :
    Keeps (Suits connection numbers) step :=
  Triple.of_states fun before hbefore => (h before).consequence (fun _ hs => hs ▸ Drains.refl _)
    (fun _ _ hd => hbefore.drains hd) fun _ hd => hbefore.drains hd

theorem keeps_suits_add {cell : Cell} (hcell : ∀ c, cell ≠ .cache c) :
    Keeps (Suits connection numbers) (add cell) := fun _ hh => hh.extend hcell

mutual

theorem keeps_suits_share (v : Value) : Keeps (Suits connection numbers) (share v) := by
  cases v with
  | list items =>
      rw [share]
      exact Keeps.bind (keeps_suits_shareAll items) fun _ => keeps_suits_add nofun
  | tuple items =>
      rw [share]
      exact Keeps.bind (keeps_suits_shareAll items) fun _ => fun _ hh => hh.extend nofun
  | map entries =>
      rw [share]
      exact Keeps.bind (keeps_suits_shareEntries entries) fun _ => keeps_suits_add nofun
  | stream items =>
      rw [share]
      exact Keeps.bind (keeps_suits_shareAll items) fun _ => keeps_suits_add nofun
  | _ =>
      rw [share]
      · split
        · exact keeps_suits_add nofun
        · exact Keeps.pure _
      all_goals nofun

theorem keeps_suits_shareAll (items : List Value) : Keeps (Suits connection numbers) (shareAll items) := by
  cases items with
  | nil =>
      rw [shareAll]
      exact Keeps.pure _
  | cons v rest =>
      rw [shareAll]
      exact Keeps.bind (keeps_suits_share v) fun _ =>
        Keeps.bind (keeps_suits_shareAll rest) fun _ => Keeps.pure _

theorem keeps_suits_shareEntries (entries : List (Value × Value)) :
    Keeps (Suits connection numbers) (shareEntries entries) := by
  cases entries with
  | nil =>
      rw [shareEntries]
      exact Keeps.pure _
  | cons e rest =>
      rw [shareEntries]
      exact Keeps.bind (keeps_suits_share e.2) fun _ =>
        Keeps.bind (keeps_suits_shareEntries rest) fun _ => Keeps.pure _

end

end Heap

/-- The heaps are the same, and suit an action on behalf of the connection. -/
def Heap.SuitAlike (connection : String) (numbers : Set Nat) (h h' : Heap) : Prop :=
  h = h' ∧ h.Suits connection numbers

theorem Heap.mirrors_same {connection : String} {numbers : Set Nat} {α : Type} {step : Step Heap α}
    (h : Keeps (Suits connection numbers) step) : Mirrors (SuitAlike connection numbers) Eq step step := by
  rintro before _ ⟨rfl, hbefore⟩
  have hleft := h before hbefore
  rcases hrun : step.perform before with ⟨result, after⟩
  rw [hrun] at hleft
  cases result <;> exact ⟨rfl, rfl, hleft⟩

namespace Connection

open Session (current change inHeap outside callHook)

variable {E : Environment} {connection : String} {own : Driver → Prop} {α : Type}
variable {I : Set Nat → World E.State → World E.State → Prop} {numbers : Set Nat}

theorem keeps_examined {setting : Setting} (hsetting : setting ∈ Setting.all) (v : Value) (h : Heap) :
    Keeps h.Drains (examined setting v) := by
  have hexamine : Keeps h.Drains (do return .value (← setting.examine v) : Step Heap SettingValue) :=
    Keeps.bind (Setting.keeps_examine hsetting h v) fun _ => Keeps.pure _
  unfold examined
  split
  · refine Keeps.bind Keeps.get fun current => ?_
    split
    · exact Keeps.pure _
    · exact Keeps.pure _
    · exact hexamine
  · exact hexamine

/-- Pairs of worlds, by the numbers of the heap that hold records of the connection. In both worlds of a pair the connection
does alike, whatever it does with statements, and is left in a pair. All of its drivers are of some kind. -/
structure IsPairing (connection : String) (own : Driver → Prop)
    (I : Set Nat → World E.State → World E.State → Prop) : Prop where
  common : ∀ numbers, IsCommon connection own (Heap.SuitAlike connection numbers) (I numbers)
  withHeap : ∀ {numbers more w w' h h'}, I numbers w w' → Heap.SuitAlike connection more h h' →
    I more { w with heap := h } { w' with heap := h' }
  executes : ∀ {numbers d} text params, own d →
    Mirrors (I numbers) Eq (outside (E.execute d.link text params)) (outside (E.execute d.link text params))
  fetches : ∀ {numbers} cursor count,
    Mirrors (I numbers) Eq (outside (E.fetch cursor count)) (outside (E.fetch cursor count))
  inserts : ∀ {numbers d}, own d →
    Mirrors (I numbers) Eq (outside (E.insertId d.link)) (outside (E.insertId d.link))
  logs : ∀ {numbers} hook query,
    Mirrors (I numbers) Eq (callHook hook (.log query)) (callHook hook (.log query))
  sameLastRowId : ∀ {numbers w w' d}, own d → I numbers w w' →
    w.session.lastRowId d.link = w'.session.lastRowId d.link
  withLastRowId : ∀ {numbers w w' d} id, own d → I numbers w w' →
    I numbers
      { w with session := { w.session with
        lastRowIds := (d.link, id) :: w.session.lastRowIds.filter (·.1 != d.link) } }
      { w' with session := { w'.session with
        lastRowIds := (d.link, id) :: w'.session.lastRowIds.filter (·.1 != d.link) } }
  withLastStatement : ∀ {numbers w w'} statement, I numbers w w' →
    I numbers { w with session := { w.session with lastStatement := some statement } }
      { w' with session := { w'.session with lastStatement := some statement } }
  withLog : ∀ {numbers w w'} query, I numbers w w' →
    I numbers { w with session := { w.session with log := w.session.log.record connection query } }
      { w' with session := { w'.session with log := w'.session.log.record connection query } }

namespace IsPairing

variable (hI : IsPairing connection own I)
include hI

theorem sameHeap {w w' : World E.State} (hw : I numbers w w') : Heap.SuitAlike connection numbers w.heap w'.heap :=
  (hI.common numbers).sameHeap hw

/-- Fewer numbers can be known of. -/
theorem mono {more : Set Nat} (hle : ∀ id ∈ numbers, id ∈ more) {w w' : World E.State} (hw : I more w w') :
    I numbers w w' :=
  hI.withHeap hw ⟨(hI.sameHeap hw).1, (hI.sameHeap hw).2.noCache, fun id hid => (hI.sameHeap hw).2.record id (hle id hid)⟩

/-! ## Looking and going through values -/

theorem mirrors_inHeap {step : Step Heap α} (h : ∀ numbers, Keeps (Heap.Suits connection numbers) step) :
    Mirrors (I numbers) Eq (inHeap step : Action E α) (inHeap step) :=
  (hI.common numbers).mirrors_inHeap (Heap.mirrors_same (h numbers))

theorem mirrors_goingThrough {step : Step Heap α} (h : ∀ h : Heap, Keeps h.Drains step) :
    Mirrors (I numbers) Eq (inHeap step : Action E α) (inHeap step) :=
  hI.mirrors_inHeap fun _ => Heap.keeps_suits_of_drains h

/-- An action that looks at the heap first. -/
theorem mirrors_bindHeap {R : α → α → Prop} {next : World E.State → Action E α} {f : Heap → Action E α}
    (hnext : ∀ w, next w = f w.heap)
    (h : ∀ heap : Heap, heap.Suits connection numbers → Mirrors (I numbers) R (f heap) (f heap)) :
    Mirrors (I numbers) R (get >>= next) (get >>= next) := by
  refine Mirrors.bindGet fun w w' hw => ?_
  rw [hnext, hnext, ← (hI.sameHeap hw).1]
  exact h w.heap (hI.sameHeap hw).2

theorem mirrors_cacheBehind? (v : Value) :
    Mirrors (I numbers) (fun found found' => found = none ∧ found' = none)
      (cacheBehind? v : Action E (Option CacheRef)) (cacheBehind? v) := by
  unfold cacheBehind?
  split
  · rename_i id
    refine Mirrors.bindGet fun w w' hw => ?_
    rw [← (hI.sameHeap hw).1]
    split
    · rename_i c hc
      exact absurd hc ((hI.sameHeap hw).2.noCache id c)
    · exact Mirrors.pure ⟨rfl, rfl⟩
  · exact Mirrors.pure ⟨rfl, rfl⟩

theorem mirrors_length (v : Value) : Mirrors (I numbers) Eq (length v : Action E Nat) (length v) := by
  refine Mirrors.bind (hI.mirrors_cacheBehind? v) ?_
  rintro _ _ ⟨rfl, rfl⟩
  exact hI.mirrors_bindHeap (fun _ => rfl) fun heap _ => Mirrors.lift (heap.length? v) fun _ _ => rfl

theorem mirrors_isTrue (v : Value) : Mirrors (I numbers) Eq (isTrue v : Action E Bool) (isTrue v) := by
  refine Mirrors.bind (hI.mirrors_cacheBehind? v) ?_
  rintro _ _ ⟨rfl, rfl⟩
  exact hI.mirrors_bindHeap (fun _ => rfl) fun heap _ => Mirrors.pure (a := heap.isTrue v) rfl

theorem mirrors_rowOf (data : Value) :
    Mirrors (I numbers) Eq (Record.rowOf data : Action E Row) (Record.rowOf data) := by
  refine Mirrors.bindEq (hI.mirrors_isTrue data) fun counts => ?_
  split
  · exact hI.mirrors_goingThrough fun h => Heap.keeps_row h data
  · exact Mirrors.pure rfl

/-! ## Options -/

theorem mirrors_bindNamed {R : α → α → Prop} (key : Value) {next : Setting → Action E α}
    (h : ∀ {setting}, setting ∈ Setting.all → key.asText?.getD "" = setting.name →
      Mirrors (I numbers) R (next setting) (next setting)) :
    Mirrors (I numbers) R (do next (← Setting.named? (← get).heap connection key))
      (do next (← Setting.named? (← get).heap connection key)) := by
  refine hI.mirrors_bindHeap (f := fun heap => do next (← Setting.named? heap connection key))
    (fun _ => rfl) fun heap _ => ?_
  refine Mirrors.bind (Mirrors.lift
    (R := fun a b => a = b ∧ a ∈ Setting.all ∧ key.asText?.getD "" = a.name) _ fun setting hnamed =>
      ⟨rfl, Setting.named?_eq_ok hnamed⟩) ?_
  rintro setting _ ⟨rfl, hsetting, hname⟩
  exact h hsetting hname

theorem mirrors_examined {setting : Setting} (hsetting : setting ∈ Setting.all) (v : Value) :
    Mirrors (I numbers) Eq (inHeap (examined setting v) : Action E SettingValue) (inHeap (examined setting v)) :=
  hI.mirrors_goingThrough fun h => keeps_examined hsetting v h

/-! ## Statements -/

theorem mirrors_quote (identifier : Value) :
    Mirrors (I numbers) Eq (quote connection identifier : Action E String) (quote connection identifier) :=
  (hI.common numbers).mirrors_quote
    (Heap.mirrors_same (Heap.keeps_suits_of_drains fun h => Heap.keeps_identifier h identifier))

theorem mirrors_send {d : Driver} (hd : own d) (sql params : Value) :
    Mirrors (I numbers) Eq (send d sql params : Action E Statement) (send d sql params) := by
  refine Mirrors.bindEq (hI.mirrors_goingThrough fun h => keeps_prepare h d.kind sql params) fun prepared => ?_
  refine Mirrors.bindEq (hI.executes _ _ hd) fun reply => ?_
  have hlast : Mirrors (I numbers) (fun _ _ => True)
      (change fun s => { s with
        lastRowIds := (d.link, reply.lastRowId) :: s.lastRowIds.filter (·.1 != d.link) } : Action E Unit)
      (change fun s => { s with
        lastRowIds := (d.link, reply.lastRowId) :: s.lastRowIds.filter (·.1 != d.link) }) :=
    IsCommon.mirrors_change fun _ _ hw => hI.withLastRowId reply.lastRowId hd hw
  generalize d.kind = kind
  cases kind with
  | native name => exact Mirrors.pure rfl
  | sqlite => exact Mirrors.bind hlast fun _ _ _ => Mirrors.pure rfl
  | toolkit name style => exact Mirrors.bind hlast fun _ _ _ => Mirrors.pure rfl

theorem mirrors_logQuery (sql params : Value) :
    Mirrors (I numbers) Eq (logQuery connection sql params : Action E Unit) (logQuery connection sql params) := by
  refine (hI.common numbers).mirrors_bindSettings (fun _ => rfl) (fun _ => rfl) fun settings => ?_
  split
  · refine Mirrors.bind (R := Eq)
      (Mirrors.bind (hI.common numbers).mirrors_driver fun _ _ _ => Mirrors.pure rfl) fun _ _ _ => ?_
    refine Mirrors.bindEq (hI.mirrors_goingThrough fun h => keeps_forDisplay h sql params) fun text => ?_
    refine Mirrors.bind (IsCommon.mirrors_change fun _ _ hw => hI.withLog text hw) fun _ _ _ => ?_
    split
    · exact Mirrors.bindEq (hI.logs _ _) fun _ => Mirrors.pure rfl
    · exact Mirrors.pure rfl
  · exact Mirrors.pure rfl

theorem mirrors_execute (sql params : Value) :
    Mirrors (I numbers) Eq (execute connection sql params : Action E Statement) (execute connection sql params) := by
  refine Mirrors.bind (hI.common numbers).mirrors_driver ?_
  rintro d _ ⟨rfl, hd⟩
  refine Mirrors.bindEq (hI.mirrors_send hd sql params) fun statement => ?_
  refine Mirrors.bind (IsCommon.mirrors_change fun _ _ hw => hI.withLastStatement statement hw) fun _ _ _ => ?_
  exact Mirrors.bindEq (hI.mirrors_logQuery sql params) fun _ => Mirrors.pure rfl

theorem mirrors_fetch (statement : Statement) (count : Option Nat) :
    Mirrors (I numbers) Eq (fetch statement count : Action E (List Value)) (fetch statement count) := by
  unfold fetch
  split
  · exact Mirrors.pure rfl
  · exact hI.fetches _ _
  · refine Mirrors.bindEq (hI.fetches _ _) fun arrived => ?_
    refine Mirrors.mapM_same fun row _ => ?_
    exact Mirrors.bindEq (hI.mirrors_goingThrough fun h => Heap.keeps_items h row) fun items => Mirrors.pure rfl

theorem mirrors_fetchRow (statement : Statement) :
    Mirrors (I numbers) Eq (fetchRow statement : Action E (Option Value)) (fetchRow statement) :=
  Mirrors.bindEq (hI.mirrors_fetch statement _) fun _ => Mirrors.pure rfl

theorem mirrors_lastInsertId {d : Driver} (hd : own d) :
    Mirrors (I numbers) Eq (lastInsertId d : Action E Value) (lastInsertId d) := by
  unfold lastInsertId
  split
  · exact hI.inserts hd
  · exact IsCommon.mirrors_bindCurrent fun w w' hw => Mirrors.pure (hI.sameLastRowId hd hw)

theorem mirrors_readFresh (sql params : Value) :
    Mirrors (I numbers) Eq (readFresh connection sql params : Action E (List Value))
      (readFresh connection sql params) :=
  Mirrors.bindEq (hI.mirrors_execute sql params) fun statement => hI.mirrors_fetch statement none

theorem mirrors_copyOfRows (rows : List Value) :
    Mirrors (I numbers) Eq (rows.mapM copyOfRow : Action E (List Value)) (rows.mapM copyOfRow) :=
  Mirrors.mapM_same fun row _ =>
    Mirrors.bindEq (hI.mirrors_goingThrough fun h => Heap.keeps_row h row) fun _ => Mirrors.pure rfl

/-- Rows that were found in a cache. -/
theorem mirrors_found (found : Value) :
    Mirrors (I numbers) Eq
      (inHeap (Heap.forItems found fun row => do return .map (← Heap.row row)) : Action E (List Value))
      (inHeap (Heap.forItems found fun row => do return .map (← Heap.row row))) :=
  hI.mirrors_goingThrough fun h =>
    Heap.keeps_forItems h _ fun row => Keeps.bind (Heap.keeps_row h row) fun _ => Keeps.pure _

end IsPairing

end Connection

end FluentSql
