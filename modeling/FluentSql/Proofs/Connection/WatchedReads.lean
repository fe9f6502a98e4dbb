import FluentSql.Proofs.Connection.CachedReads
import FluentSql.Proofs.Connection.Steps
/-
# FluentSql.Proofs.Connection.WatchedReads — reads that are executed, under watch.

An outside is watched by listing the links over which statements are sent. A read that is executed
sends its statement over the link of its connection, and changes nothing of what is kept of reads, provided that
the functions of the caller leave the session alone (`triple_readFresh`).
-/

namespace FluentSql

open Step (Keeps Triple perform_bind_ok)

/-! ## Watching an outside -/

namespace Environment

/-- An outside with a list of the links over which statements are sent. -/
def watched (E : Environment) : Environment where
  State := E.State × List Link
  digest := E.digest
  connect opening s := ((E.connect opening s.1).1, (E.connect opening s.1).2, s.2)
  execute link text params s :=
    ((E.execute link text params s.1).1, (E.execute link text params s.1).2, s.2 ++ [link])
  fetch cursor count s := ((E.fetch cursor count s.1).1, (E.fetch cursor count s.1).2, s.2)
  insertId link s := ((E.insertId link s.1).1, (E.insertId link s.1).2, s.2)
  call hook call :=
    Step.onPart (fun w : World (E.State × List Link) => ⟨w.session, w.heap, w.outside.1⟩)
      (fun u w => ⟨u.session, u.heap, u.outside, w.outside.2⟩) (E.call hook call)

/-- The functions of the caller leave the session alone. -/
def SparesSessions (E : Environment) : Prop :=
  ∀ hook call w, ((E.call hook call).perform w).2.session = w.session

end Environment

namespace Connection

open Session (KeepsReads current change inHeap outside callHook)

variable {E : Environment} {connection : String} {s : Session} {α : Type}

/-! ## Executing a read -/

/-- Nothing was done since a session that touches what is kept of reads, and the connection has the
driver. -/
structure HasDriver (s : Session) (connection : String) (d : Driver) (w : World E.watched.State) : Prop where
  keepsReads : s.KeepsReads w.session
  driver : Entries.get? connection w.session.drivers = some d

/-- A statement was sent over the link of the driver since. -/
structure HasSent (s : Session) (connection : String) (d : Driver) (w : World E.watched.State) : Prop
    extends HasDriver s connection d w where
  sent : d.link ∈ w.outside.2

theorem keepsReads_putSettings {s' : Session} (h : s.KeepsReads s') {written : Settings}
    (hwritten : ∃ mark style,
      written = { s'.settingsOf connection with quoteMark := mark, limitStyle := style }) :
    s.KeepsReads { s' with settings := Entries.put connection written s'.settings } := by
  refine h.trans ⟨rfl, rfl, fun other => ?_⟩
  by_cases hother : other = connection
  · subst hother
    obtain ⟨mark, style, rfl⟩ := hwritten
    exact ⟨mark, style, by simp [Session.settingsOf]⟩
  · have hne : (other == connection) = false := beq_eq_false_iff_ne.2 hother
    have heq : ({ s' with settings := Entries.put connection written s'.settings } : Session).settingsOf
        other = s'.settingsOf other := by
      simp [Session.settingsOf, Entries.get?_put_of_ne hne]
    exact ⟨_, _, heq⟩

/-- A driver that is registered is the one of the connection. -/
theorem triple_registerDriver (d : Driver) :
    Triple (fun w => s.KeepsReads w.session) (registerDriver connection d : Action E.watched Unit)
      (fun _ => HasDriver s connection d) fun w => s.KeepsReads w.session := by
  -- The driver is there before a dialect is made for it, and stays.
  refine Triple.bind (R := fun _ => HasDriver s connection d)
    (Session.triple_change fun w hw => ⟨⟨hw.memory, hw.chosenStores, hw.settings⟩, by simp⟩) fun _ => ?_
  refine Triple.bind (R := fun _ => HasDriver s connection d) ?_ fun made => ?_
  · refine Session.triple_bindCurrent fun _ hw => ?_
    refine Triple.pre (P := HasDriver s connection d) ?_ fun _ h => h ▸ hw
    refine Triple.bind (R := fun _ => HasDriver s connection d)
      (Triple.lift (fun _ _ _ h => h) fun _ _ _ h => h.keepsReads) fun dialect => ?_
    refine Triple.bind (R := fun _ => HasDriver s connection d) (Session.triple_change ?_) fun _ =>
      Triple.pure fun _ h => h
    exact fun _ h => ⟨⟨h.keepsReads.memory, h.keepsReads.chosenStores, h.keepsReads.settings⟩, h.driver⟩
  · refine triple_bindSettings fun w hw => ?_
    refine Session.triple_change ?_
    rintro _ rfl
    exact ⟨keepsReads_putSettings hw.keepsReads ⟨_, _, rfl⟩, hw.driver⟩

theorem triple_driver :
    Triple (fun w => s.KeepsReads w.session) (driver connection : Action E.watched Driver)
      (fun d => HasDriver s connection d) fun w => s.KeepsReads w.session := by
  refine Session.triple_bindCurrent fun w hw => ?_
  split
  · rename_i d hd
    refine Triple.pure ?_
    rintro _ rfl
    exact ⟨hw, hd⟩
  · refine Triple.pre (P := fun w => s.KeepsReads w.session) ?_ fun _ h => h ▸ hw
    refine triple_bindSettings fun w hw => ?_
    refine Triple.pre (P := fun w => s.KeepsReads w.session) ?_ fun _ h => h ▸ hw
    refine Triple.bind (R := fun _ w => s.KeepsReads w.session)
      (Session.triple_outside (fun _ _ _ h _ => h) fun _ _ _ h _ => h) fun opened => ?_
    exact Triple.bind (triple_registerDriver _) fun _ => Triple.pure fun _ h => h

/-- A change that touches neither what is kept of reads nor the drivers. -/
theorem keeps_change {d : Driver} {f : Session → Session} (hf : ∀ s : Session, s.KeepsReads (f s))
    (hdrivers : ∀ s : Session, (f s).drivers = s.drivers) :
    Keeps (HasSent s connection d) (change f : Action E.watched Unit) :=
  Session.triple_change fun _ h =>
    ⟨⟨h.keepsReads.trans (hf _), (congrArg _ (hdrivers _)).trans h.driver⟩, h.sent⟩

theorem triple_send (d : Driver) (sql params : Value) :
    Triple (HasDriver s connection d) (send d sql params : Action E.watched Statement)
      (fun _ => HasSent s connection d) fun w => s.KeepsReads w.session := by
  have hprepare : Keeps (HasDriver s connection d)
      (inHeap (prepare d.kind sql params) : Action E.watched (Value × Option Value)) :=
    Session.keeps_inHeap_any (fun _ h => ⟨h.keepsReads, h.driver⟩) _
  refine Triple.bind (hprepare.consequence (fun _ h => h) (fun _ _ h => h) fun _ h => h.keepsReads)
    fun prepared => ?_
  obtain ⟨text, sent⟩ := prepared
  refine Triple.bind (R := fun _ => HasSent s connection d) (Session.triple_outside ?_ ?_) fun reply => ?_
  · intro w reply o hw hrun
    refine ⟨⟨hw.keepsReads, hw.driver⟩, ?_⟩
    have hlog : o.2 = w.outside.2 ++ [d.link] := (congrArg (fun done => done.2.2) hrun).symm
    simp [hlog]
  · exact fun _ _ _ hw _ => hw.keepsReads
  · have hchange : ∀ ids : Session → List (Link × Value), Triple (HasSent s connection d)
        (change fun s => { s with lastRowIds := ids s } : Action E.watched Unit)
        (fun _ => HasSent s connection d) fun w => s.KeepsReads w.session :=
      fun _ => Session.triple_change fun _ h =>
        ⟨⟨⟨h.keepsReads.memory, h.keepsReads.chosenStores, h.keepsReads.settings⟩, h.driver⟩, h.sent⟩
    generalize d.kind = kind
    cases kind with
    | native name => exact Triple.pure fun _ h => h
    | sqlite => exact Triple.bind (hchange _) fun _ => Triple.pure fun _ h => h
    | toolkit name style => exact Triple.bind (hchange _) fun _ => Triple.pure fun _ h => h

section

variable {d : Driver}

theorem ignoresStreams_hasSent : IgnoresStreams (E := E.watched) (HasSent s connection d) :=
  fun _ _ _ h => ⟨⟨h.keepsReads, h.driver⟩, h.sent⟩

theorem keeps_fetchAll (statement : Statement) :
    Keeps (HasSent s connection d) (fetchAll statement : Action E.watched (List Value)) := by
  have hfetch : Keeps (HasSent s connection d)
      (outside (E.watched.fetch statement.cursor none) : Action E.watched (List Value)) := by
    have hstep : ∀ (w : World E.watched.State) (result : Except Failure (List Value)) (o : E.watched.State),
        HasSent s connection d w → E.watched.fetch statement.cursor none w.outside = (result, o) →
        HasSent s connection d { w with outside := o } := by
      intro w result o hw hrun
      have hlog : o.2 = w.outside.2 := (congrArg (fun done => done.2.2) hrun).symm
      exact ⟨⟨hw.keepsReads, hw.driver⟩, hlog ▸ hw.sent⟩
    exact Session.triple_outside (fun w _ o hw hrun => hstep w _ o hw hrun)
      fun w _ o hw hrun => hstep w _ o hw hrun
  exact ignoresStreams_hasSent.keeps_fetch_of hfetch

variable (hspares : E.SparesSessions)
include hspares

theorem keeps_logQuery (sql params : Value) :
    Keeps (HasSent s connection d) (logQuery connection sql params : Action E.watched Unit) := by
  have hdriver : Keeps (HasSent s connection d) (driver connection : Action E.watched Driver) := by
    refine Session.triple_bindCurrent fun w hw => ?_
    rw [hw.driver]
    exact Triple.pure fun _ h => h ▸ hw
  have hcall : ∀ hook call, Keeps (HasSent s connection d) (callHook hook call : Action E.watched Value) := by
    intro hook call w hw
    have hleft : HasSent s connection d ((callHook hook call : Action E.watched Value).perform w).2 := by
      have hsession := hspares hook call ⟨w.session, w.heap, w.outside.1⟩
      obtain ⟨⟨hkeeps, hdriver⟩, hsent⟩ := hw
      refine ⟨⟨?_, ?_⟩, hsent⟩
      · exact hsession.symm ▸ hkeeps
      · exact hsession.symm ▸ hdriver
    rcases hrun : (callHook hook call : Action E.watched Value).perform w with ⟨result, w'⟩
    rw [hrun] at hleft
    cases result <;> exact hleft
  exact ignoresStreams_hasSent.keeps_logQuery_of hdriver
    (fun _ => keeps_change (fun _ => ⟨rfl, rfl, fun _ => ⟨_, _, rfl⟩⟩) fun _ => rfl) (fun _ _ => hcall _ _) sql params

end

/-- Executing a read reaches the driver of its connection, and touches nothing that is kept of reads. -/
theorem triple_readFresh (hspares : E.SparesSessions) (sql params : Value) :
    Triple (fun w => s.KeepsReads w.session)
      (readFresh connection sql params : Action E.watched (List Value))
      (fun _ w => ∃ d, HasSent s connection d w) fun _ => True := by
  refine Triple.bind (R := fun _ w => ∃ d, HasSent s connection d w) ?_ fun statement => ?_
  · refine Triple.bind (triple_driver.consequence (fun _ h => h) (fun _ _ h => h) fun _ _ => trivial)
      fun d => ?_
    refine Triple.bind ((triple_send d sql params).consequence (fun _ h => h) (fun _ _ h => h)
      fun _ _ => trivial) fun statement => ?_
    have hlast : Keeps (HasSent s connection d)
        (change fun s => { s with lastStatement := some statement } : Action E.watched Unit) :=
      keeps_change (fun _ => ⟨rfl, rfl, fun _ => ⟨_, _, rfl⟩⟩) fun _ => rfl
    refine Triple.bind (hlast.consequence (fun _ h => h) (fun _ _ h => h) fun _ _ => trivial) fun _ => ?_
    refine Triple.bind ((keeps_logQuery hspares sql params).consequence (fun _ h => h) (fun _ _ h => h)
      fun _ _ => trivial) fun _ => ?_
    exact Triple.pure fun _ h => ⟨d, h⟩
  · rintro w ⟨d, hd⟩
    exact ((keeps_fetchAll statement).consequence (fun _ h => h) (fun _ _ h => ⟨d, h⟩)
      fun _ _ => trivial) w hd

end Connection

end FluentSql
