import FluentSql.Proofs.Connection.Sources
/-
# FluentSql.Proofs.Connection.Replacing — whose rows are read when drivers are replaced.

What is kept of reads belongs to the name of a connection. It goes when the connection is cleared, and stays when its
driver is replaced or forgotten. So the rows that a read gives come from the driver that is registered then exactly if
no other driver has answered a read like it since the connection was cleared (`comes_from_registered_iff`). If one has,
the read gives the rows of that answer, and no driver is asked.

The runs that lead there may do anything else (`LeadTo`). Their invariant says that the store keeps the answers since
the last clearing, and that no read was answered twice since (`Accounts`).
-/

namespace FluentSql

open Step (Keeps Triple perform_bind_ok)

namespace Connection

open Session (CachesReads)

/-! ## Deeds -/

/-- What was done to what is kept of reads. -/
inductive Deed where
  /-- A driver answered a read; these are copies of the rows that it handed out. -/
  | answered (read : Read) (d : Driver) (copies : List Row)
  | cleared (connection : String)

namespace Deed

/-- What is seen of a deed, whichever driver it was. -/
def event : Deed → Event
  | answered read _ copies => .read read true copies
  | cleared connection => .clear connection

/-- The deed of a read that was asked for, if a driver answered it. -/
def ofRead? : Option (Read × Heap) → Except Failure (Source × List Value) → Option Deed
  | some (read, _), .ok (.driver d copies, _) => some (.answered read d copies)
  | _, _ => none

end Deed

/-- The driver answered a read like this one, and its connection was not cleared since. -/
def AnsweredSinceClear (read : Read) (d : Driver) (copies : List Row) (deeds : List Deed) : Prop :=
  ∃ before other since, deeds = before ++ .answered other d copies :: since ∧ other.IsLike read ∧
    .cleared read.connection ∉ since

/-- The worlds that are reached by reading and clearing connections that cache their reads, by registering, replacing and
forgetting drivers, and by anything else that leaves alone what is kept of reads; with the deeds that led there. -/
inductive LeadTo {E : Environment} : List Deed → World E.State → Prop
  | start {w : World E.State} (h : w.session.memory = []) : LeadTo [] w
  | read {w : World E.State} {deeds : List Deed} (h : LeadTo deeds w) {connection : String}
      (hcaches : w.session.CachesReads connection) (sql params table : Value) :
      LeadTo (deeds ++ (Deed.ofRead? (reading? connection sql params w.heap)
          ((readFrom connection sql params table : Action E (Source × List Value)).perform w).1).toList)
        ((Connection.read connection sql params table : Action E (List Value)).perform w).2
  | clear {w : World E.State} {deeds : List Deed} (h : LeadTo deeds w) {connection : String}
      (hcaches : w.session.CachesReads connection) (table : Value) :
      LeadTo (deeds ++ [.cleared connection]) ((clearCache table connection : Action E Unit).perform w).2
  | setDriver {w : World E.State} {deeds : List Deed} (h : LeadTo deeds w) (connection : String) (d : Driver) :
      LeadTo deeds ((registerDriver connection d : Action E Unit).perform w).2
  | forgetDriver {w : World E.State} {deeds : List Deed} (h : LeadTo deeds w) (connection : String) :
      LeadTo deeds ((forgetDriver connection : Action E Unit).perform w).2
  | resetDrivers {w : World E.State} {deeds : List Deed} (h : LeadTo deeds w) :
      LeadTo deeds ((Session.resetDrivers : Action E Unit).perform w).2
  | other {w w' : World E.State} {deeds : List Deed} (h : LeadTo deeds w)
      (hkept : w'.session.memory = w.session.memory) : LeadTo deeds w'

/-- The rows of a read come from a driver: it handed them out now, or they are its answer to a read like this one. -/
def ComesFrom (d : Driver) (read : Read) (rows : List Value) (deeds : List Deed) : Source → Prop
  | .driver given _ => given = d
  | .cache => ∃ copies, rows = copies.map .map ∧ AnsweredSinceClear read d copies deeds

/-! ## The deeds since a clearing -/

section

variable {read : Read} {d : Driver} {copies : List Row} {deeds : List Deed}

theorem not_answeredSinceClear_nil : ¬AnsweredSinceClear read d copies [] := by
  rintro ⟨before, other, since, hsplit, -⟩
  simp at hsplit

/-- One more deed either is such an answer, or leaves the earlier ones if it is no clearing. -/
theorem answeredSinceClear_concat (deed : Deed) :
    AnsweredSinceClear read d copies (deeds ++ [deed]) ↔
      (∃ other, deed = .answered other d copies ∧ other.IsLike read) ∨
        deed ≠ .cleared read.connection ∧ AnsweredSinceClear read d copies deeds :=
  exists_since_concat (Deed.answered · d copies) (·.IsLike read) (.cleared read.connection) deeds deed

/-- A read was executed since exactly if some driver answered it since. -/
theorem executedSinceClear_iff :
    ExecutedSinceClear read copies (deeds.map Deed.event) ↔ ∃ d, AnsweredSinceClear read d copies deeds := by
  constructor
  · rintro ⟨_, other, _, hsplit, hlike, hclear⟩
    obtain ⟨before, rest, rfl, -, hrest⟩ := List.map_eq_append_iff.1 hsplit
    obtain ⟨deed, since, rfl, hdeed, rfl⟩ := List.map_eq_cons_iff.1 hrest
    have hnone : Deed.cleared read.connection ∉ since := fun hmem => hclear (List.mem_map_of_mem hmem)
    cases deed with
    | answered _ d _ =>
        cases hdeed
        exact ⟨d, before, other, since, rfl, hlike, hnone⟩
    | cleared _ => cases hdeed
  · rintro ⟨d, before, other, since, rfl, hlike, hclear⟩
    refine ⟨before.map Deed.event, other, since.map Deed.event, by simp [Deed.event], hlike, fun hmem => hclear ?_⟩
    obtain ⟨deed, hdeed, hevent⟩ := List.mem_map.1 hmem
    cases deed with
    | answered _ _ _ => cases hevent
    | cleared _ =>
        cases hevent
        exact hdeed

end

/-! ## The invariant -/

/-- What is kept of reads are the answers since the last clearing, and no read was answered by two drivers since. -/
structure Accounts (digest : String → String) (deeds : List Deed) (s : Session) : Prop
    extends Remembers digest (deeds.map Deed.event) s where
  unique : ∀ read d d' copies copies', AnsweredSinceClear read d copies deeds →
    AnsweredSinceClear read d' copies' deeds → d = d'

section

variable {E : Environment} {s s' : Session} {w : World E.State} {deeds : List Deed} {connection : String}

theorem Accounts.of_memory {digest : String → String} (h : Accounts digest deeds s) (hmemory : s'.memory = s.memory) :
    Accounts digest deeds s' :=
  ⟨h.toRemembers.of_memory hmemory, h.unique⟩

/-- Something is kept of a read exactly if a driver has answered it since the last clearing. -/
theorem Accounts.kept_iff {digest : String → String} (h : Accounts digest deeds s) (read : Read) (v : Value) :
    s.memory.get? (read.key digest) (.text read.connection) = some v ↔
      ∃ copies : List Row, v = .list (copies.map .map) ∧ ∃ d, AnsweredSinceClear read d copies deeds := by
  rw [h.kept]
  simp only [executedSinceClear_iff]

theorem Accounts.cleared {digest : String → String} (h : Accounts digest deeds s) (connection : String) :
    Accounts digest (deeds ++ [.cleared connection]) { s with memory := s.memory.clear (.text connection) } := by
  refine ⟨?_, fun read d d' copies copies' hanswered hanswered' => ?_⟩
  · rw [List.map_append]
    exact h.toRemembers.cleared connection
  · rcases (answeredSinceClear_concat _).1 hanswered with ⟨_, hdeed, -⟩ | ⟨-, hold⟩
    · cases hdeed
    rcases (answeredSinceClear_concat _).1 hanswered' with ⟨_, hdeed, -⟩ | ⟨-, hold'⟩
    · cases hdeed
    exact h.unique _ _ _ _ _ hold hold'

theorem Accounts.answered {digest : String → String} (hdigest : Function.Injective digest) (h : Accounts digest deeds s)
    {read : Read} (hnew : s.memory.get? (read.key digest) (.text read.connection) = none) (d : Driver)
    (copies : List Row) :
    Accounts digest (deeds ++ [.answered read d copies])
      (s.keeping (read.key digest) (.list (copies.map .map)) read.connection) := by
  refine ⟨?_, fun other d₁ d₂ rows₁ rows₂ hanswered₁ hanswered₂ => ?_⟩
  · rw [List.map_append]
    exact h.toRemembers.executed hdigest hnew copies
  · -- A read like the new one was not answered before it.
    have hnever : read.IsLike other → ∀ d rows, ¬AnsweredSinceClear other d rows deeds := by
      intro hlike d rows hanswered
      obtain ⟨hconnection, hkey⟩ := (isLike_iff_key_eq hdigest read other).1 hlike
      have hsome := (h.kept_iff other _).2 ⟨rows, rfl, d, hanswered⟩
      rw [← hkey, ← hconnection, hnew] at hsome
      cases hsome
    rcases (answeredSinceClear_concat _).1 hanswered₁ with ⟨_, hdeed, hlike⟩ | ⟨-, hold₁⟩
    · cases hdeed
      rcases (answeredSinceClear_concat _).1 hanswered₂ with ⟨_, hdeed, -⟩ | ⟨-, hold₂⟩
      · cases hdeed
        rfl
      · exact absurd hold₂ (hnever hlike _ _)
    · rcases (answeredSinceClear_concat _).1 hanswered₂ with ⟨_, hdeed, hlike⟩ | ⟨-, hold₂⟩
      · cases hdeed
        exact absurd hold₁ (hnever hlike _ _)
      · exact h.unique _ _ _ _ _ hold₁ hold₂

/-! ## Runs -/

variable (hspares : E.SparesSessions)
include hspares

/-- A read that is not kept fails and keeps nothing, or is answered by the driver that is registered then, and kept. -/
theorem readFrom_of_new {sql params : Value} {r : Read} {h : Heap}
    (hreading : reading? connection sql params w.heap = some (r, h)) (table : Value)
    (hnew : w.session.memory.get? (r.key E.digest) (.text connection) = none)
    {result : Except Failure (Source × List Value)} {w' : World E.State}
    (hrun : (readFrom connection sql params table).perform w = (result, w')) :
    (∃ failure, result = .error failure ∧ w'.session.memory = w.session.memory) ∨
      ∃ d copies rows, result = .ok (.driver d copies, rows) ∧ Entries.get? connection w'.session.drivers = some d ∧
        w'.session.memory =
          (w.session.keeping (r.key E.digest) (.list (copies.map .map)) connection).memory := by
  have hanswers : (answerAndKeep connection sql params table (r.key E.digest)).perform { w with heap := h } = (result, w') := by
    rw [← hrun, perform_readFrom hreading, hnew]
    rfl
  have hrule := triple_answerAndKeep hspares connection w.session.memory sql params table
    (Cache.key E.digest r.sql r.params) { w with heap := h } rfl
  rw [show Value.text _ = r.key E.digest from rfl, hanswers] at hrule
  cases result with
  | error failure => exact .inl ⟨failure, rfl, hrule⟩
  | ok given =>
      obtain ⟨source, rows⟩ := given
      obtain ⟨d, copies, rfl, hd, hmemory⟩ := hrule
      exact .inr ⟨d, copies, rows, rfl, hd, hmemory⟩

variable (hdigest : Function.Injective E.digest)
include hdigest

/-- What was answered is accounted for after a read as it was before. -/
theorem Accounts.read (h : Accounts E.digest deeds w.session) (hcaches : w.session.CachesReads connection)
    (sql params table : Value) :
    Accounts E.digest
      (deeds ++ (Deed.ofRead? (reading? connection sql params w.heap)
        ((readFrom connection sql params table : Action E (Source × List Value)).perform w).1).toList)
      ((Connection.read connection sql params table : Action E (List Value)).perform w).2.session := by
  rw [perform_read_eq hcaches]
  rcases hrun : (readFrom connection sql params table : Action E (Source × List Value)).perform w with ⟨result, w'⟩
  show Accounts E.digest _ w'.session
  cases hreading : reading? connection sql params w.heap with
  | none =>
      obtain ⟨failure, heap, hfails⟩ := perform_readFrom_of_not_reading? hreading table
      cases hrun.symm.trans hfails
      simpa [Deed.ofRead?] using h
  | some found =>
      obtain ⟨r, heap⟩ := found
      have hconnection := connection_of_reading? hreading
      subst hconnection
      cases hkept : w.session.memory.get? (r.key E.digest) (.text r.connection) with
      | some v =>
          obtain ⟨copies, rfl, -⟩ := (h.kept_iff r v).1 hkept
          cases hrun.symm.trans (readFrom_of_kept hreading table hkept)
          simpa [Deed.ofRead?] using h
      | none =>
          rcases readFrom_of_new hspares hreading table hkept hrun with ⟨failure, rfl, hmemory⟩ |
            ⟨d, copies, rows, rfl, -, hmemory⟩
          · have hsame := h.of_memory hmemory
            simpa [Deed.ofRead?] using hsame
          · exact (h.answered hdigest hkept d copies).of_memory hmemory

/-- **The store accounts for all deeds**, whatever else was done. -/
theorem LeadTo.accounts (h : LeadTo deeds w) : Accounts E.digest deeds w.session := by
  induction h with
  | start h =>
      exact ⟨Remembers.nil E.digest h, fun _ _ _ _ _ hanswered => absurd hanswered not_answeredSinceClear_nil⟩
  | read _ hcaches sql params table ih => exact ih.read hspares hdigest hcaches sql params table
  | clear _ hcaches table ih =>
      rw [perform_clearCache hcaches]
      exact ih.cleared _
  | setDriver _ connection d ih =>
      rw [leaves_registerDriver]
      refine ih.of_memory ?_
      show (Session.registered _ _ _).memory = _
      unfold Session.registered
      split <;> rfl
  | forgetDriver _ _ ih => exact ih.of_memory rfl
  | resetDrivers _ ih => exact ih.of_memory rfl
  | other _ hkept ih => exact ih.of_memory hkept

/-- **Whose rows are read.** After any run, the rows that a read gives come from the driver that is registered for the
connection exactly if every driver that answered a read like it since the connection was cleared is that one; they
come from some driver anyway. If a driver has answered one, the rows of that answer are given, whatever driver is
registered by now. -/
theorem comes_from_registered_iff (h : LeadTo deeds w) (hcaches : w.session.CachesReads connection) {sql params : Value}
    {r : Read} {heap : Heap} (hreading : reading? connection sql params w.heap = some (r, heap)) (table : Value) :
    (∀ rows w', (Connection.read connection sql params table : Action E (List Value)).perform w = (.ok rows, w') →
      ∃ source, (readFrom connection sql params table).perform w = (.ok (source, rows), w') ∧
        (∃ d, ComesFrom d r rows deeds source) ∧
        ((∃ d, Entries.get? connection w'.session.drivers = some d ∧ ComesFrom d r rows deeds source) ↔
          ∀ d copies, AnsweredSinceClear r d copies deeds → Entries.get? connection w'.session.drivers = some d)) ∧
    ∀ d copies, AnsweredSinceClear r d copies deeds →
      (Connection.read connection sql params table : Action E (List Value)).perform w =
        (.ok (copies.map .map), { w with heap := heap }) := by
  have haccounts := h.accounts hspares hdigest
  have hconnection := connection_of_reading? hreading
  subst hconnection
  refine ⟨fun rows w' hread => ?_, fun d copies hanswered => ?_⟩
  · rw [perform_read_eq hcaches] at hread
    rcases hrun : (readFrom r.connection sql params table : Action E (Source × List Value)).perform w with ⟨result, w''⟩
    rw [hrun] at hread
    cases hkept : w.session.memory.get? (r.key E.digest) (.text r.connection) with
    | some v =>
        obtain ⟨copies, rfl, d, hanswered⟩ := (haccounts.kept_iff r v).1 hkept
        cases hrun.symm.trans (readFrom_of_kept hreading table hkept)
        cases hread
        refine ⟨.cache, rfl, ⟨d, copies, rfl, hanswered⟩, ?_⟩
        constructor
        · rintro ⟨given, hgiven, _, -, hold⟩ other _ hother
          rw [haccounts.unique _ _ _ _ _ hother hold]
          exact hgiven
        · exact fun hall => ⟨d, hall d copies hanswered, copies, rfl, hanswered⟩
    | none =>
        rcases readFrom_of_new hspares hreading table hkept hrun with ⟨failure, rfl, -⟩ |
          ⟨d, copies, given, rfl, hd, -⟩
        · cases hread
        · cases hread
          refine ⟨.driver d copies, rfl, ⟨d, rfl⟩, ?_⟩
          constructor
          · rintro - other copies' hanswered
            -- Nothing is kept, so nothing like this read was answered.
            have hsome := (haccounts.kept_iff r _).2 ⟨copies', rfl, other, hanswered⟩
            rw [hkept] at hsome
            cases hsome
          · exact fun _ => ⟨d, hd, rfl⟩
  · have hkept := (haccounts.kept_iff r _).2 ⟨copies, rfl, d, hanswered⟩
    rw [perform_read_eq hcaches, readFrom_of_kept hreading table hkept]
    rfl

end

/-! ## A driver that is replaced -/

/-- A connection that caches its reads, with its first driver. Outside, statements are numbered. -/
def cachingDesk : World numbering.State where
  session :=
    { settings := [("main", { caching := true })]
      drivers := [("main", ⟨.native "mysql", ⟨1⟩⟩)] }
  outside := (10 : Nat)

/-- What is read there. -/
def deskReading : Read := ⟨"main", "SELECT 1", .positional []⟩

/-- Reads on the connection. -/
def readDesk : Action numbering (List Value) := read "main" (.text "SELECT 1") (.list []) .null

/-- The desk after a read, with another driver. -/
def replacedDesk : World numbering.State :=
  ((registerDriver "main" ⟨.native "mysql", ⟨2⟩⟩ : Action numbering Unit).perform (readDesk.perform cachingDesk).2).2

/-- The deeds that led there: the first driver has answered. -/
def deskDeeds : List Deed := [.answered deskReading ⟨.native "mysql", ⟨1⟩⟩ [[(.text "statement", .int 10)]]]

theorem leadTo_replacedDesk : LeadTo deskDeeds replacedDesk := by
  have hstart : LeadTo [] cachingDesk := .start rfl
  have hcaches : cachingDesk.session.CachesReads "main" := ⟨rfl, rfl, rfl⟩
  have hread : LeadTo deskDeeds (readDesk.perform cachingDesk).2 :=
    hstart.read hcaches (.text "SELECT 1") (.list []) .null
  exact hread.setDriver "main" _

/-- A read after the driver was replaced gives the rows of the earlier driver, and they do not come from the one that is
registered. -/
theorem not_comesFrom_registered_of_swap :
    LeadTo deskDeeds replacedDesk ∧ replacedDesk.session.CachesReads "main" ∧
      Entries.get? "main" replacedDesk.session.drivers = some ⟨.native "mysql", ⟨2⟩⟩ ∧
      readDesk.perform replacedDesk = (.ok [.map [(.text "statement", .int 10)]], replacedDesk) ∧
      ∀ source rows w', (readFrom "main" (.text "SELECT 1") (.list []) .null).perform replacedDesk =
          (.ok (source, rows), w') →
        ¬ComesFrom ⟨.native "mysql", ⟨2⟩⟩ deskReading rows deskDeeds source := by
  refine ⟨leadTo_replacedDesk, ⟨rfl, rfl, rfl⟩, rfl, rfl, fun source rows w' hrun => ?_⟩
  have hcache : (readFrom "main" (.text "SELECT 1") (.list []) .null : Action numbering _).perform replacedDesk =
      (.ok (.cache, [.map [(.text "statement", .int 10)]]), replacedDesk) := rfl
  cases hcache.symm.trans hrun
  rintro ⟨copies, -, hanswered⟩
  rw [deskDeeds, ← List.nil_append [_], answeredSinceClear_concat] at hanswered
  rcases hanswered with ⟨_, hdeed, -⟩ | ⟨-, hold⟩
  · cases hdeed
  · exact not_answeredSinceClear_nil hold

/-- Once the connection was cleared, it is the driver that is registered whose rows are read. -/
theorem comes_from_registered_iff_clearedDesk :
    let clearing : Action numbering Unit := clearCache .null "main"
    ∃ rows w' source, readDesk.perform (clearing.perform replacedDesk).2 = (.ok rows, w') ∧
      (readFrom "main" (.text "SELECT 1") (.list []) .null).perform (clearing.perform replacedDesk).2 =
        (.ok (source, rows), w') ∧
      ∃ d, Entries.get? "main" w'.session.drivers = some d ∧
        ComesFrom d deskReading rows (deskDeeds ++ [.cleared "main"]) source := by
  intro clearing
  have hcaches : replacedDesk.session.CachesReads "main" := ⟨rfl, rfl, rfl⟩
  have hdeeds : LeadTo (deskDeeds ++ [.cleared "main"]) (clearing.perform replacedDesk).2 :=
    leadTo_replacedDesk.clear hcaches .null
  have hreading : reading? "main" (.text "SELECT 1") (.list []) (clearing.perform replacedDesk).2.heap =
      some (deskReading, {}) := rfl
  have hrows : (readDesk.perform (clearing.perform replacedDesk).2).1 = .ok [.map [(.text "statement", .int 11)]] := rfl
  have hagain : (clearing.perform replacedDesk).2.session.CachesReads "main" := ⟨rfl, rfl, rfl⟩
  generalize (clearing.perform replacedDesk).2 = w at hdeeds hreading hrows hagain ⊢
  rcases hread : readDesk.perform w with ⟨_, w'⟩
  obtain rfl : _ = Except.ok _ := (congrArg Prod.fst hread).symm.trans hrows
  obtain ⟨source, hrun, -, hiff⟩ := (comes_from_registered_iff (fun _ _ _ => rfl) (fun _ _ h => h) hdeeds hagain
    hreading .null).1 _ _ hread
  refine ⟨_, w', source, rfl, hrun, hiff.2 fun d copies hanswered => ?_⟩
  -- The clearing was the last that was done.
  rcases (answeredSinceClear_concat _).1 hanswered with ⟨_, hdeed, -⟩ | ⟨hne, -⟩
  · cases hdeed
  · exact absurd rfl hne

end Connection

end FluentSql
