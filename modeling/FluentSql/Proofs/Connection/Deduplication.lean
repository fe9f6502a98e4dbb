import FluentSql.Proofs.Cache.KeyText
import FluentSql.Proofs.Connection.WatchedReads
import FluentSql.Proofs.Heap.Drains
/-
# FluentSql.Proofs.Connection.Deduplication — which reads reach their driver.

Reads and clearings come in any order, on any number of connections of one session with the built-in store.
A read reaches the driver of its connection exactly if no read of the same statement with parameters that
look alike was executed there since the connection was last cleared, and gives the rows of that read
otherwise (`reaches_driver_iff`). What is done on other connections does not matter.

What databases answer is left open, and so is what happens in the heap and outside between the turns. The
invariant of a run says that the store keeps the rows of exactly these reads (`Remembers`).
-/

namespace FluentSql

open Step (Keeps Triple perform_bind_ok)

namespace Connection

open Session (KeepsReads CachesReads inHeap)

/-! ## Turns and events -/

/-- What is asked of a connection. -/
inductive Asked where
  | read (sql : String) (params : Params) (table : Value)
  | clear (table : Value)

/-- A turn of a connection: what is asked of it, and the heap and the outside that it finds. -/
structure Turn (E : Environment) where
  connection : String
  asked : Asked
  heap : Heap
  outside : E.State

/-- A read of a connection: its statement and its parameters, with everything in place that they refer to. -/
structure Read where
  connection : String
  sql : String
  params : Params

/-- The reads are of the same statement of one connection, with parameters that look alike. -/
def Read.IsLike (read other : Read) : Prop :=
  read.connection = other.connection ∧ read.sql = other.sql ∧ read.params.LooksLike other.params

/-- What is seen of a turn. -/
inductive Event where
  /-- A read gave its rows, whether it reached the driver or not. -/
  | read (read : Read) (reached : Bool) (rows : List Row)
  | clear (connection : String)

/-- A statement was sent over the link of the driver of a connection. -/
def reached {E : Environment} (connection : String) (w : World E.watched.State) : Bool :=
  match Entries.get? connection w.session.drivers with
  | some d => decide (d.link ∈ w.outside.2)
  | none => false

/-- The read that is asked for in a turn. -/
def Turn.reading {E : Environment} (turn : Turn E) (sql : String) (params : Params) : Read :=
  ⟨turn.connection, sql, turn.heap.settleParams params⟩

/-- What is seen of a turn, and the session after it. Nothing is seen of a turn that fails, or whose rows are
no mappings. -/
def Turn.observe {E : Environment} (turn : Turn E) (s : Session) : Option (Event × Session) :=
  let w : World E.watched.State := ⟨s, turn.heap, turn.outside, []⟩
  match turn.asked with
  | .read sql params table =>
    match (Connection.read turn.connection (.text sql) params.toValue table :
        Action E.watched (List Value)).perform w with
    | (.ok rows, w) => do
      let rows ← rows.mapM w.heap.entries?
      return (.read (turn.reading sql params) (reached turn.connection w) rows, w.session)
    | (.error _, _) => none
  | .clear table =>
    match (clearCache table turn.connection : Action E.watched Unit).perform w with
    | (.ok _, w) => some (.clear turn.connection, w.session)
    | (.error _, _) => none

/-- What is seen of turns one after the other, and the session after them. -/
def observeAll {E : Environment} : List (Turn E) → Session → Option (List Event × Session)
  | [], s => some ([], s)
  | turn :: turns, s => do
    let (event, s) ← turn.observe s
    let (events, s) ← observeAll turns s
    return (event :: events, s)

theorem observeAll_cons {E : Environment} {turn : Turn E} {turns : List (Turn E)} {s s₁ s₂ : Session}
    {event : Event} {events : List Event} (hfirst : turn.observe s = some (event, s₁))
    (hrest : observeAll turns s₁ = some (events, s₂)) :
    observeAll (turn :: turns) s = some (event :: events, s₂) := by
  rw [observeAll, hfirst, Option.bind_eq_bind, Option.bind_some]
  dsimp only
  rw [hrest]
  rfl

/-- A read like this one was executed and gave the rows, and its connection was not cleared since. -/
def ExecutedSinceClear (read : Read) (rows : List Row) (done : List Event) : Prop :=
  ∃ before other since, done = before ++ .read other true rows :: since ∧ other.IsLike read ∧
    .clear read.connection ∉ since

theorem not_executedSinceClear_nil (read : Read) (rows : List Row) :
    ¬ExecutedSinceClear read rows [] := by
  rintro ⟨before, other, since, hsplit, -⟩
  simp at hsplit

/-- A place in a list with one more item is the last one, or a place in the list. -/
theorem eq_or_eq_of_concat {α : Type} {items before since : List α} {last item : α}
    (h : items ++ [last] = before ++ item :: since) :
    (before = items ∧ item = last ∧ since = []) ∨
      ∃ since', since = since' ++ [last] ∧ items = before ++ item :: since' := by
  rcases List.eq_nil_or_concat since with rfl | ⟨since, other, rfl⟩
  · obtain ⟨hitems, hlast⟩ := List.append_inj' h rfl
    exact .inl ⟨hitems.symm, (List.singleton_inj.1 hlast).symm, rfl⟩
  · have hsplit : items ++ [last] = (before ++ item :: since) ++ [other] := by simpa using h
    obtain ⟨hitems, hlast⟩ := List.append_inj' hsplit rfl
    obtain rfl := List.singleton_inj.1 hlast
    exact .inr ⟨since, by simp, hitems⟩

/-- One more item either is of the kind that is looked for, or leaves the earlier ones if it does not end
what they started. -/
theorem exists_since_concat {α β : Type} (start : β → α) (p : β → Prop) (ending : α) (items : List α)
    (last : α) :
    (∃ before b since, items ++ [last] = before ++ start b :: since ∧ p b ∧ ending ∉ since) ↔
      (∃ b, last = start b ∧ p b) ∨
        last ≠ ending ∧ ∃ before b since, items = before ++ start b :: since ∧ p b ∧ ending ∉ since := by
  constructor
  · rintro ⟨before, b, since, hsplit, hb, hend⟩
    rcases eq_or_eq_of_concat hsplit with ⟨-, rfl, -⟩ | ⟨since, rfl, rfl⟩
    · exact .inl ⟨b, rfl, hb⟩
    · rw [List.mem_append, List.mem_singleton, not_or] at hend
      exact .inr ⟨Ne.symm hend.2, before, b, since, rfl, hb, hend.1⟩
  · rintro (⟨b, rfl, hb⟩ | ⟨hne, before, b, since, rfl, hb, hend⟩)
    · exact ⟨items, b, [], rfl, hb, by simp⟩
    · refine ⟨before, b, since ++ [last], by simp, hb, ?_⟩
      simpa [hend] using Ne.symm hne

/-- One more event either is such an execution, or leaves the earlier ones if it is no clearing. -/
theorem executedSinceClear_concat (read : Read) (rows : List Row) (done : List Event) (event : Event) :
    ExecutedSinceClear read rows (done ++ [event]) ↔
      (∃ other, event = .read other true rows ∧ other.IsLike read) ∨
        event ≠ .clear read.connection ∧ ExecutedSinceClear read rows done :=
  exists_since_concat (Event.read · true rows) (·.IsLike read) (.clear read.connection) done event

/-! ## Single turns -/

section

variable {E : Environment} {s : Session} {connection : String}

/-- A read that is executed reaches its driver, and is kept with rows that are mappings. -/
theorem triple_readAndKeep (hspares : E.SparesSessions) (sql params table : Value) (key : String) :
    Triple (fun w => s.KeepsReads w.session)
      (readAndKeep connection sql params table (.text key) : Action E.watched (List Value))
      (fun rows w' => ∃ d w, HasSent s connection d w ∧
        ∀ contents, rows.mapM w'.heap.entries? = some contents →
          w' = { w with
            session := w.session.keeping (.text key) (.list (contents.map .map)) connection })
      fun _ => True := by
  refine Triple.bind (triple_readFresh hspares sql params) fun rows => ?_
  refine Triple.of_states fun w hw => ?_
  obtain ⟨d, hd⟩ := hw
  cases hrows : rows.mapM w.heap.entries? with
  | some contents =>
      rintro _ rfl
      rw [perform_bind_ok (perform_copies hrows), perform_bind_ok (perform_keep ..)]
      refine ⟨d, _, hd, fun others hothers => ?_⟩
      obtain rfl : contents = others := Option.some.inj (hrows.symm.trans hothers)
      rfl
  | none =>
      refine Triple.bind (R := fun _ w' => w.heap.Drains w'.heap) ?_ fun copies => ?_
      · refine (keeps_copies rows).consequence ?_ (fun _ _ h => h) fun _ _ => trivial
        rintro _ rfl
        exact Heap.Drains.refl _
      · -- What is no mapping is none after the rows were copied.
        intro w' hw'
        rw [perform_bind_ok (perform_keep ..)]
        have hsame : w'.heap.entries? = w.heap.entries? := funext fun v => hw'.isLike.entries? v
        refine ⟨d, w, hd, fun others hothers => ?_⟩
        have hnone : rows.mapM w.heap.entries? = some others := hsame ▸ hothers
        rw [hrows] at hnone
        cases hnone

end

/-! ## The invariant -/

/-- The key under which a read is kept. -/
def Read.key (digest : String → String) (read : Read) : Value :=
  .text (Cache.key digest read.sql read.params)

theorem isLike_iff_key_eq {digest : String → String} (hdigest : Function.Injective digest) (read other : Read) :
    read.IsLike other ↔ read.connection = other.connection ∧ read.key digest = other.key digest := by
  have hkey : read.key digest = other.key digest ↔
      read.sql = other.sql ∧ read.params.LooksLike other.params := by
    rw [Read.key, Read.key, Value.text.injEq, ← Cache.keyText_eq_iff]
    exact hdigest.eq_iff
  rw [hkey]
  rfl

/-- What a session remembers of what was done: of each read the rows that it gave when it was executed since
its connection was cleared. -/
structure Remembers (digest : String → String) (done : List Event) (s : Session) : Prop where
  distinct : Entries.Distinct s.memory
  kept : ∀ (read : Read) (v : Value),
    s.memory.get? (read.key digest) (.text read.connection) = some v ↔
      ∃ rows : List Row, v = .list (rows.map .map) ∧ ExecutedSinceClear read rows done

variable {E : Environment} {s s' : Session} {done : List Event}

theorem Remembers.nil (digest : String → String) (h : s.memory = []) : Remembers digest [] s := by
  refine ⟨?_, fun read v => ?_⟩
  · rw [h]
    exact List.Pairwise.nil
  · have hnone : s.memory.get? (read.key digest) (.text read.connection) = none := by
      rw [h]
      rfl
    constructor
    · intro hsome
      rw [hnone] at hsome
      cases hsome
    · rintro ⟨rows, -, hexecuted⟩
      exact absurd hexecuted (not_executedSinceClear_nil read rows)

/-- A read that does not reach its driver changes nothing. -/
theorem Remembers.found {digest : String → String} (h : Remembers digest done s) (read : Read)
    (rows : List Row) : Remembers digest (done ++ [.read read false rows]) s := by
  refine ⟨h.distinct, fun other v => ?_⟩
  rw [h.kept]
  have hsame : ∀ rows', ExecutedSinceClear other rows' (done ++ [.read read false rows]) ↔
      ExecutedSinceClear other rows' done := by
    intro rows'
    rw [executedSinceClear_concat]
    constructor
    · rintro (⟨_, hevent, -⟩ | ⟨-, hexecuted⟩)
      · cases hevent
      · exact hexecuted
    · exact fun hexecuted => .inr ⟨Event.noConfusion, hexecuted⟩
  simp only [hsame]

theorem Remembers.executed {digest : String → String} (hdigest : Function.Injective digest)
    (h : Remembers digest done s) {read : Read}
    (hnew : s.memory.get? (read.key digest) (.text read.connection) = none) (rows : List Row) :
    Remembers digest (done ++ [.read read true rows])
      (s.keeping (read.key digest) (.list (rows.map .map)) read.connection) := by
  refine ⟨(h.distinct.put _ _).put _ _, fun other v => ?_⟩
  simp only [executedSinceClear_concat]
  by_cases hlike : read.IsLike other
  · obtain ⟨hconnection, hkey⟩ := (isLike_iff_key_eq hdigest read other).1 hlike
    have hnever : ∀ rows', ¬ExecutedSinceClear other rows' done := by
      intro rows' hexecuted
      have hsome := (h.kept other _).2 ⟨rows', rfl, hexecuted⟩
      rw [← hkey, ← hconnection, hnew] at hsome
      cases hsome
    have hkept : (s.keeping (read.key digest) (.list (rows.map .map)) read.connection).memory.get?
        (other.key digest) (.text other.connection) = some (.list (rows.map .map)) := by
      rw [← hkey, ← hconnection]
      exact Cache.Store.get?_put_self ..
    rw [hkept]
    constructor
    · rintro ⟨⟩
      exact ⟨rows, rfl, .inl ⟨read, rfl, hlike⟩⟩
    · rintro ⟨rows', rfl, ⟨_, hevent, -⟩ | ⟨-, hexecuted⟩⟩
      · cases hevent
        rfl
      · exact absurd hexecuted (hnever rows')
  · have hkept : (s.keeping (read.key digest) (.list (rows.map .map)) read.connection).memory.get?
        (other.key digest) (.text other.connection) =
          s.memory.get? (other.key digest) (.text other.connection) := by
      by_cases hconnection : other.connection = read.connection
      · have hkey : (read.key digest == other.key digest) = false := by
          rw [Read.key, Read.key, Value.text_beq_text]
          refine beq_eq_false_iff_ne.2 fun heq => hlike ?_
          exact (isLike_iff_key_eq hdigest read other).2 ⟨hconnection.symm, congrArg Value.text heq⟩
        rw [hconnection, Session.get?_keeping_self, hkey]
        rfl
      · exact Session.get?_keeping_of_ne hconnection ..
    rw [hkept, h.kept]
    refine exists_congr fun rows' => and_congr_right fun _ => ?_
    constructor
    · exact fun hexecuted => .inr ⟨Event.noConfusion, hexecuted⟩
    · rintro (⟨_, hevent, hother⟩ | ⟨-, hexecuted⟩)
      · cases hevent
        exact absurd hother hlike
      · exact hexecuted

theorem Remembers.cleared {digest : String → String} (h : Remembers digest done s) (connection : String) :
    Remembers digest (done ++ [.clear connection])
      { s with memory := s.memory.clear (.text connection) } := by
  refine ⟨h.distinct.erase _, fun read v => ?_⟩
  simp only [executedSinceClear_concat]
  by_cases hconnection : connection = read.connection
  · subst hconnection
    rw [Cache.Store.get?_clear_self h.distinct]
    constructor
    · intro hsome
      cases hsome
    · rintro ⟨_, -, ⟨_, hevent, -⟩ | ⟨hne, -⟩⟩
      · cases hevent
      · exact absurd rfl hne
  · have hother : (Value.text read.connection == .text connection) = false := by
      rw [Value.text_beq_text]
      exact beq_eq_false_iff_ne.2 (Ne.symm hconnection)
    rw [Cache.Store.get?_clear_of_ne hother, h.kept]
    refine exists_congr fun rows => and_congr_right fun _ => ?_
    constructor
    · exact fun hexecuted => .inr ⟨fun heq => hconnection (Event.clear.inj heq), hexecuted⟩
    · rintro (⟨_, hevent, -⟩ | ⟨-, hexecuted⟩)
      · cases hevent
      · exact hexecuted

/-- Sessions that keep the same of reads remember the same. -/
theorem Remembers.of_memory {digest : String → String} (h : Remembers digest done s) (hmemory : s'.memory = s.memory) :
    Remembers digest done s' := by
  refine ⟨?_, fun read v => ?_⟩
  · rw [hmemory]
    exact h.distinct
  · rw [hmemory]
    exact h.kept read v

/-! ## Runs -/

/-- A read that is remembered succeeds with its rows, without its driver. -/
theorem observe_of_executed (h : Remembers E.digest done s) {turn : Turn E}
    (hcaches : s.CachesReads turn.connection) {sql : String} {params : Params} {table : Value}
    (hasked : turn.asked = .read sql params table) {rows : List Row}
    (hexecuted : ExecutedSinceClear (turn.reading sql params) rows done) :
    turn.observe s = some (.read (turn.reading sql params) false rows, s) := by
  let w : World E.watched.State := ⟨s, turn.heap, turn.outside, []⟩
  have hkept := (h.kept (turn.reading sql params) _).2 ⟨rows, rfl, hexecuted⟩
  have hrun := read_of_kept (E := E.watched) (w := w) hcaches (.text sql) params table hkept
  have hnot : reached turn.connection w = false := by
    unfold reached
    split
    · simp [w]
    · rfl
  simp only [Turn.observe, hasked]
  rw [hrun]
  simp only [mapM_entries?_map, hnot]
  rfl

/-- A read that is not remembered reaches its driver, and is kept. -/
theorem observe_of_not_kept (hspares : E.SparesSessions) {turn : Turn E}
    (hcaches : s.CachesReads turn.connection) {sql : String} {params : Params} {table : Value}
    (hasked : turn.asked = .read sql params table)
    (hnew : s.memory.get? ((turn.reading sql params).key E.digest) (.text turn.connection) = none)
    {event : Event} (hseen : turn.observe s = some (event, s')) :
    ∃ rows s₁, event = .read (turn.reading sql params) true rows ∧ s.KeepsReads s₁ ∧
      s' = s₁.keeping ((turn.reading sql params).key E.digest) (.list (rows.map .map)) turn.connection := by
  let w : World E.watched.State := ⟨s, turn.heap, turn.outside, []⟩
  have hrun := read_of_not_kept (E := E.watched) (w := w) hcaches (.text sql) params table hnew
  simp only [Turn.observe, hasked] at hseen
  rw [hrun] at hseen
  rcases hended : (readAndKeep turn.connection (.text sql) params.toValue table
    (readKey E.watched w.heap (.text sql) params) : Action E.watched (List Value)).perform w
    with ⟨result, w'⟩
  rw [hended] at hseen
  cases result with
  | error failure => cases hseen
  | ok rows =>
      obtain ⟨d, w₁, hsent, hcontents⟩ := (triple_readAndKeep hspares (.text sql) params.toValue
        table _).of_ok (s := w) (KeepsReads.refl s) hended
      obtain ⟨contents, hrows, hevent⟩ := Option.bind_eq_some_iff.1 hseen
      obtain rfl := hcontents contents hrows
      have hreached : reached turn.connection w₁ = true := by
        unfold reached
        rw [hsent.driver]
        simpa using hsent.sent
      cases hevent
      exact ⟨contents, w₁.session, hreached ▸ rfl, hsent.keepsReads, rfl⟩

theorem observe_of_clear {turn : Turn E} (hcaches : s.CachesReads turn.connection) {table : Value}
    (hasked : turn.asked = .clear table) :
    turn.observe s = some (.clear turn.connection,
      { s with memory := s.memory.clear (.text turn.connection) }) := by
  simp only [Turn.observe, hasked]
  rw [perform_clearCache (E := E.watched) (w := ⟨s, turn.heap, turn.outside, []⟩) hcaches table]

/-- What was seen of a turn is remembered with the rest, and connections go on caching their reads. -/
theorem Remembers.observe (hdigest : Function.Injective E.digest) (hspares : E.SparesSessions)
    (h : Remembers E.digest done s) {turn : Turn E} (hcaches : s.CachesReads turn.connection) {event : Event}
    (hseen : turn.observe s = some (event, s')) :
    Remembers E.digest (done ++ [event]) s' ∧
      ∀ connection, s.CachesReads connection → s'.CachesReads connection := by
  cases hasked : turn.asked with
  | clear table =>
      rw [observe_of_clear hcaches hasked] at hseen
      cases hseen
      exact ⟨h.cleared turn.connection, fun _ hc => ⟨hc.caching, hc.hooks, hc.chosen⟩⟩
  | read sql params table =>
      let read := turn.reading sql params
      cases hkept : s.memory.get? (read.key E.digest) (.text turn.connection) with
      | some v =>
          obtain ⟨rows, -, hexecuted⟩ := (h.kept read v).1 hkept
          rw [observe_of_executed h hcaches hasked hexecuted] at hseen
          cases hseen
          exact ⟨h.found read rows, fun _ hc => hc⟩
      | none =>
          obtain ⟨rows, s₁, rfl, hkeeps, rfl⟩ := observe_of_not_kept hspares hcaches hasked hkept hseen
          rw [← hkeeps.memory] at hkept
          refine ⟨(h.of_memory hkeeps.memory).executed hdigest hkept rows, fun _ hc => ?_⟩
          have hc₁ := hc.of_keepsReads hkeeps
          exact ⟨hc₁.caching, hc₁.hooks, hc₁.chosen⟩

/-- What was seen of turns is remembered after them. -/
theorem Remembers.observeAll (hdigest : Function.Injective E.digest) (hspares : E.SparesSessions)
    {turns : List (Turn E)} (h : Remembers E.digest done s)
    (hcaches : ∀ turn ∈ turns, s.CachesReads turn.connection) {events : List Event}
    (hseen : observeAll turns s = some (events, s')) :
    Remembers E.digest (done ++ events) s' ∧
      ∀ connection, s.CachesReads connection → s'.CachesReads connection := by
  induction turns generalizing s done events with
  | nil =>
      cases hseen
      exact ⟨by simpa using h, fun _ hc => hc⟩
  | cons turn turns ih =>
      obtain ⟨⟨event, s₁⟩, hfirst, hrest⟩ := Option.bind_eq_some_iff.1 hseen
      obtain ⟨⟨others, s₂⟩, hothers, hall⟩ := Option.bind_eq_some_iff.1 hrest
      cases hall
      obtain ⟨h₁, hcaches₁⟩ := h.observe hdigest hspares (hcaches turn List.mem_cons_self) hfirst
      obtain ⟨h₂, hcaches₂⟩ := ih h₁
        (fun other hother => hcaches₁ _ (hcaches other (List.mem_cons_of_mem _ hother))) hothers
      exact ⟨by simpa using h₂, fun c hc => hcaches₂ c (hcaches₁ c hc)⟩

/-- **The built-in store deduplicates reads exactly.** After any turns of connections that cache their reads, a
read reaches the driver of its connection exactly if no read like it was executed there since the connection
was cleared. If one was, the read succeeds with its rows. -/
theorem reaches_driver_iff (hdigest : Function.Injective E.digest) (hspares : E.SparesSessions)
    {turns : List (Turn E)} (hcaches : ∀ turn ∈ turns, s.CachesReads turn.connection)
    (hempty : s.memory = []) (hseen : observeAll turns s = some (done, s'))
    {turn : Turn E} (hturn : s.CachesReads turn.connection) {sql : String} {params : Params} {table : Value}
    (hasked : turn.asked = .read sql params table) :
    (∀ event s'', turn.observe s' = some (event, s'') →
      ((∃ rows, event = .read (turn.reading sql params) true rows) ↔
        ∀ rows, ¬ExecutedSinceClear (turn.reading sql params) rows done)) ∧
    ∀ rows, ExecutedSinceClear (turn.reading sql params) rows done →
      turn.observe s' = some (.read (turn.reading sql params) false rows, s') := by
  obtain ⟨h, hkept⟩ := (Remembers.nil E.digest hempty).observeAll hdigest hspares hcaches hseen
  have hcaches' := hkept _ hturn
  refine ⟨fun event s'' hseen' => ?_, fun rows hexecuted => observe_of_executed h hcaches' hasked hexecuted⟩
  constructor
  · rintro ⟨rows, rfl⟩ rows' hexecuted
    rw [List.nil_append] at h
    rw [observe_of_executed h hcaches' hasked hexecuted] at hseen'
    cases hseen'
  · intro hnever
    have hnew : s'.memory.get? ((turn.reading sql params).key E.digest) (.text turn.connection) = none := by
      refine Option.eq_none_iff_forall_ne_some.2 fun v hsome => ?_
      obtain ⟨rows, -, hexecuted⟩ := (h.kept (turn.reading sql params) v).1 hsome
      exact hnever rows hexecuted
    obtain ⟨rows, _, hevent, -⟩ := observe_of_not_kept hspares hcaches' hasked hnew hseen'
    exact ⟨rows, hevent⟩

/-- An outside whose statements are numbered: a row tells the number of the statement that it answers. -/
def numbering : Environment where
  State := Nat
  digest text := text
  connect _ s := (.error .badArguments, s)
  execute _ _ _ s := (.ok ⟨s, none, 0, .null⟩, s + 1)
  fetch cursor _ s := (.ok [.map [(.text "statement", .int cursor)]], s)
  insertId _ s := (.ok .null, s)
  call _ _ := pure .null

/-- Of two connections that read the same, the one that was cleared reads again and the other does not. -/
theorem reaches_driver_iff_numbering :
    let s : Session := {
      settings := [("main", { caching := true }), ("side", { caching := true })]
      drivers := [("main", ⟨.native "", ⟨0⟩⟩), ("side", ⟨.native "", ⟨1⟩⟩)] }
    let turn (connection : String) (number : Nat) : Turn numbering :=
      ⟨connection, .read "SELECT ?" (.positional [.int 1]) .null, {}, number⟩
    let clearing : Turn numbering := ⟨"side", .clear .null, {}, (30 : Nat)⟩
    let read (connection : String) : Read := ⟨connection, "SELECT ?", .positional [.int 1]⟩
    ∃ done s', observeAll [turn "main" 10, turn "side" 20, clearing] s = some (done, s') ∧
      (turn "main" 40).observe s' =
        some (.read (read "main") false [[(.text "statement", .int 10)]], s') ∧
      ∀ event s'', (turn "side" 50).observe s' = some (event, s'') →
        ∃ rows, event = .read (read "side") true rows := by
  intro s turn clearing read
  let rows (number : Int) : List Row := [[(.text "statement", .int number)]]
  let kept (connection : String) (number : Int) : Value × Cache.Shelf :=
    (.text connection, [((read connection).key id, .list ((rows number).map .map))])
  let after (memory : Cache.Store) (number : Nat) : Session :=
    { s with memory := memory, lastStatement := some ⟨number, .whole, 0, none⟩ }
  have hmain : (turn "main" 10).observe s =
      some (.read (read "main") true (rows 10), after [kept "main" 10] 10) := rfl
  have hside : (turn "side" 20).observe (after [kept "main" 10] 10) =
      some (.read (read "side") true (rows 20), after [kept "main" 10, kept "side" 20] 20) := rfl
  have hclear : clearing.observe (after [kept "main" 10, kept "side" 20] 20) =
      some (.clear "side", after [kept "main" 10] 20) := rfl
  have hnone : observeAll ([] : List (Turn numbering)) (after [kept "main" 10] 20) =
      some ([], after [kept "main" 10] 20) := rfl
  have hseen := observeAll_cons hmain (observeAll_cons hside (observeAll_cons hclear hnone))
  have hmainCaches : s.CachesReads "main" := ⟨rfl, rfl, rfl⟩
  have hsideCaches : s.CachesReads "side" := ⟨rfl, rfl, rfl⟩
  have hturns : ∀ turn' ∈ [turn "main" 10, turn "side" 20, clearing], s.CachesReads turn'.connection :=
    List.forall_mem_cons.2 ⟨hmainCaches, List.forall_mem_cons.2 ⟨hsideCaches,
      List.forall_mem_singleton.2 hsideCaches⟩⟩
  have hdigest : Function.Injective numbering.digest := fun _ _ h => h
  have hspares : numbering.SparesSessions := fun _ _ _ => rfl
  have hmainAsked : (turn "main" 40).asked = .read "SELECT ?" (.positional [.int 1]) .null := rfl
  have hsideAsked : (turn "side" 50).asked = .read "SELECT ?" (.positional [.int 1]) .null := rfl
  refine ⟨_, _, hseen, ?_, fun event s'' hseen' => ?_⟩
  · have hfound := (reaches_driver_iff hdigest hspares hturns rfl hseen hmainCaches hmainAsked).2
    refine hfound (rows 10) ⟨[], read "main", _, rfl, ⟨rfl, rfl, rfl⟩, ?_⟩
    simp [Turn.reading, turn]
  · have hagain := (reaches_driver_iff hdigest hspares hturns rfl hseen hsideCaches hsideAsked).1
    refine (hagain event s'' hseen').2 fun rows' hexecuted => ?_
    -- The clearing was the last that was done.
    rcases (executedSinceClear_concat _ _ [_, _] _).1 hexecuted with ⟨_, hevent, -⟩ | ⟨hne, -⟩
    · cases hevent
    · exact hne rfl

end Connection

end FluentSql
