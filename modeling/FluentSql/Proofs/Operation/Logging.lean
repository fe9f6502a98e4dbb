import FluentSql.Proofs.Operation
import FluentSql.Proofs.Record.Submissions
/-
# FluentSql.Proofs.Operation.Logging — the query log is exactly what was accepted while its connection logged.

An operation submits one statement or none (`asks`), and all that it does to the journal and the log is accounted for by
that (`submits_perform`). So after any run of operations on any connections, in which statements are refused, found in
the cache or logged by functions that fail, the log holds what was accepted while its connection logged, each once and
in the order of execution (`log_of_run`).
-/

namespace FluentSql

open Connection (IsQuiet)
open Step (found?)

variable {E : Environment}

/-! ## Operations -/

namespace Operation

/-- What an operation asks for: a statement of its own, or that of a call. -/
def asks (connection : String) : Operation → Action E (Option (Submission E))
  | .call number asked => do
    match (← get).heap.cell? number with
    | some (.record r) => if r.connection = connection then Record.act number r asked.asks else return none
    | _ => return none
  | .execute sql params => Connection.submission connection sql params
  | _ => return none

theorem silent_inHeap {α : Type} (step : Step Heap α) : Silent id (Session.inHeap step : Action E α) :=
  ⟨fun hJ => hJ.keeps_inHeap step⟩

theorem silent_newRecord (r : Record) : Silent id (Object.newRecord r : Action E Value) := silent_inHeap _

theorem silent_shareOutcome (self : Value) (outcome : Record.Outcome) :
    Silent id (Object.shareOutcome self outcome : Action E Value) := by
  have hnew : ∀ rs : List Record, Silent id (rs.mapM Object.newRecord : Action E (List Value)) := fun _ =>
    Silent.mapM fun r _ => silent_newRecord r
  cases outcome with
  | itself => exact Silent.pure self
  | value v => exact Silent.pure v
  | record found =>
      cases found with
      | none => exact Silent.pure _
      | some r => exact silent_newRecord r
  | records rs => exact Silent.bind (hnew rs) fun _ => Silent.pure _
  | resultSet rs => exact Silent.bind (hnew rs) fun _ => silent_inHeap _
  | sql sql => exact Silent.bind (silent_inHeap _) fun _ => silent_inHeap _

variable {journal : Journal E} (hundisturbed : journal.Undisturbed)
include hundisturbed

/-- The record that the heap keeps submits what it asks for. -/
theorem submits_act (number : Nat) (r : Record) (asked : Record.Call) :
    Submits journal id (Record.act number r asked.asks) (Record.act number r (Record.perform asked)) :=
  (Record.submits_perform hundisturbed asked).onPart hundisturbed (fun _ _ h => h) fun hJ _ s hs =>
    Record.quiet_published hJ s hs

theorem submits_callRecord (connection : String) (number : Nat) (asked : Record.Call) :
    Submits journal id ((Operation.call number asked).asks connection) (callRecord connection number asked) := by
  have hget : Silent id (get : Action E (World E.State)) := ⟨fun _ => Step.Keeps.get⟩
  refine Submits.bind hundisturbed hget fun w => ?_
  cases w.heap.cell? number with
  | none => exact Submits.of_silent hundisturbed (Silent.throw _)
  | some cell =>
      cases cell with
      | record r =>
          dsimp only
          split
          · exact (submits_act hundisturbed number r asked).andThen hundisturbed (silent_shareOutcome _)
          · exact Submits.of_silent hundisturbed (Silent.throw _)
      | _ => exact Submits.of_silent hundisturbed (Silent.throw _)

/-- **An operation submits what it asks for**, and whatever else it does is silent. -/
theorem submits_perform (connection : String) (operation : Operation) :
    Submits journal id (operation.asks connection) (operation.perform connection) := by
  have hsilent : ∀ {α : Type} {action : Action E α} {answer : α → Answer}, Silent id action →
      Submits journal id (pure none) (do return answer (← action)) := fun h =>
    Submits.of_silent hundisturbed (h.bind fun _ => Silent.pure _)
  have hcurrent : Silent id (Session.current : Action E Session) := ⟨fun _ => Session.keeps_current⟩
  cases operation with
  | configure key value =>
      exact hsilent ⟨fun hJ => hJ.keeps_configure connection key value⟩
  | setting key => exact hsilent ⟨fun hJ => hJ.keeps_setting connection key⟩
  | allSettings => exact hsilent ⟨fun _ => IsQuiet.keeps_allSettings connection⟩
  | setDriver d =>
      cases d with
      | none => exact hsilent ⟨fun hJ => hJ.keeps_change fun _ => rfl⟩
      | some d => exact hsilent ⟨fun hJ => hJ.ignoresDrivers.keeps_registerDriver connection d⟩
  | driver => exact hsilent ⟨fun hJ => hJ.ignoresDrivers.keeps_driver connection⟩
  | rendering => exact hsilent ⟨fun hJ => hJ.ignoresDrivers.keeps_rendering connection⟩
  | quote identifier =>
      exact hsilent ⟨fun hJ => hJ.keeps_quote connection identifier⟩
  | forTable table =>
      have hdriver : Silent id (Connection.driver connection : Action E Driver) := ⟨fun hJ => hJ.ignoresDrivers.keeps_driver connection⟩
      exact hsilent (Silent.bind hdriver.map fun _ => silent_newRecord _)
  | call number asked =>
      exact (submits_callRecord hundisturbed connection number asked).andThen hundisturbed fun _ => Silent.pure _
  | execute sql params =>
      exact (Connection.submits_execute hundisturbed connection sql params).andThen hundisturbed fun _ => Silent.pure _
  | clearCache table => exact hsilent ⟨fun hJ => hJ.keeps_clearCache table connection⟩
  | queryLog => exact hsilent hcurrent
  | lastQuery => exact hsilent hcurrent

end Operation

/-! ## Runs -/

namespace Operation

/-- The world after operations on some connections, whether they failed or not. -/
def after : List (String × Operation) → World E.State → World E.State
  | [], w => w
  | (connection, operation) :: run, w => after run ((operation.perform connection).perform w).2

/-- The statements that operations submit, in the order of execution. -/
def submissions : List (String × Operation) → World E.State → List (Submission E)
  | [], _ => []
  | (connection, operation) :: run, w =>
    (found? (operation.asks connection) w).toList ++
      submissions run ((operation.perform connection).perform w).2

/-- The submissions of a run account for it. -/
theorem accounts_run {journal : Journal E} (hundisturbed : journal.Undisturbed) {run : List (String × Operation)}
    {w : World E.State} (hplain : ∀ q ∈ submissions run w, q.IsPlain) :
    journal.Accounts w (submissions run w) (after run w) := by
  induction run generalizing w with
  | nil => exact .refl w
  | cons asked run ih =>
      obtain ⟨connection, operation⟩ := asked
      rw [submissions] at hplain ⊢
      have hfirst := submits_perform hundisturbed connection operation w w (.refl w) fun q hq =>
        hplain q (List.mem_append_left _ (Option.mem_toList.2 hq))
      exact hfirst.trans (ih fun q hq => hplain q (List.mem_append_right _ hq))

end Operation

/-! ## The log -/

/-- The log holds the texts of some statements and nothing else: those of every connection in their order, and the one
of the last statement on any of them. -/
structure QueryLog.Holds (log : QueryLog) (qs : List (Submission E)) : Prop where
  of : ∀ connection, log.of connection = (qs.filter (·.connection = connection)).map Submission.text
  latest : log.latest = qs.getLast?.map Submission.text

namespace QueryLog.Holds

variable {log : QueryLog} {qs : List (Submission E)}

theorem nil : ({} : QueryLog).Holds (E := E) [] := ⟨fun _ => rfl, rfl⟩

theorem record (h : log.Holds qs) (q : Submission E) : (log.record q.connection q.text).Holds (qs ++ [q]) where
  of connection := by
    by_cases hq : q.connection = connection
    · subst hq
      rw [QueryLog.of_record_self, h.of, List.filter_append, List.map_append]
      simp
    · rw [QueryLog.of_record_of_ne (Ne.symm hq), h.of, List.filter_append]
      simp [hq]
  latest := by
    rw [List.getLast?_concat]
    rfl

/-- A log that holds some statements holds those that are logged of further ones afterwards. -/
theorem after (h : log.Holds qs) (submitted : List (Submission E)) :
    (log.after submitted).Holds (qs ++ submitted.filter Submission.isLogged) := by
  rw [QueryLog.after]
  induction submitted.filter Submission.isLogged generalizing log qs with
  | nil => rwa [List.append_nil]
  | cons q logged ih =>
      have hnext := ih (h.record q)
      rwa [List.append_assoc] at hnext

end QueryLog.Holds

namespace Operation

/-- **The query log is exactly the accepted statements.** After any run of operations on any connections the log of a
connection is the texts of the statements that its driver accepted while it logged, each once and in the order of
execution; the last query is the text that was logged last on any connection, and the last one of a connection is the
end of its log or the empty text. -/
theorem log_of_run {journal : Journal E} (hundisturbed : journal.Undisturbed) {run : List (String × Operation)}
    {w : World E.State} (hfresh : w.session.log = {}) (hplain : ∀ q ∈ submissions run w, q.IsPlain) :
    journal.accepted (after run w).outside =
        journal.accepted w.outside ++ (submissions run w).filterMap Submission.accepted? ∧
      (∀ connection, (after run w).session.log.of connection =
        ((submissions run w).filter fun q => q.isLogged ∧ q.connection = connection).map Submission.text) ∧
      (after run w).session.log.latest = ((submissions run w).filter Submission.isLogged).getLast?.map Submission.text ∧
      ∀ connection, (after run w).session.log.lastOf connection =
        ((after run w).session.log.of connection).getLast?.getD (.text "") := by
  have haccounts := accounts_run hundisturbed hplain
  have hholds : (after run w).session.log.Holds ((submissions run w).filter Submission.isLogged) := by
    rw [haccounts.log, hfresh]
    exact QueryLog.Holds.nil.after _
  refine ⟨haccounts.accepted, fun connection => ?_, hholds.latest, fun _ => rfl⟩
  rw [hholds.of, List.filter_filter]
  congr 2
  funext q
  simp [Bool.and_comm]

/-- Two connections with a driver each. The first one logs with a function that fails, and caches its reads. -/
def loggingDesk : World Environment.jotting.State where
  session :=
    { settings := [("first", { logging := true, logger := some ⟨1⟩, caching := true })]
      drivers := [("first", ⟨.native "mysql", ⟨1⟩⟩), ("second", ⟨.native "pgsql", ⟨2⟩⟩)] }
  heap := ⟨[.record (.onTable "orders" "first"), .function 0]⟩
  outside := ([] : List Sent)

/-- A statement that is not logged, one whose logger fails, one that is refused, and a read that is executed once. -/
def loggedRun : List (String × Operation) :=
  [("second", .execute (.text "SELECT 1") (.list [])),
    ("first", .execute (.text "DELETE FROM t WHERE id = ?") (.list [.int 3])),
    ("first", .execute (.text "nonsense") (.list [])),
    ("first", .configure (.text "logger") (some .null)),
    ("first", .call 0 .findArray),
    ("first", .call 0 .findArray)]

theorem log_of_run_loggedRun :
    ((after loggedRun loggingDesk).session.log.of "first").map Value.display =
        ["DELETE FROM t WHERE id = '3'", "SELECT * FROM `orders`"] ∧
      ((after loggedRun loggingDesk).session.log.of "second").map Value.display = [] ∧
      (Journal.jotting.accepted (after loggedRun loggingDesk).outside).map (fun sent => sent.text.display) =
        ["SELECT 1", "DELETE FROM t WHERE id = ?", "SELECT * FROM `orders`"] := by
  have hplain : ∀ q ∈ submissions loggedRun loggingDesk, q.IsPlain := by decide +kernel
  obtain ⟨haccepted, hlog, -, -⟩ := log_of_run Journal.undisturbed_jotting rfl hplain
  rw [haccepted, hlog, hlog]
  refine ⟨?_, ?_, ?_⟩ <;> decide +kernel

end Operation

end FluentSql
