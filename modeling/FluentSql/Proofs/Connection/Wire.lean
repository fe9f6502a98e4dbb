import FluentSql.Proofs.Connection.Journal
/-
# FluentSql.Proofs.Connection.Wire — every statement that reaches a database.

A wire knows all statements that were executed, accepted or not. Executing a statement puts this one statement on the
wire and nothing else (`Connection.triple_execute_carried`), and nothing but executing puts anything there. The functions of the caller
are supposed to execute nothing, and to leave it to the caller whether a record is new.
-/

namespace FluentSql

open Step (Keeps Triple)
open Connection (IsQuiet)

/-- The statements that have reached the databases outside, in order, each with whether it was accepted. -/
structure Wire (E : Environment) where
  traffic : E.State → List (Sent × Bool)
  connect : ∀ opening s, traffic (E.connect opening s).2 = traffic s
  fetch : ∀ cursor count s, traffic (E.fetch cursor count s).2 = traffic s
  insertId : ∀ link s, traffic (E.insertId link s).2 = traffic s
  executed : ∀ link text params s, traffic (E.execute link text params s).2 =
    traffic s ++ [(⟨link, text, params⟩, (E.execute link text params s).1.isOk)]

/-- Databases that accept and write down all that they are sent. The functions of the caller always fail. -/
def Environment.tapped : Environment where
  State := List (Sent × Bool)
  digest := id
  connect _ s := (.error .noMember, s)
  execute link text params s := (.ok ⟨0, none, 1, .int 7⟩, s ++ [(⟨link, text, params⟩, true)])
  fetch _ _ s := (.ok [], s)
  insertId _ s := (.ok (.int 7), s)
  call _ _ := throw (.database "hook failed")

/-- What they write down. -/
def Wire.tapped : Wire .tapped where
  traffic := id
  connect _ _ := rfl
  fetch _ _ _ := rfl
  insertId _ _ := rfl
  executed _ _ _ _ := rfl

/-- The heap keeps a record under the number, if there is one, that is new or not. -/
def Heap.KeepsRecord (number : Option Nat) (isNew : Bool) (h : Heap) : Prop :=
  ∀ id, number = some id → ∃ r, h.cell? id = some (.record r) ∧ r.changes.isNew = isNew

/-- The functions of the caller may fail, but they neither execute statements nor change whether the record of the
number is new. -/
structure Wire.Undisturbed {E : Environment} (wire : Wire E) (number : Option Nat) : Prop where
  sends : ∀ traffic hook call, Keeps (fun w : World E.State => wire.traffic w.outside = traffic) (E.call hook call)
  spares : ∀ isNew hook call, Keeps (fun w : World E.State => w.heap.KeepsRecord number isNew) (E.call hook call)

theorem Wire.undisturbed_tapped (number : Option Nat) : Wire.tapped.Undisturbed number :=
  ⟨fun _ _ _ => Keeps.throw _, fun _ _ _ => Keeps.throw _⟩

namespace Wire

variable {E : Environment} (wire : Wire E)

/-- The INSERTs on the wire that were accepted. -/
def ledger : Ledger E where
  inserts s := (wire.traffic s).countP fun e => e.2 && isInsert e.1.text
  connect opening s := by rw [wire.connect]
  fetch cursor count s := by rw [wire.fetch]
  insertId link s := by rw [wire.insertId]
  accepted link text params s reply s' h := by
    have hexecuted := wire.executed link text params s
    rw [h] at hexecuted
    rw [hexecuted, List.countP_append, List.countP_singleton]
    cases isInsert text <;> rfl
  refused link text params s failure s' h := by
    have hexecuted := wire.executed link text params s
    rw [h] at hexecuted
    rw [hexecuted, List.countP_append, List.countP_singleton]
    rfl

variable {wire} {number : Option Nat}

theorem Undisturbed.ledger (hundisturbed : wire.Undisturbed number) : wire.ledger.Undisturbed number := by
  intro isNew count hook call
  refine Triple.of_states fun w hw => ?_
  have hsends := (hundisturbed.sends (wire.traffic w.outside) hook call).pre fun w' (hw' : w' = w) => by rw [hw']
  have hspares := (hundisturbed.spares isNew hook call).pre fun w' (hw' : w' = w) => by
    rw [hw']
    exact hw.record
  have hcount : ∀ w' : World E.State, wire.traffic w'.outside = wire.traffic w.outside →
      wire.ledger.inserts w'.outside = count := by
    intro w' h
    rw [← hw.count]
    exact congrArg (List.countP fun e => e.2 && isInsert e.1.text) h
  exact (hsends.and hspares).consequence (fun _ h => h) (fun _ w' h => ⟨hcount w' h.1, h.2⟩) fun w' h =>
    ⟨hcount w' h.1, h.2⟩

/-- What is on the wire is a quiet matter. -/
theorem isQuiet_traffic (hundisturbed : wire.Undisturbed number) (P : List (Sent × Bool) → Prop) :
    IsQuiet fun w : World E.State => P (wire.traffic w.outside) where
  heap _ hw := hw
  session _ hw := hw
  connect opening _ hw := (congrArg P (wire.connect opening _)).mpr hw
  fetch cursor count _ hw := (congrArg P (wire.fetch cursor count _)).mpr hw
  insertId link _ hw := (congrArg P (wire.insertId link _)).mpr hw
  call hook call := by
    refine Triple.of_states fun w hw => ?_
    have hsends := (hundisturbed.sends (wire.traffic w.outside) hook call).pre fun w' (hw' : w' = w) => by rw [hw']
    exact hsends.consequence (fun _ h => h) (fun _ _ h => (congrArg P h).mpr hw) fun _ h => (congrArg P h).mpr hw

/-- One statement more is on the wire, which starts with a text and was accepted. -/
def Carried (wire : Wire E) (start : String) (traffic : List (Sent × Bool)) (w : World E.State) : Prop :=
  ∃ sent, wire.traffic w.outside = traffic ++ [(sent, true)] ∧ Ledger.StartsWith start sent.text

end Wire

namespace Connection

open Session (current change inHeap outside callHook)

variable {E : Environment} {wire : Wire E} {number : Option Nat} {start : String} {traffic : List (Sent × Bool)}
  {sql : Value}

/-- Sending a statement puts it on the wire. -/
theorem triple_send_carried (hstart : start.toList.all Literal.isOrdinary = true) (hpercent : '%' ∉ start.toList)
    (hsql : Ledger.StartsWith start sql) (d : Driver) (params : Value) :
    Triple (fun w => wire.traffic w.outside = traffic) (send d sql params) (fun _ => wire.Carried start traffic)
      fun _ => True := by
  -- What is sent is the statement in the style of the driver, which starts as it does.
  refine Triple.bindKnown (I := fun w => wire.traffic w.outside = traffic)
    (R := fun sent => Ledger.StartsWith start sent.1) ?_ fun sent htext => ?_
  · refine Triple.of_states fun w hw => ?_
    have hprepare := (Ledger.triple_prepare hstart hpercent hsql d.kind params w.heap).pre
      fun s (hs : s = w.heap) => hs ▸ Heap.Drains.refl _
    exact Session.triple_inHeap w rfl hprepare (fun sent h hsent => ⟨hw, hsent.2⟩) fun _ _ => trivial
  · obtain ⟨text, sent⟩ := sent
    refine Triple.bind (R := fun _ => wire.Carried start traffic)
      (Session.triple_outside ?_ fun _ _ _ _ _ => trivial) fun reply => ?_
    · intro w reply s hw hrun
      have hexecuted := wire.executed d.link text sent w.outside
      rw [hrun, hw] at hexecuted
      exact ⟨_, hexecuted, htext⟩
    · have hchange : ∀ f : Session → Session, Triple (wire.Carried start traffic) (change f : Action E Unit)
          (fun _ => wire.Carried start traffic) fun _ => True := fun _ => Session.triple_change fun _ hw => hw
      generalize d.kind = kind
      cases kind with
      | native name => exact Triple.pure fun _ hs => hs
      | sqlite => exact Triple.bind (hchange _) fun _ => Triple.pure fun _ hs => hs
      | toolkit name style => exact Triple.bind (hchange _) fun _ => Triple.pure fun _ hs => hs

/-- Logging puts nothing on the wire. -/
theorem keeps_logQuery_traffic (hundisturbed : wire.Undisturbed number) (P : List (Sent × Bool) → Prop)
    (connection : String) (sql params : Value) :
    Keeps (fun w => P (wire.traffic w.outside)) (logQuery connection sql params) := by
  have hquiet := Wire.isQuiet_traffic hundisturbed P
  refine Keeps.bind (Session.keeps_settings connection) fun settings => ?_
  split
  · refine Keeps.bind (Keeps.bind (hquiet.ignoresDrivers.keeps_driver connection) fun _ => Keeps.pure _) fun _ => ?_
    refine Keeps.bind (hquiet.keeps_inHeap _) fun text => ?_
    refine Keeps.bind (Session.triple_change fun _ hw => hw) fun _ => ?_
    split
    · exact Keeps.bind (hquiet.call _ _) fun _ => Keeps.pure _
    · exact Keeps.pure _
  · exact Keeps.pure _

/-- **Executing a statement puts this one on the wire**, and nothing else. -/
theorem triple_execute_carried (hundisturbed : wire.Undisturbed number)
    (hstart : start.toList.all Literal.isOrdinary = true) (hpercent : '%' ∉ start.toList)
    (hsql : Ledger.StartsWith start sql) (connection : String) (params : Value) :
    Triple (fun w => wire.traffic w.outside = traffic) (execute connection sql params)
      (fun _ => wire.Carried start traffic) fun _ => True := by
  have hquiet := Wire.isQuiet_traffic hundisturbed (· = traffic)
  have hlog := keeps_logQuery_traffic hundisturbed
    (fun t => ∃ sent, t = traffic ++ [(sent, true)] ∧ Ledger.StartsWith start sent.text) connection sql params
  refine Triple.bind (hquiet.ignoresDrivers.keeps_driver connection).ifReturns fun d => ?_
  refine Triple.bind (triple_send_carried hstart hpercent hsql d params) fun statement => ?_
  refine Triple.bind (R := fun _ => wire.Carried start traffic) (Session.triple_change fun _ hw => hw) fun _ => ?_
  exact Triple.bind hlog.ifReturns fun _ => Triple.pure fun _ hw => hw

end Connection

end FluentSql
