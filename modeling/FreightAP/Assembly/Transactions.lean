import FreightAP.Assembly.Row
import FreightAP.Lib.Transition

/-!
# Concurrent assembly

The transactions that change a shipment: a document of a workflow run, a manual
rate confirmation, and the scan for overdue documents.  Any number of them run
at once under READ COMMITTED.  A step is one statement that can block or be
overtaken, and it reads what is committed at that moment with the
transaction's own writes on top.

The insert on conflict do nothing waits for an uncommitted row of the same load
number.  The locking select waits for the holder of the row.  A transaction can
abort at any point, and its writes go with it.
-/

namespace FreightAP

/-! ## Transactions -/

/-- What a transaction is for. -/
inductive Work where
  /-- `match_node` on a document. -/
  | document (loadNumber : Option String) (document : Document) (extraction : Extraction)
      (runId : String)
  /-- `create_rate_confirmation`. -/
  | manual (rc : RateConfirmation) (now : Int)
  /-- `claim_and_evaluate_one`, on the shipment it claims. -/
  | scan (loadNumber : String) (now : Int)

/-- A transaction: its session and its work. -/
structure Tx where
  session : Session
  work : Work

/-- Where a transaction is.  Past the insert it keeps the rows it wrote, past
the lock also the row it holds, and past reconciliation the result row. -/
inductive Phase where
  | idle
  | inserted (ws : List Write)
  | locked (s : Shipment) (ws : List Write)
  | attached (s : Shipment) (ws : List Write)
  | reconciled (s : Shipment) (r : ReconciliationResult) (ws : List Write)
  | committed
  | aborted
deriving DecidableEq

namespace Phase

/-- The uncommitted rows of a transaction. -/
def writes : Phase → List Write
  | .inserted ws => ws
  | .locked _ ws => ws
  | .attached _ ws => ws
  | .reconciled _ _ ws => ws
  | _ => []

/-- The row a transaction has locked. -/
def row? : Phase → Option Shipment
  | .locked s _ => some s
  | .attached s _ => some s
  | .reconciled s _ _ => some s
  | _ => none

/-- Whether it holds the lock of the row of a load number. -/
def holds (loadNumber : String) (p : Phase) : Bool := p.row?.any (·.loadNumber = loadNumber)

/-- Whether it has an uncommitted shipment row of a load number. -/
def inserting (loadNumber : String) (p : Phase) : Bool :=
  (Database.shipmentsOf p.writes).any (·.loadNumber = loadNumber)

/-- Whether it is under way. -/
def active : Phase → Bool
  | .idle => false
  | .committed => false
  | .aborted => false
  | _ => true

end Phase

/-- A committed transaction and the result row it wrote. -/
structure Commit (n : Nat) where
  tx : Fin n
  result : ReconciliationResult

/-- The committed database and the transactions.  The log is for the reader:
the committed transactions, oldest first. -/
structure Assembly (n : Nat) where
  db : Database
  phase : Fin n → Phase
  log : List (Commit n)

/-- A statement of a transaction. -/
inductive Action where
  | insert
  | lock
  | attach
  | reconcile
  | commit
  | abort
deriving DecidableEq

/-! ## The statements -/

section

variable [PyRuntime]

/-- The document row of a manual rate confirmation. -/
def manualDocument (ses : Session) (rc : RateConfirmation) : Document where
  id := ses.companionId
  filename := "manual-rate-confirmation-" ++ rc.loadNumber ++ ".json"
  docType := "rate_confirmation"
  status := "extracted"
  extractedData := some (rateConfirmationExtraction rc)
  shipmentId := none

namespace Tx

/-- The normalised load number a transaction works on. -/
def load? (tx : Tx) : Option String :=
  match tx.work with
  | .document loadNumber _ _ _ =>
      match normalizeLoadNumber loadNumber with
      | .ok normalized => normalized
      | .error _ => none
  | .manual rc _ =>
      match normalizeLoadNumber (some rc.loadNumber) with
      | .ok normalized => normalized
      | .error _ => none
  | .scan loadNumber _ => some loadNumber

/-- The rows written before `upsert_shipment`. -/
def opening (tx : Tx) : List Write :=
  match tx.work with
  | .manual rc _ => [.rateConfirmation rc, .document (manualDocument tx.session rc)]
  | _ => []

/-- The arguments of `reconcile_shipment`. -/
def evaluation (tx : Tx) (s : Shipment) : Evaluation :=
  match tx.work with
  | .document _ _ _ runId => .ofRun runId
  | .manual rc now =>
      ⟨none, some now, none, some "manual_rate_confirmation",
        some ("manual-rate-confirmation:" ++ rc.id)⟩
  | .scan _ now =>
      let policy := evaluateMissingDocumentPolicy s now tx.session.slaDuration
      ⟨none, some now, some tx.session.slaDuration, some "scheduled_sla",
        some ("missing-docs-sla:" ++ s.id ++ ":" ++ PyRuntime.datetimeText policy.deadlineAt ++
          ":" ++ ",".intercalate policy.missingDocs)⟩

/-- `upsert_shipment` on the locked row. -/
def attach (tx : Tx) (s : Shipment) (db : Database) : Shipment × List Write :=
  match tx.work with
  | .document _ document extraction _ => attachDocument tx.session s document extraction db
  | .manual rc _ =>
      attachDocument tx.session s (manualDocument tx.session rc) (rateConfirmationExtraction rc) db
  | .scan _ _ => (s, [])

/-- Whether a transaction is a scan, which inserts nothing. -/
def isScan (tx : Tx) : Bool :=
  match tx.work with
  | .scan _ _ => true
  | _ => false

/-- Whether the scan claims a shipment. -/
def claims (now slaDuration : Int) (s : Shipment) (db : Database) : Bool :=
  decide (s.createdAt ≤ now - slaDuration) && Slot.all.any (fun d => !s.has d) &&
    !db.shipmentExceptions.any fun x => x.shipmentId = s.id && x.status = .active

end Tx

/-- The unique indexes a result row is checked against. -/
def uniqueResult (r : ReconciliationResult) (db : Database) : Bool :=
  db.reconciliationResults.all fun r' =>
    r'.id = r.id || ((r.runId.isNone || r'.runId ≠ r.runId) &&
      (r.evaluationKey.isNone || r'.evaluationKey ≠ r.evaluationKey))

/-- The unique index a manual rate confirmation is checked against. -/
def uniqueManual (tx : Tx) (db : Database) : Bool :=
  match tx.work with
  | .manual rc _ => (db.rateConfirmation? rc.loadNumber).isNone
  | _ => true

namespace Assembly

variable {n : Nat}

/-- No transaction has started. -/
def start (db : Database) : Assembly n := ⟨db, fun _ => .idle, []⟩

/-- A transaction moves on. -/
def goto (st : Assembly n) (i : Fin n) (p : Phase) : Assembly n :=
  { st with phase := Function.update st.phase i p }

/-- One statement of one transaction, `none` where it would block or fail. -/
def step (txs : Fin n → Tx) (st : Assembly n) (l : Fin n × Action) : Option (Assembly n) :=
  let (i, action) := l
  let tx := txs i
  match tx.load? with
  | none => none
  | some loadNumber =>
      match action, st.phase i with
      | .insert, .idle =>
          if tx.isScan then none
          else if (st.db.shipment? loadNumber).isNone ∧
              ∃ j, (st.phase j).inserting loadNumber = true then none
          else
            some (st.goto i (.inserted
              (tx.opening ++ insertShipment tx.session loadNumber (st.db.apply tx.opening))))
      | .lock, .inserted ws =>
          if ∃ j, (st.phase j).holds loadNumber = true then none
          else ((st.db.apply ws).shipment? loadNumber).map fun s => st.goto i (.locked s ws)
      | .lock, .idle =>
          match tx.work, st.db.shipment? loadNumber with
          | .scan _ now, some s =>
              if ∃ j, (st.phase j).holds loadNumber = true then none
              else if Tx.claims now tx.session.slaDuration s st.db then
                some (st.goto i (.attached s []))
              else none
          | _, _ => none
      | .attach, .locked s ws =>
          let (s', ws') := tx.attach s (st.db.apply ws)
          some (st.goto i (.attached s' (ws ++ ws')))
      | .reconcile, .attached s ws =>
          let (s', r, ws') :=
            reconcileShipment tx.session s (tx.evaluation s) (st.db.apply ws)
          some (st.goto i (.reconciled s' r (ws ++ ws')))
      | .commit, .reconciled _ r ws =>
          if uniqueResult r st.db && uniqueManual tx st.db then
            some
              { st.goto i .committed with
                db := st.db.apply ws, log := st.log ++ [⟨i, r⟩] }
          else none
      | .abort, p => if p.active then some (st.goto i .aborted) else none
      | _, _ => none

/-! ## What a step does -/

omit [PyRuntime] in
@[simp] theorem goto_db (st : Assembly n) (i : Fin n) (p : Phase) : (st.goto i p).db = st.db := rfl

omit [PyRuntime] in
@[simp] theorem goto_log (st : Assembly n) (i : Fin n) (p : Phase) :
    (st.goto i p).log = st.log := rfl

omit [PyRuntime] in
@[simp] theorem goto_phase_self (st : Assembly n) (i : Fin n) (p : Phase) :
    (st.goto i p).phase i = p :=
  Function.update_self ..

omit [PyRuntime] in
theorem goto_phase_of_ne (st : Assembly n) {i j : Fin n} (p : Phase) (h : j ≠ i) :
    (st.goto i p).phase j = st.phase j :=
  Function.update_of_ne h ..

/-- A transaction commits. -/
def commit (st : Assembly n) (i : Fin n) (r : ReconciliationResult) (ws : List Write) :
    Assembly n :=
  { st.goto i .committed with db := st.db.apply ws, log := st.log ++ [⟨i, r⟩] }

/-- The steps of a transaction `i` with a load number, one constructor for each
way a statement goes. -/
inductive Moves (txs : Fin n → Tx) (st : Assembly n) (i : Fin n) (loadNumber : String) :
    Assembly n → Prop where
  | insert : st.phase i = .idle → (txs i).isScan = false →
      (st.db.shipment? loadNumber = none → ∀ j, (st.phase j).inserting loadNumber = false) →
      Moves txs st i loadNumber (st.goto i (.inserted ((txs i).opening ++
        insertShipment (txs i).session loadNumber (st.db.apply (txs i).opening))))
  | lock {s : Shipment} {ws : List Write} : st.phase i = .inserted ws →
      (∀ j, (st.phase j).holds loadNumber = false) →
      (st.db.apply ws).shipment? loadNumber = some s →
      Moves txs st i loadNumber (st.goto i (.locked s ws))
  | claim {s : Shipment} : st.phase i = .idle → (txs i).isScan = true →
      (∀ j, (st.phase j).holds loadNumber = false) → st.db.shipment? loadNumber = some s →
      Moves txs st i loadNumber (st.goto i (.attached s []))
  | attach {s : Shipment} {ws : List Write} : st.phase i = .locked s ws →
      Moves txs st i loadNumber (st.goto i (.attached ((txs i).attach s (st.db.apply ws)).1
        (ws ++ ((txs i).attach s (st.db.apply ws)).2)))
  | reconcile {s : Shipment} {ws : List Write} : st.phase i = .attached s ws →
      Moves txs st i loadNumber (st.goto i (.reconciled
        (reconcileShipment (txs i).session s ((txs i).evaluation s) (st.db.apply ws)).1
        (reconcileShipment (txs i).session s ((txs i).evaluation s) (st.db.apply ws)).2.1
        (ws ++ (reconcileShipment (txs i).session s ((txs i).evaluation s)
          (st.db.apply ws)).2.2)))
  | commit {s : Shipment} {r : ReconciliationResult} {ws : List Write} :
      st.phase i = .reconciled s r ws → Moves txs st i loadNumber (st.commit i r ws)
  | abort : (st.phase i).active = true → Moves txs st i loadNumber (st.goto i .aborted)

theorem step_moves {txs : Fin n → Tx} {st st' : Assembly n} {l : Fin n × Action}
    (h : step txs st l = some st') :
    ∃ loadNumber, (txs l.1).load? = some loadNumber ∧ Moves txs st l.1 loadNumber st' := by
  obtain ⟨i, action⟩ := l
  unfold step at h
  cases hl : (txs i).load? with
  | none => simp [hl] at h
  | some loadNumber =>
      refine ⟨loadNumber, rfl, ?_⟩
      simp only [hl] at h
      cases action with
      | insert =>
          cases hp : st.phase i <;> simp only [hp, reduceCtorEq] at h
          split at h
          · cases h
          next hscan =>
            split at h
            · cases h
            next hfree =>
              cases h
              refine .insert hp (Bool.eq_false_iff.mpr hscan) fun hnone j => ?_
              rw [not_and, not_exists] at hfree
              exact Bool.eq_false_iff.mpr (hfree (by rw [hnone]; rfl) j)
      | lock =>
          cases hp : st.phase i <;> simp only [hp, reduceCtorEq] at h
          · split at h
            next l now s hwork hs =>
              split at h
              · cases h
              next hfree =>
                split at h
                · cases h
                  rw [not_exists] at hfree
                  exact .claim hp (by simp [Tx.isScan, hwork])
                    (fun j => Bool.eq_false_iff.mpr (hfree j)) hs
                · cases h
            · cases h
          · split at h
            · cases h
            next hfree =>
              obtain ⟨s, hs, rfl⟩ := Option.map_eq_some_iff.mp h
              rw [not_exists] at hfree
              exact .lock hp (fun j => Bool.eq_false_iff.mpr (hfree j)) hs
      | attach =>
          cases hp : st.phase i <;> simp only [hp, reduceCtorEq] at h
          cases h
          exact .attach hp
      | reconcile =>
          cases hp : st.phase i <;> simp only [hp, reduceCtorEq] at h
          cases h
          exact .reconcile hp
      | commit =>
          cases hp : st.phase i <;> simp only [hp, reduceCtorEq] at h
          split at h
          · cases h
            exact .commit hp
          · cases h
      | abort =>
          have h' : (if (st.phase i).active then some (st.goto i .aborted) else none) = some st' := by
            cases hp : st.phase i <;> simpa only [hp] using h
          split at h'
          next ha =>
            cases h'
            exact .abort ha
          · cases h'

end Assembly

end

end FreightAP
