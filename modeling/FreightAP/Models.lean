import Mathlib.Data.Prod.Lex
import Mathlib.Data.String.Basic
import FreightAP.Lib.Table
import FreightAP.Python

/-!
# Rows and tables

The rows of the PostgreSQL tables that shipment assembly and reconciliation
read and write, and a database as one keyed table for each of them.  A UUID is
its text.

A service does not change a database.  It returns the rows it wrote, a list of
`Write`, and `Database.apply` puts them in.  A transaction keeps its list until
it commits, and reads the committed database with its own writes applied.
-/

namespace FreightAP

abbrev Uuid := String

/-- Times with identifiers, in the order of `ORDER BY created_at, id`. -/
instance : Preorder (Int ×ₗ Uuid) := (inferInstance : LinearOrder (Int ×ₗ Uuid)).toPreorder

/-- `Shipment.reconciliation_status`. -/
inductive ReconciliationStatus where
  | pending
  | partialSet
  | reconciled
  | exception
deriving DecidableEq, Repr, Inhabited

/-- `CheckOutcome`. -/
inductive CheckOutcome where
  | passed
  | failed
  | notEvaluated
deriving DecidableEq, Repr

/-- The four document slots of a shipment, in the order of its columns. -/
inductive Slot where
  | invoice
  | rateCon
  | bol
  | pod
deriving DecidableEq, Repr

/-- Every slot, in order. -/
def Slot.all : List Slot := [.invoice, .rateCon, .bol, .pod]

/-! ## Rows -/

/-- A row of `documents`. -/
structure Document where
  id : Nat
  filename : String
  docType : String
  status : String
  extractedData : Option Extraction
  shipmentId : Option Uuid
deriving DecidableEq

/-- A row of `shipments`. -/
structure Shipment where
  id : Uuid
  loadNumber : String
  carrierName : Option String
  hasInvoice : Bool
  hasRateCon : Bool
  hasBol : Bool
  hasPod : Bool
  invoiceId : Option Nat
  rateConId : Option Nat
  bolId : Option Nat
  podId : Option Nat
  reconciliationStatus : ReconciliationStatus
  createdAt : Int
deriving DecidableEq

/-- A row of `rate_confirmations`. -/
structure RateConfirmation where
  id : Uuid
  loadNumber : String
  carrierName : String
  origin : String
  destination : String
  agreedRate : ℚ
  currency : String
  shipmentDate : Int
deriving DecidableEq

/-- `ReconciliationCheck`. -/
structure Check where
  checkName : String
  outcome : CheckOutcome
  details : String
  reasonCode : Option String
deriving DecidableEq

/-- A row of `reconciliation_results`. -/
structure ReconciliationResult where
  id : Uuid
  shipmentId : Uuid
  runId : Option String
  evaluationSource : String
  evaluationKey : Option String
  checks : List Check
  missingDocs : List String
  exceptionReasons : List String
  createdAt : Int
deriving DecidableEq

/-- `ShipmentException.status`. -/
inductive ExceptionStatus where
  | active
  | resolved
deriving DecidableEq, Repr

/-- `ShipmentExceptionEvent.transition`. -/
inductive ExceptionTransition where
  | opened
  | changed
  | resolved
deriving DecidableEq, Repr

/-- The JSON state an event keeps before and after its transition. -/
structure ExceptionState where
  status : ExceptionStatus
  missingDocs : List String
  reasonCodes : List String
  deadlineAt : String
deriving DecidableEq

/-- A row of `shipment_exceptions`, always of the kind
`missing_required_documents`. -/
structure ShipmentException where
  id : Uuid
  shipmentId : Uuid
  status : ExceptionStatus
  missingDocs : List String
  reasonCodes : List String
  deadlineAt : Int
  version : Nat
  openedAt : Int
  resolvedAt : Option Int
deriving DecidableEq

/-- A row of `shipment_exception_events`. -/
structure ShipmentExceptionEvent where
  id : Uuid
  exceptionId : Uuid
  reconciliationResultId : Uuid
  version : Nat
  transition : ExceptionTransition
  beforeState : Option ExceptionState
  afterState : ExceptionState
  occurredAt : Int
deriving DecidableEq

/-! ## Slots of a shipment -/

namespace Shipment

/-- The presence flag of a slot. -/
def has (s : Shipment) : Slot → Bool
  | .invoice => s.hasInvoice
  | .rateCon => s.hasRateCon
  | .bol => s.hasBol
  | .pod => s.hasPod

/-- The canonical document of a slot. -/
def docId (s : Shipment) : Slot → Option Nat
  | .invoice => s.invoiceId
  | .rateCon => s.rateConId
  | .bol => s.bolId
  | .pod => s.podId

/-- Set the presence flag of a slot. -/
def setHas (s : Shipment) : Slot → Shipment
  | .invoice => { s with hasInvoice := true }
  | .rateCon => { s with hasRateCon := true }
  | .bol => { s with hasBol := true }
  | .pod => { s with hasPod := true }

/-- Set the canonical document of a slot. -/
def setDocId (s : Shipment) (id : Nat) : Slot → Shipment
  | .invoice => { s with invoiceId := some id }
  | .rateCon => { s with rateConId := some id }
  | .bol => { s with bolId := some id }
  | .pod => { s with podId := some id }

/-- A new shipment row: no document yet. -/
def new (id : Uuid) (loadNumber : String) (createdAt : Int) : Shipment where
  id := id
  loadNumber := loadNumber
  carrierName := none
  hasInvoice := false
  hasRateCon := false
  hasBol := false
  hasPod := false
  invoiceId := none
  rateConId := none
  bolId := none
  podId := none
  reconciliationStatus := .pending
  createdAt := createdAt

@[simp] theorem has_setHas (s : Shipment) (a b : Slot) :
    (s.setHas a).has b = (decide (a = b) || s.has b) := by
  cases a <;> cases b <;> rfl

@[simp] theorem docId_setHas (s : Shipment) (a b : Slot) : (s.setHas a).docId b = s.docId b := by
  cases a <;> cases b <;> rfl

@[simp] theorem has_setDocId (s : Shipment) (id : Nat) (a b : Slot) :
    (s.setDocId id a).has b = s.has b := by
  cases a <;> cases b <;> rfl

@[simp] theorem docId_setDocId (s : Shipment) (id : Nat) (a b : Slot) :
    (s.setDocId id a).docId b = if a = b then some id else s.docId b := by
  cases a <;> cases b <;> rfl

@[simp] theorem id_setHas (s : Shipment) (a : Slot) : (s.setHas a).id = s.id := by
  cases a <;> rfl

@[simp] theorem id_setDocId (s : Shipment) (n : Nat) (a : Slot) : (s.setDocId n a).id = s.id := by
  cases a <;> rfl

@[simp] theorem loadNumber_setHas (s : Shipment) (a : Slot) :
    (s.setHas a).loadNumber = s.loadNumber := by
  cases a <;> rfl

@[simp] theorem loadNumber_setDocId (s : Shipment) (n : Nat) (a : Slot) :
    (s.setDocId n a).loadNumber = s.loadNumber := by
  cases a <;> rfl

@[simp] theorem createdAt_setHas (s : Shipment) (a : Slot) :
    (s.setHas a).createdAt = s.createdAt := by
  cases a <;> rfl

@[simp] theorem createdAt_setDocId (s : Shipment) (n : Nat) (a : Slot) :
    (s.setDocId n a).createdAt = s.createdAt := by
  cases a <;> rfl

@[simp] theorem has_new (id : Uuid) (loadNumber : String) (createdAt : Int) (a : Slot) :
    (new id loadNumber createdAt).has a = false := by
  cases a <;> rfl

@[simp] theorem docId_new (id : Uuid) (loadNumber : String) (createdAt : Int) (a : Slot) :
    (new id loadNumber createdAt).docId a = none := by
  cases a <;> rfl

end Shipment

/-! ## The database -/

/-- The tables.  An audit row is its run and its event type, which are unique
together. -/
structure Database where
  documents : List Document
  shipments : List Shipment
  rateConfirmations : List RateConfirmation
  reconciliationResults : List ReconciliationResult
  shipmentExceptions : List ShipmentException
  shipmentExceptionEvents : List ShipmentExceptionEvent
  workflowAuditLogs : List (String × String)
deriving DecidableEq

/-- A row a service wrote. -/
inductive Write where
  | document (row : Document)
  | shipment (row : Shipment)
  | rateConfirmation (row : RateConfirmation)
  | result (row : ReconciliationResult)
  | exception (row : ShipmentException)
  | event (row : ShipmentExceptionEvent)
  | audit (runId eventType : String)
deriving DecidableEq

namespace Database

/-- The database with no row. -/
def empty : Database := ⟨[], [], [], [], [], [], []⟩

/-- Put one row in, by its primary key. -/
def write (db : Database) : Write → Database
  | .document row => { db with documents := Table.put Document.id row db.documents }
  | .shipment row => { db with shipments := Table.put Shipment.id row db.shipments }
  | .rateConfirmation row =>
      { db with rateConfirmations := Table.put RateConfirmation.id row db.rateConfirmations }
  | .result row =>
      { db with
        reconciliationResults := Table.put ReconciliationResult.id row db.reconciliationResults }
  | .exception row =>
      { db with shipmentExceptions := Table.put ShipmentException.id row db.shipmentExceptions }
  | .event row =>
      { db with
        shipmentExceptionEvents :=
          Table.put ShipmentExceptionEvent.id row db.shipmentExceptionEvents }
  | .audit runId eventType =>
      { db with workflowAuditLogs := Table.put id (runId, eventType) db.workflowAuditLogs }

/-- Put a list of rows in, in order. -/
def apply (db : Database) (ws : List Write) : Database := ws.foldl write db

@[simp] theorem apply_nil (db : Database) : db.apply [] = db := rfl

@[simp] theorem apply_cons (db : Database) (w : Write) (ws : List Write) :
    db.apply (w :: ws) = (db.write w).apply ws := rfl

theorem apply_append (db : Database) (ws ws' : List Write) :
    db.apply (ws ++ ws') = (db.apply ws).apply ws' :=
  List.foldl_append ..

/-- `db.get(Document, id)`. -/
def document? (db : Database) (id : Nat) : Option Document :=
  Table.get? Document.id id db.documents

/-- The shipment of a load number. -/
def shipment? (db : Database) (loadNumber : String) : Option Shipment :=
  Table.get? Shipment.loadNumber loadNumber db.shipments

/-- The manual rate confirmation of a load number. -/
def rateConfirmation? (db : Database) (loadNumber : String) : Option RateConfirmation :=
  Table.get? RateConfirmation.loadNumber loadNumber db.rateConfirmations

/-- The reconciliation result of a run. -/
def resultOfRun? (db : Database) (runId : String) : Option ReconciliationResult :=
  Table.get? ReconciliationResult.runId (some runId) db.reconciliationResults

/-- The reconciliation result of an evaluation key. -/
def resultOfKey? (db : Database) (key : String) : Option ReconciliationResult :=
  Table.get? ReconciliationResult.evaluationKey (some key) db.reconciliationResults

/-- The missing-document exception of a shipment. -/
def exception? (db : Database) (shipmentId : Uuid) : Option ShipmentException :=
  Table.get? ShipmentException.shipmentId shipmentId db.shipmentExceptions

/-! ### Tables after a list of writes -/

/-- The rows of each table among the writes. -/
def documentsOf (ws : List Write) : List Document :=
  ws.filterMap fun
    | .document row => some row
    | _ => none

@[inherit_doc documentsOf]
def shipmentsOf (ws : List Write) : List Shipment :=
  ws.filterMap fun
    | .shipment row => some row
    | _ => none

@[inherit_doc documentsOf]
def rateConfirmationsOf (ws : List Write) : List RateConfirmation :=
  ws.filterMap fun
    | .rateConfirmation row => some row
    | _ => none

@[inherit_doc documentsOf]
def resultsOf (ws : List Write) : List ReconciliationResult :=
  ws.filterMap fun
    | .result row => some row
    | _ => none

@[inherit_doc documentsOf]
def exceptionsOf (ws : List Write) : List ShipmentException :=
  ws.filterMap fun
    | .exception row => some row
    | _ => none

@[inherit_doc documentsOf]
def eventsOf (ws : List Write) : List ShipmentExceptionEvent :=
  ws.filterMap fun
    | .event row => some row
    | _ => none

theorem documents_apply (db : Database) (ws : List Write) :
    (db.apply ws).documents = Table.puts Document.id (documentsOf ws) db.documents := by
  induction ws generalizing db with
  | nil => rfl
  | cons w ws ih =>
      rw [apply_cons, ih]
      cases w <;> rfl

theorem shipments_apply (db : Database) (ws : List Write) :
    (db.apply ws).shipments = Table.puts Shipment.id (shipmentsOf ws) db.shipments := by
  induction ws generalizing db with
  | nil => rfl
  | cons w ws ih =>
      rw [apply_cons, ih]
      cases w <;> rfl

theorem rateConfirmations_apply (db : Database) (ws : List Write) :
    (db.apply ws).rateConfirmations =
      Table.puts RateConfirmation.id (rateConfirmationsOf ws) db.rateConfirmations := by
  induction ws generalizing db with
  | nil => rfl
  | cons w ws ih =>
      rw [apply_cons, ih]
      cases w <;> rfl

theorem results_apply (db : Database) (ws : List Write) :
    (db.apply ws).reconciliationResults =
      Table.puts ReconciliationResult.id (resultsOf ws) db.reconciliationResults := by
  induction ws generalizing db with
  | nil => rfl
  | cons w ws ih =>
      rw [apply_cons, ih]
      cases w <;> rfl

theorem exceptions_apply (db : Database) (ws : List Write) :
    (db.apply ws).shipmentExceptions =
      Table.puts ShipmentException.id (exceptionsOf ws) db.shipmentExceptions := by
  induction ws generalizing db with
  | nil => rfl
  | cons w ws ih =>
      rw [apply_cons, ih]
      cases w <;> rfl

theorem events_apply (db : Database) (ws : List Write) :
    (db.apply ws).shipmentExceptionEvents =
      Table.puts ShipmentExceptionEvent.id (eventsOf ws) db.shipmentExceptionEvents := by
  induction ws generalizing db with
  | nil => rfl
  | cons w ws ih =>
      rw [apply_cons, ih]
      cases w <;> rfl

theorem rateConfirmation?_apply {db : Database} {ws : List Write}
    (h : rateConfirmationsOf ws = []) (loadNumber : String) :
    (db.apply ws).rateConfirmation? loadNumber = db.rateConfirmation? loadNumber := by
  unfold rateConfirmation?
  rw [rateConfirmations_apply, h]
  rfl

/-! ### Lookups after a write -/

section

variable {db : Database}

/-- No write removes a document. -/
theorem document?_isSome_apply {db : Database} {id : Nat} (h : (db.document? id).isSome)
    (ws : List Write) : ((db.apply ws).document? id).isSome := by
  rw [document?, documents_apply]
  exact Table.get?_puts_isSome h

theorem document?_write_document (row : Document) (k : Nat) :
    (db.write (.document row)).document? k = if row.id = k then some row else db.document? k := by
  simp only [document?, write]
  split
  next h => subst h; exact Table.get?_put_self
  next h => exact Table.get?_put_of_ne h

@[simp] theorem documents_write_shipment (row : Shipment) :
    (db.write (.shipment row)).documents = db.documents := rfl

@[simp] theorem document?_write_shipment (row : Shipment) (k : Nat) :
    (db.write (.shipment row)).document? k = db.document? k := rfl

@[simp] theorem rateConfirmations_write_document (row : Document) :
    (db.write (.document row)).rateConfirmations = db.rateConfirmations := rfl

@[simp] theorem rateConfirmation?_write_document (row : Document) (loadNumber : String) :
    (db.write (.document row)).rateConfirmation? loadNumber = db.rateConfirmation? loadNumber := rfl

@[simp] theorem rateConfirmation?_write_shipment (row : Shipment) (loadNumber : String) :
    (db.write (.shipment row)).rateConfirmation? loadNumber = db.rateConfirmation? loadNumber := rfl

/-- The first row of a load number is found. -/
theorem shipment?_write_shipment_new (row : Shipment) (h : db.shipment? row.loadNumber = none) :
    (db.write (.shipment row)).shipment? row.loadNumber = some row :=
  Table.find?_put_of_none (by simp) h

end

end Database

/-- What a database session brings to a service: the start of its transaction,
which `now()` returns, the reading of the process clock, the configured SLA,
and the keys the database and `uuid4` will draw for the rows it inserts. -/
structure Session where
  startedAt : Int
  clock : Int
  slaDuration : Int
  shipmentUuid : Uuid
  companionId : Nat
  resultUuid : Uuid
  exceptionUuid : Uuid
  eventUuid : Uuid
deriving DecidableEq

end FreightAP
