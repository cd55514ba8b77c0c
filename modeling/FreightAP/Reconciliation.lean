import FreightAP.ShipmentAssembly

/-!
# Reconciliation

`reconcileShipment` compares the canonical documents of a shipment and records
what it found.  The comparison is `verdict`, a function of the row, the four
extractions and the clock.  Its checks are made one after another, each on the
evidence so far: the checks and, on a list of their own, the exception reasons.
-/

namespace FreightAP

/-- `AMOUNT_TOLERANCE`. -/
def amountTolerance : ℚ := 1 / 20

/-! ## Reading a document -/

/-- `_doc_extraction`. -/
def docExtraction : Option Document → Option Extraction
  | none => none
  | some document => some (document.extractedData.getD [])

/-- `(extraction or {}).get(key)`. -/
def field (e : Option Extraction) (key : String) : Scalar := (e.getD []).get key

section

variable [PyRuntime]

/-- `_normalize_carrier`. -/
def normalizeCarrier (value : Scalar) : String :=
  " ".intercalate (split (upper (strip (value.or (.str "")).text)))

/-- `_parse_date`, as a day count. -/
def parseDate (value : Scalar) : Option Int :=
  if value.truthy then PyRuntime.fromisoformat value.text else none

/-- `_amount_from`: the first key that holds a number. -/
def amountFrom (e : Option Extraction) (keys : List String) : Option ℚ :=
  keys.findSome? fun key => (field e key).toFloat

/-- The invoice amount the check reads. -/
def invoiceTotal (invoice : Option Extraction) : Option ℚ :=
  amountFrom invoice ["total_amount", "invoice_total"]

/-- The agreed rate the check reads. -/
def agreedRate (rateCon : Option Extraction) : Option ℚ :=
  amountFrom rateCon ["agreed_rate", "total_amount", "rate"]

/-- The normalised carrier of a document. -/
def carrierOf (e : Option Extraction) : String := normalizeCarrier (field e "carrier_name")

/-- The pickup date of a bill of lading. -/
def bolPickupDate (bol : Option Extraction) : Option Int :=
  parseDate ((field bol "pickup_date").or (field bol "shipment_date"))

/-- The shipment date of a rate confirmation. -/
def rateConShipDate (rateCon : Option Extraction) : Option Int :=
  parseDate ((field rateCon "shipment_date").or (field rateCon "invoice_date"))

end

/-! ## Evidence -/

/-- The lists `checks` and `exception_reasons`. -/
structure Evidence where
  checks : List Check
  exceptionReasons : List String
deriving DecidableEq

/-- `_check`. -/
def Evidence.check (e : Evidence) (checkName : String) (outcome : CheckOutcome)
    (details : String) (reason : Option String) : Evidence where
  checks := e.checks ++
    [⟨checkName, outcome, details, if outcome = .failed then reason else none⟩]
  exceptionReasons :=
    if outcome = .failed then
      e.exceptionReasons ++ [if reason.getD "" = "" then checkName else reason.getD ""]
    else e.exceptionReasons

/-- `passed` or `failed`. -/
def outcomeOf (ok : Bool) : CheckOutcome := if ok then .passed else .failed

section

variable [PyRuntime]

/-- Whether an invoice amount is within the tolerance of the agreed rate. -/
def withinTolerance (total rate : ℚ) : Bool := |total - rate| ≤ |rate| * amountTolerance

/-- The `amount_variance` check. -/
def amountCheck (invoice rateCon : Option Extraction) (e : Evidence) : Evidence :=
  match invoiceTotal invoice, agreedRate rateCon with
  | some total, some rate =>
      e.check "amount_variance" (outcomeOf (withinTolerance total rate))
        ("invoice=" ++ PyRuntime.floatText total ++ ", agreed_rate=" ++ PyRuntime.floatText rate ++
          ", variance=" ++ PyRuntime.floatText (total - rate))
        (some "amount_variance")
  | _, _ =>
      e.check "amount_variance" .notEvaluated
        "skipped: invoice or rate confirmation amount is missing" none

/-- The `carrier_match` check. -/
def carrierCheck (invoice rateCon : Option Extraction) (e : Evidence) : Evidence :=
  if carrierOf invoice = "" ∨ carrierOf rateCon = "" then
    e.check "carrier_match" .notEvaluated
      "skipped: invoice or rate confirmation carrier is missing" none
  else
    e.check "carrier_match" (outcomeOf (carrierOf invoice = carrierOf rateCon))
      ("invoice=" ++ carrierOf invoice ++ ", rate_con=" ++ carrierOf rateCon)
      (some "carrier_mismatch")

/-- The `bol_pickup_date` check. -/
def pickupDateCheck (rateCon bol : Option Extraction) (e : Evidence) : Evidence :=
  match bolPickupDate bol, rateConShipDate rateCon with
  | some pickup, some ship =>
      e.check "bol_pickup_date" (outcomeOf ((pickup - ship).natAbs ≤ 1))
        ("bol_pickup_date=" ++ PyRuntime.dateText pickup ++ ", rate_con_shipment_date=" ++
          PyRuntime.dateText ship)
        (some "bol_pickup_date_mismatch")
  | _, _ =>
      e.check "bol_pickup_date" .notEvaluated
        "skipped: BOL pickup date or rate confirmation shipment date is missing" none

/-- The `pod_delivery_confirmation` check. -/
def deliveryCheck (hasPod : Bool) (pod : Option Extraction) (e : Evidence) : Evidence :=
  if hasPod then
    let deliveryDate := field pod "delivery_date"
    let condition := field pod "condition"
    e.check "pod_delivery_confirmation" (outcomeOf (deliveryDate.truthy && condition.truthy))
      ("delivery_date=" ++ (deliveryDate.or (.str "missing")).text ++ ", condition=" ++
        (condition.or (.str "missing")).text)
      (some "pod_incomplete")
  else
    e.check "pod_delivery_confirmation" .notEvaluated
      "POD content cannot be evaluated until the document arrives" none

/-- The policy's checks and reasons. -/
def policyChecks (policy : MissingDocumentPolicyResult) (e : Evidence) : Evidence where
  checks := e.checks ++ policy.checks
  exceptionReasons := e.exceptionReasons ++ policy.reasonCodes

/-- The `missing_docs` check. -/
def missingDocsCheck (missingDocs : List String) (e : Evidence) : Evidence :=
  e.check "missing_docs" (if missingDocs.isEmpty then .passed else .notEvaluated)
    (if missingDocs.isEmpty then "none" else ", ".intercalate missingDocs) none

/-! ## The verdict -/

/-- The extractions of the four slots. -/
structure Papers where
  invoice : Option Extraction
  rateCon : Option Extraction
  bol : Option Extraction
  pod : Option Extraction
deriving DecidableEq

/-- The checks `reconcile_shipment` makes, in its order. -/
def evidence (s : Shipment) (p : Papers) (policy : MissingDocumentPolicyResult) : Evidence :=
  missingDocsCheck policy.missingDocs
    (policyChecks policy
      (deliveryCheck s.hasPod p.pod
        (pickupDateCheck p.rateCon p.bol
          (carrierCheck p.invoice p.rateCon (amountCheck p.invoice p.rateCon ⟨[], []⟩)))))

/-- The status that the evidence gives. -/
def statusOfEvidence (missingDocs : List String) (e : Evidence) : ReconciliationStatus :=
  if ¬e.exceptionReasons.isEmpty then .exception
  else if ¬missingDocs.isEmpty ∨ e.checks.any (·.outcome = .notEvaluated) then .partialSet
  else .reconciled

/-- The status `reconcile_shipment` gives a row. -/
def reconciliationStatus (s : Shipment) (p : Papers) (now slaDuration : Int) :
    ReconciliationStatus :=
  let policy := evaluateMissingDocumentPolicy s now slaDuration
  statusOfEvidence policy.missingDocs (evidence s p policy)

/-! ## The service -/

/-- The optional arguments of `reconcile_shipment`. -/
structure Evaluation where
  runId : Option String
  now : Option Int
  slaDuration : Option Int
  evaluationSource : Option String
  evaluationKey : Option String
deriving DecidableEq

/-- `reconcile_shipment(shipment, db, run_id=run_id)`. -/
def Evaluation.ofRun (runId : String) : Evaluation := ⟨some runId, none, none, none, none⟩

/-- `_shipment_documents`, with the extraction of a manual rate confirmation in
the place of the rate confirmation document. -/
def shipmentPapers (s : Shipment) (db : Database) : Papers where
  invoice := docExtraction (s.invoiceId.bind db.document?)
  rateCon :=
    match db.rateConfirmation? s.loadNumber with
    | some rc => some (rateConfirmationExtraction rc)
    | none => docExtraction (s.rateConId.bind db.document?)
  bol := docExtraction (s.bolId.bind db.document?)
  pod := docExtraction (s.podId.bind db.document?)

/-- A manual rate confirmation raises the flag of its slot. -/
def noteRateConfirmation (s : Shipment) (db : Database) : Shipment :=
  if (db.rateConfirmation? s.loadNumber).isSome then { s with hasRateCon := true } else s

/-- The result row of the evaluation's run or key, if there is one. -/
def existingResult? (ev : Evaluation) (db : Database) : Option ReconciliationResult :=
  match ev.runId with
  | some runId => db.resultOfRun? runId
  | none => ev.evaluationKey.bind db.resultOfKey?

/-- The source text an evaluation is recorded under. -/
def Evaluation.source (ev : Evaluation) : String :=
  ev.evaluationSource.getD (if ev.runId.isSome then "document_workflow" else "legacy")

/-- The result row: the found one overwritten, or a new one. -/
def resultRow (ses : Session) (s : Shipment) (ev : Evaluation) (e : Evidence)
    (missingDocs : List String) : Option ReconciliationResult → ReconciliationResult
  | none =>
      { id := ses.resultUuid, shipmentId := s.id, runId := ev.runId,
        evaluationSource := ev.source, evaluationKey := ev.evaluationKey, checks := e.checks,
        missingDocs := missingDocs, exceptionReasons := e.exceptionReasons,
        createdAt := ses.startedAt }
  | some result =>
      { result with
        shipmentId := s.id, evaluationSource := ev.source, evaluationKey := ev.evaluationKey,
        checks := e.checks, missingDocs := missingDocs, exceptionReasons := e.exceptionReasons }

/-- `reconcile_shipment`: the row, the result and the rows written. -/
def reconcileShipment (ses : Session) (s : Shipment) (ev : Evaluation) (db : Database) :
    Shipment × ReconciliationResult × List Write :=
  let now := ev.now.getD ses.clock
  let slaDuration := ev.slaDuration.getD ses.slaDuration
  let s := noteRateConfirmation s db
  let papers := shipmentPapers s db
  let policy := evaluateMissingDocumentPolicy s now slaDuration
  let e := evidence s papers policy
  let s := { s with reconciliationStatus := reconciliationStatus s papers now slaDuration }
  let result := resultRow ses s ev e policy.missingDocs (existingResult? ev db)
  (s, result,
    .shipment s :: .result result ::
      syncMissingDocumentException ses s policy result.id now db)

end

/-! ## What reconciliation writes -/

section

variable [PyRuntime] {ses : Session} {s : Shipment} {ev : Evaluation} {db : Database}

/-- A row of the two exception tables. -/
def Write.isException : Write → Bool
  | .exception _ => true
  | .event _ => true
  | _ => false

/-- Synchronising the exception writes rows of the exception tables only. -/
theorem sync_writes (ses : Session) (s : Shipment) (policy : MissingDocumentPolicyResult)
    (resultId : Uuid) (now : Int) (db : Database) :
    ∀ w ∈ syncMissingDocumentException ses s policy resultId now db, w.isException = true := by
  intro w hw
  unfold syncMissingDocumentException at hw
  cases he : db.exception? s.id with
  | none =>
      simp only [he] at hw
      split at hw
      · simp only [List.mem_cons, List.not_mem_nil, or_false] at hw
        rcases hw with rfl | rfl <;> rfl
      · cases hw
  | some existing =>
      simp only [he, List.mem_ite_nil_left, List.mem_cons, List.not_mem_nil, or_false] at hw
      obtain ⟨-, rfl | rfl⟩ := hw <;> rfl

omit [PyRuntime] in
/-- Rows of the exception tables are rows of no other table. -/
theorem rowsOf_isException {ws : List Write} (h : ∀ w ∈ ws, w.isException = true) :
    Database.documentsOf ws = [] ∧ Database.shipmentsOf ws = [] ∧
      Database.rateConfirmationsOf ws = [] ∧ Database.resultsOf ws = [] := by
  induction ws with
  | nil => exact ⟨rfl, rfl, rfl, rfl⟩
  | cons w ws ih =>
      have hw := h w (List.mem_cons_self ..)
      have ih' := ih fun w' hw' => h w' (List.mem_cons_of_mem _ hw')
      cases w with
      | exception row => exact ih'
      | event row => exact ih'
      | _ => cases hw

/-- `reconcile_shipment` writes one shipment row and one result row. -/
theorem reconcileShipment_writes (ses : Session) (s : Shipment) (ev : Evaluation)
    (db : Database) :
    Database.documentsOf (reconcileShipment ses s ev db).2.2 = [] ∧
      Database.shipmentsOf (reconcileShipment ses s ev db).2.2 =
        [(reconcileShipment ses s ev db).1] ∧
      Database.rateConfirmationsOf (reconcileShipment ses s ev db).2.2 = [] ∧
      Database.resultsOf (reconcileShipment ses s ev db).2.2 =
        [(reconcileShipment ses s ev db).2.1] := by
  unfold reconcileShipment
  obtain ⟨hd, hs, hr, hres⟩ := rowsOf_isException (sync_writes ses _ _ _ _ db)
  exact ⟨hd, congrArg (List.cons _) hs, hr, congrArg (List.cons _) hres⟩

/-- The row keeps its keys and its documents. -/
theorem reconcileShipment_row (ses : Session) (s : Shipment) (ev : Evaluation) (db : Database) :
    (reconcileShipment ses s ev db).1.id = s.id ∧
      (reconcileShipment ses s ev db).1.loadNumber = s.loadNumber ∧
      (reconcileShipment ses s ev db).1.createdAt = s.createdAt ∧
      ∀ d, (reconcileShipment ses s ev db).1.docId d = s.docId d := by
  unfold reconcileShipment noteRateConfirmation
  split
  · exact ⟨rfl, rfl, rfl, fun d => by cases d <;> rfl⟩
  · exact ⟨rfl, rfl, rfl, fun d => by cases d <;> rfl⟩

/-- The flags are those of the row, and the rate confirmation's when a manual
one is on file. -/
theorem reconcileShipment_has (d : Slot) :
    (reconcileShipment ses s ev db).1.has d = (noteRateConfirmation s db).has d := by
  unfold reconcileShipment
  cases d <;> rfl

/-- The result row is the found one, or a new one, with the evaluation's
evidence. -/
theorem reconcileShipment_result :
    (reconcileShipment ses s ev db).2.1 =
      resultRow ses (reconcileShipment ses s ev db).1 ev
        (evidence (noteRateConfirmation s db) (shipmentPapers (noteRateConfirmation s db) db)
          (evaluateMissingDocumentPolicy (noteRateConfirmation s db) (ev.now.getD ses.clock)
            (ev.slaDuration.getD ses.slaDuration)))
        (evaluateMissingDocumentPolicy (noteRateConfirmation s db) (ev.now.getD ses.clock)
          (ev.slaDuration.getD ses.slaDuration)).missingDocs
        (existingResult? ev db) := rfl

end

end FreightAP
