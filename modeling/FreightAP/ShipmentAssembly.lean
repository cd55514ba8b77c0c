import FreightAP.MissingDocumentSla

/-!
# Shipment assembly

`upsertShipment` attaches a document to the shipment of its load number.  The
first document of a type becomes the canonical one of its slot and later ones
only raise the presence flag, which is then up already.

The source runs it in two database statements that other transactions can come
between: the insert on conflict do nothing, and the locking select that reads
the row back.  They are `insertShipment` and `attachDocument` here, and
`upsertShipment` is the one after the other.
-/

namespace FreightAP

/-- `DOC_FIELDS`: the slot of a document type. -/
def docFields : String → Option Slot
  | "invoice" => some .invoice
  | "rate_confirmation" => some .rateCon
  | "bill_of_lading" => some .bol
  | "proof_of_delivery" => some .pod
  | _ => none

/-- `_present_count`. -/
def presentCount (s : Shipment) : Nat :=
  s.hasInvoice.toNat + s.hasRateCon.toNat + s.hasBol.toNat + s.hasPod.toNat

section

variable [PyRuntime]

/-- `rate_confirmation_extraction`. -/
def rateConfirmationExtraction (rc : RateConfirmation) : Extraction :=
  [("rate_confirmation_id", .str rc.id),
   ("load_number", .str rc.loadNumber),
   ("carrier_name", .str rc.carrierName),
   ("origin", .str rc.origin),
   ("destination", .str rc.destination),
   ("agreed_rate", .float rc.agreedRate),
   ("currency", .str rc.currency),
   ("shipment_date", .str (PyRuntime.dateText rc.shipmentDate)),
   ("doc_type", .str "rate_confirmation")]

/-- The companion document of a manual rate confirmation, if there is one. -/
def companionDocument? (rc : RateConfirmation) (db : Database) : Option Document :=
  db.documents.find? fun d =>
    d.docType = "rate_confirmation" &&
      (d.extractedData.getD []).get "rate_confirmation_id" = .str rc.id

/-- `_rate_confirmation_document`: the companion document, found or made new,
attached to the shipment. -/
def rateConfirmationDocument (ses : Session) (rc : RateConfirmation) (s : Shipment)
    (db : Database) : Document :=
  let document := (companionDocument? rc db).getD
    { id := ses.companionId,
      filename := "manual-rate-confirmation-" ++ rc.loadNumber ++ ".json",
      docType := "rate_confirmation", status := "extracted",
      extractedData := none, shipmentId := none }
  { document with
    shipmentId := some s.id, extractedData := some (rateConfirmationExtraction rc) }

/-- `_attach_existing_rate_confirmation`: the shipment, and the rows written
besides it. -/
def attachExistingRateConfirmation (ses : Session) (s : Shipment) (db : Database) :
    Shipment × List Write :=
  if s.rateConId.isSome then ({ s with hasRateCon := true }, [])
  else
    match db.rateConfirmation? s.loadNumber with
    | none => (s, [])
    | some rc =>
        let document := rateConfirmationDocument ses rc s db
        let carrierName :=
          if s.carrierName.getD "" = "" then some rc.carrierName else s.carrierName
        ({ s with rateConId := some document.id, hasRateCon := true, carrierName := carrierName },
          [.document document])

/-- Fill the slot of the document's type. -/
def fillSlot (s : Shipment) (document : Document) : Shipment :=
  match docFields document.docType with
  | none => s
  | some slot =>
      ((if (s.docId slot).isNone then s.setDocId document.id slot else s)).setHas slot

/-- Take the carrier name off the extraction when the shipment has none. -/
def fillCarrier (s : Shipment) (extraction : Extraction) : Shipment :=
  if s.carrierName.getD "" = "" ∧ (extraction.get "carrier_name").truthy then
    { s with carrierName := (extraction.get "carrier_name").toText }
  else s

/-- The intermediate status, before reconciliation overwrites it. -/
def statusOfPresence (s : Shipment) : ReconciliationStatus :=
  if presentCount s = 0 then .pending
  else if presentCount s < Slot.all.length then .partialSet
  else s.reconciliationStatus

/-- The insert on conflict do nothing. -/
def insertShipment (ses : Session) (loadNumber : String) (db : Database) : List Write :=
  match db.shipment? loadNumber with
  | some _ => []
  | none => [.shipment (Shipment.new ses.shipmentUuid loadNumber ses.startedAt)]

/-- The rest of `upsert_shipment`, on the locked row. -/
def attachDocument (ses : Session) (s : Shipment) (document : Document) (extraction : Extraction)
    (db : Database) : Shipment × List Write :=
  let (s', ws) :=
    attachExistingRateConfirmation ses (fillCarrier (fillSlot s document) extraction) db
  let s' := { s' with reconciliationStatus := statusOfPresence s' }
  (s', .document { document with shipmentId := some s.id } :: ws ++ [.shipment s'])

/-- `upsert_shipment`: the attached shipment and the rows written, `none` for a
document without a load number. -/
def upsertShipment (ses : Session) (loadNumber : Option String) (document : Document)
    (extraction : Extraction) (db : Database) : Except String (Option (Shipment × List Write)) :=
  match normalizeLoadNumber loadNumber with
  | .error message => .error message
  | .ok none => .ok none
  | .ok (some normalized) =>
      let inserted := insertShipment ses normalized db
      match (db.apply inserted).shipment? normalized with
      | none => .error "No row was found when one was required"
      | some s =>
          let (s', ws) := attachDocument ses s document extraction (db.apply inserted)
          .ok (some (s', inserted ++ ws))

end

/-! ## What assembly does to the row -/

section

variable {s : Shipment} {document : Document} {extraction : Extraction}

@[simp] theorem fillCarrier_has (d : Slot) : (fillCarrier s extraction).has d = s.has d := by
  unfold fillCarrier
  split <;> cases d <;> rfl

@[simp] theorem fillCarrier_docId (d : Slot) :
    (fillCarrier s extraction).docId d = s.docId d := by
  unfold fillCarrier
  split <;> cases d <;> rfl

@[simp] theorem fillCarrier_id : (fillCarrier s extraction).id = s.id := by
  unfold fillCarrier
  split <;> rfl

@[simp] theorem fillCarrier_loadNumber : (fillCarrier s extraction).loadNumber = s.loadNumber := by
  unfold fillCarrier
  split <;> rfl

@[simp] theorem fillCarrier_createdAt : (fillCarrier s extraction).createdAt = s.createdAt := by
  unfold fillCarrier
  split <;> rfl

@[simp] theorem fillSlot_id : (fillSlot s document).id = s.id := by
  unfold fillSlot
  split
  · rfl
  · split <;> simp

@[simp] theorem fillSlot_loadNumber : (fillSlot s document).loadNumber = s.loadNumber := by
  unfold fillSlot
  split
  · rfl
  · split <;> simp

@[simp] theorem fillSlot_createdAt : (fillSlot s document).createdAt = s.createdAt := by
  unfold fillSlot
  split
  · rfl
  · split <;> simp

@[simp] theorem fillCarrier_rateConId :
    (fillCarrier s extraction).rateConId = s.rateConId := fillCarrier_docId .rateCon

/-- A document raises the flag of its own slot and no other. -/
theorem fillSlot_has {slot : Slot} (h : docFields document.docType = some slot) (d : Slot) :
    (fillSlot s document).has d = (decide (slot = d) || s.has d) := by
  simp only [fillSlot, h]
  split <;> simp

/-- The first document of a slot becomes its canonical one. -/
theorem fillSlot_docId {slot : Slot} (h : docFields document.docType = some slot) (d : Slot) :
    (fillSlot s document).docId d =
      if slot = d then (s.docId d).or (some document.id) else s.docId d := by
  simp only [fillSlot, h]
  by_cases hd : slot = d
  · subst hd
    cases hs : s.docId slot <;> simp [hs]
  · split <;> simp [hd]

end

/-! ### The manual rate confirmation -/

section

variable [PyRuntime] {ses : Session} {s t : Shipment} {db : Database}

@[simp] theorem attachExisting_id : (attachExistingRateConfirmation ses s db).1.id = s.id := by
  unfold attachExistingRateConfirmation
  split
  · rfl
  · split <;> rfl

@[simp] theorem attachExisting_loadNumber :
    (attachExistingRateConfirmation ses s db).1.loadNumber = s.loadNumber := by
  unfold attachExistingRateConfirmation
  split
  · rfl
  · split <;> rfl

@[simp] theorem attachExisting_createdAt :
    (attachExistingRateConfirmation ses s db).1.createdAt = s.createdAt := by
  unfold attachExistingRateConfirmation
  split
  · rfl
  · split <;> rfl

/-- Attaching a rate confirmation leaves the other slots alone, and without one
on file also its own. -/
theorem attachExisting_docId (ses : Session) (s : Shipment) (db : Database) {d : Slot}
    (h : d ≠ .rateCon ∨ db.rateConfirmation? s.loadNumber = none) :
    (attachExistingRateConfirmation ses s db).1.docId d = s.docId d := by
  unfold attachExistingRateConfirmation
  split
  · cases d <;> rfl
  · split
    · rfl
    next rc hrc =>
      rcases h with h | h
      · cases d <;> first | rfl | exact absurd rfl h
      · cases h.symm.trans hrc

theorem attachExisting_has (ses : Session) (s : Shipment) (db : Database) {d : Slot}
    (h : d ≠ .rateCon) : (attachExistingRateConfirmation ses s db).1.has d = s.has d := by
  unfold attachExistingRateConfirmation
  split
  · cases d <;> first | rfl | exact absurd rfl h
  · split
    · rfl
    · cases d <;> first | rfl | exact absurd rfl h

/-- Attaching a rate confirmation lowers no flag. -/
theorem attachExisting_has_mono {d : Slot} (h : s.has d = true) :
    (attachExistingRateConfirmation ses s db).1.has d = true := by
  by_cases hd : d = .rateCon
  · subst hd
    unfold attachExistingRateConfirmation
    split
    · rfl
    · split
      · exact h
      · rfl
  · rw [attachExisting_has ses s db hd]
    exact h

/-- What is attached depends on the row's keys and its rate confirmation only. -/
theorem attachExisting_congr (hid : t.id = s.id) (hl : t.loadNumber = s.loadNumber)
    (hr : t.rateConId = s.rateConId) (hh : t.hasRateCon = s.hasRateCon) :
    (attachExistingRateConfirmation ses t db).2 = (attachExistingRateConfirmation ses s db).2 ∧
    (attachExistingRateConfirmation ses t db).1.rateConId =
      (attachExistingRateConfirmation ses s db).1.rateConId ∧
    (attachExistingRateConfirmation ses t db).1.hasRateCon =
      (attachExistingRateConfirmation ses s db).1.hasRateCon := by
  unfold attachExistingRateConfirmation
  rw [hr, hl]
  split
  · exact ⟨rfl, rfl, rfl⟩
  · split
    · exact ⟨rfl, hr, hh⟩
    · simp only [rateConfirmationDocument, hid, and_self]

/-- Without a manual rate confirmation nothing is attached. -/
theorem attachExisting_none (ses : Session) (hrc : db.rateConfirmation? s.loadNumber = none)
    (hs : s.rateConId.isSome = true → s.hasRateCon = true) :
    attachExistingRateConfirmation ses s db = (s, []) := by
  unfold attachExistingRateConfirmation
  split
  next h =>
    rw [Prod.mk.injEq]
    refine ⟨?_, rfl⟩
    obtain ⟨⟩ := s
    cases hs h
    rfl
  · rw [hrc]

/-- It writes nothing, or the companion document. -/
theorem attachExisting_writes (ses : Session) (s : Shipment) (db : Database) :
    (attachExistingRateConfirmation ses s db).2 = [] ∨
    ∃ rc, db.rateConfirmation? s.loadNumber = some rc ∧ s.rateConId = none ∧
      (attachExistingRateConfirmation ses s db).2 =
        [.document (rateConfirmationDocument ses rc s db)] := by
  unfold attachExistingRateConfirmation
  split
  · exact .inl rfl
  next hn =>
    split
    · exact .inl rfl
    next rc hrc => exact .inr ⟨rc, hrc, by simpa using hn, rfl⟩

/-- The companion document is a new row, or the row of a rate confirmation's
document that names it. -/
theorem rateConfirmationDocument_id (ses : Session) (rc : RateConfirmation) (s : Shipment)
    (db : Database) :
    (rateConfirmationDocument ses rc s db).id = ses.companionId ∨
    ∃ d ∈ db.documents, d.docType = "rate_confirmation" ∧
      (d.extractedData.getD []).get "rate_confirmation_id" = .str rc.id ∧
      (rateConfirmationDocument ses rc s db).id = d.id := by
  unfold rateConfirmationDocument
  cases hc : companionDocument? rc db with
  | none => exact .inl rfl
  | some d =>
      have := List.find?_some hc
      simp only [Bool.and_eq_true, decide_eq_true_eq] at this
      exact .inr ⟨d, List.mem_of_find?_eq_some hc, this.1, this.2, rfl⟩

end

end FreightAP
