import FreightAP.Verdict

/-!
# The locked row

What the two services do to the row of a load and to the rows around it, in one
transaction: which row the insert and the locking select come up with, what
attaching a document changes, and which papers reconciliation reads after it.
-/

namespace FreightAP

variable [PyRuntime]

/-! ## The locked row -/

/-- The row that the insert and the locking select come up with. -/
def heldShipment (ses : Session) (loadNumber : String) (db : Database) : Shipment :=
  (db.shipment? loadNumber).getD (Shipment.new ses.shipmentUuid loadNumber ses.startedAt)

omit [PyRuntime] in
theorem heldShipment_loadNumber {ses : Session} {loadNumber : String} {db : Database} :
    (heldShipment ses loadNumber db).loadNumber = loadNumber := by
  unfold heldShipment
  cases h : db.shipment? loadNumber with
  | none => rfl
  | some s => exact Table.get?_some_key h

omit [PyRuntime] in
theorem insertShipment_finds (ses : Session) (loadNumber : String) (db : Database) :
    (db.apply (insertShipment ses loadNumber db)).shipment? loadNumber =
      some (heldShipment ses loadNumber db) := by
  unfold insertShipment heldShipment
  cases h : db.shipment? loadNumber with
  | none =>
      exact Database.shipment?_write_shipment_new
        (Shipment.new ses.shipmentUuid loadNumber ses.startedAt) h
  | some s => exact h

omit [PyRuntime] in
theorem insertShipment_documents (ses : Session) (loadNumber : String) (db : Database) :
    (db.apply (insertShipment ses loadNumber db)).documents = db.documents := by
  unfold insertShipment
  split <;> rfl

omit [PyRuntime] in
theorem insertShipment_rateConfirmations (ses : Session) (loadNumber : String) (db : Database) :
    (db.apply (insertShipment ses loadNumber db)).rateConfirmations = db.rateConfirmations := by
  unfold insertShipment
  split <;> rfl

omit [PyRuntime] in
theorem insertShipment_keyed (ses : Session) (loadNumber : String) {db : Database}
    (h : Table.Keyed Shipment.id db.shipments) :
    Table.Keyed Shipment.id (db.apply (insertShipment ses loadNumber db)).shipments := by
  unfold insertShipment
  split
  · exact h
  · exact Table.nodup_put h

/-- `upsert_shipment` always finds the row of a load number. -/
theorem upsertShipment_eq {ses : Session} {loadNumber : Option String} {normalized : String}
    {document : Document} {extraction : Extraction} {db : Database}
    (h : normalizeLoadNumber loadNumber = .ok (some normalized)) :
    upsertShipment ses loadNumber document extraction db =
      .ok (some
        ((attachDocument ses (heldShipment ses normalized db) document extraction
            (db.apply (insertShipment ses normalized db))).1,
          insertShipment ses normalized db ++
            (attachDocument ses (heldShipment ses normalized db) document extraction
              (db.apply (insertShipment ses normalized db))).2)) := by
  simp only [upsertShipment, h, insertShipment_finds]

/-! ## What attaching a document changes -/

section

variable {ses : Session} {s : Shipment} {document : Document} {extraction : Extraction}
  {db : Database}

@[simp] theorem attachDocument_id :
    (attachDocument ses s document extraction db).1.id = s.id := by
  simp [attachDocument]

@[simp] theorem attachDocument_loadNumber :
    (attachDocument ses s document extraction db).1.loadNumber = s.loadNumber := by
  simp [attachDocument]

@[simp] theorem attachDocument_createdAt :
    (attachDocument ses s document extraction db).1.createdAt = s.createdAt := by
  simp [attachDocument]

/-- Slots other than the rate confirmation, and that one without a manual rate
confirmation on file: the document fills its own. -/
theorem attachDocument_docId (ses : Session) (s : Shipment) (document : Document)
    (extraction : Extraction) (db : Database) {d : Slot}
    (h : d ≠ .rateCon ∨ db.rateConfirmation? s.loadNumber = none) :
    (attachDocument ses s document extraction db).1.docId d = (fillSlot s document).docId d := by
  have := attachExisting_docId ses (fillCarrier (fillSlot s document) extraction) db (d := d)
    (by rw [fillCarrier_loadNumber, fillSlot_loadNumber]; exact h)
  rw [fillCarrier_docId] at this
  cases d <;> exact this

theorem attachDocument_has (ses : Session) (s : Shipment) (document : Document)
    (extraction : Extraction) (db : Database) {d : Slot} (h : d ≠ .rateCon) :
    (attachDocument ses s document extraction db).1.has d = (fillSlot s document).has d := by
  have := attachExisting_has ses (fillCarrier (fillSlot s document) extraction) db h
  rw [fillCarrier_has] at this
  cases d <;> exact this

theorem attachDocument_has_mono {d : Slot} (h : (fillSlot s document).has d = true) :
    (attachDocument ses s document extraction db).1.has d = true := by
  have : (attachExistingRateConfirmation ses (fillCarrier (fillSlot s document) extraction)
      db).1.has d = true := attachExisting_has_mono ((fillCarrier_has d).trans h)
  cases d <;> exact this

/-- The rows `attachDocument` writes: the document's, the companion's if there
is one, and the shipment's. -/
theorem attachDocument_writes :
    (attachDocument ses s document extraction db).2 =
      .document { document with shipmentId := some s.id } ::
        (attachExistingRateConfirmation ses (fillCarrier (fillSlot s document) extraction) db).2 ++
        [.shipment (attachDocument ses s document extraction db).1] := rfl

theorem attachDocument_rateConfirmation? (loadNumber : String) :
    (db.apply (attachDocument ses s document extraction db).2).rateConfirmation? loadNumber =
      db.rateConfirmation? loadNumber := by
  rw [attachDocument_writes, List.cons_append, Database.apply_cons, Database.apply_append]
  rcases attachExisting_writes ses (fillCarrier (fillSlot s document) extraction) db with
    h | ⟨rc, -, -, h⟩ <;>
  · rw [h]
    rfl

end

/-! ## The papers -/

/-- The content of a document. -/
def paper (db : Database) (id : Nat) : Option Extraction := docExtraction (db.document? id)

omit [PyRuntime] in
theorem paper_write_document (row : Document) (db : Database) (k : Nat) :
    paper (db.write (.document row)) k =
      if row.id = k then some (row.extractedData.getD []) else paper db k := by
  unfold paper
  rw [Database.document?_write_document]
  split <;> rfl

omit [PyRuntime] in
theorem docExtraction_bind (id : Option Nat) (db : Database) :
    docExtraction (id.bind db.document?) = id.bind (paper db) := by
  cases id <;> rfl

omit [PyRuntime] in
/-- A document written back with its content as it was changes no paper. -/
theorem paper_rewrite {db : Database} {document : Document} (shipmentId : Option Uuid)
    (h : db.document? document.id = some document) (k : Nat) :
    paper (db.write (.document { document with shipmentId := shipmentId })) k = paper db k := by
  rw [paper_write_document]
  split
  next hk =>
    subst hk
    unfold paper
    rw [h]
    rfl
  next => rfl

/-- The papers of a shipment depend on its slots, its load number and the
contents of documents. -/
theorem shipmentPapers_congr {s t : Shipment} {db db' : Database}
    (hd : ∀ d, t.docId d = s.docId d) (hl : t.loadNumber = s.loadNumber)
    (hrc : db'.rateConfirmation? s.loadNumber = db.rateConfirmation? s.loadNumber)
    (hp : ∀ k, paper db' k = paper db k) : shipmentPapers t db' = shipmentPapers s db := by
  have hp' : paper db' = paper db := funext hp
  simp only [shipmentPapers, docExtraction_bind, hl, hrc, hp', show t.invoiceId = s.invoiceId from
    hd .invoice, show t.rateConId = s.rateConId from hd .rateCon, show t.bolId = s.bolId from
    hd .bol, show t.podId = s.podId from hd .pod]

omit [PyRuntime] in
@[simp] theorem noteRateConfirmation_docId {s : Shipment} {db : Database} (d : Slot) :
    (noteRateConfirmation s db).docId d = s.docId d := by
  unfold noteRateConfirmation
  split <;> cases d <;> rfl

omit [PyRuntime] in
@[simp] theorem noteRateConfirmation_loadNumber {s : Shipment} {db : Database} :
    (noteRateConfirmation s db).loadNumber = s.loadNumber := by
  unfold noteRateConfirmation
  split <;> rfl

omit [PyRuntime] in
theorem noteRateConfirmation_has {s : Shipment} {db : Database} (d : Slot) :
    (noteRateConfirmation s db).has d =
      (s.has d || decide (d = .rateCon) && (db.rateConfirmation? s.loadNumber).isSome) := by
  unfold noteRateConfirmation
  split
  next h => cases d <;> simp [Shipment.has, h]
  next h =>
    rw [Bool.not_eq_true] at h
    simp [h]

theorem shipmentPapers_noteRateConfirmation {s : Shipment} {db : Database} :
    shipmentPapers (noteRateConfirmation s db) db = shipmentPapers s db :=
  shipmentPapers_congr (by simp) (by simp) rfl fun _ => rfl

end FreightAP
