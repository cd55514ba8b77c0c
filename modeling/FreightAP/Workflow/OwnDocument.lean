import FreightAP.Workflow.MatchTransaction

/-!
# The document that was checked

An invoice whose run ends ready for posting, without a review, was cleared by a
reconciliation.  That reconciliation reads the canonical invoice of the load,
and an invoice that comes second is not the canonical one.
`ownDocument_checked_iff` says for each input whether the invoice itself was
what the checks agreed on.
-/

namespace FreightAP

open Transition

variable [PyRuntime]

/-! ## Invoices -/

/-- `InvoiceExtraction` of an invoice.  Its line items are a list, which nothing
here reads. -/
structure InvoiceExtraction where
  invoiceNumber : String
  carrierName : String
  loadNumber : Option String
  invoiceDate : String
  totalAmount : ℚ
  confidence : ℚ

namespace InvoiceExtraction

/-- `extraction.model_dump(mode="json")`. -/
def dump (x : InvoiceExtraction) : Extraction :=
  [("invoice_number", .str x.invoiceNumber),
   ("carrier_name", .str x.carrierName),
   ("load_number", x.loadNumber.elim .none .str),
   ("invoice_date", .str x.invoiceDate),
   ("total_amount", .float x.totalAmount),
   ("doc_type", .str "invoice"),
   ("confidence", .float x.confidence)]

/-- The invoice's own total is within the tolerance of the agreed rate and its
own carrier is the carrier of the rate confirmation. -/
def AgreesWith (x : InvoiceExtraction) (rateCon : Option Extraction) : Prop :=
  (∃ rate, agreedRate rateCon = some rate ∧
    |x.totalAmount - rate| ≤ |rate| * amountTolerance) ∧
  normalizeCarrier (.str x.carrierName) = carrierOf rateCon

omit [PyRuntime] in
@[simp] theorem dump_docType (x : InvoiceExtraction) :
    x.dump.get "doc_type" = .str "invoice" := by
  simp [dump, Extraction.get, List.lookup_cons]

omit [PyRuntime] in
theorem dump_loadNumber (x : InvoiceExtraction) :
    loadNumberOf (some x.dump) = .ok x.loadNumber := by
  have hf : field (some x.dump) "load_number" = x.loadNumber.elim .none .str := by
    simp [field, dump, Extraction.get, List.lookup_cons]
  unfold loadNumberOf
  rw [hf]
  cases x.loadNumber <;> rfl

theorem dump_total (x : InvoiceExtraction) :
    invoiceTotal (some x.dump) = some x.totalAmount := by
  simp [invoiceTotal, amountFrom, field, dump, Extraction.get, List.lookup_cons, Scalar.toFloat]

theorem dump_carrier (x : InvoiceExtraction) :
    carrierOf (some x.dump) = normalizeCarrier (.str x.carrierName) := by
  simp [carrierOf, field, dump, Extraction.get, List.lookup_cons]

/-- Papers that agree and hold the invoice say that the invoice agrees. -/
theorem agreesWith_of_agree {x : InvoiceExtraction} {p : Papers} (h : p.Agree)
    (hx : p.invoice = some x.dump) : x.AgreesWith p.rateCon := by
  obtain ⟨total, rate, ht, hr, hle⟩ := h.amounts
  rw [hx, dump_total] at ht
  cases ht
  refine ⟨⟨rate, hr, hle⟩, ?_⟩
  rw [← dump_carrier, ← hx]
  exact h.carriers.2

end InvoiceExtraction

/-! ## The state before the match transaction -/

/-- The row and the database with the manual rate confirmation of the load
attached. -/
def withRateConfirmation (ses : Session) (s : Shipment) (db : Database) : Shipment × Database :=
  ((attachExistingRateConfirmation ses s db).1,
    db.apply (attachExistingRateConfirmation ses s db).2)

/-- Another invoice is the canonical one of the shipment, the other documents
are there, and the papers agree. -/
structure OtherInvoiceAgrees (ses : Session) (id : Nat) (s : Shipment) (db : Database) : Prop where
  other : ∃ i, s.invoiceId = some i ∧ i ≠ id
  present : ∀ d, d ≠ .invoice →
    (noteRateConfirmation (withRateConfirmation ses s db).1 db).has d = true
  papers : (shipmentPapers (withRateConfirmation ses s db).1
    (withRateConfirmation ses s db).2).Agree

/-- The document row of an extracted invoice. -/
structure InvoiceRow (x : InvoiceExtraction) (document : Document) (db : Database) : Prop where
  found : db.document? document.id = some document
  docType : document.docType = "invoice"
  content : document.extractedData = some x.dump

/-! ## What the match transaction reads of an invoice -/

section

variable {ses : Session} {s : Shipment} {document : Document} {x : InvoiceExtraction}
  {db : Database}

/-- The rate confirmation is attached as it would be without the invoice. -/
theorem attachExisting_invoice (ses : Session) (s : Shipment) (hrow : InvoiceRow x document db) :
    (attachExistingRateConfirmation ses (fillCarrier (fillSlot s document) x.dump) db).2 =
      (attachExistingRateConfirmation ses s db).2 ∧
    (attachDocument ses s document x.dump db).1.docId .rateCon =
      (attachExistingRateConfirmation ses s db).1.docId .rateCon ∧
    (attachDocument ses s document x.dump db).1.has .rateCon =
      (attachExistingRateConfirmation ses s db).1.has .rateCon := by
  have hslot : docFields document.docType = some .invoice := by rw [hrow.docType]; rfl
  have hr : (fillCarrier (fillSlot s document) x.dump).docId .rateCon = s.docId .rateCon :=
    (fillCarrier_docId .rateCon).trans (fillSlot_docId hslot .rateCon)
  have hh : (fillCarrier (fillSlot s document) x.dump).has .rateCon = s.has .rateCon :=
    (fillCarrier_has .rateCon).trans (fillSlot_has hslot .rateCon)
  exact attachExisting_congr (by simp) (by simp) hr hh

/-- Besides the invoice, the transaction sees the flags there were. -/
theorem attachDocument_present (hrow : InvoiceRow x document db) :
    (∀ d, (noteRateConfirmation (attachDocument ses s document x.dump db).1
      (db.apply (attachDocument ses s document x.dump db).2)).has d = true) ↔
    ∀ d, d ≠ .invoice →
      (noteRateConfirmation (withRateConfirmation ses s db).1 db).has d = true := by
  have hslot : docFields document.docType = some .invoice := by rw [hrow.docType]; rfl
  have key : ∀ d, d ≠ .invoice → (noteRateConfirmation (attachDocument ses s document x.dump db).1
      (db.apply (attachDocument ses s document x.dump db).2)).has d =
        (noteRateConfirmation (withRateConfirmation ses s db).1 db).has d := by
    intro d hd
    rw [noteRateConfirmation_has, noteRateConfirmation_has, attachDocument_rateConfirmation?,
      attachDocument_loadNumber, withRateConfirmation, attachExisting_loadNumber]
    congr 1
    by_cases hrc : d = .rateCon
    · subst hrc
      exact (attachExisting_invoice ses s hrow).2.2
    · rw [attachDocument_has _ _ _ _ _ hrc, attachExisting_has _ _ _ hrc, fillSlot_has hslot]
      simp [Ne.symm hd]
  constructor
  · exact fun h d hd => key d hd ▸ h d
  · intro h d
    by_cases hd : d = .invoice
    · subst hd
      rw [noteRateConfirmation_has, attachDocument_has _ _ _ _ _ (by decide), fillSlot_has hslot]
      rfl
    · exact (key d hd).trans (h d hd)

/-- With another canonical invoice the papers are those of the shipment as it
was. -/
theorem shipmentPapers_other (ses : Session) {i : Nat} (hrow : InvoiceRow x document db)
    (hi : s.invoiceId = some i) :
    shipmentPapers (attachDocument ses s document x.dump db).1
        (db.apply (attachDocument ses s document x.dump db).2) =
      shipmentPapers (withRateConfirmation ses s db).1 (withRateConfirmation ses s db).2 := by
  have hslot : docFields document.docType = some .invoice := by rw [hrow.docType]; rfl
  have hws := (attachExisting_invoice ses s hrow).1
  refine shipmentPapers_congr (fun d => ?_) ?_ ?_ fun k => ?_
  · by_cases hrc : d = .rateCon
    · subst hrc
      exact (attachExisting_invoice ses s hrow).2.1
    · rw [attachDocument_docId _ _ _ _ _ (.inl hrc), withRateConfirmation,
        attachExisting_docId _ _ _ (.inl hrc), fillSlot_docId hslot]
      split
      next hd => subst hd; rw [show s.docId .invoice = some i from hi]; rfl
      next => rfl
  · simp [withRateConfirmation]
  · rw [attachDocument_rateConfirmation?, withRateConfirmation]
    rcases attachExisting_writes ses s db with h | ⟨rc, -, -, h⟩ <;>
      rw [h] <;> rfl
  · rw [attachDocument_writes, List.cons_append, Database.apply_cons, Database.apply_append, hws,
      withRateConfirmation]
    have hre := paper_rewrite (some s.id) hrow.found
    rcases attachExisting_writes ses s db with h | ⟨rc, -, -, h⟩
    · rw [h]
      exact hre k
    · rw [h]
      exact (paper_write_document ..).trans
        ((congrArg (ite _ _) (hre k)).trans (paper_write_document ..).symm)

/-- Otherwise the invoice's own content is the invoice that is compared. -/
theorem shipmentPapers_own (hrow : InvoiceRow x document db)
    (hkeys : Table.Keyed Document.id db.documents) (hfresh : document.id ≠ ses.companionId)
    (hi : ∀ i, s.invoiceId = some i → i = document.id) :
    (shipmentPapers (attachDocument ses s document x.dump db).1
        (db.apply (attachDocument ses s document x.dump db).2)).invoice = some x.dump := by
  have hslot : docFields document.docType = some .invoice := by rw [hrow.docType]; rfl
  have hid : (attachDocument ses s document x.dump db).1.invoiceId = some document.id := by
    have := attachDocument_docId ses s document x.dump db (d := .invoice) (.inl (by decide))
    rw [fillSlot_docId hslot, if_pos rfl] at this
    refine this.trans ?_
    cases hs : s.docId .invoice with
    | none => rfl
    | some i => rw [hi i hs]; rfl
  have hne : ∀ rc : RateConfirmation,
      (rateConfirmationDocument ses rc (fillCarrier (fillSlot s document) x.dump) db).id ≠
        document.id := by
    intro rc he
    rcases rateConfirmationDocument_id ses rc (fillCarrier (fillSlot s document) x.dump) db with
      h | ⟨d, hd, ht, -, h⟩
    · exact hfresh (he.symm.trans h)
    · have hsame := Table.get?_of_mem hkeys hd
      rw [← h, he] at hsame
      have : some document = some d := hrow.found.symm.trans hsame
      rw [← Option.some.inj this, hrow.docType] at ht
      exact absurd ht (by decide)
  have hcontent : paper (db.write (.document { document with shipmentId := some s.id }))
      document.id = some x.dump := by
    rw [paper_write_document, if_pos rfl, hrow.content]
    rfl
  simp only [shipmentPapers, docExtraction_bind, hid, Option.bind_some]
  rw [attachDocument_writes, List.cons_append, Database.apply_cons, Database.apply_append]
  rcases attachExisting_writes ses (fillCarrier (fillSlot s document) x.dump) db with
    h | ⟨rc, -, -, h⟩
  · rw [h]
    exact hcontent
  · rw [h]
    exact (paper_write_document ..).trans ((if_neg (hne rc)).trans hcontent)

end

/-! ## From the extraction to the verdict -/

section

/-- `extract_node` leaves the row of an invoice. -/
theorem afterExtract_row {documentId : Nat} {db : Database}
    (h : (db.document? documentId).isSome) (runId : String) (newId : Nat) (filename : String)
    (x : InvoiceExtraction) : ∃ document, document.id = documentId ∧
    InvoiceRow x document (afterExtract runId newId documentId filename x.dump db) := by
  refine ⟨extractedDocument newId documentId filename x.dump db, extractedDocument_id h ..,
    ?_, ?_, rfl⟩
  · rw [extractedDocument_id h]
    exact afterExtract_document h ..
  · simp [extractedDocument, Scalar.text]

theorem afterExtract_keyed (runId : String) (newId documentId : Nat) (filename : String)
    (x : InvoiceExtraction) {db : Database} (h : Table.Keyed Document.id db.documents) :
    Table.Keyed Document.id (afterExtract runId newId documentId filename x.dump db).documents :=
  Table.nodup_put h

end

/-! ## Posting on the invoice's own check -/

/-- Every run on the invoice that ends ready for posting without a review was
cleared by a rate confirmation that the invoice itself agrees with. -/
def PostsOnOwnDocument (env : NodeEnv) (runId : String) (documentId : Nat) (filename : String)
    (x : InvoiceExtraction) (db : Database) : Prop :=
  ∀ resumes y, Run (Fires (Process.step env))
      (Process.start (initialState runId documentId filename []) db) resumes y →
    y.graph.checkpoint.next = none →
    y.graph.checkpoint.values.postingStatus = .readyForPosting →
    y.graph.checkpoint.values.humanDecision = none →
    ∃ p, reconciledPapers env.session documentId x.dump
        (afterExtract runId env.newDocumentId documentId filename x.dump db) = some p ∧
      x.AgreesWith p.rateCon

/-- Another invoice of the load agrees with its papers and this one does not. -/
def ClearedByOther (ses : Session) (documentId : Nat) (x : InvoiceExtraction) (db : Database) :
    Prop :=
  ∃ normalized s, normalizeLoadNumber x.loadNumber = .ok (some normalized) ∧
    db.shipment? normalized = some s ∧ OtherInvoiceAgrees ses documentId s db ∧
    ¬x.AgreesWith (shipmentPapers (withRateConfirmation ses s db).1
      (withRateConfirmation ses s db).2).rateCon

/-- The invoice posts on its own check exactly when it is not cleared by
another one. -/
theorem ownDocument_checked_iff {env : NodeEnv} {runId filename : String} {documentId : Nat}
    {x : InvoiceExtraction} {db : Database} (hx : env.extraction = .ok x.dump)
    (hdoc : (db.document? documentId).isSome)
    (hkeys : Table.Keyed Document.id db.documents)
    (hfresh : ∀ d ∈ db.documents, d.id ≠ env.session.companionId) :
    PostsOnOwnDocument env runId documentId filename x db ↔
      ¬ClearedByOther env.session documentId x
        (afterExtract runId env.newDocumentId documentId filename x.dump db) := by
  obtain ⟨document, rfl, hrow⟩ := afterExtract_row hdoc runId env.newDocumentId filename x
  have hkeys₁ := afterExtract_keyed runId env.newDocumentId document.id filename x hkeys
  have hne : document.id ≠ env.session.companionId := by
    obtain ⟨d, hd⟩ := Option.isSome_iff_exists.mp hdoc
    exact Table.get?_some_key hd ▸ hfresh d (Table.get?_some_mem hd)
  obtain ⟨v₁, hex, hv₁, hid₁, -⟩ := extractNode_start runId document.id filename db hx
  unfold PostsOnOwnDocument
  generalize afterExtract runId env.newDocumentId document.id filename x.dump db = db₁ at *
  constructor
  · rintro hposts ⟨normalized, s, hl, hs, hother, hnot⟩
    obtain ⟨i, hi, -⟩ := hother.other
    have hheld : heldShipment env.session normalized db₁ = s := by simp [heldShipment, hs]
    have hins : insertShipment env.session normalized db₁ = [] := by simp [insertShipment, hs]
    have hstart := matchStart_eq env.session hrow.found x.dump_loadNumber hl
    rw [hheld, hins, Database.apply_nil] at hstart
    have hpapers := shipmentPapers_other env.session hrow hi
    obtain ⟨m, db₂, hm, hstatus, hrev⟩ := matchDocument_of_agree hv₁ (hid₁ ▸ hstart)
      ((attachDocument_present hrow).mpr hother.present) (hpapers ▸ hother.papers)
    obtain ⟨y, hrun, hend, hdec, hpost, -⟩ :=
      Process.run_unreviewed (initialState runId document.id filename []) rfl hex hm hrev
    rw [hstatus] at hpost
    obtain ⟨p, hp, hagree⟩ := hposts _ y hrun hend hpost hdec
    simp only [reconciledPapers, hstart, Option.map_some, Option.some.injEq,
      shipmentPapers_noteRateConfirmation] at hp
    rw [← hp, hpapers] at hagree
    exact hnot hagree
  · intro hcond resumes y hrun hend hpost hdec
    obtain ⟨v₁', db₁', m, db₂, hex', hm, hmr, hfin⟩ := Process.ended hrun hend
    obtain ⟨rfl, rfl⟩ : v₁ = v₁' ∧ db₁ = db₁' := NodeOutcome.update.inj (hex.symm.trans hex')
    have hstatus : m.reconciliationStatus = some .reconciled := by
      rcases hfin.ready.mp hpost with h | ⟨-, h⟩
      · rw [hdec] at h
        cases h
      · rwa [hmr] at h
    obtain ⟨s', db', hstart, hhas, hagree⟩ := matchDocument_reconciled hv₁ hm hstatus
    rw [hid₁] at hstart
    refine ⟨shipmentPapers s' db', by
      simp only [reconciledPapers, hstart, Option.map_some,
        shipmentPapers_noteRateConfirmation], ?_⟩
    obtain ⟨normalized, hl⟩ := matchStart_normalized x.dump_loadNumber hstart
    have hstart' := matchStart_eq env.session hrow.found x.dump_loadNumber hl
    rw [hstart] at hstart'
    obtain ⟨rfl, rfl⟩ := Prod.mk.inj (Option.some.inj hstart')
    have hrow' : InvoiceRow x document (db₁.apply (insertShipment env.session normalized db₁)) :=
      ⟨by rw [Database.document?, insertShipment_documents]; exact hrow.found, hrow.docType,
        hrow.content⟩
    by_cases hown : ∀ i, (heldShipment env.session normalized db₁).invoiceId = some i →
        i = document.id
    · exact InvoiceExtraction.agreesWith_of_agree hagree
        (shipmentPapers_own hrow' (by rw [insertShipment_documents]; exact hkeys₁) hne hown)
    · -- The row was there before, with another invoice in its slot.
      simp only [not_forall, exists_prop] at hown
      obtain ⟨i, hi, hidne⟩ := hown
      cases hs : db₁.shipment? normalized with
      | none => simp [heldShipment, hs, Shipment.new] at hi
      | some s =>
          have hheld : heldShipment env.session normalized db₁ = s := by simp [heldShipment, hs]
          have hins : insertShipment env.session normalized db₁ = [] := by
            simp [insertShipment, hs]
          rw [hheld, hins, Database.apply_nil] at hagree hhas ⊢
          rw [hheld] at hi
          rw [shipmentPapers_other env.session hrow hi] at hagree ⊢
          by_contra hnot
          exact hcond ⟨normalized, s, hl, hs,
            ⟨⟨i, hi, hidne⟩, (attachDocument_present hrow).mp hhas, hagree⟩, hnot⟩

/-! ## A second invoice for a load -/

section

omit [PyRuntime]

/-- An invoice of ACME for the load LD-001. -/
def loadInvoice (number : String) (total : ℚ) : InvoiceExtraction :=
  ⟨number, "ACME", some "LD-001", "2026-07-20", total, 1⟩

/-- The extraction of a rate confirmation document for that load. -/
def loadRateCon : Extraction :=
  [("invoice_number", .str "RC-1"), ("carrier_name", .str "ACME"), ("load_number", .str "LD-001"),
   ("invoice_date", .str "2026-07-19"), ("total_amount", .float 1000),
   ("doc_type", .str "rate_confirmation"), ("confidence", .float 1)]

/-- The extraction of its bill of lading. -/
def loadBol : Extraction :=
  [("bol_number", .str "B-1"), ("load_number", .str "LD-001"), ("carrier_name", .str "ACME"),
   ("pickup_date", .str "2026-07-19"), ("doc_type", .str "bill_of_lading")]

/-- The extraction of its proof of delivery. -/
def loadPod : Extraction :=
  [("load_number", .str "LD-001"), ("carrier_name", .str "ACME"),
   ("delivery_date", .str "2026-07-20"), ("condition", .str "good"),
   ("doc_type", .str "proof_of_delivery")]

/-- A row that was just uploaded. -/
def uploaded (id : Nat) (filename : String) : Document :=
  ⟨id, filename, "invoice", "pending", none, none⟩

/-- The load with its four documents attached, and a second invoice uploaded. -/
def paidLoad : Database where
  documents :=
    [⟨1, "a.pdf", "invoice", "extracted", some (loadInvoice "A-1" 1000).dump, some "s"⟩,
     ⟨2, "b.pdf", "rate_confirmation", "extracted", some loadRateCon, some "s"⟩,
     ⟨3, "c.pdf", "bill_of_lading", "extracted", some loadBol, some "s"⟩,
     ⟨4, "d.pdf", "proof_of_delivery", "extracted", some loadPod, some "s"⟩,
     uploaded 5 "e.pdf"]
  shipments :=
    [⟨"s", "LD-001", some "ACME", true, true, true, true, some 1, some 2, some 3, some 4,
      .reconciled, 0⟩]
  rateConfirmations := []
  reconciliationResults := []
  shipmentExceptions := []
  shipmentExceptionEvents := []
  workflowAuditLogs := []

/-- What the model answers for an invoice, with an hour of grace. -/
def invoiceEnv (x : InvoiceExtraction) : NodeEnv where
  extraction := .ok x.dump
  triage := .error "not asked"
  session := ⟨1000, 1000, 3600000000, "s'", 6, "r", "x", "y"⟩
  newDocumentId := 6

/-- A second invoice of nine times the agreed rate is ready for posting. -/
theorem secondInvoice_posts :
    letI := asciiRuntime
    ¬PostsOnOwnDocument (invoiceEnv (loadInvoice "A-2" 9000)) "run" 5 "e.pdf"
      (loadInvoice "A-2" 9000) paidLoad := by
  let := asciiRuntime
  intro h
  let final := exec (Process.step (invoiceEnv (loadInvoice "A-2" 9000)))
    (.start (initialState "run" 5 "e.pdf" []) paidLoad) [none, none, none]
  have hsome : final.isSome = true := by decide +kernel
  have hdata : final.all (fun y => decide (y.graph.checkpoint.next = none ∧
      y.graph.checkpoint.values.postingStatus = .readyForPosting ∧
      y.graph.checkpoint.values.humanDecision = none)) = true := by decide +kernel
  obtain ⟨y, hy⟩ := Option.isSome_iff_exists.mp hsome
  rw [hy, Option.all_some, decide_eq_true_iff] at hdata
  obtain ⟨p, hp, ⟨rate, hrate, hle⟩, -⟩ :=
    h _ y (run_of_exec hy) hdata.1 hdata.2.1 hdata.2.2
  have hrates : (reconciledPapers (invoiceEnv (loadInvoice "A-2" 9000)).session 5
      (loadInvoice "A-2" 9000).dump (afterExtract "run"
        (invoiceEnv (loadInvoice "A-2" 9000)).newDocumentId 5 "e.pdf"
        (loadInvoice "A-2" 9000).dump paidLoad)).map (fun p => agreedRate p.rateCon) =
      some (some 1000) := by
    decide +kernel
  rw [hp, Option.map_some, hrate] at hrates
  cases hrates
  exact absurd hle (by decide +kernel)

/-- The first invoice of the load, processed once more. -/
theorem firstInvoice_checked :
    letI := asciiRuntime
    PostsOnOwnDocument (invoiceEnv (loadInvoice "A-1" 1000)) "run" 1 "a.pdf"
      (loadInvoice "A-1" 1000) paidLoad := by
  let := asciiRuntime
  have hkeys : Table.Keyed Document.id paidLoad.documents := by
    unfold Table.Keyed
    decide
  refine (ownDocument_checked_iff rfl (by decide) hkeys (by decide)).mpr ?_
  rintro ⟨normalized, s, -, hs, ⟨⟨i, hi, hne⟩, -, -⟩, -⟩
  have hmem : s ∈ paidLoad.shipments := Table.get?_some_mem hs
  rw [paidLoad, List.mem_singleton] at hmem
  subst hmem
  cases hi
  exact hne rfl

end

end FreightAP
