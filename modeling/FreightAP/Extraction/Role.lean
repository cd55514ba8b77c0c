import FreightAP.Assembly.Confluence
import FreightAP.Extraction.Schemas
import FreightAP.Workflow.MatchTransaction

/-!
# The role of a document

A document is classified by the first answer of the model.  The type that is
stored is that of the second answer, and the schema of invoices and rate
confirmations takes either type.  Everything after the extraction follows the
stored type: the slot that assembly fills, and the side on which reconciliation
reads the amount.  So a document fills the role it was classified as exactly
when the second answer names that type (`fillsRole_iff`).
-/

namespace FreightAP

/-- The slot of a document type. -/
def DocumentType.slot : DocumentType → Slot
  | .invoice => .invoice
  | .rateConfirmation => .rateCon
  | .billOfLading => .bol
  | .proofOfDelivery => .pod

theorem docFields_text (t : DocumentType) : docFields t.text = some t.slot := by
  cases t <;> rfl

/-- The sides of `amount_variance`. -/
inductive AmountSide where
  | invoiceTotal
  | agreedRate
deriving DecidableEq

/-- The side that reads the amount of a slot's canonical document. -/
def AmountSide.slot : AmountSide → Slot
  | .invoiceTotal => .invoice
  | .agreedRate => .rateCon

section

variable [ExtractionRuntime]

open ExtractionRuntime

/-! ## The stored type -/

/-- The second answer names the type of the first, where its schema leaves a
choice. -/
def NamesType (classified : DocumentType) (responseText : String) : Prop :=
  classified = .billOfLading ∨ classified = .proofOfDelivery ∨
    ∃ members, loads (stripCodeFences responseText) = some (.object members) ∧
      members.lookup "doc_type" = some (.string classified.text)

section

variable {members : Json.Members} {classified : DocumentType} {e : ExtractionResult}

omit [ExtractionRuntime] in
theorem literalField_some {types : List DocumentType} {key : String} {t : DocumentType}
    (h : literalField types members key = some t) :
    members.lookup key = some (.string t.text) := by
  obtain ⟨s, hs, ht⟩ := Option.bind_eq_some_iff.mp h
  have htext : t.text = s := by simpa using List.find?_some ht
  unfold textField at hs
  split at hs
  next s' hlookup =>
    cases hs
    rw [hlookup, htext]
  next => cases hs

/-- An invoice-shaped extraction has the type that the answer names. -/
theorem InvoiceExtraction.validate_docType {x : Schemas.InvoiceExtraction}
    (h : Schemas.InvoiceExtraction.validate members = some x) :
    members.lookup "doc_type" = some (.string x.docType.text) := by
  unfold Schemas.InvoiceExtraction.validate at h
  simp only [Option.bind_eq_bind, Option.bind_eq_some_iff, Option.pure_def] at h
  obtain ⟨_, -, _, -, _, -, _, -, _, -, _, -, _, -, docType, hdocType, _, -, h⟩ := h
  split at h
  next =>
    cases h
    exact literalField_some hdocType
  next => cases h

theorem extractionSchema_docType (h : extractionSchema classified members = some e) :
    e.docType = classified ↔ classified = .billOfLading ∨ classified = .proofOfDelivery ∨
      members.lookup "doc_type" = some (.string classified.text) := by
  have hinvoice : ∀ {x : Schemas.InvoiceExtraction},
      Schemas.InvoiceExtraction.validate members = some x →
        (x.docType = classified ↔ members.lookup "doc_type" = some (.string classified.text)) := by
    intro x hx
    rw [InvoiceExtraction.validate_docType hx]
    constructor
    · intro hsame
      rw [hsame]
    · intro hsame
      exact DocumentType.text_injective (by simpa using hsame)
  cases classified with
  | invoice =>
      obtain ⟨x, hx, rfl⟩ := Option.map_eq_some_iff.mp h
      simpa [ExtractionResult.docType] using hinvoice hx
  | rateConfirmation =>
      obtain ⟨x, hx, rfl⟩ := Option.map_eq_some_iff.mp h
      simpa [ExtractionResult.docType] using hinvoice hx
  | billOfLading =>
      obtain ⟨x, -, rfl⟩ := Option.map_eq_some_iff.mp h
      simp [ExtractionResult.docType]
  | proofOfDelivery =>
      obtain ⟨x, -, rfl⟩ := Option.map_eq_some_iff.mp h
      simp [ExtractionResult.docType]

theorem validateClaudeJson_schema {responseText : String}
    (h : validateClaudeJson responseText classified = .ok e) :
    ∃ members, loads (stripCodeFences responseText) = some (.object members) ∧
      extractionSchema classified members = some e := by
  unfold validateClaudeJson at h
  cases hloads : loads (stripCodeFences responseText) with
  | none => simp [hloads] at h
  | some value =>
      cases value with
      | object members =>
          cases hschema : extractionSchema classified members with
          | none => simp [hloads, hschema] at h
          | some extraction =>
              simp only [hloads, hschema, Except.ok.injEq] at h
              exact ⟨members, rfl, h ▸ hschema⟩
      | _ => simp [hloads] at h

/-- A type other than the classified one is the other type of a shared schema. -/
theorem validateClaudeJson_shared {responseText : String}
    (h : validateClaudeJson responseText classified = .ok e) (hne : e.docType ≠ classified) :
    classified = .invoice ∧ e.docType = .rateConfirmation ∨
      classified = .rateConfirmation ∧ e.docType = .invoice := by
  obtain ⟨members, -, hschema⟩ := validateClaudeJson_schema h
  cases classified with
  | invoice =>
      obtain ⟨x, -, rfl⟩ := Option.map_eq_some_iff.mp hschema
      have hliteral := x.docType_literal
      simp only [List.mem_cons, List.not_mem_nil, or_false] at hliteral
      exact .inl ⟨rfl, hliteral.resolve_left hne⟩
  | rateConfirmation =>
      obtain ⟨x, -, rfl⟩ := Option.map_eq_some_iff.mp hschema
      have hliteral := x.docType_literal
      simp only [List.mem_cons, List.not_mem_nil, or_false] at hliteral
      exact .inr ⟨rfl, hliteral.resolve_right hne⟩
  | billOfLading =>
      obtain ⟨x, -, rfl⟩ := Option.map_eq_some_iff.mp hschema
      exact absurd rfl hne
  | proofOfDelivery =>
      obtain ⟨x, -, rfl⟩ := Option.map_eq_some_iff.mp hschema
      exact absurd rfl hne

/-- The stored type is the classified one exactly if the answer names it. -/
theorem validateClaudeJson_docType {responseText : String}
    (h : validateClaudeJson responseText classified = .ok e) :
    e.docType = classified ↔ NamesType classified responseText := by
  obtain ⟨members, hloads, hschema⟩ := validateClaudeJson_schema h
  rw [extractionSchema_docType hschema, NamesType, hloads]
  simp

omit [ExtractionRuntime] in
theorem bind_eq_ok {ε α β : Type} {x : Except ε α} {f : α → Except ε β} {b : β} :
    x >>= f = .ok b ↔ ∃ a, x = .ok a ∧ f a = .ok b := by
  cases x with
  | error err => simp [bind, Except.bind]
  | ok a => simp [bind, Except.bind]

/-- A document that was extracted was classified, and its second answer was
validated for that type. -/
theorem extractDocument_ok {apiKey filename : String} {answers : ModelAnswers}
    (h : extractDocument apiKey filename answers = .ok e) :
    ∃ labels classified message, answers.classification = .ok labels ∧
      validateDocumentType (extractResponseText labels) = .ok classified ∧
      answers.extraction = .ok message ∧
      validateClaudeJson (extractResponseText message) classified = .ok e := by
  simp only [extractDocument, bind_eq_ok] at h
  obtain ⟨-, -, -, -, labels, hlabels, classified, hclassified, message, hmessage, h⟩ := h
  exact ⟨labels, classified, message, hlabels, hclassified, hmessage, h⟩

theorem dump_docType (e : ExtractionResult) : e.dump.get "doc_type" = .str e.docType.text := by
  cases e with
  | invoice x =>
    simp [ExtractionResult.dump, ExtractionResult.docType, Extraction.get, List.lookup_cons]
  | bol x =>
    simp [ExtractionResult.dump, ExtractionResult.docType, Extraction.get, List.lookup_cons]
  | pod x =>
    simp [ExtractionResult.dump, ExtractionResult.docType, Extraction.get, List.lookup_cons]

theorem dump_loadNumber_result (e : ExtractionResult) :
    loadNumberOf (some e.dump) = .ok e.loadNumber := by
  have hfield : field (some e.dump) "load_number" = e.loadNumber.elim .none .str := by
    cases e with
    | invoice x =>
      simp [field, ExtractionResult.dump, ExtractionResult.loadNumber, Extraction.get,
        List.lookup_cons]
    | bol x =>
      simp [field, ExtractionResult.dump, ExtractionResult.loadNumber, Extraction.get,
        List.lookup_cons]
    | pod x =>
      simp [field, ExtractionResult.dump, ExtractionResult.loadNumber, Extraction.get,
        List.lookup_cons]
  unfold loadNumberOf
  rw [hfield]
  cases e.loadNumber <;> rfl

end

/-! ## The sides of the amounts -/

/-- What a side of `amount_variance` reads. -/
def AmountSide.extraction (p : Papers) : AmountSide → Option Extraction
  | .invoiceTotal => p.invoice
  | .agreedRate => p.rateCon

section

omit [ExtractionRuntime]

variable [PyRuntime] {s : Shipment} {document : Document} {db : Database}

/-- A side reads the canonical document of its slot, except that a manual rate
confirmation stands in the place of the agreed rate. -/
theorem AmountSide.extraction_shipmentPapers {side : AmountSide}
    (h : side = .invoiceTotal ∨ db.rateConfirmation? s.loadNumber = none) :
    side.extraction (shipmentPapers s db) = (s.docId side.slot).bind (paper db) := by
  cases side with
  | invoiceTotal => exact docExtraction_bind ..
  | agreedRate =>
      have hnone := h.resolve_left (by decide)
      simp only [AmountSide.extraction, shipmentPapers, hnone, docExtraction_bind]
      rfl

/-- The check of the amounts reads nothing else: a document that is the canonical
one on neither side leaves it as it is. -/
theorem amountCheck_unread (h : ∀ side : AmountSide, s.docId side.slot ≠ some document.id)
    (e : Evidence) :
    amountCheck (shipmentPapers s (db.write (.document document))).invoice
        (shipmentPapers s (db.write (.document document))).rateCon e =
      amountCheck (shipmentPapers s db).invoice (shipmentPapers s db).rateCon e := by
  have hread : ∀ side : AmountSide,
      (s.docId side.slot).bind (paper (db.write (.document document))) =
        (s.docId side.slot).bind (paper db) := by
    intro side
    cases hid : s.docId side.slot with
    | none => rfl
    | some i =>
        have hne : document.id ≠ i := fun he => h side (he ▸ hid)
        exact (paper_write_document ..).trans (if_neg hne)
  have hside : ∀ side : AmountSide, side = .invoiceTotal ∨
      db.rateConfirmation? s.loadNumber = none →
      side.extraction (shipmentPapers s (db.write (.document document))) =
        side.extraction (shipmentPapers s db) := fun side hmanual => by
    have hafter : side.extraction (shipmentPapers s (db.write (.document document))) =
        (s.docId side.slot).bind (paper (db.write (.document document))) :=
      AmountSide.extraction_shipmentPapers hmanual
    rw [hafter, hread, AmountSide.extraction_shipmentPapers hmanual]
  have hinvoice : (shipmentPapers s (db.write (.document document))).invoice =
      (shipmentPapers s db).invoice := hside .invoiceTotal (.inl rfl)
  have hrateCon : (shipmentPapers s (db.write (.document document))).rateCon =
      (shipmentPapers s db).rateCon := by
    cases hmanual : db.rateConfirmation? s.loadNumber with
    | none => exact hside .agreedRate (.inr hmanual)
    | some rc =>
        have hmanual' : (db.write (.document document)).rateConfirmation? s.loadNumber = some rc :=
          hmanual
        simp only [shipmentPapers, hmanual, hmanual']
  rw [hinvoice, hrateCon]

end

/-! ## The role in the shipment -/

/-- What a document does to the row of its load, as a document of one type: it
raises the flag of that slot, becomes its canonical document when it is the
first, leaves the other slots as they are without it, and its amount is read on
the side of that slot alone. -/
structure FillsRole (ses : Session) (type : DocumentType) (document : Document)
    (held attached : Shipment) (db : Database) : Prop where
  stored : document.docType = type.text
  flag : attached.has type.slot = true
  canonical : attached.docId type.slot = (held.docId type.slot).or (some document.id)
  otherFlags : ∀ d, d ≠ type.slot →
    attached.has d = (attachExistingRateConfirmation ses held db).1.has d
  otherIds : ∀ d, d ≠ type.slot →
    attached.docId d = (attachExistingRateConfirmation ses held db).1.docId d
  amount : ∀ side : AmountSide, attached.docId side.slot = some document.id →
    side.slot = type.slot ∨
      (attachExistingRateConfirmation ses held db).1.docId side.slot = some document.id

section

variable {ses : Session} {slot : Slot} {document : Document} {held : Shipment}
  {extraction : Extraction} {db : Database}

theorem attachDocument_slot (hslot : docFields document.docType = some slot) :
    (attachDocument ses held document extraction db).1.docId slot =
      (held.docId slot).or (some document.id) := by
  by_cases hrc : slot = .rateCon
  · have hdocs : ∀ d, (attachDocument ses held document extraction db).1.docId d =
        if slot = d then (held.docId d).or (some document.id) else held.docId d :=
      (attachDocument_settled ses _ hslot rfl (.inl hrc)).2.1
    rw [hdocs, if_pos rfl]
  · rw [attachDocument_docId _ _ _ _ _ (.inl hrc), fillSlot_docId hslot, if_pos rfl]

theorem attachDocument_others (hslot : docFields document.docType = some slot) {d : Slot}
    (hd : d ≠ slot) :
    (attachDocument ses held document extraction db).1.has d =
        (attachExistingRateConfirmation ses held db).1.has d ∧
      (attachDocument ses held document extraction db).1.docId d =
        (attachExistingRateConfirmation ses held db).1.docId d := by
  have hhas : (fillSlot held document).has d = held.has d := by
    rw [fillSlot_has hslot]
    simp [Ne.symm hd]
  have hid : (fillSlot held document).docId d = held.docId d := by
    rw [fillSlot_docId hslot, if_neg (Ne.symm hd)]
  by_cases hrc : d = .rateCon
  · subst hrc
    obtain ⟨-, hcon, hflag⟩ := @attachExisting_congr _ ses held
      (fillCarrier (fillSlot held document) extraction) db (by simp) (by simp)
      ((fillCarrier_docId .rateCon).trans hid) ((fillCarrier_has .rateCon).trans hhas)
    exact ⟨hflag, hcon⟩
  · rw [attachDocument_has _ _ _ _ _ hrc, attachExisting_has _ _ _ hrc,
      attachDocument_docId _ _ _ _ _ (.inl hrc), attachExisting_docId _ _ _ (.inl hrc)]
    exact ⟨hhas, hid⟩

theorem attachDocument_fillsRole {type : DocumentType} (h : document.docType = type.text) :
    FillsRole ses type document held (attachDocument ses held document extraction db).1 db := by
  have hslot : docFields document.docType = some type.slot := by rw [h, docFields_text]
  constructor
  case stored => exact h
  case flag =>
    apply attachDocument_has_mono
    rw [fillSlot_has hslot]
    simp
  case canonical => exact attachDocument_slot hslot
  case otherFlags =>
    intro d hd
    exact (attachDocument_others hslot hd).1
  case otherIds =>
    intro d hd
    exact (attachDocument_others hslot hd).2
  case amount =>
    intro side hside
    by_cases hsame : side.slot = type.slot
    · exact .inl hsame
    · exact .inr ((attachDocument_others hslot hsame).2 ▸ hside)

end

/-! ## Runs -/

/-- A run in which `extract_document` succeeds and `match_node` attaches the
document.  Between the two other transactions may write. -/
structure AttachedRun where
  apiKey : String
  filename : String
  answers : ModelAnswers
  session : Session
  documentId : Nat
  newDocumentId : Nat
  extractedIn : Database
  matchedIn : Database
  labels : List ContentBlock
  classified : DocumentType
  message : List ContentBlock
  extraction : ExtractionResult
  attached : Shipment
  left : Database
  answered : answers.classification = .ok labels ∧ answers.extraction = .ok message
  valid : validateDocumentType (extractResponseText labels) = .ok classified
  extracts : extractDocument apiKey filename answers = .ok extraction
  row : matchedIn.document? documentId =
    some (extractedDocument newDocumentId documentId filename extraction.dump extractedIn)
  attaches : matchStart session documentId extraction.dump matchedIn = some (attached, left)

namespace AttachedRun

variable (a b : AttachedRun)

/-- The row that `extract_document` stored. -/
def document : Document :=
  extractedDocument a.newDocumentId a.documentId a.filename a.extraction.dump a.extractedIn

/-- The locked row of the load. -/
def held : Shipment := heldShipment a.session a.attached.loadNumber a.matchedIn

/-- The document fills the role that it was classified as. -/
def FillsClassifiedRole : Prop :=
  FillsRole a.session a.classified a.document a.held a.attached
    (a.matchedIn.apply (insertShipment a.session a.attached.loadNumber a.matchedIn))

/-- The second answer names the type of the first one. -/
def Named : Prop := NamesType a.classified (extractResponseText a.message)

theorem document_docType : a.document.docType = a.extraction.docType.text := by
  simp [document, extractedDocument, dump_docType, Scalar.text]

/-- The run attached the document to the locked row. -/
theorem attached_eq :
    a.attached = (attachDocument a.session a.held a.document a.extraction.dump
      (a.matchedIn.apply (insertShipment a.session a.attached.loadNumber a.matchedIn))).1 := by
  have hid : a.document.id = a.documentId := Table.get?_some_key a.row
  obtain ⟨normalized, hnormalized⟩ :=
    matchStart_normalized (dump_loadNumber_result a.extraction) a.attaches
  have hfound : a.matchedIn.document? a.document.id = some a.document := by
    rw [hid]
    exact a.row
  have hstart := matchStart_eq a.session hfound (dump_loadNumber_result a.extraction) hnormalized
  rw [hid, a.attaches] at hstart
  have hattached := (Prod.mk.inj (Option.some.inj hstart)).1
  have hload : a.attached.loadNumber = normalized := by
    rw [hattached, attachDocument_loadNumber, heldShipment_loadNumber]
  rw [held, hload]
  exact hattached

theorem docType_iff : a.extraction.docType = a.classified ↔ a.Named := by
  obtain ⟨labels, classified, message, hlabels, hclassified, hmessage, hjson⟩ :=
    extractDocument_ok a.extracts
  cases a.answered.1.symm.trans hlabels
  cases a.answered.2.symm.trans hmessage
  cases a.valid.symm.trans hclassified
  exact validateClaudeJson_docType hjson

theorem fillsClassifiedRole_iff : a.FillsClassifiedRole ↔ a.Named := by
  rw [← docType_iff]
  constructor
  · intro h
    have hstored := h.stored
    rw [document_docType] at hstored
    exact DocumentType.text_injective hstored
  · intro h
    have hstored : a.document.docType = a.classified.text := by rw [document_docType, h]
    have hrole : FillsRole a.session a.classified a.document a.held
        (attachDocument a.session a.held a.document a.extraction.dump
          (a.matchedIn.apply (insertShipment a.session a.attached.loadNumber a.matchedIn))).1
        (a.matchedIn.apply (insertShipment a.session a.attached.loadNumber a.matchedIn)) :=
      attachDocument_fillsRole hstored
    rw [← a.attached_eq] at hrole
    exact hrole

/-- Where the stored type is not the classified one, both are types of the
schema that invoices and rate confirmations share. -/
theorem docType_shared (h : a.extraction.docType ≠ a.classified) :
    a.classified = .invoice ∧ a.extraction.docType = .rateConfirmation ∨
      a.classified = .rateConfirmation ∧ a.extraction.docType = .invoice := by
  obtain ⟨labels, classified, message, hlabels, hclassified, hmessage, hjson⟩ :=
    extractDocument_ok a.extracts
  cases a.answered.1.symm.trans hlabels
  cases a.valid.symm.trans hclassified
  exact validateClaudeJson_shared hjson h

/-- Two runs of one classification store the same type exactly if both answers
name the classified type or neither does. -/
theorem sameType_iff (h : a.classified = b.classified) :
    a.extraction.docType = b.extraction.docType ↔ (a.Named ↔ b.Named) := by
  rw [← docType_iff, ← docType_iff]
  by_cases ha : a.extraction.docType = a.classified
  · by_cases hb : b.extraction.docType = b.classified
    · exact iff_of_true (ha.trans (h.trans hb.symm)) (iff_of_true ha hb)
    · have hne : a.extraction.docType ≠ b.extraction.docType := by
        rw [ha, h]
        exact Ne.symm hb
      exact iff_of_false hne fun hiff => hb (hiff.mp ha)
  · by_cases hb : b.extraction.docType = b.classified
    · have hne : a.extraction.docType ≠ b.extraction.docType := by
        rw [hb, ← h]
        exact ha
      exact iff_of_false hne fun hiff => ha (hiff.mpr hb)
    · have hsame : a.extraction.docType = b.extraction.docType := by
        rcases a.docType_shared ha with ⟨hc, ht⟩ | ⟨hc, ht⟩
        · rcases b.docType_shared hb with ⟨hc', ht'⟩ | ⟨hc', ht'⟩
          · exact ht.trans ht'.symm
          · rw [h, hc'] at hc
            cases hc
        · rcases b.docType_shared hb with ⟨hc', ht'⟩ | ⟨hc', ht'⟩
          · rw [h, hc'] at hc
            cases hc
          · exact ht.trans ht'.symm
      exact iff_of_true hsame (iff_of_false ha hb)

end AttachedRun

/-- A document fills the role that it was classified as exactly if the second
answer names that type, and two runs of one classification store the same type
exactly if both answers name it or neither does. -/
theorem classifiedRole_iff (a : AttachedRun) :
    (a.FillsClassifiedRole ↔ a.Named) ∧
      ∀ b : AttachedRun, a.classified = b.classified →
        (a.extraction.docType = b.extraction.docType ↔ (a.Named ↔ b.Named)) :=
  ⟨a.fillsClassifiedRole_iff, fun b => a.sameType_iff b⟩

end

/-! ## An invoice read as a rate confirmation -/

section

/-- The members in an answer for an invoice-shaped document. -/
def invoiceFields (type : String) : String :=
  "\"invoice_number\": \"A-1\", \"carrier_name\": \"ACME\", \"load_number\": \"LD-001\", " ++
  "\"invoice_date\": \"2026-07-20\", \"total_amount\": 1000, \"line_items\": [], " ++
  "\"doc_type\": \"" ++ type ++ "\", \"confidence\": 1"

/-- The text of that answer. -/
def invoiceAnswer (type : String) : String := "\x7b" ++ invoiceFields type ++ "\x7d"

/-- The object in that text. -/
def invoiceMembers (type : String) : Json.Members :=
  [("invoice_number", .string "A-1"), ("carrier_name", .string "ACME"),
   ("load_number", .string "LD-001"), ("invoice_date", .string "2026-07-20"),
   ("total_amount", .number "1000"), ("line_items", .array []), ("doc_type", .string type),
   ("confidence", .number "1")]

/-- The runtime on ASCII text, with a reader of those texts and of whole
numbers. -/
@[reducible] def answerRuntime : ExtractionRuntime where
  toPyRuntime := asciiRuntime
  lower s := String.ofList (s.toList.map Char.toLower)
  loads s :=
    (["invoice", "rate_confirmation"].find? fun type => s = invoiceAnswer type).map
      fun type => .object (invoiceMembers type)
  laxFloat
    | .number text => (digits text.toList).map fun n => (n : ℚ)
    | _ => none
  laxInt
    | .number text => digits text.toList
    | _ => none
  lineItemsText _ := "[]"

/-- An invoice by its classification, whatever its second answer says. -/
def invoiceAnswers (type : String) : ModelAnswers where
  classification := .ok [⟨"text", some "invoice"⟩]
  extraction := .ok [⟨"text", some (invoiceAnswer type)⟩]

/-- No shipment, and an uploaded document. -/
def uploadedOnly : Database :=
  { Database.empty with documents := [⟨1, "a.pdf", "invoice", "pending", none, none⟩] }

/-- The keys and clocks of a transaction. -/
def matchSession : Session := ⟨1000, 1000, 3600000000, "s", 6, "r", "x", "y"⟩

/-- A text without white space at its ends. -/
theorem strip_eq_self [PyRuntime] {s : String} {front back : Char} {cs ds : List Char}
    (hfront : s.toList = front :: cs) (hback : s.toList = ds ++ [back])
    (hf : PyRuntime.isspace front = false) (hb : PyRuntime.isspace back = false) :
    strip s = s := by
  have hkeep : s.toList.dropWhile PyRuntime.isspace = s.toList := by
    rw [hfront, List.dropWhile_cons_of_neg (by simp [hf])]
  rw [strip, hkeep, hback, List.reverse_append, List.reverse_singleton, List.singleton_append,
    List.dropWhile_cons_of_neg (by simp [hb]), List.reverse_cons, List.reverse_reverse, ← hback,
    String.ofList_toList]

theorem invoiceAnswer_toList (type : String) :
    (invoiceAnswer type).toList = '\x7b' :: ((invoiceFields type).toList ++ ['\x7d']) := by
  simp [invoiceAnswer]

/-- The answer has no white space and no fence around it. -/
theorem stripCodeFences_invoiceAnswer (type : String) :
    letI := answerRuntime
    stripCodeFences (extractResponseText [⟨"text", some (invoiceAnswer type)⟩]) =
      invoiceAnswer type := by
  let _ := answerRuntime
  have hback : (invoiceAnswer type).toList = ('\x7b' :: (invoiceFields type).toList) ++ ['\x7d'] :=
    invoiceAnswer_toList type
  have hstrip : strip (invoiceAnswer type) = invoiceAnswer type :=
    strip_eq_self (invoiceAnswer_toList type) hback (by decide) (by decide)
  have hjoin : extractResponseText [⟨"text", some (invoiceAnswer type)⟩] = invoiceAnswer type := by
    simp [extractResponseText, String.join, hstrip]
  rw [hjoin, stripCodeFences, hstrip, invoiceAnswer_toList]
  simpa [List.isPrefixOf] using hstrip

/-- What a run on the document stores and attaches. -/
def rolesOf (type : String) : Option (DocumentType × Option Nat × Option Nat) :=
  letI := answerRuntime
  (extractionSchema .invoice (invoiceMembers type)).bind fun e =>
    (matchStart matchSession 1 e.dump (afterExtract "run" 2 1 "a.pdf" e.dump uploadedOnly)).map
      fun (s, _) => (e.docType, s.invoiceId, s.rateConId)

/-- A run on the document, from its second answer. -/
theorem exists_attachedRun {type : String} {docType : DocumentType}
    {invoiceId rateConId : Option Nat}
    (hloads : answerRuntime.loads (invoiceAnswer type) = some (.object (invoiceMembers type)))
    (h : rolesOf type = some (docType, invoiceId, rateConId)) :
    letI := answerRuntime
    ∃ a : AttachedRun, a.answers = invoiceAnswers type ∧ a.classified = .invoice ∧
      a.extraction.docType = docType ∧ a.attached.invoiceId = invoiceId ∧
      a.attached.rateConId = rateConId := by
  let _ := answerRuntime
  obtain ⟨e, he, h⟩ := Option.bind_eq_some_iff.mp h
  obtain ⟨⟨s, db⟩, hs, h⟩ := Option.map_eq_some_iff.mp h
  have hvalid : validateDocumentType (extractResponseText [⟨"text", some "invoice"⟩]) =
      .ok .invoice := by decide +kernel
  have hfile : detectFileType "a.pdf" = .ok (.pdf, "application/pdf") := by decide +kernel
  have hjson : validateClaudeJson (extractResponseText [⟨"text", some (invoiceAnswer type)⟩])
      .invoice = .ok e := by
    simp only [validateClaudeJson, stripCodeFences_invoiceAnswer, hloads, he]
  have hextracts : extractDocument "key" "a.pdf" (invoiceAnswers type) = .ok e := by
    simp only [extractDocument, bind_eq_ok]
    exact ⟨_, hfile, (), rfl, _, rfl, _, hvalid, _, rfl, hjson⟩
  cases h
  exact ⟨{
    apiKey := "key"
    filename := "a.pdf"
    answers := invoiceAnswers type
    session := matchSession
    documentId := 1
    newDocumentId := 2
    extractedIn := uploadedOnly
    matchedIn := afterExtract "run" 2 1 "a.pdf" e.dump uploadedOnly
    labels := [⟨"text", some "invoice"⟩]
    classified := .invoice
    message := [⟨"text", some (invoiceAnswer type)⟩]
    extraction := e
    attached := s
    left := db
    answered := ⟨rfl, rfl⟩
    valid := hvalid
    extracts := hextracts
    row := afterExtract_document rfl ..
    attaches := hs }, rfl, rfl, rfl, rfl, rfl⟩

/-- One classification and two second answers: an invoice is the canonical
invoice of its load, or its rate confirmation. -/
theorem classifiedInvoice_asRateConfirmation :
    letI := answerRuntime
    ∃ a b : AttachedRun, a.answers.classification = b.answers.classification ∧
      a.classified = .invoice ∧ b.classified = .invoice ∧
      a.attached.invoiceId = some 1 ∧ a.attached.rateConId = none ∧
      b.attached.invoiceId = none ∧ b.attached.rateConId = some 1 ∧ ¬b.FillsClassifiedRole := by
  let _ := answerRuntime
  have hne : invoiceAnswer "rate_confirmation" ≠ invoiceAnswer "invoice" := by decide +kernel
  have ha : rolesOf "invoice" = some (.invoice, some 1, none) := by decide +kernel
  have hb : rolesOf "rate_confirmation" = some (.rateConfirmation, none, some 1) := by
    decide +kernel
  have hloads : answerRuntime.loads (invoiceAnswer "invoice") =
      some (.object (invoiceMembers "invoice")) := by
    show (List.find? (fun type => decide (invoiceAnswer "invoice" = invoiceAnswer type))
      ["invoice", "rate_confirmation"]).map _ = _
    simp
  have hloads' : answerRuntime.loads (invoiceAnswer "rate_confirmation") =
      some (.object (invoiceMembers "rate_confirmation")) := by
    show (List.find? (fun type => decide (invoiceAnswer "rate_confirmation" = invoiceAnswer type))
      ["invoice", "rate_confirmation"]).map _ = _
    simp [hne]
  obtain ⟨a, hanswers, hclassified, -, hinvoice, hrateCon⟩ := exists_attachedRun hloads ha
  obtain ⟨b, hanswers', hclassified', htype', hinvoice', hrateCon'⟩ := exists_attachedRun hloads' hb
  refine ⟨a, b, by rw [hanswers, hanswers']; rfl, hclassified, hclassified', hinvoice, hrateCon,
    hinvoice', hrateCon', ?_⟩
  intro hrole
  have hstored := hrole.stored
  rw [AttachedRun.document_docType, htype', hclassified'] at hstored
  exact absurd hstored (by decide)

end

end FreightAP
