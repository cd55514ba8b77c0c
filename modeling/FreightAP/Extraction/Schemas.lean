import FreightAP.Lib.Json
import FreightAP.Models

/-!
# Extraction schemas

`extract_document`: the document type off the model's first answer, and the
schema of that type on its second one.  An answer is a list of content blocks,
or the message of what the call raised.

The JSON reader, the number coercions of the schemas, `str.lower` and the text
of a list are the instance `ExtractionRuntime`.  A float that is not finite
reads as none: no row takes it.
-/

namespace FreightAP

/-- `LineItem`. -/
structure LineItem where
  description : String
  quantity : Option ℚ
  unitPrice : Option ℚ
  total : ℚ

/-- What the schemas use of the runtime. -/
class ExtractionRuntime extends PyRuntime where
  /-- `s.lower()`. -/
  lower : String → String
  /-- `json.loads(s)`, `none` for a `JSONDecodeError`. -/
  loads : String → Option Json
  /-- A value validated as `float`. -/
  laxFloat : Json → Option ℚ
  /-- A value validated as `int`. -/
  laxInt : Json → Option Int
  /-- `str` of the dumped line items. -/
  lineItemsText : List LineItem → String

/-- `DocumentType`. -/
inductive DocumentType where
  | invoice
  | rateConfirmation
  | billOfLading
  | proofOfDelivery
deriving DecidableEq

namespace DocumentType

/-- The text of a document type. -/
def text : DocumentType → String
  | .invoice => "invoice"
  | .rateConfirmation => "rate_confirmation"
  | .billOfLading => "bill_of_lading"
  | .proofOfDelivery => "proof_of_delivery"

/-- The keys of `EXTRACTION_SCHEMAS`. -/
def all : List DocumentType := [.invoice, .rateConfirmation, .billOfLading, .proofOfDelivery]

theorem text_injective {a b : DocumentType} (h : a.text = b.text) : a = b := by
  cases a <;> cases b <;> simp_all [text]

end DocumentType

/-! ## Files -/

/-- `Path(filename).name`. -/
def pathName (filename : String) : String :=
  let parts := filename.toList.splitOn '/'
  String.ofList ((parts.filter fun part => part ≠ [] ∧ part ≠ ['.']).getLastD [])

/-- `Path(filename).suffix`: from the last dot, unless it is the first or the
last character of the name. -/
def pathSuffix (filename : String) : String :=
  let reversed := (pathName filename).toList.reverse
  let extension := reversed.takeWhile (· ≠ '.')
  let stem := (reversed.drop extension.length).drop 1
  if extension ≠ [] ∧ stem ≠ [] then String.ofList ('.' :: extension.reverse) else ""

/-- `SupportedKind`. -/
inductive SupportedKind where
  | pdf
  | image
deriving DecidableEq

section

variable [ExtractionRuntime]

open ExtractionRuntime

/-- `detect_file_type`. -/
def detectFileType (filename : String) : Except String (SupportedKind × String) :=
  let suffix := lower (pathSuffix filename)
  let mediaTypes : List (String × SupportedKind × String) :=
    [(".pdf", .pdf, "application/pdf"), (".png", .image, "image/png"),
     (".jpg", .image, "image/jpeg"), (".jpeg", .image, "image/jpeg")]
  match mediaTypes.lookup suffix with
  | some fileType => .ok fileType
  | none => .error ("Unsupported file type: " ++ if suffix = "" then "none" else suffix)

/-! ## Answers -/

/-- A block of an answer. -/
structure ContentBlock where
  type : String
  text : Option String

/-- `extract_response_text`. -/
def extractResponseText (content : List ContentBlock) : String :=
  let textBlocks := content.filterMap fun block =>
    if block.type = "text" then block.text else none
  strip (String.join textBlocks)

/-- `value.strip("\"'\x60")`: without the quotes and the backquotes around it. -/
def stripQuotes (value : String) : String :=
  let isQuote := fun c : Char => c ∈ ['"', '\'', '\x60']
  String.ofList ((value.toList.dropWhile isQuote).reverse.dropWhile isQuote).reverse

/-- `validate_document_type`. -/
def validateDocumentType (responseText : String) : Except String DocumentType :=
  let docType := lower (stripQuotes (strip responseText))
  match DocumentType.all.find? (·.text = docType) with
  | some docType => .ok docType
  | none => .error ("Claude returned unsupported document type: " ++ responseText)

/-- `strip_code_fences`. -/
def stripCodeFences (text : String) : String :=
  let text := strip text
  let fence := ['\x60', '\x60', '\x60']
  if fence.isPrefixOf text.toList then
    -- The line of the opening fence goes, and a closing fence.
    let body := (text.toList.dropWhile (· ≠ '\n')).drop 1
    strip (String.ofList (if fence.isSuffixOf body then body.take (body.length - 3) else body))
  else strip text

/-! ## Fields -/

/-- A field of type `str`. -/
def textField (members : Json.Members) (key : String) : Option String :=
  match members.lookup key with
  | some (.string s) => some s
  | _ => none

/-- A field of type `str | None`. -/
def textOrNull (members : Json.Members) (key : String) : Option (Option String) :=
  match members.lookup key with
  | some .null => some none
  | some (.string s) => some (some s)
  | _ => none

/-- A field of type `float`. -/
def floatField (members : Json.Members) (key : String) : Option ℚ :=
  (members.lookup key).bind laxFloat

/-- A field of type `float | None`. -/
def floatOrNull (members : Json.Members) (key : String) : Option (Option ℚ) :=
  match members.lookup key with
  | some .null => some none
  | some value => (laxFloat value).map some
  | none => none

/-- A field of type `int | None`. -/
def intOrNull (members : Json.Members) (key : String) : Option (Option Int) :=
  match members.lookup key with
  | some .null => some none
  | some value => (laxInt value).map some
  | none => none

/-- A field of type `Literal[...]`. -/
def literalField (types : List DocumentType) (members : Json.Members) (key : String) :
    Option DocumentType :=
  (textField members key).bind fun s => types.find? (·.text = s)

/-- `normalize_load_number_value`. -/
def normalizeLoadNumberValue (value : Option String) : Option (Option String) :=
  (normalizeLoadNumber value).toOption

/-- `normalize_carrier_name`. -/
def normalizeCarrierName (value : String) : String := upper (strip value)

/-- A value validated as `LineItem`. -/
def LineItem.validate : Json → Option LineItem
  | .object members => do
      let description ← textField members "description"
      let quantity ← floatOrNull members "quantity"
      let unitPrice ← floatOrNull members "unit_price"
      let total ← floatField members "total"
      return { description, quantity, unitPrice, total }
  | _ => none

/-- A field of type `list[LineItem]`. -/
def lineItemsField (members : Json.Members) (key : String) : Option (List LineItem) :=
  match members.lookup key with
  | some (.array items) => items.mapM LineItem.validate
  | _ => none

end

/-! ## Schemas -/

namespace Schemas

/-- `InvoiceExtraction`, of an invoice or a rate confirmation. -/
structure InvoiceExtraction where
  invoiceNumber : String
  carrierName : String
  loadNumber : Option String
  invoiceDate : String
  totalAmount : ℚ
  lineItems : List LineItem
  docType : DocumentType
  confidence : ℚ
  total_nonneg : 0 ≤ totalAmount
  confidence_range : 0 ≤ confidence ∧ confidence ≤ 1
  docType_literal : docType ∈ [DocumentType.invoice, .rateConfirmation]

/-- `BOLExtraction`. -/
structure BOLExtraction where
  bolNumber : String
  loadNumber : Option String
  carrierName : String
  shipperName : String
  consigneeName : String
  pickupDate : String
  commodityDescription : String
  pieces : Option Int
  weightLbs : Option ℚ

/-- `PODExtraction`. -/
structure PODExtraction where
  bolNumber : Option String
  loadNumber : Option String
  carrierName : String
  deliveryDate : String
  deliveryTime : Option String
  piecesReceived : Option Int
  condition : String
  receiverName : Option String

end Schemas

/-- `ExtractionResult`. -/
inductive ExtractionResult where
  | invoice (x : Schemas.InvoiceExtraction)
  | bol (x : Schemas.BOLExtraction)
  | pod (x : Schemas.PODExtraction)

section

variable [ExtractionRuntime]

open ExtractionRuntime

/-- `InvoiceExtraction.model_validate`. -/
def Schemas.InvoiceExtraction.validate (members : Json.Members) :
    Option Schemas.InvoiceExtraction := do
  let invoiceNumber ← textField members "invoice_number"
  let carrierName ← textField members "carrier_name"
  let loadNumber ← textOrNull members "load_number"
  let loadNumber ← normalizeLoadNumberValue loadNumber
  let invoiceDate ← textField members "invoice_date"
  let totalAmount ← floatField members "total_amount"
  let lineItems ← lineItemsField members "line_items"
  let docType ← literalField [.invoice, .rateConfirmation] members "doc_type"
  let confidence ← floatField members "confidence"
  if h : 0 ≤ totalAmount ∧ (0 ≤ confidence ∧ confidence ≤ 1) ∧
      docType ∈ [DocumentType.invoice, .rateConfirmation] then
    return {
      invoiceNumber
      carrierName := normalizeCarrierName carrierName
      loadNumber, invoiceDate, totalAmount, lineItems, docType, confidence
      total_nonneg := h.1
      confidence_range := h.2.1
      docType_literal := h.2.2 }
  else none

/-- `BOLExtraction.model_validate`. -/
def Schemas.BOLExtraction.validate (members : Json.Members) : Option Schemas.BOLExtraction := do
  let bolNumber ← textField members "bol_number"
  let loadNumber ← textOrNull members "load_number"
  let loadNumber ← normalizeLoadNumberValue loadNumber
  let carrierName ← textField members "carrier_name"
  let shipperName ← textField members "shipper_name"
  let consigneeName ← textField members "consignee_name"
  let pickupDate ← textField members "pickup_date"
  let commodityDescription ← textField members "commodity_description"
  let pieces ← intOrNull members "pieces"
  let weightLbs ← floatOrNull members "weight_lbs"
  let _ ← literalField [.billOfLading] members "doc_type"
  return {
    bolNumber, loadNumber
    carrierName := normalizeCarrierName carrierName
    shipperName, consigneeName, pickupDate, commodityDescription, pieces, weightLbs }

/-- `PODExtraction.model_validate`. -/
def Schemas.PODExtraction.validate (members : Json.Members) : Option Schemas.PODExtraction := do
  let bolNumber ← textOrNull members "bol_number"
  let loadNumber ← textOrNull members "load_number"
  let loadNumber ← normalizeLoadNumberValue loadNumber
  let carrierName ← textField members "carrier_name"
  let deliveryDate ← textField members "delivery_date"
  let deliveryTime ← textOrNull members "delivery_time"
  let piecesReceived ← intOrNull members "pieces_received"
  let condition ← textField members "condition"
  let receiverName ← textOrNull members "receiver_name"
  let _ ← literalField [.proofOfDelivery] members "doc_type"
  return {
    bolNumber, loadNumber
    carrierName := normalizeCarrierName carrierName
    deliveryDate, deliveryTime, piecesReceived, condition, receiverName }

namespace ExtractionResult

/-- `extraction.doc_type`. -/
def docType : ExtractionResult → DocumentType
  | .invoice x => x.docType
  | .bol _ => .billOfLading
  | .pod _ => .proofOfDelivery

/-- `extraction.load_number`. -/
def loadNumber : ExtractionResult → Option String
  | .invoice x => x.loadNumber
  | .bol x => x.loadNumber
  | .pod x => x.loadNumber

/-- `extraction.model_dump(mode="json")`. -/
def dump : ExtractionResult → Extraction
  | .invoice x =>
      [("invoice_number", .str x.invoiceNumber),
       ("carrier_name", .str x.carrierName),
       ("load_number", x.loadNumber.elim .none .str),
       ("invoice_date", .str x.invoiceDate),
       ("total_amount", .float x.totalAmount),
       ("line_items", .nested (!x.lineItems.isEmpty) (lineItemsText x.lineItems)),
       ("doc_type", .str x.docType.text),
       ("confidence", .float x.confidence)]
  | .bol x =>
      [("bol_number", .str x.bolNumber),
       ("load_number", x.loadNumber.elim .none .str),
       ("carrier_name", .str x.carrierName),
       ("shipper_name", .str x.shipperName),
       ("consignee_name", .str x.consigneeName),
       ("pickup_date", .str x.pickupDate),
       ("commodity_description", .str x.commodityDescription),
       ("pieces", x.pieces.elim .none .int),
       ("weight_lbs", x.weightLbs.elim .none .float),
       ("doc_type", .str DocumentType.billOfLading.text)]
  | .pod x =>
      [("bol_number", x.bolNumber.elim .none .str),
       ("load_number", x.loadNumber.elim .none .str),
       ("carrier_name", .str x.carrierName),
       ("delivery_date", .str x.deliveryDate),
       ("delivery_time", x.deliveryTime.elim .none .str),
       ("pieces_received", x.piecesReceived.elim .none .int),
       ("condition", .str x.condition),
       ("receiver_name", x.receiverName.elim .none .str),
       ("doc_type", .str DocumentType.proofOfDelivery.text)]

end ExtractionResult

/-- `EXTRACTION_SCHEMAS`. -/
def extractionSchema (docType : DocumentType) (members : Json.Members) : Option ExtractionResult :=
  match docType with
  | .invoice => (Schemas.InvoiceExtraction.validate members).map .invoice
  | .rateConfirmation => (Schemas.InvoiceExtraction.validate members).map .invoice
  | .billOfLading => (Schemas.BOLExtraction.validate members).map .bol
  | .proofOfDelivery => (Schemas.PODExtraction.validate members).map .pod

/-- `validate_claude_json`. -/
def validateClaudeJson (responseText : String) (docType : DocumentType) :
    Except String ExtractionResult :=
  let mismatch := "Claude JSON did not match the " ++ docType.text ++ " extraction schema"
  match loads (stripCodeFences responseText) with
  | none => .error "Claude returned non-JSON output"
  | some (.object members) =>
      match extractionSchema docType members with
      | some extraction => .ok extraction
      | none => .error mismatch
  | some _ => .error mismatch

/-! ## Extraction -/

/-- The two answers of the model. -/
structure ModelAnswers where
  classification : Except String (List ContentBlock)
  extraction : Except String (List ContentBlock)

/-- The calls of the model need a key. -/
def requireApiKey (apiKey : String) : Except String Unit :=
  if apiKey = "" then .error "ANTHROPIC_API_KEY is not configured" else .ok ()

/-- `extract_document`, up to the row it stores. -/
def extractDocument (apiKey filename : String) (answers : ModelAnswers) :
    Except String ExtractionResult := do
  let _ ← detectFileType filename
  let _ ← requireApiKey apiKey
  let classification ← answers.classification
  let docType ← validateDocumentType (extractResponseText classification)
  let message ← answers.extraction
  validateClaudeJson (extractResponseText message) docType

end

end FreightAP
