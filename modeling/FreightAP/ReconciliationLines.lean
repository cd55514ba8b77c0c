import FreightAP.Lib.KeyValues
import FreightAP.Assembly.Row

/-!
# The lines of a reconciliation

The page of a shipment (`ShipmentDetail`) shows each check of its latest
reconciliation as a line.  It reads the values that were compared back from the
text of the check, a record of `key=value` fields with commas between them.

Numbers and dates come back as they are.  A carrier or a condition of a delivery
can hold commas itself: the page shows it up to the first comma, and on the line
of a delivery what comes after it can even be read as another field.
`reconciliation_lines_exact` says what every line is, in terms of what was
compared.
-/

namespace FreightAP

open KeyValues

/-! ## The page -/

/-- The white space that `trim` takes off on the page. -/
def pageBlank (c : Char) : Bool :=
  decide (c.toNat ∈ [0x9, 0xA, 0xB, 0xC, 0xD, 0x20, 0xA0, 0x1680, 0x2028, 0x2029, 0x202F, 0x205F,
    0x3000, 0xFEFF]) || decide (0x2000 ≤ c.toNat ∧ c.toNat ≤ 0x200A)

/-- The format of the details of a check. -/
def detailFormat : Format Char where
  comma := ','
  equals := '='
  space := ' '
  blank := pageBlank
  blank_space := by decide
  blank_comma := by decide
  blank_equals := by decide
  comma_ne_equals := by decide

/-- `parseKeyValueDetails`, the value of a key. -/
def parseKeyValueDetails (details key : String) : Option String :=
  (detailFormat.valueOf key.toList details.toList).map String.ofList

/-- `labelStatus`. -/
def labelStatus (status : String) : String :=
  String.ofList (status.toList.map fun c => if c = '_' then ' ' else c)

/-- The runtimes of the service and of the page: `formatMoney(Number(value))` of a
value that was read, and what is known of the texts that the service writes. -/
class PageRuntime extends PyRuntime where
  formatMoney : Option String → String
  upperChar_upper : ∀ c, 'n' ∉ upperChar c
  floatText_plain : ∀ q, ∀ c ∈ (floatText q).toList, c ≠ ',' ∧ pageBlank c = false
  dateText_plain : ∀ d, ∀ c ∈ (dateText d).toList, c ≠ ',' ∧ pageBlank c = false

section

variable [PageRuntime]

/-- `parsed[key] === "missing" ? "-" : (parsed[key] ?? "-")`. -/
def deliveryValue (parsed : Option String) : String :=
  if parsed = some "missing" then "-" else parsed.getD "-"

/-- `formatReconciliationCheckDetails`. -/
def formatReconciliationCheckDetails (check : Check) : String :=
  let details := check.details
  let parsed := parseKeyValueDetails details
  if "skipped:".toList.isPrefixOf details.toList then "Skipped — awaiting documents"
  else if check.checkName = "amount_variance" then
    let invoice := PageRuntime.formatMoney (parsed "invoice")
    let agreed := PageRuntime.formatMoney (parsed "agreed_rate")
    let variance := PageRuntime.formatMoney (parsed "variance")
    if check.outcome = .passed then
      "Invoice " ++ invoice ++ " matches agreed rate " ++ agreed ++ " (variance " ++ variance ++ ")"
    else
      "Invoice " ++ invoice ++ " vs agreed rate " ++ agreed ++ " — variance " ++ variance ++
        " exceeds 5% tolerance"
  else if check.checkName = "carrier_match" then
    "Invoice carrier: " ++ (parsed "invoice").getD "-" ++ " / Rate con carrier: " ++
      (parsed "rate_con").getD "-"
  else if check.checkName = "bol_pickup_date" then
    "BOL pickup: " ++ (parsed "bol_pickup_date").getD "-" ++ " / Rate con shipment date: " ++
      (parsed "rate_con_shipment_date").getD "-"
  else if check.checkName = "pod_delivery_confirmation" then
    if '=' ∉ details.toList then details
    else
      "Delivered " ++ deliveryValue (parsed "delivery_date") ++ ", condition: " ++
        deliveryValue (parsed "condition")
  else if check.checkName = "missing_docs" then
    if details.toLower = "none" ∨ details = "" then "None"
    else ", ".intercalate ((details.toList.splitOn ',').map fun doc =>
      labelStatus (String.ofList (detailFormat.trim doc)))
  else details

end

/-! ## What was compared, as a line -/

/-- A text up to its first comma. -/
def upToComma (text : String) : String := String.ofList (detailFormat.head text.toList)

/-- A field that is read in a text, after its first comma. -/
def spilled (key text : String) : Option String :=
  (detailFormat.valueOf key.toList (detailFormat.rest text.toList)).map String.ofList

section

variable [PageRuntime]

/-- The line of the amounts. -/
def amountLine (invoice rateCon : Option Extraction) : String :=
  match invoiceTotal invoice, agreedRate rateCon with
  | some total, some rate =>
      let money := fun q => PageRuntime.formatMoney (some (PyRuntime.floatText q))
      if withinTolerance total rate then
        "Invoice " ++ money total ++ " matches agreed rate " ++ money rate ++ " (variance " ++
          money (total - rate) ++ ")"
      else
        "Invoice " ++ money total ++ " vs agreed rate " ++ money rate ++ " — variance " ++
          money (total - rate) ++ " exceeds 5% tolerance"
  | _, _ => "Skipped — awaiting documents"

/-- The line of the carriers. -/
def carrierLine (invoice rateCon : Option Extraction) : String :=
  if carrierOf invoice = "" ∨ carrierOf rateCon = "" then "Skipped — awaiting documents"
  else
    "Invoice carrier: " ++ upToComma (carrierOf invoice) ++ " / Rate con carrier: " ++
      upToComma (carrierOf rateCon)

/-- The line of the pickup. -/
def pickupLine (rateCon bol : Option Extraction) : String :=
  match bolPickupDate bol, rateConShipDate rateCon with
  | some pickup, some ship =>
      "BOL pickup: " ++ PyRuntime.dateText pickup ++ " / Rate con shipment date: " ++
        PyRuntime.dateText ship
  | _, _ => "Skipped — awaiting documents"

/-- The line of the delivery.  The condition can put something in the place of
both values, and the date in its own place. -/
def deliveryLine (hasPod : Bool) (pod : Option Extraction) : String :=
  if hasPod then
    let deliveryDate := ((field pod "delivery_date").or (.str "missing")).text
    let condition := ((field pod "condition").or (.str "missing")).text
    "Delivered " ++
      deliveryValue (((spilled "delivery_date" condition).or
        (spilled "delivery_date" deliveryDate)).getD (upToComma deliveryDate)) ++
      ", condition: " ++
      deliveryValue ((spilled "condition" condition).getD (upToComma condition))
  else "POD content cannot be evaluated until the document arrives"

/-- The line of the missing documents. -/
def missingLine (missing : List Slot) : String :=
  if missing.isEmpty then "None"
  else ", ".intercalate (missing.map fun d => labelStatus d.requiredName)

end

/-! ## Reading the values back -/

section

variable {details key text : String} {fields : List (String × String)}

/-- A text that the page reads as it is. -/
def PlainValue (text : String) : Prop := ∀ c ∈ text.toList, c ≠ ',' ∧ pageBlank c = false

instance : Decidable (PlainValue text) := List.decidableBAll _ _

/-- A key that comes back. -/
def PlainKey (key : String) : Prop :=
  ',' ∉ key.toList ∧ '=' ∉ key.toList ∧ detailFormat.trim key.toList = key.toList

instance : Decidable (PlainKey key) := inferInstanceAs (Decidable (_ ∧ _ ∧ _))

theorem PlainValue.comma (h : PlainValue text) : detailFormat.comma ∉ text.toList :=
  fun hmem => (h _ hmem).1 rfl

theorem PlainValue.upToComma (h : PlainValue text) : upToComma text = text := by
  rw [FreightAP.upToComma, Format.head_of_not_mem h.comma,
    Format.trim_eq_self fun c hc => (h c hc).2, String.ofList_toList]

theorem PlainValue.spilled (h : PlainValue text) : spilled key text = none := by
  rw [FreightAP.spilled, Format.rest_of_not_mem h.comma, Format.valueOf_nil, Option.map_none]

/-- Nothing is read after a comma under a key that has a character which the text
has not. -/
theorem spilled_eq_none {c : Char} (hkey : c ∈ key.toList) (hc : c ∉ text.toList) :
    spilled key text = none := by
  have hrest : c ∉ detailFormat.rest text.toList := fun hmem =>
    hc ((List.dropWhile_sublist _).subset (List.mem_of_mem_tail hmem))
  rw [spilled, Format.valueOf_eq_none hkey hrest, Option.map_none]

theorem findSome?_congr {α β : Type} {l : List α} {f g : α → Option β}
    (h : ∀ a ∈ l, f a = g a) : l.findSome? f = l.findSome? g := by
  induction l with
  | nil => rfl
  | cons a l ih =>
      rw [List.findSome?_cons, List.findSome?_cons, h a (List.mem_cons_self ..),
        ih fun b hb => h b (List.mem_cons_of_mem _ hb)]

/-- What the page reads in the text of a record. -/
theorem parseKeyValueDetails_write
    (hdetails : details.toList = detailFormat.write (fields.map fun f => (f.1.toList, f.2.toList)))
    (hkeys : ∀ k ∈ fields.map Prod.fst, PlainKey k) :
    parseKeyValueDetails details key = fields.reverse.findSome? fun f =>
      (spilled key f.2).or (if f.1 = key then some (upToComma f.2) else none) := by
  have hplain : ∀ f ∈ fields, PlainKey f.1 := fun f hf => hkeys _ (List.mem_map_of_mem hf)
  have hkeys' : ∀ f ∈ fields.map fun f => (f.1.toList, f.2.toList),
      detailFormat.comma ∉ f.1 ∧ detailFormat.equals ∉ f.1 := by
    intro f hf
    obtain ⟨f', hf', rfl⟩ := List.mem_map.mp hf
    exact ⟨(hplain f' hf').1, (hplain f' hf').2.1⟩
  rw [parseKeyValueDetails, hdetails, Format.valueOf_write hkeys', ← List.map_reverse,
    List.findSome?_map, List.map_findSome?]
  refine findSome?_congr fun f hf => ?_
  have htrim : detailFormat.trim f.1.toList = key.toList ↔ f.1 = key := by
    rw [(hplain f (List.mem_reverse.mp hf)).2.2, String.toList_inj]
  rw [Function.comp_apply, Function.comp_apply, Format.shown, Option.map_or, spilled]
  by_cases hkey : f.1 = key
  · rw [if_pos (htrim.mpr hkey), if_pos hkey]
    rfl
  · rw [if_neg (mt htrim.mp hkey), if_neg hkey]
    rfl

/-- A record of two fields. -/
theorem parseKeyValueDetails_two {k₁ k₂ v₁ v₂ : String}
    (hdetails : details.toList =
      detailFormat.write [(k₁.toList, v₁.toList), (k₂.toList, v₂.toList)])
    (hkeys : ∀ k ∈ [k₁, k₂], PlainKey k) (hne : k₁ ≠ k₂) :
    parseKeyValueDetails details k₁ =
        some (((spilled k₁ v₂).or (spilled k₁ v₁)).getD (upToComma v₁)) ∧
      parseKeyValueDetails details k₂ = some ((spilled k₂ v₂).getD (upToComma v₂)) := by
  have hdetails' : details.toList =
      detailFormat.write ([(k₁, v₁), (k₂, v₂)].map fun f => (f.1.toList, f.2.toList)) := hdetails
  have hread : ∀ key, parseKeyValueDetails details key =
      (((spilled key v₂).or (if k₂ = key then some (upToComma v₂) else none)).or
        ((spilled key v₁).or (if k₁ = key then some (upToComma v₁) else none))) := by
    intro key
    rw [parseKeyValueDetails_write hdetails' hkeys]
    simp only [List.reverse_cons, List.reverse_nil, List.nil_append, List.singleton_append,
      List.findSome?_cons, List.findSome?_nil]
    cases (spilled key v₂).or _ with
    | none => cases (spilled key v₁).or _ <;> rfl
    | some v => rfl
  constructor
  · rw [hread, if_neg hne.symm, if_pos rfl, Option.or_none, ← Option.or_assoc, Option.or_some]
  · rw [hread, if_pos rfl, Option.or_some, Option.some_or]

/-- A record of plain values. -/
theorem parseKeyValueDetails_plain
    (hdetails : details.toList = detailFormat.write (fields.map fun f => (f.1.toList, f.2.toList)))
    (hkeys : ∀ k ∈ fields.map Prod.fst, PlainKey k) (hplain : ∀ f ∈ fields, PlainValue f.2) :
    parseKeyValueDetails details key =
      fields.reverse.findSome? fun f => if f.1 = key then some f.2 else none := by
  rw [parseKeyValueDetails_write hdetails hkeys]
  refine findSome?_congr fun f hf => ?_
  have hf := List.mem_reverse.mp hf
  rw [(hplain f hf).spilled, Option.none_or, (hplain f hf).upToComma]

/-- A text that begins with another letter than `skipped:`. -/
def Unskipped (details : String) : Prop := details.toList.head?.any (· != 's') = true

instance : Decidable (Unskipped details) := inferInstanceAs (Decidable (_ = true))

theorem unskipped_cons {c : Char} {cs : List Char} (h : details.toList = c :: cs) (hc : c ≠ 's') :
    Unskipped details := by
  rw [Unskipped, h]
  exact bne_iff_ne.mpr hc

theorem Unskipped.cons (h : Unskipped details) : ∃ c cs, details.toList = c :: cs ∧ c ≠ 's' := by
  unfold Unskipped at h
  cases hlist : details.toList with
  | nil => simp [hlist] at h
  | cons c cs =>
      rw [hlist] at h
      exact ⟨c, cs, rfl, bne_iff_ne.mp h⟩

theorem Unskipped.append (h : Unskipped details) : Unskipped (details ++ text) := by
  obtain ⟨c, cs, hcs, hne⟩ := h.cons
  have htext : (details ++ text).toList = c :: (cs ++ text.toList) := by
    rw [String.toList_append, hcs]
    rfl
  exact unskipped_cons htext hne

theorem not_skipped (h : Unskipped details) :
    "skipped:".toList.isPrefixOf details.toList = false := by
  obtain ⟨c, cs, hcs, hne⟩ := h.cons
  have hs : "skipped:".toList = 's' :: "kipped:".toList := by decide
  rw [hcs, hs, List.isPrefixOf_cons_cons, beq_eq_false_iff_ne.mpr hne.symm, Bool.false_and]

theorem Unskipped.concat {front v₁ middle v₂ : String} (h : Unskipped front) :
    Unskipped (front ++ v₁ ++ middle ++ v₂) := h.append.append.append

theorem toList_toLower (text : String) : text.toLower.toList = text.toList.map Char.toLower :=
  String.toList_map

theorem toList_intercalate (words : List String) :
    (", ".intercalate words).toList = detailFormat.join (words.map String.toList) :=
  String.toList_intercalate

/-- The names of a list come back with their labels. -/
theorem labels_intercalate {names : List String} (hne : names ≠ [])
    (hplain : ∀ name ∈ names, PlainValue name) :
    (((", ".intercalate names).toList.splitOn ',').map fun doc =>
      labelStatus (String.ofList (detailFormat.trim doc))) = names.map labelStatus := by
  have hparts : ∀ part ∈ names.map String.toList,
      detailFormat.comma ∉ part ∧ ∀ c ∈ part, detailFormat.blank c = false := by
    intro part hpart
    obtain ⟨name, hname, rfl⟩ := List.mem_map.mp hpart
    exact ⟨(hplain name hname).comma, fun c hc => (hplain name hname c hc).2⟩
  have hsplit := Format.splitOn_join (mt List.map_eq_nil_iff.mp hne) hparts
  calc (((", ".intercalate names).toList.splitOn ',').map fun doc =>
        labelStatus (String.ofList (detailFormat.trim doc)))
      = (((detailFormat.join (names.map String.toList)).splitOn detailFormat.comma).map
          detailFormat.trim).map fun part => labelStatus (String.ofList part) := by
        rw [toList_intercalate, List.map_map]
        rfl
    _ = (names.map String.toList).map fun part => labelStatus (String.ofList part) := by
        rw [hsplit]
    _ = names.map labelStatus := by
        rw [List.map_map]
        exact List.map_congr_left fun name _ => congrArg labelStatus String.ofList_toList

/-- The details of the amounts. -/
theorem read_amounts {a b c : String} (ha : PlainValue a) (hb : PlainValue b) (hc : PlainValue c)
    (hdetails : details = "invoice=" ++ a ++ ", agreed_rate=" ++ b ++ ", variance=" ++ c) :
    Unskipped details ∧
      parseKeyValueDetails details "invoice" = some a ∧
      parseKeyValueDetails details "agreed_rate" = some b ∧
      parseKeyValueDetails details "variance" = some c := by
  have htext : details.toList = "invoice=".toList ++ (a.toList ++ (", agreed_rate=".toList ++
      (b.toList ++ (", variance=".toList ++ c.toList)))) := by
    rw [hdetails]
    simp only [String.toList_append, List.append_assoc]
  have hwrite : details.toList = detailFormat.write
      ([("invoice", a), ("agreed_rate", b), ("variance", c)].map
        fun f => (f.1.toList, f.2.toList)) := by
    rw [htext]
    simp only [Format.write, List.map_cons, List.map_nil, Format.join_cons_cons,
      Format.join_singleton, Format.writeField, List.append_assoc, List.cons_append]
    rfl
  have hkeys : ∀ k ∈ ["invoice", "agreed_rate", "variance"], PlainKey k := by decide
  have hplain : ∀ f ∈ [("invoice", a), ("agreed_rate", b), ("variance", c)], PlainValue f.2 := by
    simpa only [List.forall_mem_cons, List.not_mem_nil, false_imp_iff, implies_true, and_true]
      using ⟨ha, hb, hc⟩
  have hfront : Unskipped "invoice=" := by decide
  exact ⟨hdetails ▸ hfront.concat.append.append, parseKeyValueDetails_plain hwrite hkeys hplain,
    parseKeyValueDetails_plain hwrite hkeys hplain,
    parseKeyValueDetails_plain hwrite hkeys hplain⟩

/-- A record of two fields as its text. -/
theorem write_two (k₁ k₂ v₁ v₂ : String) {front middle : String}
    (hfront : front.toList = k₁.toList ++ ['='])
    (hmiddle : middle.toList = ',' :: ' ' :: k₂.toList ++ ['=']) :
    (front ++ v₁ ++ middle ++ v₂).toList =
      detailFormat.write [(k₁.toList, v₁.toList), (k₂.toList, v₂.toList)] := by
  simp only [String.toList_append, hfront, hmiddle, Format.write, List.map_cons, List.map_nil,
    Format.join_cons_cons, Format.join_singleton, Format.writeField, List.append_assoc,
    List.cons_append, List.nil_append]
  rfl

/-- The details of the carriers, of which the text in upper case holds no key. -/
theorem read_carriers {a b : String} (ha : 'n' ∉ a.toList) (hb : 'n' ∉ b.toList) :
    parseKeyValueDetails ("invoice=" ++ a ++ ", rate_con=" ++ b) "invoice" = some (upToComma a) ∧
      parseKeyValueDetails ("invoice=" ++ a ++ ", rate_con=" ++ b) "rate_con" =
        some (upToComma b) := by
  have hfront : "invoice=".toList = "invoice".toList ++ ['='] := by decide
  have hmiddle : ", rate_con=".toList = ',' :: ' ' :: "rate_con".toList ++ ['='] := by decide
  obtain ⟨hfirst, hsecond⟩ := parseKeyValueDetails_two
    (write_two "invoice" "rate_con" a b hfront hmiddle) (by decide) (by decide)
  rw [hfirst, hsecond, spilled_eq_none (c := 'n') (by decide) hb,
    spilled_eq_none (c := 'n') (by decide) ha, spilled_eq_none (c := 'n') (by decide) hb]
  exact ⟨rfl, rfl⟩

/-- The details of the pickup. -/
theorem read_pickup {a b : String} (ha : PlainValue a) (hb : PlainValue b) :
    parseKeyValueDetails ("bol_pickup_date=" ++ a ++ ", rate_con_shipment_date=" ++ b)
        "bol_pickup_date" = some a ∧
      parseKeyValueDetails ("bol_pickup_date=" ++ a ++ ", rate_con_shipment_date=" ++ b)
        "rate_con_shipment_date" = some b := by
  have hfront : "bol_pickup_date=".toList = "bol_pickup_date".toList ++ ['='] := by decide
  have hmiddle : ", rate_con_shipment_date=".toList =
      ',' :: ' ' :: "rate_con_shipment_date".toList ++ ['='] := by decide
  obtain ⟨hfirst, hsecond⟩ := parseKeyValueDetails_two
    (write_two "bol_pickup_date" "rate_con_shipment_date" a b hfront hmiddle) (by decide)
    (by decide)
  rw [hfirst, hsecond, hb.spilled, ha.spilled, hb.spilled, ha.upToComma, hb.upToComma]
  exact ⟨rfl, rfl⟩

end

/-! ## The lines -/

section

variable [PageRuntime] {e : Evidence} {checkName details : String} {outcome : CheckOutcome}
  {reason : Option String}

/-- A check adds its line. -/
theorem lines_check :
    (e.check checkName outcome details reason).checks.map formatReconciliationCheckDetails =
      e.checks.map formatReconciliationCheckDetails ++ [formatReconciliationCheckDetails
        ⟨checkName, outcome, details, if outcome = .failed then reason else none⟩] :=
  List.map_append

/-- What was not compared. -/
theorem line_skipped (h : "skipped:".toList.isPrefixOf details.toList = true) :
    formatReconciliationCheckDetails ⟨checkName, outcome, details, reason⟩ =
      "Skipped — awaiting documents" := if_pos h

theorem line_amount (h : Unskipped details) :
    formatReconciliationCheckDetails ⟨"amount_variance", outcome, details, reason⟩ =
      if outcome = .passed then
        "Invoice " ++ PageRuntime.formatMoney (parseKeyValueDetails details "invoice") ++
          " matches agreed rate " ++
          PageRuntime.formatMoney (parseKeyValueDetails details "agreed_rate") ++ " (variance " ++
          PageRuntime.formatMoney (parseKeyValueDetails details "variance") ++ ")"
      else
        "Invoice " ++ PageRuntime.formatMoney (parseKeyValueDetails details "invoice") ++
          " vs agreed rate " ++
          PageRuntime.formatMoney (parseKeyValueDetails details "agreed_rate") ++ " — variance " ++
          PageRuntime.formatMoney (parseKeyValueDetails details "variance") ++
          " exceeds 5% tolerance" := by
  simp only [formatReconciliationCheckDetails, not_skipped h, Bool.false_eq_true, if_false, if_true]

theorem line_carrier (h : Unskipped details) :
    formatReconciliationCheckDetails ⟨"carrier_match", outcome, details, reason⟩ =
      "Invoice carrier: " ++ (parseKeyValueDetails details "invoice").getD "-" ++
        " / Rate con carrier: " ++ (parseKeyValueDetails details "rate_con").getD "-" := by
  have hne : ¬"carrier_match" = "amount_variance" := by decide
  simp only [formatReconciliationCheckDetails, not_skipped h, hne, Bool.false_eq_true, if_false,
    if_true]

theorem line_pickup (h : Unskipped details) :
    formatReconciliationCheckDetails ⟨"bol_pickup_date", outcome, details, reason⟩ =
      "BOL pickup: " ++ (parseKeyValueDetails details "bol_pickup_date").getD "-" ++
        " / Rate con shipment date: " ++
        (parseKeyValueDetails details "rate_con_shipment_date").getD "-" := by
  have hne : ¬"bol_pickup_date" = "amount_variance" ∧ ¬"bol_pickup_date" = "carrier_match" := by
    decide
  simp only [formatReconciliationCheckDetails, not_skipped h, hne, Bool.false_eq_true, if_false,
    if_true]

theorem line_delivery (h : Unskipped details) :
    formatReconciliationCheckDetails ⟨"pod_delivery_confirmation", outcome, details, reason⟩ =
      if '=' ∉ details.toList then details
      else
        "Delivered " ++ deliveryValue (parseKeyValueDetails details "delivery_date") ++
          ", condition: " ++ deliveryValue (parseKeyValueDetails details "condition") := by
  have hne : ¬"pod_delivery_confirmation" = "amount_variance" ∧
      ¬"pod_delivery_confirmation" = "carrier_match" ∧
      ¬"pod_delivery_confirmation" = "bol_pickup_date" := by decide
  simp only [formatReconciliationCheckDetails, not_skipped h, hne, Bool.false_eq_true, if_false,
    if_true]

theorem line_missing (h : Unskipped details) :
    formatReconciliationCheckDetails ⟨"missing_docs", outcome, details, reason⟩ =
      if details.toLower = "none" ∨ details = "" then "None"
      else ", ".intercalate ((details.toList.splitOn ',').map fun doc =>
        labelStatus (String.ofList (detailFormat.trim doc))) := by
  have hne : ¬"missing_docs" = "amount_variance" ∧ ¬"missing_docs" = "carrier_match" ∧
      ¬"missing_docs" = "bol_pickup_date" ∧ ¬"missing_docs" = "pod_delivery_confirmation" := by
    decide
  simp only [formatReconciliationCheckDetails, not_skipped h, hne, Bool.false_eq_true, if_false,
    if_true]

/-- The checks that have a line of their own. -/
def formattedNames : List String :=
  ["amount_variance", "carrier_match", "bol_pickup_date", "pod_delivery_confirmation",
    "missing_docs"]

theorem line_other (hname : checkName ∉ formattedNames) (h : Unskipped details) :
    formatReconciliationCheckDetails ⟨checkName, outcome, details, reason⟩ = details := by
  simp only [formattedNames, List.mem_cons, List.not_mem_nil, or_false, not_or] at hname
  simp only [formatReconciliationCheckDetails, not_skipped h, hname, Bool.false_eq_true, if_false]

/-- A normalised carrier is in upper case. -/
theorem carrierOf_upper (e : Option Extraction) : 'n' ∉ (carrierOf e).toList := by
  rw [carrierOf, normalizeCarrier]
  rw [String.toList_intercalate]
  refine not_mem_intercalate (by decide) fun text htext hn => ?_
  obtain ⟨word, hword, rfl⟩ := List.mem_map.mp htext
  obtain ⟨part, hpart, rfl⟩ := List.mem_map.mp hword
  rw [String.toList_ofList] at hn
  have hmem := mem_of_mem_splitOnP (List.mem_filter.mp hpart).1 hn
  rw [upper, String.toList_ofList, List.mem_flatMap] at hmem
  obtain ⟨c, -, hc⟩ := hmem
  exact PageRuntime.upperChar_upper c hc

omit [PageRuntime] in
/-- The text of missing documents begins with the name of one. -/
theorem join_requiredNames (d : Slot) (missing : List Slot) :
    ∃ c cs, detailFormat.join (((d :: missing).map Slot.requiredName).map String.toList) = c :: cs ∧
      c ≠ 's' ∧ c.toLower ≠ 'n' := by
  have hjoin : ∃ rest, detailFormat.join (((d :: missing).map Slot.requiredName).map
      String.toList) = d.requiredName.toList ++ rest := by
    cases missing with
    | nil => exact ⟨[], Format.join_singleton.trans (List.append_nil _).symm⟩
    | cons next missing => exact ⟨_, Format.join_cons_cons⟩
  obtain ⟨rest, hjoin⟩ := hjoin
  rw [hjoin]
  cases d
  · exact ⟨'i', _, rfl, by decide, by decide⟩
  · exact ⟨'r', _, rfl, by decide, by decide⟩
  · exact ⟨'b', _, rfl, by decide, by decide⟩
  · exact ⟨'p', _, rfl, by decide, by decide⟩

theorem lines_amountCheck (invoice rateCon : Option Extraction) :
    (amountCheck invoice rateCon e).checks.map formatReconciliationCheckDetails =
      e.checks.map formatReconciliationCheckDetails ++ [amountLine invoice rateCon] := by
  have hskipped : "skipped:".toList.isPrefixOf
      "skipped: invoice or rate confirmation amount is missing".toList = true := by decide
  unfold amountCheck amountLine
  cases invoiceTotal invoice with
  | none => exact lines_check.trans (by rw [line_skipped hskipped])
  | some total =>
      cases agreedRate rateCon with
      | none => exact lines_check.trans (by rw [line_skipped hskipped])
      | some rate =>
          obtain ⟨hline, hinvoice, hagreed, hvariance⟩ :=
            read_amounts (PageRuntime.floatText_plain total) (PageRuntime.floatText_plain rate)
              (PageRuntime.floatText_plain (total - rate)) rfl
          refine lines_check.trans ?_
          rw [line_amount hline, hinvoice, hagreed, hvariance]
          dsimp only
          cases withinTolerance total rate <;> rfl

theorem lines_carrierCheck (invoice rateCon : Option Extraction) :
    (carrierCheck invoice rateCon e).checks.map formatReconciliationCheckDetails =
      e.checks.map formatReconciliationCheckDetails ++ [carrierLine invoice rateCon] := by
  unfold carrierCheck carrierLine
  split
  · refine lines_check.trans ?_
    rw [line_skipped (by decide)]
  · obtain ⟨hinvoice, hrateCon⟩ := read_carriers (carrierOf_upper invoice) (carrierOf_upper rateCon)
    refine lines_check.trans ?_
    rw [line_carrier (Unskipped.concat (by decide)), hinvoice, hrateCon]
    rfl

theorem lines_pickupDateCheck (rateCon bol : Option Extraction) :
    (pickupDateCheck rateCon bol e).checks.map formatReconciliationCheckDetails =
      e.checks.map formatReconciliationCheckDetails ++ [pickupLine rateCon bol] := by
  have hskipped : "skipped:".toList.isPrefixOf
      "skipped: BOL pickup date or rate confirmation shipment date is missing".toList = true := by
    decide
  unfold pickupDateCheck pickupLine
  cases bolPickupDate bol with
  | none => exact lines_check.trans (by rw [line_skipped hskipped])
  | some pickup =>
      cases rateConShipDate rateCon with
      | none => exact lines_check.trans (by rw [line_skipped hskipped])
      | some ship =>
          obtain ⟨hpickup, hship⟩ := read_pickup (PageRuntime.dateText_plain pickup)
            (PageRuntime.dateText_plain ship)
          refine lines_check.trans ?_
          rw [line_pickup (Unskipped.concat (by decide)), hpickup, hship]
          rfl

theorem lines_deliveryCheck (hasPod : Bool) (pod : Option Extraction) :
    (deliveryCheck hasPod pod e).checks.map formatReconciliationCheckDetails =
      e.checks.map formatReconciliationCheckDetails ++ [deliveryLine hasPod pod] := by
  unfold deliveryCheck deliveryLine
  cases hasPod with
  | false =>
      refine lines_check.trans ?_
      rw [line_delivery (by decide), if_pos (by decide)]
      rfl
  | true =>
      have hfront : "delivery_date=".toList = "delivery_date".toList ++ ['='] := by decide
      have hmiddle : ", condition=".toList = ',' :: ' ' :: "condition".toList ++ ['='] := by decide
      obtain ⟨hdate, hcondition⟩ := parseKeyValueDetails_two
        (write_two "delivery_date" "condition" _ _ hfront hmiddle) (by decide) (by decide)
      refine lines_check.trans ?_
      rw [line_delivery (Unskipped.concat (by decide)), if_neg ?_, hdate, hcondition]
      · rfl
      · simp [String.toList_append]

/-- No document is missing. -/
theorem line_missing_none : formatReconciliationCheckDetails ⟨"missing_docs", outcome, "none",
    reason⟩ = "None" := by
  have hnone : "none".toLower = "none" := by
    rw [← String.toList_inj, toList_toLower]
    decide
  rw [line_missing (by decide), if_pos (.inl hnone)]

/-- The names of the missing documents come back. -/
theorem line_missing_slots (d : Slot) (missing : List Slot) :
    formatReconciliationCheckDetails ⟨"missing_docs", outcome,
        ", ".intercalate ((d :: missing).map Slot.requiredName), reason⟩ =
      ", ".intercalate ((d :: missing).map fun d => labelStatus d.requiredName) := by
  have htext := toList_intercalate ((d :: missing).map Slot.requiredName)
  obtain ⟨c, cs, hhead, hs, hn⟩ := join_requiredNames d missing
  have hnames : ¬((", ".intercalate ((d :: missing).map Slot.requiredName)).toLower = "none" ∨
      ", ".intercalate ((d :: missing).map Slot.requiredName) = "") := by
    rintro (h | h)
    · have hlist := congrArg String.toList h
      rw [toList_toLower, htext, hhead] at hlist
      exact hn (List.head_eq_of_cons_eq hlist)
    · have hlist := congrArg String.toList h
      rw [htext, hhead] at hlist
      cases hlist
  have hplain : ∀ name ∈ (d :: missing).map Slot.requiredName, PlainValue name := by
    intro name hname
    obtain ⟨d', -, rfl⟩ := List.mem_map.mp hname
    cases d' <;> decide
  have hunskipped : Unskipped (", ".intercalate ((d :: missing).map Slot.requiredName)) :=
    unskipped_cons (htext.trans hhead) hs
  rw [line_missing hunskipped, if_neg hnames,
    labels_intercalate (mt List.map_eq_nil_iff.mp (List.cons_ne_nil d missing)) hplain,
    List.map_map]
  rfl

theorem lines_missingDocsCheck (missing : List Slot) :
    (missingDocsCheck (missing.map Slot.requiredName) e).checks.map
        formatReconciliationCheckDetails =
      e.checks.map formatReconciliationCheckDetails ++ [missingLine missing] := by
  refine lines_check.trans (congrArg (fun line => _ ++ [line]) ?_)
  cases missing with
  | nil => exact line_missing_none
  | cons d missing => exact line_missing_slots d missing

/-- A check of a required document is shown as it is. -/
theorem line_required (present overdue : Bool) (deadlineAt : Int) (d : Slot) :
    formatReconciliationCheckDetails (requiredDocumentCheck present overdue deadlineAt d) =
      (requiredDocumentCheck present overdue deadlineAt d).details := by
  have hname : "required_" ++ d.requiredName ++ "_present" ∉ formattedNames := by
    cases d <;> decide
  have hfront : Unskipped ("Required " ++ d.requiredName) := by
    cases d <;> decide
  unfold requiredDocumentCheck
  dsimp only
  split
  · exact line_other hname hfront.append
  · split
    · exact line_other hname hfront.append.append
    · exact line_other hname hfront.append.append

theorem lines_policyChecks (s : Shipment) (now slaDuration : Int) :
    (policyChecks (evaluateMissingDocumentPolicy s now slaDuration) e).checks.map
        formatReconciliationCheckDetails =
      e.checks.map formatReconciliationCheckDetails ++
        (evaluateMissingDocumentPolicy s now slaDuration).checks.map Check.details := by
  rw [policyChecks, List.map_append]
  refine congrArg _ (List.map_congr_left fun check hcheck => ?_)
  obtain ⟨d, -, rfl⟩ := List.mem_map.mp hcheck
  exact line_required ..

/-- The lines of the page are those of what was compared. -/
theorem reconciliation_lines_exact (ses : Session) (s : Shipment) (ev : Evaluation)
    (db : Database) :
    let row := noteRateConfirmation s db
    let papers := shipmentPapers row db
    let policy := evaluateMissingDocumentPolicy row (ev.now.getD ses.clock)
      (ev.slaDuration.getD ses.slaDuration)
    (reconcileShipment ses s ev db).2.1.checks.map formatReconciliationCheckDetails =
      [amountLine papers.invoice papers.rateCon, carrierLine papers.invoice papers.rateCon,
        pickupLine papers.rateCon papers.bol, deliveryLine row.hasPod papers.pod] ++
        policy.checks.map Check.details ++ [missingLine row.missingSlots] := by
  intro row papers policy
  have hchecks : (reconcileShipment ses s ev db).2.1.checks =
      (evidence row papers policy).checks := by
    rw [reconcileShipment_result]
    cases existingResult? ev db <;> rfl
  rw [hchecks, evidence]
  rw [show policy.missingDocs = row.missingSlots.map Slot.requiredName from rfl,
    lines_missingDocsCheck, lines_policyChecks, lines_deliveryCheck, lines_pickupDateCheck,
    lines_carrierCheck, lines_amountCheck]
  rfl

end

/-! ## Carriers with commas -/

theorem Numeral.plainValue {text : String} (h : Numeral text) : PlainValue text := by
  intro c hc
  rcases h c hc with hdigit | hsign
  · have hrange : 48 ≤ c.toNat ∧ c.toNat ≤ 57 := by
      simpa [Char.isDigit, UInt32.le_iff_toNat_le] using hdigit
    refine ⟨?_, ?_⟩
    · rintro rfl
      cases hdigit
    · simp only [pageBlank, List.mem_cons, List.not_mem_nil, or_false, Bool.or_eq_false_iff,
        decide_eq_false_iff_not]
      omega
  · simp only [List.mem_cons, List.not_mem_nil, or_false] at hsign
    rcases hsign with rfl | rfl | rfl <;> decide

/-- The ASCII runtime, and the page's format of whole amounts below a thousand. -/
@[reducible] def asciiPageRuntime : PageRuntime where
  toPyRuntime := asciiRuntime
  formatMoney value := (value.map fun text => "$" ++ text ++ "0").getD "-"
  upperChar_upper _ h := toUpper_ne_lower (by decide) (List.mem_singleton.mp h).symm
  floatText_plain q := (numeral_floatText q).plainValue
  dateText_plain d := (numeral_isoDateText d).plainValue

/-- A shipment without a bill of lading. -/
def commaShipment : Shipment where
  id := "s1"
  loadNumber := "LD-001"
  carrierName := none
  hasInvoice := true
  hasRateCon := true
  hasBol := false
  hasPod := true
  invoiceId := some 1
  rateConId := some 2
  bolId := none
  podId := some 3
  reconciliationStatus := .pending
  createdAt := 0

/-- Its documents, with two carriers that differ after a comma and a condition
that is written like another field. -/
def commaDatabase : Database where
  documents :=
    [⟨1, "invoice.pdf", "invoice", "extracted",
        some [("total_amount", .int 945), ("carrier_name", .str "Acme, Inc")], some "s1"⟩,
      ⟨2, "rate_con.pdf", "rate_con", "extracted",
        some [("agreed_rate", .int 900), ("carrier_name", .str "Acme, LLC")], some "s1"⟩,
      ⟨3, "pod.pdf", "pod", "extracted",
        some [("delivery_date", .str "2026-07-19"),
          ("condition", .str "good, delivery_date=2026-07-20")], some "s1"⟩]
  shipments := [commaShipment]
  rateConfirmations := []
  reconciliationResults := []
  shipmentExceptions := []
  shipmentExceptionEvents := []
  workflowAuditLogs := []

/-- The carriers do not match and are shown as one, and the delivery is shown on
the day that its condition names. -/
theorem reconciliation_lines_commas :
    letI := asciiPageRuntime
    let result := (reconcileShipment ⟨0, 3600000000, 259200000000, "s1", 1, "r1", "x1", "v1"⟩
      commaShipment (Evaluation.ofRun "run-1") commaDatabase).2.1
    result.exceptionReasons = ["carrier_mismatch"] ∧
      result.checks.map formatReconciliationCheckDetails =
        ["Invoice $945.00 matches agreed rate $900.00 (variance $45.00)",
          "Invoice carrier: ACME / Rate con carrier: ACME", "Skipped — awaiting documents",
          "Delivered 2026-07-20, condition: good", "Required invoice is present",
          "Required rate_con is present",
          "Required bol is pending until 1970-01-04T00:00:00+00:00", "Required pod is present",
          "bol"] := by
  let _ := asciiPageRuntime
  refine ⟨by decide +kernel, ?_⟩
  exact (reconciliation_lines_exact ..).trans (by decide +kernel)

end FreightAP
