import FreightAP.Lib.KeyValues
import FreightAP.Migration.Downgrade
import FreightAP.Verdict

/-!
# The checks of reconciliation, down and up again

A downgrade keeps of an outcome whether the check failed, and the upgrade reads
the rest off the name and the details of the check (`Recognised`).  So a check
keeps its outcome when it failed, or was left out and is recognised, or passed
and is not (`sameCheck_iff`).  Each check that reconciliation makes is taken in
turn, and `roundTrip_iff` puts them together.
-/

namespace FreightAP.Migration

/-! ## Stored checks -/

/-- The text of an outcome. -/
def outcomeText : CheckOutcome → String
  | .passed => "passed"
  | .failed => "failed"
  | .notEvaluated => "not_evaluated"

/-- A check as an item of the column. -/
def checkItem (c : Check) : Json.Members :=
  [("check_name", .string c.checkName), ("outcome", .string (outcomeText c.outcome)),
    ("details", .string c.details), ("reason_code", (c.reasonCode.map Json.string).getD .null)]

/-- The row of a result that reconciliation writes. -/
def storedResult (r : FreightAP.ReconciliationResult) : ReconciliationResult where
  id := r.id
  shipmentId := r.shipmentId
  checks := r.checks.map checkItem
  missingDocs := r.missingDocs.map .string
  exceptionReasons := r.exceptionReasons.map .string
  createdAt := r.createdAt

/-- An item still holds a check's name, details and outcome. -/
structure SameCheck (c : Check) (item : Json.Members) : Prop where
  checkName : item.text? "check_name" = some c.checkName
  details : item.text? "details" = some c.details
  outcome : item.text? "outcome" = some (outcomeText c.outcome)

/-- A result comes back from a downgrade and an upgrade with its checks. -/
def RoundTrips (r : FreightAP.ReconciliationResult) : Prop :=
  List.Forall₂ SameCheck r.checks (rewriteChecks (restoreChecks (storedResult r))).checks

/-! ## One check -/

/-- The upgrade takes a legacy check that did not fail for one that was left
out. -/
def Recognised (missingDocs : List String) (c : Check) : Prop :=
  c.checkName = "missing_docs" ∧ missingDocs ≠ [] ∨
    Sql.startsWith "skipped:" c.details = true ∨
      Sql.contains "within 3-day grace period" c.details = true

/-- A check comes back with its outcome. -/
def Kept (missingDocs : List String) (c : Check) : Prop :=
  c.outcome = .failed ∨ (c.outcome = .notEvaluated ↔ Recognised missingDocs c)

section

variable {missingDocs : List String} {c : Check}

theorem outcomeText_injective : Function.Injective outcomeText := by
  intro a b h
  cases a <;> cases b <;> simp [outcomeText] at h <;> rfl

@[simp] theorem outcomeText_eq_failed {outcome : CheckOutcome} :
    outcomeText outcome = "failed" ↔ outcome = .failed :=
  outcomeText_injective.eq_iff' rfl

/-- A check after the downgrade. -/
theorem restoreItem_checkItem (c : Check) :
    restoreItem (checkItem c) =
      [("check_name", .string c.checkName), ("details", .string c.details),
        ("reason_code", (c.reasonCode.map Json.string).getD .null),
        ("passed", .bool (if c.outcome = .failed then false else true))] := by
  simp [restoreItem, checkItem, Json.Members.text?, Json.text?, Json.Members.erase,
    Json.Members.set, List.lookup_cons]

theorem restored_passed :
    (restoreItem (checkItem c)).text? "passed" =
      some (if c.outcome = .failed then "false" else "true") := by
  rw [restoreItem_checkItem]
  by_cases h : c.outcome = .failed
  · simp [Json.Members.text?, List.lookup_cons, h, Json.text?, Json.print]
  · simp [Json.Members.text?, List.lookup_cons, h, Json.text?, Json.print]

theorem restored_checkName : (restoreItem (checkItem c)).text? "check_name" = some c.checkName := by
  simp [restoreItem_checkItem, Json.Members.text?, Json.text?]

theorem restored_details : (restoreItem (checkItem c)).text? "details" = some c.details := by
  simp [restoreItem_checkItem, Json.Members.text?, List.lookup_cons, Json.text?]

/-- The outcome that the upgrade gives a check after the downgrade. -/
theorem legacyOutcome_restored [Decidable (Recognised missingDocs c)] :
    legacyOutcome (missingDocs.map .string) (restoreItem (checkItem c)) =
      if c.outcome = .failed then "failed"
      else if Recognised missingDocs c then "not_evaluated" else "passed" := by
  rw [legacyOutcome, restored_passed, restored_checkName, restored_details]
  by_cases hfailed : c.outcome = .failed
  · simp [hfailed]
  · have hlength : 0 < (missingDocs.map Json.string).length ↔ missingDocs ≠ [] := by
      simp [List.length_pos_iff]
    simp only [hfailed, if_false, Option.some.injEq, Option.getD_some, hlength, reduceCtorEq,
      String.reduceEq]
    by_cases hrecognised : Recognised missingDocs c
    · rw [if_pos hrecognised]
      rcases hrecognised with h | h | h <;> simp [h]
    · rw [if_neg hrecognised]
      obtain ⟨hname, hskipped, hgrace⟩ := (not_or.trans (and_congr_right' not_or)).mp hrecognised
      simp [hname, hskipped, hgrace]

/-- A check after the downgrade and the upgrade. -/
def returnedItem (missingDocs : List String) (c : Check) : Json.Members :=
  ((restoreItem (checkItem c)).erase "passed").set "outcome"
    (.string (legacyOutcome (missingDocs.map .string) (restoreItem (checkItem c))))

theorem returned_text {key : String} (hpassed : key ≠ "passed") (houtcome : key ≠ "outcome") :
    (returnedItem missingDocs c).text? key = (restoreItem (checkItem c)).text? key := by
  rw [Json.Members.text?, returnedItem, Json.Members.lookup_set_of_ne houtcome,
    Json.Members.lookup_erase_of_ne hpassed]
  rfl

theorem returned_outcome :
    (returnedItem missingDocs c).text? "outcome" =
      some (legacyOutcome (missingDocs.map .string) (restoreItem (checkItem c))) := by
  rw [Json.Members.text?, returnedItem, Json.Members.lookup_set_self]
  rfl

/-- A check comes back with its name and its details, and with its outcome when
it is kept. -/
theorem sameCheck_iff : SameCheck c (returnedItem missingDocs c) ↔ Kept missingDocs c := by
  classical
  have houtcome : (returnedItem missingDocs c).text? "outcome" = some (outcomeText c.outcome) ↔
      Kept missingDocs c := by
    rw [returned_outcome, legacyOutcome_restored, Option.some.injEq, Kept]
    cases c.outcome with
    | failed => simp [outcomeText]
    | passed => by_cases h : Recognised missingDocs c <;> simp [outcomeText, h]
    | notEvaluated => by_cases h : Recognised missingDocs c <;> simp [outcomeText, h]
  constructor
  · intro h
    exact houtcome.mp h.outcome
  · intro h
    refine ⟨?_, ?_, houtcome.mpr h⟩
    · rw [returned_text (by simp) (by simp), restored_checkName]
    · rw [returned_text (by simp) (by simp), restored_details]

end

theorem roundTrips_iff_kept {r : FreightAP.ReconciliationResult} :
    RoundTrips r ↔ ∀ c ∈ r.checks, Kept r.missingDocs c := by
  have hchecks : (rewriteChecks (restoreChecks (storedResult r))).checks =
      r.checks.map (returnedItem r.missingDocs) := by
    simp [rewriteChecks, restoreChecks, storedResult, returnedItem, Function.comp_def]
  rw [RoundTrips, hchecks, List.forall₂_map_right_iff, List.forall₂_same]
  simp only [sameCheck_iff]

/-! ## Plain texts

The phrase of the grace period has a `w`, and Python writes none in a number, a
date or an upper-case letter. -/

/-- A runtime that writes numbers, dates and upper-case letters without a `w`. -/
class PlainRuntime extends PyRuntime where
  upperChar_plain : ∀ c, 'w' ∉ upperChar c
  floatText_plain : ∀ q, 'w' ∉ (floatText q).toList
  dateText_plain : ∀ d, 'w' ∉ (dateText d).toList
  datetimeText_plain : ∀ t, 'w' ∉ (datetimeText t).toList

/-- A text without a `w`. -/
def Plain (text : String) : Prop := 'w' ∉ text.toList

@[simp] theorem plain_append {a b : String} : Plain (a ++ b) ↔ Plain a ∧ Plain b := by
  simp [Plain]

theorem Plain.noGrace {text : String} (h : Plain text) :
    Sql.contains "within 3-day grace period" text = false := by
  rw [Bool.eq_false_iff]
  intro hcontains
  exact h (Sql.mem_of_contains hcontains (by decide))

theorem plain_intercalate {sep : String} (hsep : Plain sep) {words : List String}
    (h : ∀ word ∈ words, Plain word) : Plain (sep.intercalate words) := by
  rw [Plain, String.toList_intercalate]
  refine KeyValues.not_mem_intercalate hsep fun text htext => ?_
  obtain ⟨word, hword, rfl⟩ := List.mem_map.mp htext
  exact h word hword

section

variable [PlainRuntime]

theorem plain_upper (s : String) : Plain (upper s) := by
  rw [Plain, upper, String.toList_ofList, List.mem_flatMap]
  rintro ⟨c, -, hc⟩
  exact PlainRuntime.upperChar_plain c hc

theorem plain_split {s word : String} (h : Plain s) (hword : word ∈ split s) : Plain word := by
  obtain ⟨part, hpart, rfl⟩ := List.mem_map.mp hword
  rw [Plain, String.toList_ofList]
  exact fun hc => h (KeyValues.mem_of_mem_splitOnP (List.mem_filter.mp hpart).1 hc)

/-- A normalised carrier is in upper case. -/
theorem plain_carrierOf (e : Option Extraction) : Plain (carrierOf e) := by
  rw [carrierOf, normalizeCarrier]
  apply plain_intercalate (by simp [Plain])
  intro word hword
  exact plain_split (plain_upper _) hword

end

/-! ## The checks of reconciliation -/

/-- Every check of the evidence comes back with its outcome. -/
def AllKept (missingDocs : List String) (e : Evidence) : Prop :=
  ∀ c ∈ e.checks, Kept missingDocs c

/-- The POD names its date and its condition, in the words of a grace period. -/
def WordedAsGrace [PyRuntime] (pod : Option Extraction) : Prop :=
  DeliveryConfirmed pod ∧ Sql.contains "within 3-day grace period"
    ("delivery_date=" ++ (field pod "delivery_date").text ++ ", condition=" ++
      (field pod "condition").text) = true

section

variable {missingDocs : List String} {c : Check} {e : Evidence} {checkName details : String}
  {outcome : CheckOutcome} {reason : Option String}

theorem allKept_check :
    AllKept missingDocs (e.check checkName outcome details reason) ↔
      AllKept missingDocs e ∧
        Kept missingDocs ⟨checkName, outcome, details, if outcome = .failed then reason else none⟩ := by
  simp [AllKept, Evidence.check, or_imp, forall_and]

/-- A check that says it was skipped is recognised. -/
theorem kept_skipped (h : Sql.startsWith "skipped:" details = true) :
    Kept missingDocs ⟨checkName, .notEvaluated, details, reason⟩ :=
  .inr (iff_of_true rfl (.inr (.inl h)))

/-- Other checks are recognised by the phrase of the grace period alone. -/
theorem recognised_iff (hname : c.checkName ≠ "missing_docs")
    (hskipped : Sql.startsWith "skipped:" c.details = false) :
    Recognised missingDocs c ↔ Sql.contains "within 3-day grace period" c.details = true := by
  simp [Recognised, hname, hskipped]

theorem not_recognised (hname : c.checkName ≠ "missing_docs")
    (hskipped : Sql.startsWith "skipped:" c.details = false) (hplain : Plain c.details) :
    ¬Recognised missingDocs c := by
  rw [recognised_iff hname hskipped, hplain.noGrace]
  simp

/-- A check that is not recognised is kept unless it was left out. -/
theorem kept_iff_of_not_recognised (h : ¬Recognised missingDocs c) :
    Kept missingDocs c ↔ c.outcome ≠ .notEvaluated := by
  rw [Kept, iff_false_right h]
  cases c.outcome <;> simp

theorem outcomeOf_ne_notEvaluated (ok : Bool) : outcomeOf ok ≠ .notEvaluated := by
  cases ok <;> simp [outcomeOf]

/-- A comparison whose details are plain is kept. -/
theorem kept_compared (hname : checkName ≠ "missing_docs")
    (hskipped : Sql.startsWith "skipped:" details = false) (hplain : Plain details) (ok : Bool) :
    Kept missingDocs ⟨checkName, outcomeOf ok, details, reason⟩ :=
  (kept_iff_of_not_recognised (not_recognised hname hskipped hplain)).mpr
    (outcomeOf_ne_notEvaluated ok)

section

variable [PlainRuntime] (invoice rateCon bol pod : Option Extraction)

theorem amountCheck_kept :
    AllKept missingDocs (amountCheck invoice rateCon e) ↔ AllKept missingDocs e := by
  unfold amountCheck
  split
  · rw [allKept_check, and_iff_left]
    apply kept_compared (by simp)
    · simp [Sql.startsWith, List.isPrefixOf]
    · simp [Plain, PlainRuntime.floatText_plain]
  · rw [allKept_check, and_iff_left]
    exact kept_skipped (by decide)

theorem carrierCheck_kept :
    AllKept missingDocs (carrierCheck invoice rateCon e) ↔ AllKept missingDocs e := by
  unfold carrierCheck
  split
  · rw [allKept_check, and_iff_left]
    exact kept_skipped (by decide)
  · rw [allKept_check, and_iff_left]
    have hinvoice := plain_carrierOf invoice
    have hrateCon := plain_carrierOf rateCon
    apply kept_compared (by simp)
    · simp [Sql.startsWith, List.isPrefixOf]
    · simpa [Plain] using ⟨hinvoice, hrateCon⟩

theorem pickupDateCheck_kept :
    AllKept missingDocs (pickupDateCheck rateCon bol e) ↔ AllKept missingDocs e := by
  unfold pickupDateCheck
  split
  · rw [allKept_check, and_iff_left]
    apply kept_compared (by simp)
    · simp [Sql.startsWith, List.isPrefixOf]
    · simp [Plain, PlainRuntime.dateText_plain]
  · rw [allKept_check, and_iff_left]
    exact kept_skipped (by decide)

end

section

variable [PyRuntime] (hasPod : Bool) (pod : Option Extraction)

/-- Without a POD its check is left out, and says so in other words. -/
theorem deliveryCheck_kept :
    AllKept missingDocs (deliveryCheck hasPod pod e) ↔
      AllKept missingDocs e ∧ hasPod = true ∧ ¬WordedAsGrace pod := by
  cases hasPod with
  | false =>
      simp only [deliveryCheck, Bool.false_eq_true, if_false, allKept_check, false_and,
        and_false, iff_false, not_and]
      intro _ hkept
      have hrecognised : ¬Recognised missingDocs ⟨"pod_delivery_confirmation", .notEvaluated,
          "POD content cannot be evaluated until the document arrives", none⟩ :=
        not_recognised (by simp) (by decide) (by simp [Plain])
      exact (kept_iff_of_not_recognised hrecognised).mp hkept rfl
  | true =>
      simp only [deliveryCheck, if_true, allKept_check, true_and, and_congr_right_iff]
      intro _
      by_cases hconfirmed : DeliveryConfirmed pod
      · obtain ⟨hdate, hcondition⟩ := hconfirmed
        have hrecognised := @recognised_iff missingDocs
          ⟨"pod_delivery_confirmation", .passed, "delivery_date=" ++
            (field pod "delivery_date").text ++ ", condition=" ++ (field pod "condition").text,
            none⟩ (by simp) (by simp [Sql.startsWith, List.isPrefixOf])
        simp only [Scalar.or, hdate, hcondition, Bool.and_self, if_true, outcomeOf]
        simp [Kept, hrecognised, WordedAsGrace, DeliveryConfirmed, hdate, hcondition]
      · have hfailed : ((field pod "delivery_date").truthy && (field pod "condition").truthy) =
            false := by
          simpa [DeliveryConfirmed] using hconfirmed
        rw [hfailed]
        exact iff_of_true (.inl rfl) fun h => hconfirmed h.1

end

/-! ## The checks of the policy -/

theorem policyChecks_kept {policy : MissingDocumentPolicyResult} :
    AllKept missingDocs (policyChecks policy e) ↔
      AllKept missingDocs e ∧ ∀ c ∈ policy.checks, Kept missingDocs c := by
  simp [AllKept, policyChecks, or_imp, forall_and]

section

variable [PlainRuntime]

/-- Neither a document on file nor a pending one is taken for a check that was
left out. -/
theorem requiredDocumentCheck_not_recognised {present overdue : Bool} (deadlineAt : Int) (d : Slot)
    (h : present = true ∨ overdue = false) :
    ¬Recognised missingDocs (requiredDocumentCheck present overdue deadlineAt d) := by
  have hname : (requiredDocumentCheck present overdue deadlineAt d).checkName ≠ "missing_docs" := by
    cases present <;> cases overdue <;> cases d <;>
      simp [requiredDocumentCheck, Slot.requiredName]
  cases present with
  | true =>
      apply not_recognised hname
      · simp [requiredDocumentCheck, Sql.startsWith, List.isPrefixOf]
      · cases d <;> simp [requiredDocumentCheck, Plain, Slot.requiredName]
  | false =>
      obtain rfl : overdue = false := by simpa using h
      apply not_recognised hname
      · simp [requiredDocumentCheck, Sql.startsWith, List.isPrefixOf]
      · cases d <;>
          simp [requiredDocumentCheck, Plain, Slot.requiredName, PlainRuntime.datetimeText_plain]

/-- The check of a required document is kept unless the document is pending. -/
theorem requiredDocumentCheck_kept (present overdue : Bool) (deadlineAt : Int) (d : Slot) :
    Kept missingDocs (requiredDocumentCheck present overdue deadlineAt d) ↔
      present = true ∨ overdue = true := by
  cases present with
  | true =>
      rw [kept_iff_of_not_recognised
        (requiredDocumentCheck_not_recognised deadlineAt d (.inl rfl))]
      simp [requiredDocumentCheck]
  | false =>
      cases overdue with
      | true => simp [Kept, requiredDocumentCheck]
      | false =>
          rw [kept_iff_of_not_recognised
            (requiredDocumentCheck_not_recognised deadlineAt d (.inr rfl))]
          simp [requiredDocumentCheck]

/-- The checks of the policy are kept when nothing is missing or the deadline
has passed. -/
theorem policy_kept (s : FreightAP.Shipment) (now slaDuration : Int) :
    (∀ c ∈ (evaluateMissingDocumentPolicy s now slaDuration).checks, Kept missingDocs c) ↔
      s.missingSlots = [] ∨ s.createdAt + slaDuration ≤ now := by
  have hall : ∀ d, d ∈ Slot.all := by
    intro d
    cases d <;> simp [Slot.all]
  simp only [evaluateMissingDocumentPolicy, List.forall_mem_map, requiredDocumentCheck_kept,
    Bool.and_eq_true, decide_eq_true_eq, Bool.not_eq_true', List.isEmpty_eq_false_iff]
  constructor
  · intro h
    rw [or_iff_not_imp_left]
    intro hmissing
    obtain ⟨d, hd⟩ := List.exists_mem_of_ne_nil _ hmissing
    rw [mem_missingSlots] at hd
    rcases h d (hall d) with hpresent | hoverdue
    · rw [hd] at hpresent
      cases hpresent
    · exact hoverdue.2
  · intro h d _
    by_cases hmissing : s.missingSlots = []
    · exact .inl ((missingSlots_eq_nil s).mp hmissing d)
    · exact .inr ⟨hmissing, h.resolve_left hmissing⟩

end

/-- The list of the missing documents is recognised by its name. -/
theorem missingDocsCheck_kept :
    AllKept missingDocs (missingDocsCheck missingDocs e) ↔ AllKept missingDocs e := by
  rw [missingDocsCheck, allKept_check, and_iff_left]
  cases missingDocs with
  | nil =>
      have hnone : ¬Recognised [] ⟨"missing_docs", .passed, "none", none⟩ := by
        simp only [Recognised, ne_eq, not_true_eq_false, and_false, false_or, not_or]
        exact ⟨by decide, by decide⟩
      exact (kept_iff_of_not_recognised hnone).mpr (by simp)
  | cons name names => exact .inr (iff_of_true rfl (.inl ⟨rfl, by simp⟩))

end

/-! ## The round trip -/

/-- The checks of a shipment come back when its POD is on file, and not worded
as a grace period, and no required document is pending. -/
theorem evidence_kept [PlainRuntime] (s : FreightAP.Shipment) (papers : Papers)
    (now slaDuration : Int) :
    AllKept (evaluateMissingDocumentPolicy s now slaDuration).missingDocs
        (evidence s papers (evaluateMissingDocumentPolicy s now slaDuration)) ↔
      s.hasPod = true ∧ (s.missingSlots = [] ∨ s.createdAt + slaDuration ≤ now) ∧
        ¬WordedAsGrace papers.pod := by
  rw [evidence, missingDocsCheck_kept, policyChecks_kept, policy_kept, deliveryCheck_kept,
    pickupDateCheck_kept, carrierCheck_kept, amountCheck_kept]
  have hnil : AllKept (evaluateMissingDocumentPolicy s now slaDuration).missingDocs ⟨[], []⟩ := by
    simp [AllKept]
  tauto

/-- The result row holds the evidence and the missing documents. -/
theorem roundTrips_reconcileShipment [PyRuntime] (ses : Session) (s : FreightAP.Shipment)
    (ev : Evaluation) (db : FreightAP.Database) :
    RoundTrips (reconcileShipment ses s ev db).2.1 ↔
      let policy := evaluateMissingDocumentPolicy (noteRateConfirmation s db)
        (ev.now.getD ses.clock) (ev.slaDuration.getD ses.slaDuration)
      AllKept policy.missingDocs (evidence (noteRateConfirmation s db)
        (shipmentPapers (noteRateConfirmation s db) db) policy) := by
  rw [roundTrips_iff_kept, reconcileShipment_result, AllKept]
  cases existingResult? ev db with
  | none => rfl
  | some result => rfl

/-- What reconciliation writes comes back from a downgrade and an upgrade when
the POD is on file, and not worded as a grace period, and every other document
is on file or its deadline has passed. -/
theorem roundTrips_iff [PlainRuntime] (ses : Session) (s : FreightAP.Shipment) (ev : Evaluation)
    (db : FreightAP.Database) :
    RoundTrips (reconcileShipment ses s ev db).2.1 ↔
      s.hasPod = true ∧
        ((noteRateConfirmation s db).missingSlots = [] ∨
          s.createdAt + ev.slaDuration.getD ses.slaDuration ≤ ev.now.getD ses.clock) ∧
        ¬WordedAsGrace (docExtraction (s.podId.bind db.document?)) := by
  have hsame : (noteRateConfirmation s db).hasPod = s.hasPod ∧
      (noteRateConfirmation s db).createdAt = s.createdAt ∧
      (noteRateConfirmation s db).podId = s.podId := by
    unfold noteRateConfirmation
    split
    · exact ⟨rfl, rfl, rfl⟩
    · exact ⟨rfl, rfl, rfl⟩
  obtain ⟨hpod, hcreated, hpodId⟩ := hsame
  rw [roundTrips_reconcileShipment]
  simp only [evidence_kept, hpod, hcreated, shipmentPapers, hpodId]

/-! ## A shipment without a POD -/

theorem plain_numeral {text : String} (h : Numeral text) : Plain text := by
  intro hw
  rcases h _ hw with hdigit | hsign
  · cases hdigit
  · simp at hsign

theorem toUpper_ne_w (c : Char) : c.toUpper ≠ 'w' := toUpper_ne_lower (by decide)

theorem plain_natRepr (n : Nat) : Plain n.repr := plain_numeral (numeral_natRepr n)

@[simp] theorem plain_intRepr (n : Int) : Plain n.repr := plain_numeral (numeral_intRepr n)

@[simp] theorem plain_twoDigits (n : Int) : Plain (twoDigits n) :=
  plain_numeral (numeral_twoDigits n)

@[simp] theorem plain_isoDateText (days : Int) : Plain (isoDateText days) :=
  plain_numeral (numeral_isoDateText days)

/-- The ASCII runtime writes no `w`. -/
@[reducible] def asciiPlainRuntime : PlainRuntime where
  toPyRuntime := asciiRuntime
  upperChar_plain c h := toUpper_ne_w c (List.mem_singleton.mp h).symm
  floatText_plain q := by
    have htext : Plain (if q.den = 1 then toString q.num ++ ".0"
        else toString q.num ++ "/" ++ toString q.den) := by
      split
      · exact plain_append.mpr ⟨plain_intRepr _, by simp [Plain]⟩
      · exact plain_append.mpr
          ⟨plain_append.mpr ⟨plain_intRepr _, by simp [Plain]⟩, plain_natRepr _⟩
    exact htext
  dateText_plain := plain_isoDateText
  datetimeText_plain t := by
    have hmark : Plain "T" ∧ Plain ":" ∧ Plain "+00:00" := by simp [Plain]
    have htext : ∀ seconds : Int, Plain (isoDateText (seconds / 86400) ++ "T" ++
        twoDigits (seconds / 3600 % 24) ++ ":" ++ twoDigits (seconds / 60 % 60) ++ ":" ++
          twoDigits (seconds % 60) ++ "+00:00") := by
      intro seconds
      simp [hmark]
    exact htext (t / 1000000)

/-- A shipment of which only the invoice has arrived. -/
def invoicedShipment : FreightAP.Shipment where
  id := "s1"
  loadNumber := "LD-001"
  carrierName := none
  hasInvoice := true
  hasRateCon := false
  hasBol := false
  hasPod := false
  invoiceId := some 1
  rateConId := none
  bolId := none
  podId := none
  reconciliationStatus := .pending
  createdAt := 0

/-- Its database, with the invoice. -/
def invoicedDatabase : FreightAP.Database where
  documents := [⟨1, "invoice.pdf", "invoice", "extracted",
    some [("total_amount", .int 1200), ("carrier_name", .str "Acme")], some "s1"⟩]
  shipments := [invoicedShipment]
  rateConfirmations := []
  reconciliationResults := []
  shipmentExceptions := []
  shipmentExceptionEvents := []
  workflowAuditLogs := []

/-- An evaluation an hour after the shipment was opened, with an SLA of three
days. -/
def invoicedResult [PyRuntime] : FreightAP.ReconciliationResult :=
  (reconcileShipment ⟨0, 3600000000, 259200000000, "s1", 1, "r1", "x1", "v1"⟩ invoicedShipment
    (Evaluation.ofRun "run-1") invoicedDatabase).2.1

/-- The POD and three required documents that nobody looked at come back as
passed. -/
theorem pendingChecks_passed :
    letI := asciiPlainRuntime
    invoicedResult.checks.map (fun c => outcomeText c.outcome) =
        ["not_evaluated", "not_evaluated", "not_evaluated", "not_evaluated", "passed",
          "not_evaluated", "not_evaluated", "not_evaluated", "not_evaluated"] ∧
      (rewriteChecks (restoreChecks (storedResult invoicedResult))).checks.map
          (fun item => item.text? "outcome") =
        [some "not_evaluated", some "not_evaluated", some "not_evaluated", some "passed",
          some "passed", some "passed", some "passed", some "passed", some "not_evaluated"] ∧
      ¬RoundTrips invoicedResult := by
  let _ := asciiPlainRuntime
  refine ⟨by decide +kernel, by decide +kernel, ?_⟩
  intro hround
  have hkept := (roundTrips_reconcileShipment ..).mp hround
  have hpod := ((evidence_kept ..).mp hkept).1
  cases hpod

end FreightAP.Migration
