import FreightAP.Assembly.Row
import FreightAP.Workflow.Process

/-!
# The match transaction

What `match_node` reads and decides.  It starts from the row it locked with the
document attached (`matchStart`), compares the papers of that row
(`reconciledPapers`), and asks for no review when they agree.
-/

namespace FreightAP

variable [PyRuntime]

/-! ## Its start -/

/-- The row and the database `reconcile_shipment` starts from in the match
transaction of a document. -/
def matchStart (ses : Session) (documentId : Nat) (extraction : Extraction) (db : Database) :
    Option (Shipment × Database) :=
  match db.document? documentId, loadNumberOf (some extraction) with
  | some document, .ok loadNumber =>
      match upsertShipment ses loadNumber document extraction db with
      | .ok (some (s, attached)) => some (s, db.apply attached)
      | _ => none
  | _, _ => none

/-- The papers `reconcile_shipment` compares there. -/
def reconciledPapers (ses : Session) (documentId : Nat) (extraction : Extraction)
    (db : Database) : Option Papers :=
  (matchStart ses documentId extraction db).map fun (s, db) =>
    shipmentPapers (noteRateConfirmation s db) db

/-- The match transaction starts from the attached row. -/
theorem matchStart_eq (ses : Session) {document : Document} {extraction : Extraction}
    {db : Database} {loadNumber : Option String} {normalized : String}
    (hd : db.document? document.id = some document)
    (hl : loadNumberOf (some extraction) = .ok loadNumber)
    (hn : normalizeLoadNumber loadNumber = .ok (some normalized)) :
    matchStart ses document.id extraction db =
      some
        ((attachDocument ses (heldShipment ses normalized db) document extraction
            (db.apply (insertShipment ses normalized db))).1,
          (db.apply (insertShipment ses normalized db)).apply
            (attachDocument ses (heldShipment ses normalized db) document extraction
              (db.apply (insertShipment ses normalized db))).2) := by
  simp only [matchStart, hd, hl, upsertShipment_eq hn, Database.apply_append]

/-- A document that is attached has a load number. -/
theorem matchStart_normalized {ses : Session} {documentId : Nat} {extraction : Extraction}
    {db : Database} {loadNumber : Option String} {out : Shipment × Database}
    (hl : loadNumberOf (some extraction) = .ok loadNumber)
    (h : matchStart ses documentId extraction db = some out) :
    ∃ normalized, normalizeLoadNumber loadNumber = .ok (some normalized) := by
  unfold matchStart at h
  rw [hl] at h
  cases hd : db.document? documentId with
  | none => simp [hd] at h
  | some document =>
      cases hn : normalizeLoadNumber loadNumber with
      | error message => simp [hd, upsertShipment, hn] at h
      | ok normalized =>
          cases normalized with
          | none => simp [hd, upsertShipment, hn] at h
          | some normalized => exact ⟨normalized, rfl⟩

/-! ## The extraction before it -/

/-- The database that `extract_node` leaves. -/
def afterExtract (runId : String) (newId documentId : Nat) (filename : String) (e : Extraction)
    (db : Database) : Database :=
  logAuditEvent runId "extracted" (storeExtraction newId documentId filename e db)

/-- The row of a document that has one is rewritten. -/
theorem extractedDocument_id {id : Nat} {db : Database} (h : (db.document? id).isSome)
    (newId : Nat) (filename : String) (e : Extraction) :
    (extractedDocument newId id filename e db).id = id := by
  obtain ⟨d, hd⟩ := Option.isSome_iff_exists.mp h
  simp only [extractedDocument, hd, Option.getD_some]
  exact Table.get?_some_key hd

theorem afterExtract_document {id : Nat} {db : Database} (h : (db.document? id).isSome)
    (runId : String) (newId : Nat) (filename : String) (e : Extraction) :
    (afterExtract runId newId id filename e db).document? id =
      some (extractedDocument newId id filename e db) :=
  (Database.document?_write_document ..).trans (if_pos (extractedDocument_id h ..))

/-- The first node of a run. -/
theorem extractNode_start {env : NodeEnv} {e : Extraction} (runId : String) (documentId : Nat)
    (filename : String) (db : Database) (h : env.extraction = .ok e) :
    ∃ v, extractNode env (initialState runId documentId filename []) db =
        .update v (afterExtract runId env.newDocumentId documentId filename e db) ∧
      v.extraction = some e ∧ v.documentId = documentId ∧ v.runId = runId :=
  ⟨_, by simp only [extractNode, h]; rfl, rfl, rfl, rfl⟩

/-! ## The verdict of the transaction -/

/-- Reconciliation reports no reason when the shipment is reconciled. -/
theorem reconcileShipment_reconciled {ses : Session} {s : Shipment} {ev : Evaluation}
    {db : Database} (h : (reconcileShipment ses s ev db).1.reconciliationStatus = .reconciled) :
    (reconcileShipment ses s ev db).2.1.exceptionReasons = [] := by
  have hclean := (statusOfEvidence_eq_reconciled.mp h).2.reasons
  unfold reconcileShipment
  cases existingResult? ev db <;> exact hclean

/-- A match transaction finds its shipment reconciled exactly when the flags of
the attached row are up and its papers agree.  Then it asks for no review. -/
theorem matchDocument_reconciled {ses : Session} {v : WorkflowState} {e : Extraction}
    {db db' : Database} {m : MatchResult} (he : v.extraction = some e)
    (h : matchDocument ses v db = .ok (m, db')) (hm : m.reconciliationStatus = some .reconciled) :
    ∃ s db₁, matchStart ses v.documentId e db = some (s, db₁) ∧
      (∀ d, (noteRateConfirmation s db₁).has d = true) ∧ (shipmentPapers s db₁).Agree := by
  unfold matchDocument at h
  cases hd : db.document? v.documentId with
  | none =>
      simp only [hd, Except.ok.injEq, Prod.mk.injEq] at h
      rw [← h.1] at hm
      cases hm
  | some document =>
      simp only [hd, he, Option.getD_some] at h
      cases hl : loadNumberOf (some e) with
      | error message => simp [hl] at h
      | ok loadNumber =>
          simp only [hl, assemble] at h
          cases hu : upsertShipment ses loadNumber document e db with
          | error message => simp [hu] at h
          | ok upserted =>
              cases upserted with
              | none =>
                  simp only [hu, Except.ok.injEq, Prod.mk.injEq] at h
                  rw [← h.1] at hm
                  cases hm
              | some out =>
                  obtain ⟨s, attached⟩ := out
                  simp only [hu, Except.ok.injEq, Prod.mk.injEq] at h
                  refine ⟨s, db.apply attached, by simp [matchStart, hd, hl, hu], ?_⟩
                  rw [← h.1] at hm
                  have hrec := reconciliationStatus_eq_reconciled.mp (Option.some.inj hm)
                  rw [shipmentPapers_noteRateConfirmation] at hrec
                  exact hrec

/-- From its start the match transaction is the reconciliation of the row. -/
theorem matchDocument_eq {ses : Session} {v : WorkflowState} {e : Extraction}
    {db db₁ : Database} {s : Shipment} (he : v.extraction = some e)
    (hstart : matchStart ses v.documentId e db = some (s, db₁)) :
    matchDocument ses v db =
      .ok (matchResultOf (reconcileShipment ses s (.ofRun v.runId) db₁).1
          (reconcileShipment ses s (.ofRun v.runId) db₁).2.1,
        db₁.apply (reconcileShipment ses s (.ofRun v.runId) db₁).2.2) := by
  unfold matchStart at hstart
  cases hd : db.document? v.documentId with
  | none => simp [hd] at hstart
  | some document =>
      cases hl : loadNumberOf (some e) with
      | error message => simp [hd, hl] at hstart
      | ok loadNumber =>
          simp only [hd, hl] at hstart
          cases hu : upsertShipment ses loadNumber document e db with
          | error message => simp [hu] at hstart
          | ok upserted =>
              cases upserted with
              | none => simp [hu] at hstart
              | some out =>
                  obtain ⟨s', attached⟩ := out
                  simp only [hu, Option.some.injEq, Prod.mk.injEq] at hstart
                  obtain ⟨rfl, rfl⟩ := hstart
                  simp only [matchDocument, hd, he, hl, assemble, hu, Option.getD_some,
                    Database.apply_append]

omit [PyRuntime] in
/-- Without a reason no review is asked for. -/
theorem matchResultOf_unreviewed (s : Shipment) {r : ReconciliationResult}
    (h : r.exceptionReasons = []) : (matchResultOf s r).requiresReview = false := by
  simp [matchResultOf, h]

/-- A row whose flags are up and whose papers agree is reconciled, without a
review. -/
theorem matchDocument_of_agree {ses : Session} {v : WorkflowState} {e : Extraction}
    {db db₁ : Database} {s : Shipment} (he : v.extraction = some e)
    (hstart : matchStart ses v.documentId e db = some (s, db₁))
    (hhas : ∀ d, (noteRateConfirmation s db₁).has d = true) (hp : (shipmentPapers s db₁).Agree) :
    ∃ m db', matchDocument ses v db = .ok (m, db') ∧
      m.reconciliationStatus = some .reconciled ∧ m.requiresReview = false := by
  have hrec : (reconcileShipment ses s (.ofRun v.runId) db₁).1.reconciliationStatus =
      .reconciled := by
    refine reconciliationStatus_eq_reconciled.mpr ⟨hhas, ?_⟩
    rw [shipmentPapers_noteRateConfirmation]
    exact hp
  exact ⟨_, _, matchDocument_eq he hstart, congrArg some hrec,
    matchResultOf_unreviewed _ (reconcileShipment_reconciled hrec)⟩

end FreightAP
