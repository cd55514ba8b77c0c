import Mathlib.Data.List.Find
import FreightAP.Assembly.Latest
import FreightAP.Lib.Grouping
import FreightAP.Lib.Ranking
import FreightAP.Notifications.Dispatch
import FreightAP.Worker.Summary

/-!
# Reports

Two lists that are put together out of several statements.

The list of notifications takes the newest batch summaries and the newest SLA
events, each with a limit, and cuts them once more (`notifications_newest`).

The carrier analytics read all shipments, all results and the runs of the latest
results, and fill dictionaries in one pass.  Every row says what searching the
tables for its carrier would (`carrier_analytics_exact`).  Other transactions
commit between the statements, so the tables are of different times.
-/

namespace FreightAP

open Grouping Ranking

/-! ## Notifications -/

/-- A row of `notifications`. -/
structure NotificationRow where
  id : Nat
  sentAt : Int
  counts : Notification
deriving DecidableEq

/-- An event, joined to its exception and its shipment. -/
structure JoinedEvent where
  row : EventRow
  shipmentId : Uuid
deriving DecidableEq

/-- An entry of the list. -/
inductive NotificationRecord where
  | batchSummary (notification : NotificationRow)
  | shipmentException (event : JoinedEvent)
deriving DecidableEq

/-- `record.get("occurred_at") or record.get("sent_at")`. -/
def NotificationRecord.time : NotificationRecord → Int
  | .batchSummary notification => notification.sentAt
  | .shipmentException event => event.row.event.occurredAt

/-- `notifications`, on the tables as its two statements find them. -/
def notifications (rows : List NotificationRow) (slaRows : List JoinedEvent) :
    List NotificationRecord :=
  let records :=
    ((ranked NotificationRow.sentAt rows).take 10).map .batchSummary ++
      ((ranked (fun e : JoinedEvent => e.row.event.occurredAt) slaRows).take 10).map
        .shipmentException
  (ranked NotificationRecord.time records).take 10

/-- The list shows the ten newest of all batch summaries and events. -/
theorem notifications_newest (rows : List NotificationRow) (slaRows : List JoinedEvent) :
    Top 10 NotificationRecord.time
      (rows.map .batchSummary ++ slaRows.map .shipmentException) (notifications rows slaRows) := by
  have hrows : Top 10 NotificationRecord.time (rows.map .batchSummary)
      (((ranked NotificationRow.sentAt rows).take 10).map .batchSummary) := Top.map top_take
  have hevents : Top 10 NotificationRecord.time (slaRows.map .shipmentException)
      (((ranked (fun e : JoinedEvent => e.row.event.occurredAt) slaRows).take 10).map
        .shipmentException) := Top.map top_take
  exact hrows.merge hevents

/-! ## Carriers -/

section

variable [PyRuntime]

/-- A run, joined to its decision. -/
structure RunState where
  runId : String
  run : WorkflowRun
  decision : Option Disposition

/-- A row of the carrier analytics. -/
structure CarrierRow where
  carrierName : String
  totalShipments : Nat
  exceptionCount : Nat
  exceptionRate : ℚ
  mostCommonExceptionType : Option String
  pendingReviewCount : Nat
  approvedCount : Nat
  rejectedCount : Nat
  readyForPostingCount : Nat
  partialWithinGraceCount : Nat
  overdueMissingDocumentsCount : Nat

omit [PyRuntime] in
/-- `shipment.carrier_name or "Unknown carrier"`. -/
def carrierGroup (s : Shipment) : String :=
  if s.carrierName.getD "" = "" then "Unknown carrier" else s.carrierName.getD ""

omit [PyRuntime] in
/-- `latest_by_shipment`: the first result of every shipment, newest first. -/
def latestByShipment (results : List ReconciliationResult) : List (Uuid × ReconciliationResult) :=
  firsts ReconciliationResult.shipmentId (ranked ReconciliationResult.shownKey results)

omit [PyRuntime] in
/-- `run_state_by_id`: the runs of the latest results. -/
def runStateById (runs : List RunState) (latest : List (Uuid × ReconciliationResult)) :
    List RunState :=
  Table.puts RunState.runId (runs.filter fun x => latest.any fun r => r.2.runId = some x.runId) []

/-- The counts of the loop over the shipments of a carrier. -/
structure CarrierCounts where
  pendingReview : Nat
  approved : Nat
  rejected : Nat
  readyForPosting : Nat
  partialWithinGrace : Nat
  overdueMissingDocuments : Nat

omit [PyRuntime] in
/-- A run that waits for its first decision. -/
def RunState.pending (x : RunState) : Bool :=
  x.run.processingStatus = .awaitingReview && x.decision = none

/-- One shipment of the loop. -/
def CarrierCounts.add (now slaDuration : Int) (state : Shipment → Option RunState)
    (c : CarrierCounts) (s : Shipment) : CarrierCounts :=
  let missing := (evaluateMissingDocumentPolicy s now slaDuration).state
  let c :=
    if missing = .withinGrace then { c with partialWithinGrace := c.partialWithinGrace + 1 }
    else if missing = .overdue then
      { c with overdueMissingDocuments := c.overdueMissingDocuments + 1 }
    else c
  match state s with
  | none => c
  | some x =>
      { c with
        pendingReview := c.pendingReview + x.pending.toNat,
        approved := c.approved + (decide (x.decision = some .approved)).toNat,
        rejected := c.rejected + (decide (x.decision = some .rejected)).toNat,
        readyForPosting :=
          c.readyForPosting + (decide (x.run.postingStatus = .readyForPosting)).toNat }

/-- The row of a carrier and its shipments. -/
def carrierRow (now slaDuration : Int) (latest : Shipment → Option ReconciliationResult)
    (state : Shipment → Option RunState) (group : String × List Shipment) : CarrierRow :=
  let exceptions := group.2.filter fun s => s.reconciliationStatus = .exception
  let reasons := exceptions.flatMap fun s => (latest s).elim [] (·.exceptionReasons)
  let counts := group.2.foldl (CarrierCounts.add now slaDuration state) ⟨0, 0, 0, 0, 0, 0⟩
  { carrierName := group.1
    totalShipments := group.2.length
    exceptionCount := exceptions.length
    exceptionRate := if group.2.length = 0 then 0 else exceptions.length / group.2.length
    mostCommonExceptionType := mostCommon reasons
    pendingReviewCount := counts.pendingReview
    approvedCount := counts.approved
    rejectedCount := counts.rejected
    readyForPostingCount := counts.readyForPosting
    partialWithinGraceCount := counts.partialWithinGrace
    overdueMissingDocumentsCount := counts.overdueMissingDocuments }

/-- `carrier_analytics`, on the tables as its statements find them. -/
def carrierAnalytics (shipments : List Shipment) (results : List ReconciliationResult)
    (runs : List RunState) (now slaDuration : Int) : List CarrierRow :=
  let latest := latestByShipment results
  let states := runStateById runs latest
  let latestOf (s : Shipment) := (Table.get? Prod.fst s.id latest).map Prod.snd
  let stateOf (s : Shipment) :=
    ((latestOf s).bind (·.runId)).bind fun runId => Table.get? RunState.runId runId states
  ranked CarrierRow.exceptionRate
    ((group carrierGroup shipments).map (carrierRow now slaDuration latestOf stateOf))

/-! ### The dictionaries -/

section

variable {db : Database} {runs : List RunState} {now slaDuration : Int}

omit [PyRuntime] in
/-- The dictionary of the latest results holds what the page of a shipment
shows. -/
theorem latestByShipment_get?
    (hkeyed : Table.Keyed ReconciliationResult.id db.reconciliationResults) (shipmentId : Uuid) :
    (Table.get? Prod.fst shipmentId (latestByShipment db.reconciliationResults)).map Prod.snd =
      latestReconciliationResult shipmentId db := by
  rw [latestByShipment, get?_firsts]
  cases hfind : (ranked ReconciliationResult.shownKey db.reconciliationResults).find?
      (fun r => decide (r.shipmentId = shipmentId)) with
  | none =>
      have hnone := List.find?_eq_none.mp hfind
      have hempty : db.reconciliationResults.filter (fun r => r.shipmentId = shipmentId) = [] :=
        List.filter_eq_nil_iff.mpr fun r hr => hnone r (mem_ranked.mpr hr)
      rw [latestReconciliationResult, hempty]
      rfl
  | some r =>
      have hmem := mem_ranked.mp (List.mem_of_find?_eq_some hfind)
      have hr : r.shipmentId = shipmentId := by simpa using List.find?_some hfind
      symm
      rw [latest_eq_some_iff hkeyed hmem hr]
      intro r' hr' hs' hne
      have hle := ranked_ranked.find? hfind r' (mem_ranked.mpr hr') (decide_eq_true hs')
      refine lt_of_le_of_ne hle fun hkey => hne ?_
      have hid : r'.id = r.id := congrArg (fun k => (ofLex k).2) hkey
      have hget := Table.get?_of_mem hkeyed hr'
      rw [hid, Table.get?_of_mem hkeyed hmem] at hget
      exact (Option.some.inj hget).symm

omit [PyRuntime] in
/-- The run of a shipment's latest result. -/
def runStateOf (db : Database) (runs : List RunState) (s : Shipment) : Option RunState :=
  ((latestReconciliationResult s.id db).bind (·.runId)).bind fun runId =>
    Table.get? RunState.runId runId runs

omit [PyRuntime] in
/-- The dictionary of the runs has the run of every latest result. -/
theorem runStateById_get?
    (hkeyed : Table.Keyed ReconciliationResult.id db.reconciliationResults)
    (hruns : Table.Keyed RunState.runId runs) (s : Shipment) :
    ((latestReconciliationResult s.id db).bind (·.runId)).bind
      (fun runId => Table.get? RunState.runId runId
        (runStateById runs (latestByShipment db.reconciliationResults))) = runStateOf db runs s := by
  rw [runStateOf]
  cases hlatest : latestReconciliationResult s.id db with
  | none => rfl
  | some r =>
      rw [Option.bind_some]
      cases hrun : r.runId with
      | none => rfl
      | some runId =>
          rw [Option.bind_some, Option.bind_some, runStateById,
            puts_of_keyed (hruns.sublist (List.filter_sublist.map _))]
          have hr : ∃ k, (k, r) ∈ latestByShipment db.reconciliationResults := by
            have hget := (latestByShipment_get? hkeyed s.id).trans hlatest
            obtain ⟨⟨k, r'⟩, hk, rfl⟩ := Option.map_eq_some_iff.mp hget
            exact ⟨k, Table.get?_some_mem hk⟩
          obtain ⟨k, hk⟩ := hr
          rw [Table.get?, List.find?_filter]
          refine List.find?_congr fun x _ => ?_
          by_cases hx : x.runId = runId
          · have hany : ((latestByShipment db.reconciliationResults).any
                fun r => r.2.runId = some x.runId) = true :=
              List.any_eq_true.mpr ⟨(k, r), hk, decide_eq_true (hrun.trans (congrArg some hx.symm))⟩
            simp [hx ▸ hany, hx]
          · simp [hx]

/-! ### The loop -/

omit [PyRuntime] in
theorem countP_cons_toNat {α : Type} {p : α → Bool} {a : α} {l : List α} :
    (a :: l).countP p = (p a).toNat + l.countP p := by
  cases h : p a <;> simp [h, Nat.add_comm]

/-- What one shipment adds to the counts. -/
theorem CarrierCounts.add_eq (state : Shipment → Option RunState) (c : CarrierCounts)
    (s : Shipment) : c.add now slaDuration state s =
      ⟨c.pendingReview + ((state s).any RunState.pending).toNat,
       c.approved + ((state s).any fun x => x.decision = some .approved).toNat,
       c.rejected + ((state s).any fun x => x.decision = some .rejected).toNat,
       c.readyForPosting + ((state s).any fun x => x.run.postingStatus = .readyForPosting).toNat,
       c.partialWithinGrace +
         (decide ((evaluateMissingDocumentPolicy s now slaDuration).state = .withinGrace)).toNat,
       c.overdueMissingDocuments +
         (decide ((evaluateMissingDocumentPolicy s now slaDuration).state = .overdue)).toNat⟩ := by
  unfold add
  cases (evaluateMissingDocumentPolicy s now slaDuration).state <;> cases state s <;> rfl

/-- One pass counts what six passes would. -/
theorem CarrierCounts.foldl_add (state : Shipment → Option RunState) (mine : List Shipment)
    (c : CarrierCounts) : mine.foldl (add now slaDuration state) c =
      ⟨c.pendingReview + mine.countP fun s => (state s).any RunState.pending,
       c.approved + mine.countP fun s => (state s).any fun x => x.decision = some .approved,
       c.rejected + mine.countP fun s => (state s).any fun x => x.decision = some .rejected,
       c.readyForPosting + mine.countP fun s =>
         (state s).any fun x => x.run.postingStatus = .readyForPosting,
       c.partialWithinGrace + mine.countP fun s =>
         (evaluateMissingDocumentPolicy s now slaDuration).state = .withinGrace,
       c.overdueMissingDocuments + mine.countP fun s =>
         (evaluateMissingDocumentPolicy s now slaDuration).state = .overdue⟩ := by
  induction mine generalizing c with
  | nil => rfl
  | cons s mine ih =>
      rw [List.foldl_cons, ih, add_eq]
      simp only [countP_cons_toNat, CarrierCounts.mk.injEq]
      refine ⟨?_, ?_, ?_, ?_, ?_, ?_⟩ <;> omega

omit [PyRuntime] in
/-- The reasons in the latest results of a carrier's exceptions. -/
def carrierReasons (shipments : List Shipment) (db : Database) (c : String) : List String :=
  (shipments.filter fun s => carrierGroup s = c && s.reconciliationStatus = .exception).flatMap
    fun s => (latestReconciliationResult s.id db).elim [] (·.exceptionReasons)

/-- What the row of a carrier says, searching all shipments for it. -/
structure CarrierRow.Exact (row : CarrierRow) (shipments : List Shipment) (db : Database)
    (runs : List RunState) (now slaDuration : Int) : Prop where
  total : row.totalShipments = shipments.countP fun s => carrierGroup s = row.carrierName
  exceptions : row.exceptionCount = shipments.countP fun s =>
    carrierGroup s = row.carrierName && s.reconciliationStatus = .exception
  rate : row.exceptionRate = row.exceptionCount / row.totalShipments
  reasonless : row.mostCommonExceptionType = none ↔
    carrierReasons shipments db row.carrierName = []
  commonest : ∀ reason, row.mostCommonExceptionType = some reason →
    reason ∈ carrierReasons shipments db row.carrierName ∧ ∀ other,
      ((carrierReasons shipments db row.carrierName).countP fun r => r = other) ≤
        (carrierReasons shipments db row.carrierName).countP fun r => r = reason
  pending : row.pendingReviewCount = shipments.countP fun s =>
    carrierGroup s = row.carrierName && (runStateOf db runs s).any RunState.pending
  approved : row.approvedCount = shipments.countP fun s => carrierGroup s = row.carrierName &&
    (runStateOf db runs s).any fun x => x.decision = some .approved
  rejected : row.rejectedCount = shipments.countP fun s => carrierGroup s = row.carrierName &&
    (runStateOf db runs s).any fun x => x.decision = some .rejected
  ready : row.readyForPostingCount = shipments.countP fun s =>
    carrierGroup s = row.carrierName &&
      (runStateOf db runs s).any fun x => x.run.postingStatus = .readyForPosting
  withinGrace : row.partialWithinGraceCount = shipments.countP fun s =>
    carrierGroup s = row.carrierName &&
      (evaluateMissingDocumentPolicy s now slaDuration).state = .withinGrace
  overdue : row.overdueMissingDocumentsCount = shipments.countP fun s =>
    carrierGroup s = row.carrierName &&
      (evaluateMissingDocumentPolicy s now slaDuration).state = .overdue

omit [PyRuntime] in
theorem countP_mine {shipments : List Shipment} {c : String} (p : Shipment → Bool) :
    (shipments.filter fun s => carrierGroup s = c).countP p =
      shipments.countP fun s => carrierGroup s = c && p s := by
  rw [List.countP_filter]
  exact List.countP_congr fun s _ => by rw [Bool.and_comm]

theorem carrierRow_exact (shipments : List Shipment) (c : String) :
    (carrierRow now slaDuration (fun s => latestReconciliationResult s.id db) (runStateOf db runs)
      (c, shipments.filter fun s => carrierGroup s = c)).Exact shipments db runs now
        slaDuration := by
  have hmine : (shipments.filter fun s => carrierGroup s = c).filter
      (fun s => s.reconciliationStatus = .exception) =
        shipments.filter fun s => carrierGroup s = c && s.reconciliationStatus = .exception := by
    rw [List.filter_filter]
    exact List.filter_congr fun s _ => Bool.and_comm _ _
  unfold carrierRow
  simp only [CarrierCounts.foldl_add, Nat.zero_add, hmine]
  constructor
  case total => exact List.countP_eq_length_filter.symm
  case exceptions => exact List.countP_eq_length_filter.symm
  case rate =>
    split
    next h => simp [h]
    · rfl
  case reasonless => exact mostCommon_eq_none
  case commonest => exact fun _ => mostCommon_spec
  case pending => exact countP_mine _
  case approved => exact countP_mine _
  case rejected => exact countP_mine _
  case ready => exact countP_mine _
  case withinGrace => exact countP_mine _
  case overdue => exact countP_mine _

/-- The carrier analytics: one row for each carrier of a shipment, by the rate of
exceptions, and each row as the tables have it for its carrier. -/
theorem carrier_analytics_exact (shipments : List Shipment)
    (hkeyed : Table.Keyed ReconciliationResult.id db.reconciliationResults)
    (hruns : Table.Keyed RunState.runId runs) (now slaDuration : Int) :
    let rows := carrierAnalytics shipments db.reconciliationResults runs now slaDuration
    Ranked CarrierRow.exceptionRate rows ∧ (rows.map (·.carrierName)).Nodup ∧
      (∀ c, c ∈ rows.map (·.carrierName) ↔ ∃ s ∈ shipments, carrierGroup s = c) ∧
      ∀ row ∈ rows, row.Exact shipments db runs now slaDuration := by
  intro rows
  have hlatest : (fun s : Shipment => (Table.get? Prod.fst s.id
      (latestByShipment db.reconciliationResults)).map Prod.snd) =
        fun s => latestReconciliationResult s.id db :=
    funext fun s => latestByShipment_get? hkeyed s.id
  have hstate : (fun s : Shipment => (((Table.get? Prod.fst s.id
      (latestByShipment db.reconciliationResults)).map Prod.snd).bind (·.runId)).bind
        fun runId => Table.get? RunState.runId runId
          (runStateById runs (latestByShipment db.reconciliationResults))) = runStateOf db runs := by
    funext s
    rw [latestByShipment_get? hkeyed]
    exact runStateById_get? hkeyed hruns s
  have hrows : rows = ranked CarrierRow.exceptionRate ((keys carrierGroup shipments).map fun c =>
      carrierRow now slaDuration (fun s => latestReconciliationResult s.id db)
        (runStateOf db runs) (c, shipments.filter fun s => carrierGroup s = c)) := by
    show carrierAnalytics shipments db.reconciliationResults runs now slaDuration = _
    unfold carrierAnalytics
    simp only [group_eq, List.map_map]
    rw [hlatest, hstate]
    rfl
  have hnames : (rows.map (·.carrierName)).Perm (keys carrierGroup shipments) := by
    rw [hrows]
    refine (perm_ranked.map _).trans ?_
    rw [List.map_map]
    exact List.Perm.of_eq (List.map_id _)
  refine ⟨hrows ▸ ranked_ranked, hnames.nodup_iff.mpr nodup_keys, fun c => ?_, fun row hrow => ?_⟩
  · rw [hnames.mem_iff, mem_keys]
  · rw [hrows, mem_ranked] at hrow
    obtain ⟨c, -, rfl⟩ := List.mem_map.mp hrow
    exact carrierRow_exact shipments c

omit [PyRuntime]

/-- Two evaluations of the shipment of a carrier, the newer one by an approved
run. -/
def evaluatedShipments : Database :=
  { Database.empty with
    shipments :=
      [{ Shipment.new "s1" "LD-001" 0 with
          carrierName := some "ACME", reconciliationStatus := .exception },
       Shipment.new "s2" "LD-002" 0]
    reconciliationResults :=
      [⟨"r1", "s1", some "run-1", "document_workflow", none, [], [], ["amount_mismatch"], 1⟩,
       ⟨"r2", "s1", some "run-2", "document_workflow", none, [], [], ["carrier_mismatch"], 2⟩] }

@[inherit_doc evaluatedShipments]
def evaluatedRuns : List RunState :=
  [⟨"run-1", ⟨1, .awaitingReview, .awaitingReview, .notReady⟩, none⟩,
   ⟨"run-2", ⟨2, .approved, .complete, .readyForPosting⟩, some .approved⟩]

theorem carrier_analytics_exact_sample :
    letI := asciiRuntime
    let rows := carrierAnalytics evaluatedShipments.shipments
      evaluatedShipments.reconciliationResults evaluatedRuns 0 100
    rows.map (fun row => (row.carrierName, row.approvedCount, row.mostCommonExceptionType)) =
      [("ACME", 1, some "carrier_mismatch"), ("Unknown carrier", 0, none)] ∧
    ∀ row ∈ rows, row.Exact evaluatedShipments.shipments evaluatedShipments evaluatedRuns 0 100 := by
  let _ := asciiRuntime
  exact ⟨by decide +kernel, (carrier_analytics_exact evaluatedShipments.shipments
    (by unfold Table.Keyed; decide) (by unfold Table.Keyed; decide) 0 100).2.2.2⟩

end

end

end FreightAP
