import Mathlib.Data.List.MinMax
import FreightAP.Assembly.Transactions
import FreightAP.Sla.Log

/-!
# The scan for overdue shipments

`scan_missing_document_slas` claims one shipment after another until none is
left to claim.  A claimed shipment has an active exception when its transaction
commits, or no document is missing any more, so `dueIds` loses exactly the
claimed shipment with every claim (`dueIds_claim`).
-/

namespace FreightAP

open SlaLog

variable [PyRuntime]

/-! ## The scan -/

/-- `order_by(created_at.asc(), id.asc())`. -/
def Shipment.claimKey (s : Shipment) : Int ×ₗ Uuid := toLex (s.createdAt, s.id)

/-- The shipments that can be claimed. -/
def dueShipments (now slaDuration : Int) (db : Database) : List Shipment :=
  db.shipments.filter fun s => Tx.claims now slaDuration s db

/-- `claim_and_evaluate_one`: the shipment it claimed and the database after it,
`none` when there is none to claim. -/
def claimAndEvaluateOne (ses : Session) (now slaDuration : Int) (db : Database) :
    Option (Uuid × Database) :=
  ((dueShipments now slaDuration db).argmin Shipment.claimKey).map fun s =>
    let ses := { ses with slaDuration := slaDuration }
    let ev := Tx.evaluation ⟨ses, .scan s.loadNumber now⟩ s
    (s.id, db.apply (reconcileShipment ses s ev db).2.2)

/-- `scan_missing_document_slas`: the claimed shipments, whose number it
returns, and the database after it.  The sessions are those of its claims in
turn, and the loop runs at most `fuel` times. -/
def scanMissingDocumentSlas (now slaDuration : Int) :
    Nat → (Nat → Session) → Database → Option (List Uuid × Database)
  | 0, _, _ => none
  | fuel + 1, sessions, db =>
      match claimAndEvaluateOne (sessions 0) now slaDuration db with
      | none => some ([], db)
      | some (k, db') =>
          (scanMissingDocumentSlas now slaDuration fuel (fun n => sessions (n + 1)) db').map
            fun (ks, out) => (k :: ks, out)

/-! ## What a claim needs -/

/-- A database as committed transactions leave it. -/
structure ScanReady (db : Database) : Prop where
  shipments : Table.Keyed Shipment.id db.shipments
  exceptions : Wf db
  listed : ∀ x ∈ db.shipmentExceptions, x.status = .active → ∀ s ∈ db.shipments,
    s.id = x.shipmentId → x.missingDocs = s.missingSlots.map Slot.requiredName

/-- The keys that the sessions draw are new. -/
structure Drawn (sessions : Nat → Session) (db : Database) : Prop where
  fresh : ∀ n, (sessions n).Fresh db
  exceptions : ∀ m n, (sessions m).exceptionUuid = (sessions n).exceptionUuid → m = n
  events : ∀ m n, (sessions m).eventUuid = (sessions n).eventUuid → m = n

/-! ## One claim -/

section

variable {ses : Session} {now slaDuration : Int} {db : Database} {s : Shipment}

omit [PyRuntime] in
theorem claims_iff : Tx.claims now slaDuration s db = true ↔
    s.createdAt + slaDuration ≤ now ∧ s.missingSlots ≠ [] ∧
      ∀ x ∈ db.shipmentExceptions, x.shipmentId = s.id → x.status ≠ .active := by
  have hmissing : Slot.all.any (fun d => !s.has d) = true ↔ s.missingSlots ≠ [] := by
    rw [List.any_eq_true, Shipment.missingSlots, Ne, List.filter_eq_nil_iff]
    push Not
    rfl
  unfold Tx.claims
  rw [Bool.and_eq_true, Bool.and_eq_true, decide_eq_true_iff, hmissing, Bool.not_eq_true',
    List.any_eq_false, and_assoc, show s.createdAt ≤ now - slaDuration ↔
      s.createdAt + slaDuration ≤ now by omega]
  refine and_congr_right fun _ => and_congr_right fun _ => ?_
  simp

/-- The policy of a shipment says which documents it lacks. -/
theorem policy_overdue_iff : (evaluateMissingDocumentPolicy s now slaDuration).state = .overdue ↔
    s.missingSlots ≠ [] ∧ s.createdAt + slaDuration ≤ now := by
  cases hm : s.missingSlots with
  | nil => simp [evaluateMissingDocumentPolicy, hm]
  | cons d ds =>
      by_cases ht : s.createdAt + slaDuration ≤ now
      · simp [evaluateMissingDocumentPolicy, hm, ht]
      · simp [evaluateMissingDocumentPolicy, hm, ht]

omit [PyRuntime] in
/-- The policy looks at the flags and the creation time of a row. -/
theorem missingSlots_congr {t : Shipment} (h : ∀ d, t.has d = s.has d) :
    t.missingSlots = s.missingSlots := by
  unfold Shipment.missingSlots
  exact List.filter_congr fun d _ => by rw [h d]

theorem policy_congr {t : Shipment} (h : ∀ d, t.has d = s.has d)
    (hc : t.createdAt = s.createdAt) :
    evaluateMissingDocumentPolicy t now slaDuration =
      evaluateMissingDocumentPolicy s now slaDuration := by
  have hhas : t.has = s.has := funext h
  unfold evaluateMissingDocumentPolicy
  rw [missingSlots_congr h, hc, hhas]

/-- Every event of an evaluation has the drawn key. -/
theorem sync_event_id {p : MissingDocumentPolicyResult} {resultId : Uuid} {e : ShipmentExceptionEvent}
    (h : e ∈ Database.eventsOf (syncMissingDocumentException ses s p resultId now db)) :
    e.id = ses.eventUuid := by
  unfold syncMissingDocumentException at h
  cases hx : db.exception? s.id with
  | none =>
      simp only [hx] at h
      split at h
      · rw [List.mem_singleton.mp h]
      · cases h
  | some x =>
      simp only [hx] at h
      by_cases hf : x.Follows p
      · rw [if_pos ⟨hf.status, hf.missingDocs, hf.reasonCodes, hf.deadlineAt⟩] at h
        cases h
      · rw [if_neg fun h => hf ⟨h.1, h.2.1, h.2.2.1, h.2.2.2⟩] at h
        rw [List.mem_singleton.mp h]

/-- `reconcile_shipment` on a claimed shipment. -/
def evaluateClaimed (ses : Session) (now : Int) (s : Shipment) (db : Database) : Database :=
  db.apply (reconcileShipment ses s (Tx.evaluation ⟨ses, .scan s.loadNumber now⟩ s) db).2.2

theorem claimAndEvaluateOne_eq : claimAndEvaluateOne ses now slaDuration db =
    ((dueShipments now slaDuration db).argmin Shipment.claimKey).map fun s =>
      (s.id, evaluateClaimed { ses with slaDuration := slaDuration } now s db) := rfl

/-- A claim writes the shipment row, and its exception as the policy of that row
asks. -/
theorem evaluateClaimed_row (now : Int) (s : Shipment) (hfresh : ses.Fresh db) :
    ∃ row : Shipment, (evaluateClaimed ses now s db).shipments =
        Table.put Shipment.id row db.shipments ∧ row.id = s.id ∧
      Synced ses s.id (evaluateMissingDocumentPolicy row now ses.slaDuration) db
        (evaluateClaimed ses now s db) := by
  let ev := Tx.evaluation ⟨ses, .scan s.loadNumber now⟩ s
  obtain ⟨hid, -, hcreated, -⟩ := reconcileShipment_row ses s ev db
  refine ⟨(reconcileShipment ses s ev db).1, ?_, hid, ?_⟩
  · show (db.apply _).shipments = _
    rw [Database.shipments_apply, (reconcileShipment_writes ses s ev db).2.1]
    rfl
  · have hsync : Synced ses s.id (policyFound ses s ev db) db (evaluateClaimed ses now s db) :=
      reconcileShipment_synced hfresh
    have hnote : (noteRateConfirmation s db).createdAt = s.createdAt := by
      unfold noteRateConfirmation
      split <;> rfl
    rw [policy_congr (s := noteRateConfirmation s db) (fun d => reconcileShipment_has d)
      (hcreated.trans hnote.symm)]
    exact hsync

/-- The events after a claim are those before it and those of the drawn key. -/
theorem evaluateClaimed_event (ses : Session) {e : ShipmentExceptionEvent}
    (h : e ∈ (evaluateClaimed ses now s db).shipmentExceptionEvents) :
    e.id = ses.eventUuid ∨ e ∈ db.shipmentExceptionEvents := by
  unfold evaluateClaimed at h
  rw [Database.events_apply, reconcileShipment_sync] at h
  exact (Table.mem_puts h).imp_left sync_event_id

end

/-! ## The scan goes down -/

section

variable {ses : Session} {now slaDuration : Int} {db db' : Database} {s row : Shipment}

omit [PyRuntime] in
/-- Whether a shipment has an active exception is read off its row. -/
theorem no_active_iff (hwf : Wf db) (k : Uuid) :
    (∀ x ∈ db.shipmentExceptions, x.shipmentId = k → x.status ≠ .active) ↔
      ∀ x, db.exception? k = some x → x.status ≠ .active := by
  constructor
  · intro h x hx
    exact h x (Table.get?_some_mem hx) (Table.get?_some_key hx)
  · intro h x hx hk
    exact h x (hk ▸ hwf.unique x hx)

/-- A claim takes the claimed shipment, and no other, off the list of those that
can be claimed. -/
theorem dueIds_claim (h : ScanReady db) (hfresh : ses.Fresh db)
    (hs : s ∈ dueShipments now slaDuration db)
    (hships : db'.shipments = Table.put Shipment.id row db.shipments) (hid : row.id = s.id)
    (hsync : Synced ses s.id (evaluateMissingDocumentPolicy row now slaDuration) db db') :
    (dueShipments now slaDuration db').map Shipment.id =
      ((dueShipments now slaDuration db).map Shipment.id).erase s.id := by
  obtain ⟨hmem, hclaims⟩ := List.mem_filter.mp hs
  obtain ⟨hwf', hfollows, hopen, hothers⟩ := h.exceptions.synced hfresh hsync
  unfold dueShipments
  rw [hships, ← hid]
  refine Table.map_filter_put h.shipments hmem hid.symm hclaims ?_ fun t ht hne => ?_
  · -- The row is complete or has an active exception.
    rw [Bool.eq_false_iff]
    intro hdue
    obtain ⟨ht, hmissing, hno⟩ := claims_iff.mp hdue
    have ho := policy_overdue_iff.mpr ⟨hmissing, ht⟩
    rw [no_active_iff hwf', hid] at hno
    cases hx : db'.exception? s.id with
    | none => exact hopen hx ho
    | some x =>
        refine hno x hx ?_
        rw [(hfollows x hx).status, if_pos ho]
  · rw [Bool.eq_iff_iff, claims_iff, claims_iff, no_active_iff hwf', no_active_iff h.exceptions,
      hothers t.id (hid ▸ hne)]

/-- A claim leaves the database as a scan needs it. -/
theorem ScanReady.claim (h : ScanReady db) (hfresh : ses.Fresh db)
    (hships : db'.shipments = Table.put Shipment.id row db.shipments) (hid : row.id = s.id)
    (hsync : Synced ses s.id (evaluateMissingDocumentPolicy row now slaDuration) db db') :
    ScanReady db' := by
  obtain ⟨hwf', hfollows, -, hothers⟩ := h.exceptions.synced hfresh hsync
  have hkeyed : Table.Keyed Shipment.id db'.shipments := hships ▸ Table.nodup_put h.shipments
  refine ⟨hkeyed, hwf', fun x hx hactive t ht htx => ?_⟩
  have hlook := hwf'.unique x hx
  by_cases hk : x.shipmentId = s.id
  · rw [hk] at hlook
    have hf := hfollows x hlook
    have ho : (evaluateMissingDocumentPolicy row now slaDuration).state = .overdue := by
      by_contra ho
      rw [hf.status, if_neg ho] at hactive
      cases hactive
    have hrow : t = row := by
      have hget := Table.get?_of_mem hkeyed ht
      rw [htx, hk, ← hid, hships, Table.get?_put_self] at hget
      exact (Option.some.inj hget).symm
    rw [hf.missingDocs, if_pos ho, hrow]
    rfl
  · rw [hothers _ hk] at hlook
    have hold : t ∈ db.shipments := by
      rw [hships] at ht
      refine (Table.mem_put ht).resolve_left fun e => hk ?_
      rw [← htx, e, hid]
    exact h.listed x (Table.get?_some_mem hlook) hactive t hold htx

omit [PyRuntime] in
/-- The keys of the later claims stay new. -/
theorem Drawn.next {sessions : Nat → Session} (h : Drawn sessions db)
    (hexceptions : ∀ x ∈ db'.shipmentExceptions,
      x.id = (sessions 0).exceptionUuid ∨ ∃ y ∈ db.shipmentExceptions, y.id = x.id)
    (hevents : ∀ e ∈ db'.shipmentExceptionEvents,
      e.id = (sessions 0).eventUuid ∨ e ∈ db.shipmentExceptionEvents) :
    Drawn (fun n => sessions (n + 1)) db' := by
  refine ⟨fun n => ⟨fun x hx hn => ?_, fun e he hn => ?_⟩, fun m n hmn => ?_, fun m n hmn => ?_⟩
  · rcases hexceptions x hx with hid | ⟨y, hy, hid⟩
    · have := h.exceptions 0 (n + 1) (hid.symm.trans hn)
      omega
    · exact (h.fresh (n + 1)).1 y hy (hid.trans hn)
  · rcases hevents e he with hid | hold
    · have := h.events 0 (n + 1) (hid.symm.trans hn)
      omega
    · exact (h.fresh (n + 1)).2 e hold hn
  · have := h.exceptions (m + 1) (n + 1) hmn
    omega
  · have := h.events (m + 1) (n + 1) hmn
    omega

/-- The exceptions of an evaluation have old keys or the drawn one. -/
theorem Synced.exception_id {k : Uuid} {p : MissingDocumentPolicyResult}
    (h : Synced ses k p db db') :
    ∀ x ∈ db'.shipmentExceptions,
      x.id = ses.exceptionUuid ∨ ∃ y ∈ db.shipmentExceptions, y.id = x.id := by
  intro x hx
  cases h with
  | kept _ _ hsame => exact .inr ⟨x, hsame ▸ hx, rfl⟩
  | written hold hnew _ _ _ _ hput =>
      rw [hput] at hx
      rcases Table.mem_put hx with rfl | hx
      · cases hk : db.exception? k with
        | none => exact .inl (hnew hk).2
        | some y => exact .inr ⟨y, Table.get?_some_mem hk, (hold y hk).2.symm⟩
      · exact .inr ⟨x, hx, rfl⟩

end

/-! ## The whole scan -/

section

variable {now slaDuration : Int} {db : Database}

/-- The scan claims the shipments that can be claimed, each once, and leaves
none. -/
theorem scan_claims (now slaDuration : Int) {n : Nat} :
    ∀ {db : Database} {sessions : Nat → Session}, ScanReady db → Drawn sessions db →
    (dueShipments now slaDuration db).length = n →
    ∃ ks out, (∀ fuel, n < fuel →
        scanMissingDocumentSlas now slaDuration fuel sessions db = some (ks, out)) ∧
      ks.Perm ((dueShipments now slaDuration db).map Shipment.id) ∧ ScanReady out ∧
      dueShipments now slaDuration out = [] := by
  induction n with
  | zero =>
      intro db sessions h _ hn
      have hnil := List.eq_nil_of_length_eq_zero hn
      refine ⟨[], db, fun fuel hfuel => ?_, by rw [hnil]; exact .nil, h, hnil⟩
      obtain ⟨fuel, rfl⟩ := Nat.exists_eq_succ_of_ne_zero (Nat.ne_of_gt hfuel)
      simp [scanMissingDocumentSlas, claimAndEvaluateOne, hnil]
  | succ n ih =>
      intro db sessions h hdrawn hn
      cases hmin : (dueShipments now slaDuration db).argmin Shipment.claimKey with
      | none =>
          rw [List.argmin_eq_none] at hmin
          rw [hmin] at hn
          cases hn
      | some s =>
          let ses : Session := { sessions 0 with slaDuration := slaDuration }
          have hs : s ∈ dueShipments now slaDuration db := List.argmin_mem hmin
          have hfresh : ses.Fresh db := hdrawn.fresh 0
          obtain ⟨row, hships, hid, hsync⟩ := evaluateClaimed_row now s hfresh
          have hids := dueIds_claim h hfresh hs hships hid hsync
          have hmem : s.id ∈ (dueShipments now slaDuration db).map Shipment.id :=
            List.mem_map_of_mem hs
          have hlen : (dueShipments now slaDuration (evaluateClaimed ses now s db)).length = n := by
            have := congrArg List.length hids
            rw [List.length_map, List.length_erase_of_mem hmem, List.length_map] at this
            omega
          have hnext : Drawn (fun n => sessions (n + 1)) (evaluateClaimed ses now s db) :=
            hdrawn.next hsync.exception_id fun _ he => evaluateClaimed_event ses he
          obtain ⟨ks, out, hscan, hperm, hready, hnone⟩ :=
            ih (h.claim hfresh hships hid hsync) hnext hlen
          refine ⟨s.id :: ks, out, fun fuel hfuel => ?_, ?_, hready, hnone⟩
          · obtain ⟨fuel, rfl⟩ := Nat.exists_eq_succ_of_ne_zero (Nat.ne_of_gt (Nat.lt_of_le_of_lt
              (Nat.zero_le _) hfuel))
            simp only [scanMissingDocumentSlas, claimAndEvaluateOne_eq, hmin, Option.map_some]
            rw [hscan fuel (by omega)]
            rfl
          · rw [hids] at hperm
            exact (hperm.cons s.id).trans (List.perm_cons_erase hmem).symm

/-- The scan returns, claims every shipment that is past the deadline, lacks a
document and has no active exception once, and no other, and leaves every
overdue shipment with an active exception that lists what it lacks.  A second
scan finds nothing to do. -/
theorem scan_terminates_covers {sessions : Nat → Session} (h : ScanReady db)
    (hdrawn : Drawn sessions db) :
    ∃ ks out, (∃ n, ∀ fuel, n ≤ fuel →
        scanMissingDocumentSlas now slaDuration fuel sessions db = some (ks, out)) ∧
      ks.Nodup ∧ ks.Perm ((dueShipments now slaDuration db).map Shipment.id) ∧
      ks.length = (dueShipments now slaDuration db).length ∧
      (∀ s ∈ out.shipments, (evaluateMissingDocumentPolicy s now slaDuration).state = .overdue →
        ∃ x ∈ out.shipmentExceptions, x.shipmentId = s.id ∧ x.status = .active ∧
          x.missingDocs = s.missingSlots.map Slot.requiredName) ∧
      ∀ fuel sessions', 0 < fuel →
        scanMissingDocumentSlas now slaDuration fuel sessions' out = some ([], out) := by
  obtain ⟨ks, out, hscan, hperm, hready, hnone⟩ := scan_claims now
    slaDuration h hdrawn rfl
  refine ⟨ks, out, ⟨_, fun fuel hfuel => hscan fuel hfuel⟩, ?_, hperm, ?_, fun s hs ho => ?_,
    fun fuel sessions' hfuel => ?_⟩
  · refine hperm.nodup_iff.mpr (List.Nodup.sublist ?_ h.shipments)
    exact List.Sublist.map _ List.filter_sublist
  · rw [hperm.length_eq, List.length_map]
  · obtain ⟨hmissing, ht⟩ := policy_overdue_iff.mp ho
    -- It is not claimed again, so it has an active exception.
    have hnot : ¬Tx.claims now slaDuration s out = true := List.filter_eq_nil_iff.mp hnone s hs
    rw [claims_iff] at hnot
    push Not at hnot
    obtain ⟨x, hx, hk, hactive⟩ := hnot ht hmissing
    exact ⟨x, hx, hk, hactive, hready.listed x hx hactive s hs hk.symm⟩
  · obtain ⟨fuel, rfl⟩ := Nat.exists_eq_succ_of_ne_zero (Nat.ne_of_gt hfuel)
    simp [scanMissingDocumentSlas, claimAndEvaluateOne, hnone]

end

omit [PyRuntime]

/-- Two shipments past their deadline, one of which was resolved before. -/
def overdueShipments : Database :=
  { Database.empty with
    shipments := [Shipment.new "s1" "LD-001" 500, Shipment.new "s2" "LD-002" 0],
    shipmentExceptions := [⟨"x0", "s1", .resolved, [], [], 600, 2, 500, some 550⟩] }

/-- The sessions of a scan, whose keys get longer. -/
def scanSessions (n : Nat) : Session :=
  let key := String.ofList (List.replicate (n + 3) 'k')
  ⟨1000, 1000, 100, "", 0, key, key, key⟩

theorem overdueShipments_scanned :
    letI := asciiRuntime
    ∃ fuel ks out, scanMissingDocumentSlas 1000 100 fuel scanSessions overdueShipments =
        some (ks, out) ∧ ks.length = 2 ∧
      ∀ s ∈ out.shipments, (evaluateMissingDocumentPolicy s 1000 100).state = .overdue →
        ∃ x ∈ out.shipmentExceptions, x.shipmentId = s.id ∧ x.status = .active ∧
          x.missingDocs = s.missingSlots.map Slot.requiredName := by
  let := asciiRuntime
  have hready : ScanReady overdueShipments := by
    have hships : (overdueShipments.shipments.map Shipment.id).Nodup := by decide
    have hexceptions : (overdueShipments.shipmentExceptions.map ShipmentException.id).Nodup := by
      decide
    refine ⟨hships, ⟨hexceptions, by decide, by decide⟩, fun x hx hactive => ?_⟩
    rw [List.mem_singleton.mp hx] at hactive
    cases hactive
  have hkey : ∀ m n : Nat, String.ofList (List.replicate (m + 3) 'k') =
      String.ofList (List.replicate (n + 3) 'k') → m = n := by
    intro m n h
    have := congrArg List.length (String.ofList_injective h)
    simpa using this
  have hdrawn : Drawn scanSessions overdueShipments := by
    refine ⟨fun n => ⟨fun x hx hid => ?_, fun e he => (by cases he)⟩, fun m n => hkey m n,
      fun m n => hkey m n⟩
    rw [List.mem_singleton.mp hx] at hid
    have hlen : 2 = (String.ofList (List.replicate (n + 3) 'k')).length :=
      congrArg String.length hid
    rw [String.length_ofList, List.length_replicate] at hlen
    omega
  obtain ⟨ks, out, ⟨n, hscan⟩, -, -, hlen, hcover, -⟩ :=
    @scan_terminates_covers _ 1000 100 _ _ hready hdrawn
  refine ⟨n, ks, out, hscan n (Nat.le_refl n), hlen.trans ?_, hcover⟩
  decide +kernel

end FreightAP
