import Mathlib.Data.List.MinMax
import FreightAP.Assembly.Locking

/-!
# The latest reconciliation

The result shown as the latest one is the first by creation time, and a row's
creation time is the start of the transaction that inserted it.  The effect of
an evaluation is in the order of the commits.  `latest_iff` says exactly when
the two agree, for every run of the transactions of one load.
-/

namespace FreightAP

open Database Transition

/-! ## Which result is shown -/

/-- `order_by(created_at.desc(), id.desc())`. -/
def ReconciliationResult.shownKey (r : ReconciliationResult) : Int ×ₗ Uuid :=
  toLex (r.createdAt, r.id)

/-- `_latest_reconciliation_result`. -/
def latestReconciliationResult (shipmentId : Uuid) (db : Database) :
    Option ReconciliationResult :=
  (db.reconciliationResults.filter (·.shipmentId = shipmentId)).argmax
    ReconciliationResult.shownKey

/-- A row is shown exactly when it comes before every other one. -/
theorem latest_eq_some_iff {shipmentId : Uuid} {db : Database} {r : ReconciliationResult}
    (hkeyed : Table.Keyed ReconciliationResult.id db.reconciliationResults)
    (hr : r ∈ db.reconciliationResults) (hs : r.shipmentId = shipmentId) :
    latestReconciliationResult shipmentId db = some r ↔
      ∀ r' ∈ db.reconciliationResults, r'.shipmentId = shipmentId → r' ≠ r →
        r'.shownKey < r.shownKey := by
  have hmem : ∀ r', r' ∈ db.reconciliationResults.filter (·.shipmentId = shipmentId) ↔
      r' ∈ db.reconciliationResults ∧ r'.shipmentId = shipmentId := by
    intro r'
    rw [List.mem_filter, decide_eq_true_iff]
  have hinj : ∀ r' ∈ db.reconciliationResults, r'.shownKey = r.shownKey → r' = r := by
    intro r' hr' hk
    have hid : r'.id = r.id := congrArg (fun k => (ofLex k).2) hk
    have h₁ := Table.get?_of_mem hkeyed hr'
    rw [hid, Table.get?_of_mem hkeyed hr] at h₁
    exact (Option.some.inj h₁).symm
  unfold latestReconciliationResult
  constructor
  · intro h r' hr' hs' hne
    have hle := List.le_of_mem_argmax ((hmem r').mpr ⟨hr', hs'⟩) (Option.mem_def.mpr h)
    exact lt_of_le_of_ne hle fun hk => hne (hinj r' hr' hk)
  · intro h
    cases hm : List.argmax ReconciliationResult.shownKey
        (db.reconciliationResults.filter (·.shipmentId = shipmentId)) with
    | none =>
        have := List.argmax_eq_none.mp hm ▸ (hmem r).mpr ⟨hr, hs⟩
        cases this
    | some m =>
        obtain ⟨hmr, hms⟩ := (hmem m).mp (List.argmax_mem (Option.mem_def.mpr hm))
        have hle := List.le_of_mem_argmax ((hmem r).mpr ⟨hr, hs⟩) (Option.mem_def.mpr hm)
        by_cases hne : m = r
        · rw [hne]
        · exact absurd (h m hmr hms hne) (not_lt.mpr hle)

/-- The row's reasons and missing documents are those of the status. -/
def ReconciliationResult.Shows (r : ReconciliationResult) (s : Shipment) : Prop :=
  s.reconciliationStatus = statusOfEvidence r.missingDocs ⟨r.checks, r.exceptionReasons⟩

/-! ## Evaluations of a row -/

/-- What makes two calls evaluate the same row: the run or the evaluation key. -/
def ReconciliationResult.identity (r : ReconciliationResult) : Option String × Option String :=
  (r.runId, r.evaluationKey)

@[inherit_doc ReconciliationResult.identity]
def Evaluation.identity (ev : Evaluation) : Option String × Option String :=
  (ev.runId, ev.evaluationKey)

/-- A run or an evaluation key, and not both. -/
def Proper (k : Option String × Option String) : Prop :=
  (∃ runId, k = (some runId, none)) ∨ ∃ key, k = (none, some key)

/-- A row with the run or with the evaluation key of a call. -/
def ReconciliationResult.Matches (r : ReconciliationResult) (ev : Evaluation) : Prop :=
  (∃ runId, ev.runId = some runId ∧ r.runId = some runId) ∨
    ∃ key, ev.evaluationKey = some key ∧ r.evaluationKey = some key

/-- Two proper identities with a common run or a common key are equal. -/
theorem ReconciliationResult.Matches.identity {r : ReconciliationResult} {ev : Evaluation}
    (h : r.Matches ev) (hr : Proper r.identity) (hev : Proper ev.identity) :
    r.identity = ev.identity := by
  unfold ReconciliationResult.identity Evaluation.identity at *
  rcases hr with ⟨x, hr⟩ | ⟨x, hr⟩ <;> rcases hev with ⟨y, hy⟩ | ⟨y, hy⟩ <;>
    rcases h with ⟨k, hk, hk'⟩ | ⟨k, hk, hk'⟩ <;> simp_all

section

variable [PyRuntime]

theorem tx_evaluation_proper (tx : Tx) (s : Shipment) : Proper (tx.evaluation s).identity := by
  unfold Tx.evaluation
  split
  · exact .inl ⟨_, rfl⟩
  · exact .inr ⟨_, rfl⟩
  · exact .inr ⟨_, rfl⟩

omit [PyRuntime] in
/-- The row a call finds has its run or its key. -/
theorem existingResult?_some {ev : Evaluation} {db : Database} {r : ReconciliationResult}
    (h : existingResult? ev db = some r) : r ∈ db.reconciliationResults ∧ r.Matches ev := by
  unfold existingResult? at h
  cases hrun : ev.runId with
  | some runId =>
      rw [hrun] at h
      exact ⟨Table.get?_some_mem h, .inl ⟨runId, hrun, Table.get?_some_key h⟩⟩
  | none =>
      rw [hrun] at h
      obtain ⟨key, hkey, h⟩ := Option.bind_eq_some_iff.mp h
      exact ⟨Table.get?_some_mem h, .inr ⟨key, hkey, Table.get?_some_key h⟩⟩

omit [PyRuntime] in
/-- Without a found row no row is of the evaluation. -/
theorem existingResult?_none {ev : Evaluation} {db : Database} (hev : Proper ev.identity)
    (h : existingResult? ev db = none) {r : ReconciliationResult}
    (hr : r ∈ db.reconciliationResults) : r.identity ≠ ev.identity := by
  obtain ⟨runId, now, slaDuration, source, key⟩ := ev
  intro he
  rcases hev with ⟨run, hk⟩ | ⟨k, hk⟩ <;> cases hk
  · have hget : db.resultOfRun? run = none := h
    have := List.find?_eq_none.mp hget r hr
    rw [decide_eq_true_iff] at this
    exact this (congrArg Prod.fst he)
  · have hget : db.resultOfKey? k = none := h
    have := List.find?_eq_none.mp hget r hr
    rw [decide_eq_true_iff] at this
    exact this (congrArg Prod.snd he)

/-- The result row of a call shows the row's status. -/
theorem reconcileShipment_shows (ses : Session) (s : Shipment) (ev : Evaluation) (db : Database) :
    (reconcileShipment ses s ev db).2.1.Shows (reconcileShipment ses s ev db).1 ∧
      (reconcileShipment ses s ev db).2.1.shipmentId = s.id := by
  have hid := (reconcileShipment_row ses s ev db).1
  rw [reconcileShipment_result]
  cases existingResult? ev db with
  | none => exact ⟨rfl, hid⟩
  | some r => exact ⟨rfl, hid⟩

/-- The result row keeps the run and the key of the call, and the place in the
order of a found row. -/
theorem reconcileShipment_identity (ses : Session) (s : Shipment) {ev : Evaluation}
    {db : Database} (hfound : ∀ r, existingResult? ev db = some r → r.identity = ev.identity) :
    (reconcileShipment ses s ev db).2.1.identity = ev.identity ∧
      (existingResult? ev db = none ∧ (reconcileShipment ses s ev db).2.1.shownKey =
          toLex (ses.startedAt, ses.resultUuid) ∨
        ∃ r, existingResult? ev db = some r ∧
          (reconcileShipment ses s ev db).2.1.shownKey = r.shownKey) := by
  rw [reconcileShipment_result]
  cases he : existingResult? ev db with
  | none => exact ⟨rfl, .inl ⟨rfl, rfl⟩⟩
  | some r =>
      have hrun : r.runId = ev.runId := congrArg Prod.fst (hfound r he)
      refine ⟨?_, .inr ⟨r, rfl, rfl⟩⟩
      unfold ReconciliationResult.identity Evaluation.identity
      rw [← hrun]
      rfl

/-! ## The transactions of one load -/

/-- Where a row that the transaction inserts comes in the order. -/
def Tx.insertKey (tx : Tx) : Int ×ₗ Uuid := toLex (tx.session.startedAt, tx.session.resultUuid)

variable {n : Nat}

omit [PyRuntime] in
/-- The commit that inserted the row of an evaluation: the first one of it. -/
def inserter? (log : List (Commit n)) (k : Option String × Option String) : Option (Commit n) :=
  log.find? fun c => c.result.identity = k

omit [PyRuntime] in
/-- The identifiers a load's shipment can have. -/
def OwnId (txs : Fin n → Tx) (loadNumber : String) (db : Database) (id : Uuid) : Prop :=
  (∃ s, db.shipment? loadNumber = some s ∧ s.id = id) ∨ ∃ i, (txs i).session.shipmentUuid = id

/-- Transactions that all work on one load.  The keys they draw are new, and the
database holds no reconciliation of this load yet. -/
structure OneLoad (txs : Fin n → Tx) (loadNumber : String) (db : Database) : Prop where
  load : ∀ i, (txs i).load? = some loadNumber
  shipmentUuids : ∀ i j, (txs i).session.shipmentUuid = (txs j).session.shipmentUuid → i = j
  resultUuids : ∀ i j, (txs i).session.resultUuid = (txs j).session.resultUuid → i = j
  shipments : Table.Keyed Shipment.id db.shipments
  results : Table.Keyed ReconciliationResult.id db.reconciliationResults
  newShipment : ∀ i, ∀ s ∈ db.shipments, s.id ≠ (txs i).session.shipmentUuid
  newResult : ∀ i, ∀ r ∈ db.reconciliationResults, r.id ≠ (txs i).session.resultUuid
  foreign : ∀ r ∈ db.reconciliationResults, ¬OwnId txs loadNumber db r.shipmentId ∧
    ∀ i s, OwnId txs loadNumber db s.id → ¬r.Matches ((txs i).evaluation s)

section

variable {log : List (Commit n)} {k : Option String × Option String} {c o : Commit n}

omit [PyRuntime] in
theorem inserter?_some (h : inserter? log k = some o) : o ∈ log ∧ o.result.identity = k :=
  ⟨List.mem_of_find?_eq_some h, by simpa using List.find?_some h⟩

omit [PyRuntime] in
theorem exists_inserter (h : c ∈ log) : ∃ o, inserter? log c.result.identity = some o := by
  cases ho : inserter? log c.result.identity with
  | some o => exact ⟨o, rfl⟩
  | none =>
      have := List.find?_eq_none.mp ho c h
      rw [decide_eq_true_iff] at this
      exact absurd rfl this

omit [PyRuntime] in
/-- A later commit inserts what nothing has inserted before. -/
theorem inserter?_concat : inserter? (log ++ [c]) k =
    (inserter? log k).or (if c.result.identity = k then some c else none) := by
  unfold inserter?
  rw [List.find?_append, List.find?_singleton]
  simp only [decide_eq_true_eq]

end

/-- Where the row of an evaluation comes in the order, when the transaction
inserts it if nothing has. -/
def keyAt (txs : Fin n → Tx) (log : List (Commit n)) (tx : Tx)
    (k : Option String × Option String) : Int ×ₗ Uuid :=
  (inserter? log k).elim tx.insertKey fun o => (txs o.tx).insertKey

/-- The result row of a transaction, before its reconciliation and after it. -/
structure ResultPhase (txs : Fin n → Tx) (log : List (Commit n)) (tx : Tx) (p : Phase) :
    Prop where
  before : (∀ s r ws, p ≠ .reconciled s r ws) → resultsOf p.writes = []
  after : ∀ s r ws, p = .reconciled s r ws → resultsOf ws = [r] ∧ r.Shows s ∧
    r.shipmentId = s.id ∧ Proper r.identity ∧ r.shownKey = keyAt txs log tx r.identity

omit [PyRuntime] in
theorem ResultPhase.quiet {txs : Fin n → Tx} {log : List (Commit n)} {tx : Tx} {p : Phase}
    (hp : ∀ s r ws, p ≠ .reconciled s r ws) (h : resultsOf p.writes = []) :
    ResultPhase txs log tx p where
  before _ := h
  after s r ws e := absurd e (hp s r ws)

/-- What the log says about the result rows. -/
structure Recorded (txs : Fin n → Tx) (loadNumber : String) (db₀ : Database) (st : Assembly n) :
    Prop where
  rows : Assembly.Rows txs st
  own : ∀ s, st.db.shipment? loadNumber = some s → OwnId txs loadNumber db₀ s.id
  ended : ∀ c ∈ st.log, st.phase c.tx = .committed
  once : ∀ c ∈ st.log, ∀ c' ∈ st.log, c.tx = c'.tx → c = c'
  proper : ∀ c ∈ st.log, Proper c.result.identity
  inserter : ∀ c ∈ st.log, ∀ o, inserter? st.log c.result.identity = some o →
    c.result.shownKey = (txs o.tx).insertKey
  shipment : ∀ c ∈ st.log, ∃ s, st.db.shipment? loadNumber = some s ∧ c.result.shipmentId = s.id
  last : ∀ c, st.log.getLast? = some c → c.result ∈ st.db.reconciliationResults ∧
    ∀ s, st.db.shipment? loadNumber = some s → c.result.Shows s
  results : ∀ r ∈ st.db.reconciliationResults,
    r ∈ db₀.reconciliationResults ∨ ∃ c ∈ st.log, r = c.result
  stays : ∀ c ∈ st.log, ∃ r ∈ st.db.reconciliationResults, r.id = c.result.id
  keyed : Table.Keyed ReconciliationResult.id st.db.reconciliationResults
  phases : ∀ i, ResultPhase txs st.log (txs i) (st.phase i)

section

variable {txs : Fin n → Tx} {loadNumber : String} {db₀ : Database} {st st' : Assembly n}

/-- Commits of one row are commits of one evaluation. -/
theorem Recorded.identity_of_id (h : Recorded txs loadNumber db₀ st)
    (hl : OneLoad txs loadNumber db₀) {c c' : Commit n} (hc : c ∈ st.log) (hc' : c' ∈ st.log)
    (hid : c.result.id = c'.result.id) : c.result.identity = c'.result.identity := by
  obtain ⟨o, ho⟩ := exists_inserter hc
  obtain ⟨o', ho'⟩ := exists_inserter hc'
  obtain ⟨hmem, hk⟩ := inserter?_some ho
  obtain ⟨hmem', hk'⟩ := inserter?_some ho'
  have huuid : c.result.id = (txs o.tx).session.resultUuid :=
    congrArg (fun k => (ofLex k).2) (h.inserter c hc o ho)
  have huuid' : c'.result.id = (txs o'.tx).session.resultUuid :=
    congrArg (fun k => (ofLex k).2) (h.inserter c' hc' o' ho')
  have htx := hl.resultUuids o.tx o'.tx (huuid.symm.trans (hid.trans huuid'))
  rw [← hk, ← hk', h.once o hmem o' hmem' htx]

/-- The row of a commit, as the last commit of its evaluation left it. -/
theorem Recorded.row (h : Recorded txs loadNumber db₀ st) (hl : OneLoad txs loadNumber db₀)
    {c : Commit n} (hc : c ∈ st.log) : ∃ c' ∈ st.log,
      c'.result ∈ st.db.reconciliationResults ∧ c'.result.identity = c.result.identity := by
  obtain ⟨r, hr, hid⟩ := h.stays c hc
  rcases h.results r hr with hold | ⟨c', hc', rfl⟩
  · obtain ⟨o, ho⟩ := exists_inserter hc
    have huuid : c.result.id = (txs o.tx).session.resultUuid :=
      congrArg (fun k => (ofLex k).2) (h.inserter c hc o ho)
    exact absurd (hid.trans huuid) (hl.newResult o.tx r hold)
  · exact ⟨c', hc', hr, h.identity_of_id hl hc' hc hid⟩

/-- The row a transaction holds is the load's. -/
theorem Recorded.own_row (h : Recorded txs loadNumber db₀ st) (hl : OneLoad txs loadNumber db₀)
    {i : Fin n} {s : Shipment} (hrow : (st.phase i).row? = some s) :
    OwnId txs loadNumber db₀ s.id := by
  have hheld := ((h.rows.phases i loadNumber (hl.load i)).held s hrow).1
  unfold heldShipment at hheld
  cases hb : st.db.shipment? loadNumber with
  | none =>
      rw [hb] at hheld
      exact .inr ⟨i, hheld.symm⟩
  | some b =>
      rw [hb] at hheld
      rw [hheld]
      exact h.own b hb

/-- What the reconciliation of a held row makes of its result row. -/
theorem Recorded.reconcile (h : Recorded txs loadNumber db₀ st)
    (hl : OneLoad txs loadNumber db₀) {i : Fin n} {s : Shipment} {ws : List Write}
    (hp : st.phase i = .attached s ws) :
    ResultPhase txs st.log (txs i) (.reconciled
      (reconcileShipment (txs i).session s ((txs i).evaluation s) (st.db.apply ws)).1
      (reconcileShipment (txs i).session s ((txs i).evaluation s) (st.db.apply ws)).2.1
      (ws ++ (reconcileShipment (txs i).session s ((txs i).evaluation s)
        (st.db.apply ws)).2.2)) := by
  have hev := tx_evaluation_proper (txs i) s
  have hnone : resultsOf ws = [] := by
    have := (h.phases i).before (by rw [hp]; intro s r ws e; cases e)
    rwa [hp] at this
  have hsame : (st.db.apply ws).reconciliationResults = st.db.reconciliationResults := by
    rw [results_apply, hnone]
    rfl
  -- A row that the evaluation finds is the row of a commit.
  have hfound : ∀ r, existingResult? ((txs i).evaluation s) (st.db.apply ws) = some r →
      ∃ c ∈ st.log, r = c.result ∧ r.identity = ((txs i).evaluation s).identity := by
    intro r hr
    obtain ⟨hmem, hmatch⟩ := existingResult?_some hr
    rw [hsame] at hmem
    rcases h.results r hmem with hold | ⟨c, hc, rfl⟩
    · exact absurd hmatch ((hl.foreign r hold).2 i s (h.own_row hl (by rw [hp]; rfl)))
    · exact ⟨c, hc, rfl, hmatch.identity (h.proper c hc) hev⟩
  obtain ⟨hshows, hship⟩ := reconcileShipment_shows (txs i).session s ((txs i).evaluation s)
    (st.db.apply ws)
  have hid : ∀ r, existingResult? ((txs i).evaluation s) (st.db.apply ws) = some r →
      r.identity = ((txs i).evaluation s).identity := by
    intro r hr
    obtain ⟨-, -, -, hid⟩ := hfound r hr
    exact hid
  obtain ⟨hident, hkey⟩ := reconcileShipment_identity (txs i).session s hid
  refine ⟨fun hne => absurd rfl (hne _ _ _), fun s' r' ws' e => ?_⟩
  cases e
  refine ⟨?_, hshows, ?_, hident ▸ hev, ?_⟩
  · rw [resultsOf_append, hnone, (reconcileShipment_writes ..).2.2.2]
    rfl
  · exact hship.trans (reconcileShipment_row ..).1.symm
  · rw [hident]
    rcases hkey with ⟨hn, hkey⟩ | ⟨r, hr, hkey⟩
    · have : inserter? st.log ((txs i).evaluation s).identity = none := by
        refine List.find?_eq_none.mpr fun c hc => ?_
        rw [decide_eq_true_iff]
        intro hid
        obtain ⟨c', -, hmem, hid'⟩ := h.row hl hc
        exact existingResult?_none hev hn (hsame ▸ hmem) (hid'.trans hid)
      rw [hkey, keyAt, this]
      rfl
    · obtain ⟨c, hc, rfl, hid⟩ := hfound r hr
      obtain ⟨o, ho⟩ := exists_inserter hc
      rw [hkey, keyAt, ← hid, ho]
      exact h.inserter c hc o ho

/-- A statement that commits nothing. -/
theorem Recorded.goto (h : Recorded txs loadNumber db₀ st) {i : Fin n} {p : Phase}
    (hrows : Assembly.Rows txs (st.goto i p)) (hp : ResultPhase txs st.log (txs i) p)
    (hnc : st.phase i ≠ .committed) : Recorded txs loadNumber db₀ (st.goto i p) where
  rows := hrows
  own := h.own
  ended c hc := by
    have hne : c.tx ≠ i := fun e => hnc (e ▸ h.ended c hc)
    rw [Assembly.goto_phase_of_ne st p hne]
    exact h.ended c hc
  once := h.once
  proper := h.proper
  inserter := h.inserter
  shipment := h.shipment
  last := h.last
  results := h.results
  stays := h.stays
  keyed := h.keyed
  phases j := by
    by_cases hj : j = i
    · rw [hj, Assembly.goto_phase_self]
      exact hp
    · rw [Assembly.goto_phase_of_ne st p hj]
      exact h.phases j

/-- A commit. -/
theorem Recorded.commit (h : Recorded txs loadNumber db₀ st) (hl : OneLoad txs loadNumber db₀)
    {i : Fin n} {s : Shipment} {r : ReconciliationResult} {ws : List Write}
    (hp : st.phase i = .reconciled s r ws) (hrows : Assembly.Rows txs (st.commit i r ws)) :
    Recorded txs loadNumber db₀ (st.commit i r ws) := by
  have hrow : (st.phase i).row? = some s := by rw [hp]; rfl
  obtain ⟨hws, hshows, hship, hproper, hkey⟩ := (h.phases i).after s r ws hp
  have hfound : (st.commit i r ws).db.shipment? loadNumber = some s :=
    (h.rows.commit_shipments (hl.load i) hp).1
  have hresults : (st.commit i r ws).db.reconciliationResults =
      Table.put ReconciliationResult.id r st.db.reconciliationResults := by
    rw [Assembly.commit, results_apply, hws]
    rfl
  have hlog : ∀ c, c ∈ (st.commit i r ws).log ↔ c ∈ st.log ∨ c = ⟨i, r⟩ := by
    intro c
    rw [Assembly.commit, List.mem_append, List.mem_singleton]
  have hnew : ∀ c ∈ st.log, c.tx ≠ i := by
    intro c hc e
    have := h.ended c hc
    rw [e, hp] at this
    cases this
  -- Every commit so far was on the row that this one holds.
  have hid : ∀ b, st.db.shipment? loadNumber = some b → b.id = s.id := by
    intro b hb
    rw [((h.rows.phases i loadNumber (hl.load i)).held s hrow).1, heldShipment, hb]
    rfl
  refine ⟨hrows, fun s' hs' => ?_, fun c hc => ?_, fun c hc c' hc' e => ?_, fun c hc => ?_,
    fun c hc o ho => ?_, fun c hc => ?_, fun c hc => ?_, fun r' hr' => ?_, fun c hc => ?_, ?_,
    fun j => ?_⟩
  · cases hfound.symm.trans hs'
    exact h.own_row hl hrow
  · rcases (hlog c).mp hc with hc | rfl
    · exact (Assembly.goto_phase_of_ne st _ (hnew c hc)).trans (h.ended c hc)
    · exact Assembly.goto_phase_self ..
  · rcases (hlog c).mp hc with hc | rfl <;> rcases (hlog c').mp hc' with hc' | rfl
    · exact h.once c hc c' hc' e
    · exact absurd e (hnew c hc)
    · exact absurd e.symm (hnew c' hc')
    · rfl
  · rcases (hlog c).mp hc with hc | rfl
    · exact h.proper c hc
    · exact hproper
  · change inserter? (st.log ++ [⟨i, r⟩]) c.result.identity = some o at ho
    rw [inserter?_concat] at ho
    rcases (hlog c).mp hc with hc | rfl
    · obtain ⟨o', ho'⟩ := exists_inserter hc
      rw [ho'] at ho
      cases ho
      exact h.inserter c hc o ho'
    · rw [if_pos rfl] at ho
      rw [hkey, keyAt]
      cases hi : inserter? st.log r.identity with
      | none =>
          rw [hi] at ho
          cases ho
          rfl
      | some o' =>
          rw [hi] at ho
          cases ho
          rfl
  · refine ⟨s, hfound, ?_⟩
    rcases (hlog c).mp hc with hc | rfl
    · obtain ⟨b, hb, hbid⟩ := h.shipment c hc
      exact hbid.trans (hid b hb)
    · exact hship
  · have hc' : (st.log ++ [(⟨i, r⟩ : Commit n)]).getLast? = some c := hc
    rw [List.getLast?_concat] at hc'
    cases hc'
    refine ⟨?_, fun s' hs' => ?_⟩
    · rw [hresults]
      exact Table.mem_put_self
    · cases hfound.symm.trans hs'
      exact hshows
  · rw [hresults] at hr'
    rcases Table.mem_put hr' with rfl | hr'
    · exact .inr ⟨⟨i, r'⟩, (hlog _).mpr (.inr rfl), rfl⟩
    · rcases h.results r' hr' with hold | ⟨c, hc, e⟩
      · exact .inl hold
      · exact .inr ⟨c, (hlog c).mpr (.inl hc), e⟩
  · rw [hresults]
    rcases (hlog c).mp hc with hc | rfl
    · obtain ⟨r', hr', e⟩ := h.stays c hc
      by_cases hne : r'.id = r.id
      · exact ⟨r, Table.mem_put_self, hne.symm.trans e⟩
      · exact ⟨r', Table.mem_put_of_ne hr' hne, e⟩
    · exact ⟨r, Table.mem_put_self, rfl⟩
  · rw [hresults]
    exact Table.nodup_put h.keyed
  · by_cases hj : j = i
    · subst hj
      have : (st.commit j r ws).phase j = .committed := Assembly.goto_phase_self ..
      rw [this]
      exact .quiet (fun _ _ _ e => by cases e) rfl
    · have : (st.commit i r ws).phase j = st.phase j := Assembly.goto_phase_of_ne st _ hj
      rw [this]
      -- No other transaction of the load is past the lock.
      refine ⟨(h.phases j).before, fun s' r' ws' e => ?_⟩
      have hrow' : (st.phase j).row? = some s' := by rw [e]; rfl
      have hload := ((h.rows.phases j loadNumber (hl.load j)).load s' hrow').trans
        ((h.rows.phases i loadNumber (hl.load i)).load s hrow).symm
      exact absurd (h.rows.lock j i s' s hrow' hrow hload) hj

/-- Every statement keeps the log and the result rows in step. -/
theorem Recorded.step (h : Recorded txs loadNumber db₀ st) (hl : OneLoad txs loadNumber db₀)
    {i : Fin n} (hm : Assembly.Moves txs st i loadNumber st') :
    Recorded txs loadNumber db₀ st' := by
  have hrows := h.rows.step hl.shipmentUuids (hl.load i) hm
  have hbefore := (h.phases i).before
  cases hm with
  | insert hp =>
      refine h.goto hrows (.quiet (fun _ _ _ e => by cases e) ?_) (by rw [hp]; simp)
      change resultsOf (_ ++ _) = []
      rw [resultsOf_append, resultsOf_opening, resultsOf_insertShipment]
      rfl
  | lock hp =>
      rw [hp] at hbefore
      exact h.goto hrows (.quiet (fun _ _ _ e => by cases e)
        (hbefore fun _ _ _ e => by cases e)) (by rw [hp]; simp)
  | claim hp =>
      exact h.goto hrows (.quiet (fun _ _ _ e => by cases e) rfl) (by rw [hp]; simp)
  | attach hp =>
      rw [hp] at hbefore
      have hnone := hbefore fun _ _ _ e => by cases e
      refine h.goto hrows (.quiet (fun _ _ _ e => by cases e) ?_) (by rw [hp]; simp)
      change resultsOf (_ ++ _) = []
      rw [resultsOf_append, tx_attach_results, List.append_nil]
      exact hnone
  | reconcile hp => exact h.goto hrows (h.reconcile hl hp) (by rw [hp]; simp)
  | commit hp => exact h.commit hl hp hrows
  | abort ha =>
      refine h.goto hrows (.quiet (fun _ _ _ e => by cases e) rfl) fun e => ?_
      rw [e] at ha
      cases ha

/-- Before anything has started. -/
theorem Recorded.start (hl : OneLoad txs loadNumber db₀) :
    Recorded txs loadNumber db₀ (Assembly.start db₀ : Assembly n) where
  rows := .start hl.shipments hl.newShipment
  own s hs := .inl ⟨s, hs, rfl⟩
  ended c hc := by cases hc
  once c hc := by cases hc
  proper c hc := by cases hc
  inserter c hc := by cases hc
  shipment c hc := by cases hc
  last c hc := by cases hc
  results r hr := .inl hr
  stays c hc := by cases hc
  keyed := hl.results
  phases i := .quiet (fun _ _ _ e => by cases e) rfl

/-- The log and the result rows are in step in every run. -/
theorem Recorded.run (hl : OneLoad txs loadNumber db₀) {ls : List (Fin n × Action)}
    (hrun : Run (Fires (Assembly.step txs)) (Assembly.start db₀) ls st) :
    Recorded txs loadNumber db₀ st := by
  refine hrun.preserves (Recorded txs loadNumber db₀) (.start hl) fun t l u h hs => ?_
  obtain ⟨l', hl', hm⟩ := Assembly.step_moves hs
  cases (hl.load l.1).symm.trans hl'
  exact h.step hl hm

/-! ## When the latest one is shown -/

/-- In every run, the row shown as the latest is the one of the last commit
exactly when the last commit's evaluation was first recorded by a transaction
that started after those of all the others.  Rows recorded at one time are in
the order of their identifiers. -/
theorem latest_iff (hl : OneLoad txs loadNumber db₀) {ls : List (Fin n × Action)}
    (hrun : Run (Fires (Assembly.step txs)) (Assembly.start db₀) ls st) {last : Commit n}
    (hlast : st.log.getLast? = some last) :
    (∃ s, st.db.shipment? loadNumber = some s ∧
      latestReconciliationResult s.id st.db = some last.result ∧ last.result.Shows s) ↔
    ∀ c ∈ st.log, c.result.identity ≠ last.result.identity →
      keyAt txs st.log (txs c.tx) c.result.identity <
        keyAt txs st.log (txs last.tx) last.result.identity := by
  have h := Recorded.run hl hrun
  have hmem : last ∈ st.log := List.mem_of_getLast? hlast
  obtain ⟨hrow, hshows⟩ := h.last last hlast
  obtain ⟨s, hs, hsid⟩ := h.shipment last hmem
  have hkey : ∀ c ∈ st.log, c.result.shownKey = keyAt txs st.log (txs c.tx) c.result.identity := by
    intro c hc
    obtain ⟨o, ho⟩ := exists_inserter hc
    rw [keyAt, ho]
    exact h.inserter c hc o ho
  have hiff := latest_eq_some_iff h.keyed hrow hsid
  constructor
  · rintro ⟨s', hs', hlatest, -⟩ c hc hne
    cases hs.symm.trans hs'
    obtain ⟨c', hc', hr', hid⟩ := h.row hl hc
    have hlt := hiff.mp hlatest c'.result hr' ?_ fun e => hne (hid.symm.trans (by rw [e]))
    · rw [hkey c' hc', hkey last hmem, hid] at hlt
      obtain ⟨o, ho⟩ := exists_inserter hc
      rw [keyAt, ho] at hlt ⊢
      exact hlt
    · obtain ⟨s'', hs'', hsid'⟩ := h.shipment c' hc'
      cases hs.symm.trans hs''
      exact hsid'
  · intro hbefore
    refine ⟨s, hs, hiff.mpr fun r hr hrs hne => ?_, hshows s hs⟩
    rcases h.results r hr with hold | ⟨c, hc, rfl⟩
    · exact absurd (hrs ▸ h.own s hs) (hl.foreign r hold).1
    · rw [hkey c hc, hkey last hmem]
      refine hbefore c hc fun hid => hne ?_
      -- One evaluation has one row.
      have hk : c.result.shownKey = last.result.shownKey := by
        rw [hkey c hc, hkey last hmem, hid]
        obtain ⟨o, ho⟩ := exists_inserter hmem
        rw [keyAt, keyAt, ho]
        rfl
      have hid' : c.result.id = last.result.id := congrArg (fun k => (ofLex k).2) hk
      have hget := Table.get?_of_mem h.keyed hr
      rw [hid', Table.get?_of_mem h.keyed hrow] at hget
      exact (Option.some.inj hget).symm

end

/-! ## Two documents of one load -/

omit [PyRuntime]

/-- A proof of delivery with a blank delivery date, before it is matched. -/
def undatedPod : Document where
  id := 1
  filename := "a.pdf"
  docType := "proof_of_delivery"
  status := "extracted"
  extractedData := some
    [("load_number", .str "LD-001"), ("carrier_name", .str "ACME"), ("delivery_date", .str ""),
     ("condition", .str "good"), ("doc_type", .str "proof_of_delivery")]
  shipmentId := none

/-- A bill of lading of the same load. -/
def unmatchedBol : Document where
  id := 2
  filename := "b.pdf"
  docType := "bill_of_lading"
  status := "extracted"
  extractedData := some
    [("bol_number", .str "B-1"), ("load_number", .str "LD-001"), ("carrier_name", .str "ACME"),
     ("pickup_date", .str "2026-07-19"), ("doc_type", .str "bill_of_lading")]
  shipmentId := none

/-- The two documents.  The transaction of the proof of delivery starts first. -/
def overlapping : Fin 2 → Tx
  | 0 =>
      ⟨⟨10, 10, 100, "s0", 10, "q0", "x0", "y0"⟩,
        .document (some "LD-001") undatedPod (undatedPod.extractedData.getD []) "r0"⟩
  | 1 =>
      ⟨⟨20, 20, 100, "s1", 11, "q1", "x1", "y1"⟩,
        .document (some "LD-001") unmatchedBol (unmatchedBol.extractedData.getD []) "r1"⟩

/-- The database before they are matched. -/
def unmatched : Database := { Database.empty with documents := [undatedPod, unmatchedBol] }

/-- The statements of one transaction, from start to commit. -/
def serial (i : Fin 2) : List (Fin 2 × Action) :=
  [(i, .insert), (i, .lock), (i, .attach), (i, .reconcile), (i, .commit)]

theorem overlapping_oneLoad :
    letI := asciiRuntime
    OneLoad overlapping "LD-001" unmatched := by
  let := asciiRuntime
  refine ⟨?_, ?_, ?_, List.nodup_nil, List.nodup_nil, fun _ _ hs => ?_,
    fun _ _ hr => ?_, fun _ hr => ?_⟩
  · decide +kernel
  · decide +kernel
  · decide +kernel
  · cases hs
  · cases hr
  · cases hr

/-- The later document takes the lock first.  Its evaluation is shown as the
latest when the other one has made the shipment an exception. -/
theorem laterStart_shown :
    letI := asciiRuntime
    ∃ (st : Assembly 2) (last : Commit 2) (s : Shipment) (shown : ReconciliationResult),
      OneLoad overlapping "LD-001" unmatched ∧
      Run (Fires (Assembly.step overlapping)) (Assembly.start unmatched)
        (serial 1 ++ serial 0) st ∧
      st.log.getLast? = some last ∧ st.db.shipment? "LD-001" = some s ∧
      latestReconciliationResult s.id st.db = some shown ∧ shown ≠ last.result ∧
      ¬shown.Shows s := by
  let := asciiRuntime
  let final := exec (Assembly.step overlapping) (Assembly.start unmatched) (serial 1 ++ serial 0)
  have hsome : final.isSome = true := by decide +kernel
  have hdata : final.all (fun st => (st.db.shipment? "LD-001").any fun s =>
      st.log.getLast?.any fun last => (latestReconciliationResult s.id st.db).any fun shown =>
        decide (shown ≠ last.result ∧ s.reconciliationStatus ≠
          statusOfEvidence shown.missingDocs ⟨shown.checks, shown.exceptionReasons⟩)) = true := by
    decide +kernel
  obtain ⟨st, hst⟩ := Option.isSome_iff_exists.mp hsome
  rw [hst, Option.all_some, Option.any_eq_true] at hdata
  obtain ⟨s, hs, hdata⟩ := hdata
  obtain ⟨last, hlast, hdata⟩ := (Option.any_eq_true _ _).mp hdata
  obtain ⟨shown, hshown, hdata⟩ := (Option.any_eq_true _ _).mp hdata
  rw [decide_eq_true_iff] at hdata
  exact ⟨st, last, s, shown, overlapping_oneLoad, run_of_exec hst, hlast, hs, hshown, hdata⟩

/-- In the order of their starts. -/
theorem inOrder_shown :
    letI := asciiRuntime
    ∃ (st : Assembly 2) (last : Commit 2) (s : Shipment),
      st.log.getLast? = some last ∧ last.tx = 1 ∧ st.db.shipment? "LD-001" = some s ∧
      latestReconciliationResult s.id st.db = some last.result ∧ last.result.Shows s := by
  let := asciiRuntime
  let final := exec (Assembly.step overlapping) (Assembly.start unmatched) (serial 0 ++ serial 1)
  have hsome : final.isSome = true := by decide +kernel
  have hdata : final.all (fun st => st.log.getLast?.any fun last => decide (last.tx = 1 ∧
      ∀ c ∈ st.log, c.result.identity ≠ last.result.identity →
        keyAt overlapping st.log (overlapping c.tx) c.result.identity <
          keyAt overlapping st.log (overlapping last.tx) last.result.identity)) = true := by
    decide +kernel
  obtain ⟨st, hst⟩ := Option.isSome_iff_exists.mp hsome
  rw [hst, Option.all_some, Option.any_eq_true] at hdata
  obtain ⟨last, hlast, hdata⟩ := hdata
  rw [decide_eq_true_iff] at hdata
  obtain ⟨s, hs, hshown⟩ :=
    (latest_iff overlapping_oneLoad (run_of_exec hst) hlast).mpr hdata.2
  exact ⟨st, last, s, hlast, hdata.1, hs, hshown⟩

end

end FreightAP
