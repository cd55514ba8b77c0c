import FreightAP.Assembly.Locking

/-!
# No attachment is lost

Any number of documents of any loads are matched at once.  `Attachments` says
what the committed ones have left in the database, slot by slot, and what each
transaction under way will leave.  Every statement keeps it
(`Attachments.step`), so it holds whatever the interleaving and whichever
transactions abort (`committed_attached`).
-/

namespace FreightAP

open Database Transition

variable [PyRuntime]

/-! ## The jobs -/

variable {n : Nat}

/-- Every transaction matches a document of its own, on a load that has no
shipment yet.  The rows it inserts draw new keys. -/
structure DocumentJobs (txs : Fin n → Tx) (load : Fin n → String) (document : Fin n → Document)
    (slot : Fin n → Slot) (db : Database) : Prop where
  work : ∀ i, ∃ spelling extraction runId,
    (txs i).work = .document spelling (document i) extraction runId
  loads : ∀ i, (txs i).load? = some (load i)
  slots : ∀ i, docFields (document i).docType = some (slot i)
  distinct : ∀ i j, (document i).id = (document j).id → i = j
  stored : ∀ i, db.document? (document i).id = some (document i)
  notCompanion : ∀ i, ∀ rc ∈ db.rateConfirmations,
    ((document i).extractedData.getD []).get "rate_confirmation_id" ≠ .str rc.id
  documents : Table.Keyed Document.id db.documents
  shipments : Table.Keyed Shipment.id db.shipments
  shipmentUuids : ∀ i j, (txs i).session.shipmentUuid = (txs j).session.shipmentUuid → i = j
  newShipment : ∀ i, ∀ s ∈ db.shipments, s.id ≠ (txs i).session.shipmentUuid
  newCompanion : ∀ i, ∀ d ∈ db.documents, d.id ≠ (txs i).session.companionId
  newLoad : ∀ i, ∀ s ∈ db.shipments, s.loadNumber ≠ load i

/-- The committed transactions of a load, oldest first. -/
def committedOf (load : Fin n → String) (loadNumber : String) (log : List (Commit n)) :
    List (Fin n) :=
  (log.map Commit.tx).filter fun i => load i = loadNumber

/-- The first committed transaction of a slot. -/
def firstOf (load : Fin n → String) (slot : Fin n → Slot) (loadNumber : String) (d : Slot)
    (log : List (Commit n)) : Option (Fin n) :=
  (committedOf load loadNumber log).find? fun i => slot i = d

section

variable {load : Fin n → String} {slot : Fin n → Slot} {log : List (Commit n)} {c : Commit n}

omit [PyRuntime] in
theorem committedOf_concat (loadNumber : String) :
    committedOf load loadNumber (log ++ [c]) =
      committedOf load loadNumber log ++ if load c.tx = loadNumber then [c.tx] else [] := by
  unfold committedOf
  rw [List.map_append, List.filter_append, List.map_singleton, List.filter_singleton]
  split <;> simp [*]

omit [PyRuntime] in
theorem firstOf_concat (d : Slot) :
    firstOf load slot (load c.tx) d (log ++ [c]) =
      (firstOf load slot (load c.tx) d log).or (if slot c.tx = d then some c.tx else none) := by
  unfold firstOf
  rw [committedOf_concat, if_pos rfl, List.find?_append, List.find?_singleton]
  simp only [decide_eq_true_eq]

omit [PyRuntime] in
theorem committedOf_concat_of_ne {loadNumber : String} (h : load c.tx ≠ loadNumber) :
    committedOf load loadNumber (log ++ [c]) = committedOf load loadNumber log := by
  rw [committedOf_concat, if_neg h, List.append_nil]

end

/-! ## The row of a load -/

section

variable (load : Fin n → String) (document : Fin n → Document) (slot : Fin n → Slot)
  (db₀ : Database)

/-- A slot whose canonical document is decided by the documents alone: not the
rate confirmation of a load that has a manual one. -/
def Decided (loadNumber : String) (d : Slot) : Prop :=
  d ≠ .rateCon ∨ db₀.rateConfirmation? loadNumber = none

/-- A row has the documents of a list of transactions in its slots. -/
structure RowOf (loadNumber : String) (log : List (Commit n)) (s : Shipment) : Prop where
  docId : ∀ d, Decided db₀ loadNumber d →
    s.docId d = (firstOf load slot loadNumber d log).map fun i => (document i).id
  has : ∀ i ∈ committedOf load loadNumber log, s.has (slot i) = true

/-- A row with the document of one more transaction than another. -/
structure Fills (i : Fin n) (base s : Shipment) : Prop where
  docId : ∀ d, Decided db₀ (load i) d →
    s.docId d = if slot i = d then (base.docId d).or (some (document i).id) else base.docId d
  has : ∀ d, base.has d = true ∨ slot i = d → s.has d = true

variable {load document slot db₀}

omit [PyRuntime] in
theorem RowOf.fills {log : List (Commit n)} {base s : Shipment}
    {c : Commit n} (h : RowOf load document slot db₀ (load c.tx) log base)
    (hs : Fills load document slot db₀ c.tx base s) :
    RowOf load document slot db₀ (load c.tx) (log ++ [c]) s where
  docId d hd := by
    rw [hs.docId d hd, firstOf_concat, h.docId d hd]
    cases firstOf load slot (load c.tx) d log with
    | some i => simp
    | none => split <;> rfl
  has i hi := by
    rw [committedOf_concat, if_pos rfl, List.mem_append, List.mem_singleton] at hi
    rcases hi with hi | rfl
    · exact hs.has _ (.inl (h.has i hi))
    · exact hs.has _ (.inr rfl)

omit [PyRuntime] in
/-- Commits on other loads do not matter. -/
theorem RowOf.concat_of_ne {loadNumber : String} {log : List (Commit n)} {s : Shipment}
    {c : Commit n} (h : RowOf load document slot db₀ loadNumber log s)
    (hne : load c.tx ≠ loadNumber) :
    RowOf load document slot db₀ loadNumber (log ++ [c]) s where
  docId d hd := by
    rw [h.docId d hd, firstOf, firstOf, committedOf_concat_of_ne hne]
  has i hi := by
    rw [committedOf_concat_of_ne hne] at hi
    exact h.has i hi

omit [PyRuntime] in
/-- A new row has no document, as no transaction has committed. -/
theorem RowOf.new {loadNumber : String} {log : List (Commit n)}
    (h : committedOf load loadNumber log = []) (id : Uuid) (createdAt : Int) :
    RowOf load document slot db₀ loadNumber log (Shipment.new id loadNumber createdAt) where
  docId d _ := by
    rw [Shipment.docId_new, firstOf, h]
    rfl
  has i hi := by
    rw [h] at hi
    cases hi

end

/-! ## The documents of a transaction -/

section

variable {txs : Fin n → Tx} {load : Fin n → String} {document : Fin n → Document}
  {slot : Fin n → Slot} {db₀ db : Database} {i : Fin n} {s : Shipment} {ws : List Write}

/-- The document rows among the writes of a transaction: its own document, on
the shipment, and no other transaction's. -/
def OwnDocuments (document : Fin n → Document) (i : Fin n) (s : Shipment) (ws : List Write) :
    Prop :=
  ∃ rest, documentsOf ws = { document i with shipmentId := some s.id } :: rest ∧
    ∀ d ∈ rest, ∀ j, d.id ≠ (document j).id

/-- The documents of the jobs after a transaction's writes. -/
theorem OwnDocuments.document? (h : OwnDocuments document i s ws)
    (hj : DocumentJobs txs load document slot db₀) (j : Fin n) :
    (db.apply ws).document? (document j).id =
      if j = i then some { document i with shipmentId := some s.id }
      else db.document? (document j).id := by
  obtain ⟨rest, hrest, hids⟩ := h
  have hkept : ∀ db' : Database, Table.get? Document.id (document j).id
      (Table.puts Document.id rest db'.documents) = db'.document? (document j).id :=
    fun db' => Table.get?_puts_of_ne fun d hd => hids d hd j
  rw [Database.document?, documents_apply, hrest, Table.puts_cons]
  refine (hkept (db.write (.document { document i with shipmentId := some s.id }))).trans ?_
  rw [Database.document?_write_document]
  by_cases hji : j = i
  · rw [if_pos hji, if_pos (congrArg (fun k => (document k).id) hji).symm]
  · rw [if_neg hji, if_neg fun e => hji (hj.distinct i j e).symm]

variable (document) in
/-- The papers of a row whose decided slots hold documents of the jobs are
those of the start. -/
theorem shipmentPapers_stable (hrc : db.rateConfirmations = db₀.rateConfirmations)
    (hpaper : ∀ j, paper db (document j).id = paper db₀ (document j).id)
    (hdoc : ∀ d, Decided db₀ s.loadNumber d → ∀ k, s.docId d = some k →
      ∃ j, k = (document j).id) : shipmentPapers s db = shipmentPapers s db₀ := by
  have hslot : ∀ d, Decided db₀ s.loadNumber d →
      (s.docId d).bind (paper db) = (s.docId d).bind (paper db₀) := by
    intro d hd
    cases hk : s.docId d with
    | none => rfl
    | some k =>
        obtain ⟨j, rfl⟩ := hdoc d hd k hk
        exact hpaper j
  have hrc' : db.rateConfirmation? s.loadNumber = db₀.rateConfirmation? s.loadNumber := by
    rw [Database.rateConfirmation?, hrc]
    rfl
  have hinvoice : s.invoiceId.bind (paper db) = s.invoiceId.bind (paper db₀) :=
    hslot .invoice (.inl (by decide))
  have hbol : s.bolId.bind (paper db) = s.bolId.bind (paper db₀) :=
    hslot .bol (.inl (by decide))
  have hpod : s.podId.bind (paper db) = s.podId.bind (paper db₀) :=
    hslot .pod (.inl (by decide))
  simp only [shipmentPapers, docExtraction_bind, hrc', hinvoice, hbol, hpod]
  cases hn : db₀.rateConfirmation? s.loadNumber with
  | some rc => rfl
  | none =>
      have hrate : s.rateConId.bind (paper db) = s.rateConId.bind (paper db₀) :=
        hslot .rateCon (.inr hn)
      simp only [hrate]

omit [PyRuntime] in
/-- The slots of a filled row hold documents of the jobs. -/
theorem Fills.job {log : List (Commit n)} {base : Shipment}
    (h : Fills load document slot db₀ i base s)
    (hbase : RowOf load document slot db₀ (load i) log base) (d : Slot)
    (hd : Decided db₀ (load i) d) (k : Nat) (hk : s.docId d = some k) :
    ∃ j, k = (document j).id := by
  have hcase : k = (document i).id ∨ base.docId d = some k := by
    rw [h.docId d hd] at hk
    split at hk
    · rcases Option.or_eq_some_iff.mp hk with hk | ⟨-, hk⟩
      · exact .inr hk
      · exact .inl (Option.some.inj hk).symm
    · exact .inr hk
  rcases hcase with rfl | hk
  · exact ⟨i, rfl⟩
  · rw [hbase.docId d hd] at hk
    obtain ⟨j, -, rfl⟩ := Option.map_eq_some_iff.mp hk
    exact ⟨j, rfl⟩

/-! ## One transaction -/

/-- The status the transaction computes. -/
def ownStatus (txs : Fin n → Tx) (db₀ : Database) (i : Fin n) (s : Shipment) :
    ReconciliationStatus :=
  reconciliationStatus s (shipmentPapers s db₀) (txs i).session.clock (txs i).session.slaDuration

/-- What a transaction under way will leave of its document. -/
structure DocPhase (txs : Fin n → Tx) (load : Fin n → String) (document : Fin n → Document)
    (slot : Fin n → Slot) (db₀ : Database) (i : Fin n) (db : Database) (p : Phase) : Prop where
  rateConfirmations : rateConfirmationsOf p.writes = []
  inserted : ∀ ws, p = .inserted ws → documentsOf ws = []
  locked : ∀ s ws, p = .locked s ws →
    documentsOf ws = [] ∧ s = heldShipment (txs i).session (load i) db
  attached : ∀ s ws, p = .attached s ws → OwnDocuments document i s ws ∧
    Fills load document slot db₀ i (heldShipment (txs i).session (load i) db) s
  reconciled : ∀ s r ws, p = .reconciled s r ws → OwnDocuments document i s ws ∧
    Fills load document slot db₀ i (heldShipment (txs i).session (load i) db) s ∧
    s.reconciliationStatus = ownStatus txs db₀ i s

/-- What a transaction will leave depends on the row of its load only. -/
theorem DocPhase.congr {db' : Database} {p : Phase}
    (h : DocPhase txs load document slot db₀ i db p)
    (hs : db'.shipment? (load i) = db.shipment? (load i)) :
    DocPhase txs load document slot db₀ i db' p := by
  have hheld : heldShipment (txs i).session (load i) db' =
      heldShipment (txs i).session (load i) db := by
    unfold heldShipment
    rw [hs]
  refine ⟨h.rateConfirmations, h.inserted, ?_, ?_, ?_⟩ <;> rw [hheld]
  · exact h.locked
  · exact h.attached
  · exact h.reconciled

/-- Before the lock it depends on nothing. -/
theorem DocPhase.unlocked {db' : Database} {p : Phase}
    (h : DocPhase txs load document slot db₀ i db p) (hrow : p.row? = none) :
    DocPhase txs load document slot db₀ i db' p where
  rateConfirmations := h.rateConfirmations
  inserted := h.inserted
  locked s ws e := by rw [e] at hrow; cases hrow
  attached s ws e := by rw [e] at hrow; cases hrow
  reconciled s r ws e := by rw [e] at hrow; cases hrow

/-- A transaction that has not inserted yet, or is over. -/
theorem DocPhase.quiet {p : Phase} (h : p.active = false) :
    DocPhase txs load document slot db₀ i db p where
  rateConfirmations := by cases p <;> first | rfl | cases h
  inserted ws e := by rw [e] at h; cases h
  locked s ws e := by rw [e] at h; cases h
  attached s ws e := by rw [e] at h; cases h
  reconciled s r ws e := by rw [e] at h; cases h

end

/-! ## All transactions -/

/-- What the committed transactions have left, and what each transaction under
way will leave. -/
structure Attachments (txs : Fin n → Tx) (load : Fin n → String) (document : Fin n → Document)
    (slot : Fin n → Slot) (db₀ : Database) (st : Assembly n) : Prop where
  rows : Assembly.Rows txs st
  ended : ∀ i, st.phase i = .committed ↔ ∃ c ∈ st.log, c.tx = i
  rateConfirmations : st.db.rateConfirmations = db₀.rateConfirmations
  documents : Table.Keyed Document.id st.db.documents
  contents : ∀ i, ∃ x, st.db.document? (document i).id =
    some { document i with shipmentId := x } ∧ (st.phase i = .committed →
      ∃ s, st.db.shipment? (load i) = some s ∧ x = some s.id)
  unique : ∀ i, ∀ s ∈ st.db.shipments, s.loadNumber = load i →
    st.db.shipment? (load i) = some s
  new : ∀ i, st.db.shipment? (load i) = none → committedOf load (load i) st.log = []
  row : ∀ i s, st.db.shipment? (load i) = some s →
    RowOf load document slot db₀ (load i) st.log s
  status : ∀ i s last, st.db.shipment? (load i) = some s →
    (committedOf load (load i) st.log).getLast? = some last →
    s.reconciliationStatus = ownStatus txs db₀ last s
  phases : ∀ i, DocPhase txs load document slot db₀ i st.db (st.phase i)

section

variable {txs : Fin n → Tx} {load : Fin n → String} {document : Fin n → Document}
  {slot : Fin n → Slot} {db₀ : Database} {st st' : Assembly n} {i : Fin n}

/-- The row a transaction locks has the documents of the committed ones. -/
theorem Attachments.held (h : Attachments txs load document slot db₀ st) (i : Fin n) :
    RowOf load document slot db₀ (load i) st.log
      (heldShipment (txs i).session (load i) st.db) := by
  unfold heldShipment
  cases hs : st.db.shipment? (load i) with
  | some s => exact h.row i s hs
  | none => exact .new (h.new i hs) ..

/-- No row of a transaction's companion document is a row of a job. -/
theorem Attachments.companion (h : Attachments txs load document slot db₀ st)
    (hj : DocumentJobs txs load document slot db₀) {rc : RateConfirmation} {s : Shipment}
    {db : Database} (hdb : db.documents = st.db.documents) (hrc : rc ∈ db₀.rateConfirmations)
    (j : Fin n) :
    (rateConfirmationDocument (txs i).session rc s db).id ≠ (document j).id := by
  intro he
  have hstored : document j ∈ db₀.documents := Table.get?_some_mem (hj.stored j)
  rcases rateConfirmationDocument_id (txs i).session rc s db with hid | ⟨d, hd, -, hname, hid⟩
  · exact hj.newCompanion i _ hstored (he.symm.trans hid)
  · obtain ⟨x, hx, -⟩ := h.contents j
    have hget := Table.get?_of_mem h.documents (hdb ▸ hd)
    rw [← hid, he] at hget
    cases hx.symm.trans hget
    exact hj.notCompanion j rc hrc hname

/-- Attaching, on the locked row. -/
theorem Attachments.attach (h : Attachments txs load document slot db₀ st)
    (hj : DocumentJobs txs load document slot db₀) {s : Shipment} {ws : List Write}
    (hp : st.phase i = .locked s ws) :
    DocPhase txs load document slot db₀ i st.db (.attached
      ((txs i).attach s (st.db.apply ws)).1 (ws ++ ((txs i).attach s (st.db.apply ws)).2)) := by
  obtain ⟨hdocs, rfl⟩ := (h.phases i).locked s ws hp
  have hrcs : rateConfirmationsOf ws = [] := by
    have := (h.phases i).rateConfirmations
    rwa [hp] at this
  have hdb : (st.db.apply ws).documents = st.db.documents := by
    rw [documents_apply, hdocs]
    rfl
  have hrc : ∀ l, (st.db.apply ws).rateConfirmation? l = db₀.rateConfirmation? l := by
    intro l
    rw [rateConfirmation?_apply hrcs, Database.rateConfirmation?, h.rateConfirmations]
    rfl
  obtain ⟨spelling, extraction, runId, hwork⟩ := hj.work i
  have hattach : (txs i).attach (heldShipment (txs i).session (load i) st.db) (st.db.apply ws) =
      attachDocument (txs i).session (heldShipment (txs i).session (load i) st.db) (document i)
        extraction (st.db.apply ws) := by
    rw [Tx.attach, hwork]
  rw [hattach]
  refine ⟨?_, fun _ e => (by cases e), fun _ _ e => (by cases e), fun s' ws' e => ?_,
    fun _ _ _ e => (by cases e)⟩
  · change rateConfirmationsOf (_ ++ _) = []
    rw [rateConfirmationsOf_append, hrcs, (attachDocument_rows ..).2.2]
    rfl
  · cases e
    refine ⟨?_, fun d hd => ?_, fun d hd => ?_⟩
    · -- The document itself, then a companion document if one is attached.
      unfold OwnDocuments
      rw [documentsOf_append, hdocs, attachDocument_writes, attachDocument_id]
      rcases attachExisting_writes (txs i).session
        (fillCarrier (fillSlot (heldShipment (txs i).session (load i) st.db) (document i))
          extraction) (st.db.apply ws) with hw | ⟨rc, hrc', -, hw⟩
      · rw [hw]
        exact ⟨[], rfl, fun d hd => by cases hd⟩
      · rw [hw]
        refine ⟨[_], rfl, fun d hd j => ?_⟩
        rw [List.mem_singleton.mp hd]
        rw [hrc] at hrc'
        exact h.companion hj hdb (Table.get?_some_mem hrc') j
    · rw [attachDocument_docId, fillSlot_docId (hj.slots i)]
      rw [hrc, heldShipment_loadNumber]
      exact hd
    · refine attachDocument_has_mono ?_
      rw [fillSlot_has (hj.slots i), Bool.or_eq_true, decide_eq_true_iff]
      exact hd.symm

/-- The contents of the jobs' documents stay as they were. -/
theorem Attachments.paper (h : Attachments txs load document slot db₀ st)
    (hj : DocumentJobs txs load document slot db₀) (j : Fin n) :
    paper st.db (document j).id = paper db₀ (document j).id := by
  obtain ⟨x, hx, -⟩ := h.contents j
  unfold FreightAP.paper
  rw [hx, hj.stored j]
  rfl

/-- Reconciling, on the row with the document. -/
theorem Attachments.reconcile (h : Attachments txs load document slot db₀ st)
    (hj : DocumentJobs txs load document slot db₀) {s : Shipment} {ws : List Write}
    (hp : st.phase i = .attached s ws) :
    DocPhase txs load document slot db₀ i st.db (.reconciled
      (reconcileShipment (txs i).session s ((txs i).evaluation s) (st.db.apply ws)).1
      (reconcileShipment (txs i).session s ((txs i).evaluation s) (st.db.apply ws)).2.1
      (ws ++ (reconcileShipment (txs i).session s ((txs i).evaluation s)
        (st.db.apply ws)).2.2)) := by
  obtain ⟨hown, hfills⟩ := (h.phases i).attached s ws hp
  have hrcs : rateConfirmationsOf ws = [] := by
    have := (h.phases i).rateConfirmations
    rwa [hp] at this
  have hload : s.loadNumber = load i :=
    (h.rows.phases i (load i) (hj.loads i)).load s (by rw [hp]; rfl)
  obtain ⟨hd, -, hr, -⟩ := reconcileShipment_writes (txs i).session s ((txs i).evaluation s)
    (st.db.apply ws)
  obtain ⟨hid, -, -, hdoc⟩ := reconcileShipment_row (txs i).session s ((txs i).evaluation s)
    (st.db.apply ws)
  -- The papers it reads are those of the start.
  have hpapers : shipmentPapers (noteRateConfirmation s (st.db.apply ws)) (st.db.apply ws) =
      shipmentPapers (noteRateConfirmation s (st.db.apply ws)) db₀ := by
    refine shipmentPapers_stable document ?_ (fun j => ?_) fun d hd k hk => ?_
    · rw [rateConfirmations_apply, hrcs]
      exact h.rateConfirmations
    · unfold FreightAP.paper
      rw [hown.document? hj]
      split
      next hji =>
        rw [hji, hj.stored i]
        rfl
      next => exact h.paper hj j
    · rw [noteRateConfirmation_docId] at hk
      rw [noteRateConfirmation_loadNumber, hload] at hd
      exact hfills.job (h.held i) d hd k hk
  refine ⟨?_, fun _ e => (by cases e), fun _ _ e => (by cases e), fun _ _ e => (by cases e),
    fun s' r' ws' e => ?_⟩
  · change rateConfirmationsOf (_ ++ _) = []
    rw [rateConfirmationsOf_append, hrcs, hr]
    rfl
  · cases e
    refine ⟨?_, ⟨fun d hd => ?_, fun d hd => ?_⟩, ?_⟩
    · obtain ⟨rest, hrest, hids⟩ := hown
      refine ⟨rest, ?_, hids⟩
      rw [documentsOf_append, hd, List.append_nil, hrest, hid]
    · rw [hdoc]
      exact hfills.docId d hd
    · rw [reconcileShipment_has, noteRateConfirmation_has, hfills.has d hd]
      rfl
    · obtain ⟨spelling, extraction, runId, hwork⟩ := hj.work i
      have hev : (txs i).evaluation s = .ofRun runId := by rw [Tx.evaluation, hwork]
      rw [hev]
      change reconciliationStatus (noteRateConfirmation s (st.db.apply ws))
        (shipmentPapers (noteRateConfirmation s (st.db.apply ws)) (st.db.apply ws))
        (txs i).session.clock (txs i).session.slaDuration = _
      rw [hpapers]
      rfl

/-- A statement that commits nothing. -/
theorem Attachments.goto (h : Attachments txs load document slot db₀ st) {p : Phase}
    (hrows : Assembly.Rows txs (st.goto i p))
    (hp : DocPhase txs load document slot db₀ i st.db p) (hnew : p ≠ .committed)
    (hold : st.phase i ≠ .committed) : Attachments txs load document slot db₀ (st.goto i p) := by
  have hended : ∀ j, (st.goto i p).phase j = .committed ↔ st.phase j = .committed := by
    intro j
    by_cases hji : j = i
    · rw [hji, Assembly.goto_phase_self]
      exact ⟨fun e => absurd e hnew, fun e => absurd e hold⟩
    · rw [Assembly.goto_phase_of_ne st p hji]
  refine ⟨hrows, fun j => (hended j).trans (h.ended j), h.rateConfirmations, h.documents,
    fun j => ?_, h.unique, h.new, h.row, h.status, fun j => ?_⟩
  · obtain ⟨x, hx, hs⟩ := h.contents j
    exact ⟨x, hx, fun e => hs ((hended j).mp e)⟩
  · by_cases hji : j = i
    · rw [hji, Assembly.goto_phase_self]
      exact hp
    · rw [Assembly.goto_phase_of_ne st p hji]
      exact h.phases j

/-- A commit. -/
theorem Attachments.commit (h : Attachments txs load document slot db₀ st)
    (hj : DocumentJobs txs load document slot db₀) {s : Shipment} {r : ReconciliationResult}
    {ws : List Write} (hp : st.phase i = .reconciled s r ws)
    (hrows : Assembly.Rows txs (st.commit i r ws)) :
    Attachments txs load document slot db₀ (st.commit i r ws) := by
  have hrow : (st.phase i).row? = some s := by rw [hp]; rfl
  obtain ⟨hown, hfills, hstatus⟩ := (h.phases i).reconciled s r ws hp
  have hrcs : rateConfirmationsOf ws = [] := by
    have := (h.phases i).rateConfirmations
    rwa [hp] at this
  have hrp := h.rows.phases i (load i) (hj.loads i)
  obtain ⟨hfound, hother, hkeyed, hmem⟩ := h.rows.commit_shipments (hj.loads i) hp
  -- A row that was there before keeps its identifier.
  have hid : ∀ b, st.db.shipment? (load i) = some b → b.id = s.id := by
    intro b hb
    rw [(hrp.held s hrow).1, heldShipment, hb]
    rfl
  have hsame : ∀ t ∈ (st.db.apply ws).shipments, t.id = s.id → t = s := by
    intro t ht he
    have hget := Table.get?_of_mem hkeyed ht
    rw [he, Table.get?_of_mem hkeyed (Table.get?_some_mem hfound)] at hget
    exact (Option.some.inj hget).symm
  have hphase : ∀ j, j ≠ i → (st.commit i r ws).phase j = st.phase j :=
    fun j hji => Assembly.goto_phase_of_ne st _ hji
  have hdone : (st.commit i r ws).phase i = .committed := Assembly.goto_phase_self ..
  refine ⟨hrows, fun j => ?_, ?_, ?_, fun j => ?_, fun j t ht hl => ?_, fun j hn => ?_,
    fun j t ht => ?_, fun j t last ht hlast => ?_, fun j => ?_⟩
  · change _ ↔ ∃ c ∈ st.log ++ [(⟨i, r⟩ : Commit n)], c.tx = j
    by_cases hji : j = i
    · subst hji
      exact ⟨fun _ => ⟨⟨j, r⟩, List.mem_append_right _ (List.mem_singleton_self _), rfl⟩,
        fun _ => hdone⟩
    · rw [hphase j hji, h.ended j]
      constructor
      · rintro ⟨c, hc, rfl⟩
        exact ⟨c, List.mem_append_left _ hc, rfl⟩
      · rintro ⟨c, hc, rfl⟩
        rcases List.mem_append.mp hc with hc | hc
        · exact ⟨c, hc, rfl⟩
        · rw [List.mem_singleton.mp hc] at hji
          exact absurd rfl hji
  · change (st.db.apply ws).rateConfirmations = _
    rw [rateConfirmations_apply, hrcs]
    exact h.rateConfirmations
  · change Table.Keyed Document.id (st.db.apply ws).documents
    rw [documents_apply]
    exact Table.nodup_puts h.documents
  · by_cases hji : j = i
    · subst hji
      refine ⟨some s.id, ?_, fun _ => ⟨s, hfound, rfl⟩⟩
      exact (hown.document? hj j).trans (if_pos rfl)
    · obtain ⟨x, hx, hs⟩ := h.contents j
      refine ⟨x, ((hown.document? hj j).trans (if_neg hji)).trans hx, fun hc => ?_⟩
      rw [hphase j hji] at hc
      obtain ⟨b, hb, hxb⟩ := hs hc
      by_cases hl : load j = load i
      · rw [hl] at hb ⊢
        exact ⟨s, hfound, by rw [hxb, hid b hb]⟩
      · exact ⟨b, (hother _ hl).trans hb, hxb⟩
  · by_cases hji : load j = load i
    · rw [hji] at hl ⊢
      rw [Assembly.commit, hfound]
      rcases hmem t ht with hold | ⟨he, -⟩
      · rw [hsame t ht (hid t (h.unique i t hold hl))]
      · rw [hsame t ht he]
    · refine (hother _ hji).trans ?_
      rcases hmem t ht with hold | ⟨-, he⟩
      · exact h.unique j t hold hl
      · exact absurd (hl.symm.trans he) hji
  · have hji : load j ≠ load i := by
      intro e
      rw [e] at hn
      exact Option.some_ne_none s (hfound.symm.trans hn)
    refine (committedOf_concat_of_ne (Ne.symm hji)).trans (h.new j ?_)
    exact (hother _ hji).symm.trans hn
  · by_cases hji : load j = load i
    · rw [hji] at ht ⊢
      cases hfound.symm.trans ht
      exact (h.held i).fills (c := ⟨i, r⟩) hfills
    · exact (h.row j t ((hother _ hji).symm.trans ht)).concat_of_ne (Ne.symm hji)
  · change (committedOf load (load j) (st.log ++ [(⟨i, r⟩ : Commit n)])).getLast? = _ at hlast
    by_cases hji : load j = load i
    · rw [hji] at ht hlast
      cases hfound.symm.trans ht
      rw [committedOf_concat, if_pos rfl, List.getLast?_concat] at hlast
      cases hlast
      exact hstatus
    · rw [committedOf_concat_of_ne (Ne.symm hji)] at hlast
      exact h.status j t last ((hother _ hji).symm.trans ht) hlast
  · by_cases hji : j = i
    · rw [hji, hdone]
      exact .quiet rfl
    · rw [hphase j hji]
      by_cases hl : load j = load i
      · -- Another transaction on the same load has no lock yet.
        refine (h.phases j).unlocked ?_
        cases ht : (st.phase j).row? with
        | none => rfl
        | some t =>
            have hlt := (h.rows.phases j (load j) (hj.loads j)).load t ht
            exact absurd (h.rows.lock j i t s ht hrow
              (hlt.trans (hl.trans (hrp.load s hrow).symm))) hji
      · exact (h.phases j).congr (hother _ hl)

/-- Every statement keeps the attachments. -/
theorem Attachments.step (h : Attachments txs load document slot db₀ st)
    (hj : DocumentJobs txs load document slot db₀)
    (hm : Assembly.Moves txs st i (load i) st') :
    Attachments txs load document slot db₀ st' := by
  have hrows := h.rows.step hj.shipmentUuids (hj.loads i) hm
  obtain ⟨spelling, extraction, runId, hwork⟩ := hj.work i
  have hopening : (txs i).opening = [] := by rw [Tx.opening, hwork]
  cases hm with
  | insert hp =>
      refine h.goto hrows ⟨?_, fun ws e => ?_, fun _ _ e => (by cases e),
        fun _ _ e => (by cases e), fun _ _ _ e => (by cases e)⟩ (fun e => by cases e)
        (by rw [hp]; exact fun e => by cases e)
      · rw [hopening]
        unfold insertShipment
        split <;> rfl
      · cases e
        rw [hopening]
        unfold insertShipment
        split <;> rfl
  | @lock s ws hp hfree hs =>
      have hdp := h.phases i
      rw [hp] at hdp
      refine h.goto hrows ⟨hdp.rateConfirmations, fun _ e => (by cases e), fun s' ws' e => ?_,
        fun _ _ e => (by cases e), fun _ _ _ e => (by cases e)⟩ (fun e => by cases e)
        (by rw [hp]; exact fun e => by cases e)
      cases e
      refine ⟨hdp.inserted ws rfl, ?_⟩
      have hws := (h.rows.phases i (load i) (hj.loads i)).inserted ws hp
      have hfound := insertShipment_finds (txs i).session (load i) st.db
      unfold Database.shipment? at hs hfound
      rw [shipments_apply] at hs hfound
      rw [hws] at hs
      exact Option.some.inj (hs.symm.trans hfound)
  | claim hp hscan =>
      rw [Tx.isScan, hwork] at hscan
      cases hscan
  | attach hp =>
      exact h.goto hrows (h.attach hj hp) (fun e => by cases e)
        (by rw [hp]; exact fun e => by cases e)
  | reconcile hp =>
      exact h.goto hrows (h.reconcile hj hp) (fun e => by cases e)
        (by rw [hp]; exact fun e => by cases e)
  | commit hp => exact h.commit hj hp hrows
  | abort ha =>
      refine h.goto hrows (.quiet rfl) (fun e => by cases e) fun e => ?_
      rw [e] at ha
      cases ha

/-- Before anything has started. -/
theorem Attachments.start (hj : DocumentJobs txs load document slot db₀) :
    Attachments txs load document slot db₀ (Assembly.start db₀ : Assembly n) where
  rows := .start hj.shipments hj.newShipment
  ended i := ⟨fun e => (by cases e), fun ⟨c, hc, _⟩ => by cases hc⟩
  rateConfirmations := rfl
  documents := hj.documents
  contents i := ⟨(document i).shipmentId, hj.stored i, fun e => by cases e⟩
  unique i s hs hl := absurd hl (hj.newLoad i s hs)
  new i _ := rfl
  row i s hs := absurd (Table.get?_some_key hs) (hj.newLoad i s (Table.get?_some_mem hs))
  status i s last _ hlast := by cases hlast
  phases i := .quiet rfl

/-! ## In every run -/

/-- Whatever the interleaving and whichever transactions abort, a load with a
committed transaction has one shipment row.  Every committed document of the
load is attached to it and has its flag up.  Invoice, bill of lading and proof
of delivery are those that committed first.  The status is the one that
reconciling the row as it is gives, on the clock of the last commit. -/
theorem committed_attached (hj : DocumentJobs txs load document slot db₀)
    {ls : List (Fin n × Action)}
    (hrun : Run (Fires (Assembly.step txs)) (Assembly.start db₀) ls st)
    (hi : st.phase i = .committed) :
    ∃ s, st.db.shipments.filter (fun t => t.loadNumber = load i) = [s] ∧
      (∀ j, st.phase j = .committed → load j = load i → s.has (slot j) = true ∧
        ∃ row, st.db.document? (document j).id = some row ∧ row.shipmentId = some s.id) ∧
      (∀ d, d ≠ .rateCon → s.docId d =
        (firstOf load slot (load i) d st.log).map fun j => (document j).id) ∧
      ∃ last, (committedOf load (load i) st.log).getLast? = some last ∧
        s.reconciliationStatus = reconciliationStatus s (shipmentPapers s st.db)
          (txs last).session.clock (txs last).session.slaDuration := by
  have h : Attachments txs load document slot db₀ st := by
    refine hrun.preserves (Attachments txs load document slot db₀) (.start hj)
      fun t l u h hs => ?_
    obtain ⟨l', hl', hm⟩ := Assembly.step_moves hs
    cases (hj.loads l.1).symm.trans hl'
    exact h.step hj hm
  have hmem : ∀ j, st.phase j = .committed → load j = load i →
      j ∈ committedOf load (load i) st.log := by
    intro j hc hl
    obtain ⟨c, hmem, rfl⟩ := (h.ended j).mp hc
    exact List.mem_filter.mpr ⟨List.mem_map_of_mem hmem, decide_eq_true hl⟩
  obtain ⟨s, hs⟩ : ∃ s, st.db.shipment? (load i) = some s := by
    obtain ⟨x, -, hs⟩ := h.contents i
    obtain ⟨s, hs, -⟩ := hs hi
    exact ⟨s, hs⟩
  have hrow := h.row i s hs
  refine ⟨s, ?_, fun j hc hl => ⟨hrow.has j (hmem j hc hl), ?_⟩, fun d hd =>
    hrow.docId d (.inl hd), ?_⟩
  · refine Table.filter_eq_singleton h.rows.keyed (Table.get?_some_mem hs)
      (decide_eq_true (Table.get?_some_key hs)) fun t ht hl => ?_
    exact Option.some.inj ((h.unique i t ht (of_decide_eq_true hl)).symm.trans hs)
  · obtain ⟨x, hx, hattached⟩ := h.contents j
    obtain ⟨s', hs', rfl⟩ := hattached hc
    rw [hl] at hs'
    cases hs.symm.trans hs'
    exact ⟨_, hx, rfl⟩
  · obtain ⟨last, hlast⟩ := Option.isSome_iff_exists.mp
      (List.getLast?_isSome.mpr (List.ne_nil_of_mem (hmem i hi rfl)))
    refine ⟨last, hlast, (h.status i s last hs hlast).trans ?_⟩
    have hload : s.loadNumber = load i := Table.get?_some_key hs
    unfold ownStatus
    rw [shipmentPapers_stable document h.rateConfirmations (h.paper hj)]
    intro d hd k hk
    rw [hload] at hd
    rw [hrow.docId d hd] at hk
    obtain ⟨j, -, rfl⟩ := Option.map_eq_some_iff.mp hk
    exact ⟨j, rfl⟩

end

/-! ## A race for a new load -/

omit [PyRuntime]

/-- An invoice and two bills of lading. -/
def raceDocument : Fin 3 → Document
  | 0 => ⟨1, "a.pdf", "invoice", "extracted", some [("load_number", .str "LD-001")], none⟩
  | 1 => ⟨2, "b.pdf", "bill_of_lading", "extracted", some [("load_number", .str "LD-001")], none⟩
  | 2 => ⟨3, "c.pdf", "bill_of_lading", "extracted", some [("load_number", .str "LD-001")], none⟩

/-- Their slots. -/
def raceSlot : Fin 3 → Slot
  | 0 => .invoice
  | _ => .bol

/-- Their transactions, on three spellings of one load number. -/
def raceTxs : Fin 3 → Tx
  | 0 => ⟨⟨10, 10, 100, "s0", 10, "q0", "x0", "y0"⟩,
      .document (some "LD-001") (raceDocument 0) [] "r0"⟩
  | 1 => ⟨⟨20, 20, 100, "s1", 11, "q1", "x1", "y1"⟩,
      .document (some " ld-001") (raceDocument 1) [] "r1"⟩
  | 2 => ⟨⟨30, 30, 100, "s2", 12, "q2", "x2", "y2"⟩,
      .document (some "Ld-001 ") (raceDocument 2) [] "r2"⟩

/-- The documents before they are matched. -/
def raceStart : Database :=
  { Database.empty with documents := [raceDocument 0, raceDocument 1, raceDocument 2] }

theorem race_jobs :
    letI := asciiRuntime
    DocumentJobs raceTxs (fun _ => "LD-001") raceDocument raceSlot raceStart := by
  let := asciiRuntime
  refine ⟨fun i => ?_, ?_, ?_, ?_, ?_, fun _ _ hrc => ?_, ?_, List.nodup_nil, ?_, fun _ _ hs => ?_,
    ?_, fun _ _ hs => ?_⟩
  · match i with
    | 0 => exact ⟨_, _, _, rfl⟩
    | 1 => exact ⟨_, _, _, rfl⟩
    | 2 => exact ⟨_, _, _, rfl⟩
  · decide +kernel
  · decide +kernel
  · decide +kernel
  · decide +kernel
  · cases hrc
  · unfold Table.Keyed
    decide +kernel
  · decide +kernel
  · cases hs
  · decide +kernel
  · cases hs

/-- The invoice's transaction inserts the row and aborts.  The bills of lading
are matched after it. -/
def raceRun : List (Fin 3 × Action) :=
  [(0, .insert), (0, .lock), (0, .attach), (0, .abort), (1, .insert), (1, .lock), (1, .attach),
   (1, .reconcile), (1, .commit), (2, .insert), (2, .lock), (2, .attach), (2, .reconcile),
   (2, .commit)]

theorem race_attached :
    letI := asciiRuntime
    ∃ (st : Assembly 3) (s : Shipment), st.phase 0 = .aborted ∧
      st.db.shipments.filter (fun t => t.loadNumber = "LD-001") = [s] ∧ s.hasBol = true ∧
      s.bolId = (firstOf (fun _ => "LD-001") raceSlot "LD-001" .bol st.log).map
        fun j => (raceDocument j).id := by
  let := asciiRuntime
  let final := exec (Assembly.step raceTxs) (Assembly.start raceStart) raceRun
  have hsome : final.isSome = true := by decide +kernel
  have hdata : final.all (fun st =>
      decide (st.phase 0 = .aborted ∧ st.phase 2 = .committed)) = true := by decide +kernel
  obtain ⟨st, hst⟩ := Option.isSome_iff_exists.mp hsome
  rw [hst, Option.all_some, decide_eq_true_iff] at hdata
  obtain ⟨s, hone, hall, hfirst, -⟩ :=
    committed_attached race_jobs (run_of_exec hst) hdata.2
  exact ⟨st, s, hdata.1, hone, (hall 2 hdata.2 rfl).1, hfirst .bol (by decide)⟩

end FreightAP
