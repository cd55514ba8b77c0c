import FreightAP.Assembly.Transactions

/-!
# The row under the lock

Two transactions never hold the row of one load number, and two never insert
it.  `Rows` says so, and says of each transaction under way which rows it has
written and which row of its load it sees.  So what a transaction sees stays
true until it commits, whatever the others do (`Rows.step`).
-/

namespace FreightAP

open Database Transition

variable [PyRuntime]

/-! ## The rows of each service -/

theorem shipmentsOf_opening (tx : Tx) : shipmentsOf tx.opening = [] := by
  unfold Tx.opening
  split <;> rfl

theorem resultsOf_opening (tx : Tx) : resultsOf tx.opening = [] := by
  unfold Tx.opening
  split <;> rfl

theorem insertShipment_opening (tx : Tx) (loadNumber : String) (db : Database) :
    insertShipment tx.session loadNumber (db.apply tx.opening) =
      insertShipment tx.session loadNumber db := by
  unfold insertShipment Database.shipment?
  rw [shipments_apply, shipmentsOf_opening]
  rfl

omit [PyRuntime] in
theorem shipmentsOf_insertShipment (ses : Session) (loadNumber : String) (db : Database) :
    shipmentsOf (insertShipment ses loadNumber db) =
      if (db.shipment? loadNumber).isNone then
        [Shipment.new ses.shipmentUuid loadNumber ses.startedAt]
      else [] := by
  unfold insertShipment
  cases db.shipment? loadNumber <;> rfl

omit [PyRuntime] in
theorem resultsOf_insertShipment (ses : Session) (loadNumber : String) (db : Database) :
    resultsOf (insertShipment ses loadNumber db) = [] := by
  unfold insertShipment
  split <;> rfl

theorem attachExisting_rows (ses : Session) (s : Shipment) (db : Database) :
    shipmentsOf (attachExistingRateConfirmation ses s db).2 = [] ∧
      resultsOf (attachExistingRateConfirmation ses s db).2 = [] ∧
      rateConfirmationsOf (attachExistingRateConfirmation ses s db).2 = [] := by
  rcases attachExisting_writes ses s db with h | ⟨rc, -, -, h⟩ <;>
  · rw [h]
    exact ⟨rfl, rfl, rfl⟩

/-- Attaching writes the shipment's row once, and no result. -/
theorem attachDocument_rows (ses : Session) (s : Shipment) (document : Document)
    (extraction : Extraction) (db : Database) :
    shipmentsOf (attachDocument ses s document extraction db).2 =
        [(attachDocument ses s document extraction db).1] ∧
      resultsOf (attachDocument ses s document extraction db).2 = [] ∧
      rateConfirmationsOf (attachDocument ses s document extraction db).2 = [] := by
  obtain ⟨hs, hr, hrc⟩ :=
    attachExisting_rows ses (fillCarrier (fillSlot s document) extraction) db
  rw [attachDocument_writes]
  unfold shipmentsOf resultsOf rateConfirmationsOf at *
  simp only [List.filterMap_append, List.filterMap_cons, hs, hr, hrc]
  exact ⟨rfl, rfl, rfl⟩

/-- Attaching keeps the keys of the row. -/
theorem tx_attach_row (tx : Tx) (s : Shipment) (db : Database) :
    (tx.attach s db).1.id = s.id ∧ (tx.attach s db).1.loadNumber = s.loadNumber ∧
      (tx.attach s db).1.createdAt = s.createdAt := by
  unfold Tx.attach
  split
  · exact ⟨attachDocument_id, attachDocument_loadNumber, attachDocument_createdAt⟩
  · exact ⟨attachDocument_id, attachDocument_loadNumber, attachDocument_createdAt⟩
  · exact ⟨rfl, rfl, rfl⟩

/-- Attaching writes the row it returns, or returns the row it was given. -/
theorem tx_attach_shipments (tx : Tx) (s : Shipment) (db : Database) :
    shipmentsOf (tx.attach s db).2 = [(tx.attach s db).1] ∨
      shipmentsOf (tx.attach s db).2 = [] ∧ (tx.attach s db).1 = s := by
  unfold Tx.attach
  split
  · exact .inl (attachDocument_rows ..).1
  · exact .inl (attachDocument_rows ..).1
  · exact .inr ⟨rfl, rfl⟩

theorem tx_attach_results (tx : Tx) (s : Shipment) (db : Database) :
    resultsOf (tx.attach s db).2 = [] := by
  unfold Tx.attach
  split
  · exact (attachDocument_rows ..).2.1
  · exact (attachDocument_rows ..).2.1
  · rfl

omit [PyRuntime] in
theorem shipmentsOf_append (ws ws' : List Write) :
    shipmentsOf (ws ++ ws') = shipmentsOf ws ++ shipmentsOf ws' :=
  List.filterMap_append

omit [PyRuntime] in
theorem resultsOf_append (ws ws' : List Write) :
    resultsOf (ws ++ ws') = resultsOf ws ++ resultsOf ws' :=
  List.filterMap_append

omit [PyRuntime] in
theorem documentsOf_append (ws ws' : List Write) :
    documentsOf (ws ++ ws') = documentsOf ws ++ documentsOf ws' :=
  List.filterMap_append

omit [PyRuntime] in
theorem rateConfirmationsOf_append (ws ws' : List Write) :
    rateConfirmationsOf (ws ++ ws') = rateConfirmationsOf ws ++ rateConfirmationsOf ws' :=
  List.filterMap_append

/-! ## One transaction -/

/-- The rows a transaction on a load has written and the row it sees. -/
structure RowPhase (ses : Session) (loadNumber : String) (db : Database) (p : Phase) : Prop where
  inserted : ∀ ws, p = .inserted ws →
    shipmentsOf ws = shipmentsOf (insertShipment ses loadNumber db)
  load : ∀ s, p.row? = some s → s.loadNumber = loadNumber
  written : ∀ s, p.row? = some s → ∀ r ∈ shipmentsOf p.writes,
    r.id = s.id ∧ r.loadNumber = loadNumber
  viewed : ∀ s, p.row? = some s →
    (shipmentsOf p.writes).getLast?.or (db.shipment? loadNumber) = some s
  held : ∀ s, p.row? = some s → s.id = (heldShipment ses loadNumber db).id ∧
    s.createdAt = (heldShipment ses loadNumber db).createdAt

section

variable {ses : Session} {loadNumber : String} {db db' : Database}

omit [PyRuntime] in
theorem RowPhase.quiet {p : Phase} (hrow : p.row? = none) (hi : ∀ ws, p ≠ .inserted ws) :
    RowPhase ses loadNumber db p where
  inserted ws h := absurd h (hi ws)
  load s h := by rw [hrow] at h; cases h
  written s h := by rw [hrow] at h; cases h
  viewed s h := by rw [hrow] at h; cases h
  held s h := by rw [hrow] at h; cases h

omit [PyRuntime] in
/-- What a transaction sees depends on the row of its load only. -/
theorem RowPhase.congr {p : Phase} (h : RowPhase ses loadNumber db p)
    (hs : db'.shipment? loadNumber = db.shipment? loadNumber) :
    RowPhase ses loadNumber db' p := by
  have hheld : heldShipment ses loadNumber db' = heldShipment ses loadNumber db := by
    unfold heldShipment
    rw [hs]
  refine ⟨fun ws hw => ?_, h.load, h.written, fun s hp => ?_, fun s hp => ?_⟩
  · rw [h.inserted ws hw, shipmentsOf_insertShipment, shipmentsOf_insertShipment, hs]
  · rw [hs]
    exact h.viewed s hp
  · rw [hheld]
    exact h.held s hp

omit [PyRuntime] in
/-- The locking select finds the row there was, or the inserted one. -/
theorem RowPhase.lock {ws : List Write} {s : Shipment}
    (h : RowPhase ses loadNumber db (.inserted ws))
    (hs : (db.apply ws).shipment? loadNumber = some s) :
    RowPhase ses loadNumber db (.locked s ws) := by
  have hws := h.inserted ws rfl
  rw [shipmentsOf_insertShipment] at hws
  have hrow : s = heldShipment ses loadNumber db ∧
      (shipmentsOf ws).getLast?.or (db.shipment? loadNumber) = some s ∧
      ∀ r ∈ shipmentsOf ws, r.id = s.id ∧ r.loadNumber = loadNumber := by
    unfold heldShipment
    rw [Database.shipment?, shipments_apply, hws] at hs
    rw [hws]
    cases hb : db.shipment? loadNumber with
    | none =>
        rw [hb] at hs
        have hnew := shipment?_write_shipment_new
          (Shipment.new ses.shipmentUuid loadNumber ses.startedAt) hb
        have : some (Shipment.new ses.shipmentUuid loadNumber ses.startedAt) = some s :=
          hnew.symm.trans hs
        cases this
        refine ⟨rfl, rfl, fun r hr => ?_⟩
        rw [List.mem_singleton.mp hr]
        exact ⟨rfl, rfl⟩
    | some b =>
        rw [hb] at hs
        have : some b = some s := hb.symm.trans hs
        cases this
        exact ⟨rfl, rfl, fun r hr => by cases hr⟩
  obtain ⟨rfl, hview, hwritten⟩ := hrow
  refine ⟨fun ws h => (by cases h), ?_, ?_, ?_, ?_⟩
  all_goals
    intro s hp
    cases hp
  · exact heldShipment_loadNumber
  · exact hwritten
  · exact hview
  · exact ⟨rfl, rfl⟩

omit [PyRuntime] in
/-- A statement that writes the held row, or nothing of it, under the same keys. -/
theorem RowPhase.extend {p p' : Phase} {s s' : Shipment} {ws : List Write}
    (h : RowPhase ses loadNumber db p) (hp : p.row? = some s) (hp' : p'.row? = some s')
    (hws : p'.writes = p.writes ++ ws)
    (hrows : shipmentsOf ws = [s'] ∨ shipmentsOf ws = [] ∧ s' = s)
    (hid : s'.id = s.id) (hl : s'.loadNumber = s.loadNumber) (hc : s'.createdAt = s.createdAt) :
    RowPhase ses loadNumber db p' := by
  refine ⟨fun ws' hw => ?_, ?_, ?_, ?_, ?_⟩
  · rw [hw] at hp'
    cases hp'
  all_goals
    intro t ht
    cases hp'.symm.trans ht
  · exact hl.trans (h.load s hp)
  · intro r hr
    rw [hws, shipmentsOf_append] at hr
    rcases List.mem_append.mp hr with hr | hr
    · rw [hid]
      exact h.written s hp r hr
    · rcases hrows with hrows | ⟨hrows, -⟩
      · rw [hrows] at hr
        rw [List.mem_singleton.mp hr]
        exact ⟨rfl, hl.trans (h.load s hp)⟩
      · rw [hrows] at hr
        cases hr
  · rw [hws, shipmentsOf_append]
    rcases hrows with hrows | ⟨hrows, rfl⟩
    · rw [hrows, List.getLast?_concat]
      rfl
    · rw [hrows, List.append_nil]
      exact h.viewed _ hp
  · rw [hid, hc]
    exact h.held s hp

end

/-! ## All transactions -/

namespace Assembly

variable {n : Nat}

/-- Locks are exclusive, a load number is inserted by one transaction at a time,
and every transaction sees the row of its load. -/
structure Rows (txs : Fin n → Tx) (st : Assembly n) : Prop where
  phases : ∀ i loadNumber, (txs i).load? = some loadNumber →
    RowPhase (txs i).session loadNumber st.db (st.phase i)
  idle : ∀ i, (txs i).load? = none → st.phase i = .idle
  lock : ∀ i j s t, (st.phase i).row? = some s → (st.phase j).row? = some t →
    s.loadNumber = t.loadNumber → i = j
  alone : ∀ i j loadNumber, (txs i).load? = some loadNumber → (txs j).load? = some loadNumber →
    st.db.shipment? loadNumber = none → (st.phase i).active = true →
    (st.phase j).active = true → i = j
  keyed : Table.Keyed Shipment.id st.db.shipments
  fresh : ∀ i, st.phase i ≠ .committed → ∀ s ∈ st.db.shipments, s.id ≠ (txs i).session.shipmentUuid

section

variable {txs : Fin n → Tx} {st : Assembly n} {i : Fin n} {loadNumber : String}

omit [PyRuntime] in
/-- A row under a load number is a row with a lock held on it. -/
theorem holds_of_row {p : Phase} {s : Shipment} (h : p.row? = some s)
    (hl : s.loadNumber = loadNumber) : p.holds loadNumber = true := by
  simp [Phase.holds, h, hl]

omit [PyRuntime] in
theorem active_of_row {p : Phase} {s : Shipment} (h : p.row? = some s) : p.active = true := by
  cases p <;> first | rfl | cases h

/-- A transaction that inserted while its load had no row shows that row among
its uncommitted ones. -/
theorem Rows.inserting (h : Rows txs st) (hl : (txs i).load? = some loadNumber)
    (hnone : st.db.shipment? loadNumber = none) (ha : (st.phase i).active = true) :
    (st.phase i).inserting loadNumber = true := by
  have hp := h.phases i loadNumber hl
  unfold Phase.inserting
  rw [List.any_eq_true]
  cases hr : (st.phase i).row? with
  | none =>
      cases hi : st.phase i with
      | inserted ws =>
          have hws := hp.inserted ws hi
          rw [shipmentsOf_insertShipment, hnone] at hws
          rw [Phase.writes, hws]
          exact ⟨_, List.mem_singleton_self _, decide_eq_true rfl⟩
      | idle => rw [hi] at ha; cases ha
      | committed => rw [hi] at ha; cases ha
      | aborted => rw [hi] at ha; cases ha
      | locked s ws => rw [hi] at hr; cases hr
      | attached s ws => rw [hi] at hr; cases hr
      | reconciled s r ws => rw [hi] at hr; cases hr
  | some s =>
      have hview := hp.viewed s hr
      rw [hnone, Option.or_none] at hview
      exact ⟨s, List.mem_of_getLast? hview, decide_eq_true (hp.load s hr)⟩

/-- The lock of a load is its holder's. -/
theorem Rows.row_holds (h : Rows txs st) (hl : (txs i).load? = some loadNumber) {s : Shipment}
    (hrow : (st.phase i).row? = some s) {j : Fin n}
    (hj : (st.phase j).holds loadNumber = true) : i = j := by
  unfold Phase.holds at hj
  obtain ⟨t, ht, hload⟩ := (Option.any_eq_true _ _).mp hj
  exact h.lock i j s t hrow ht
    (((h.phases i loadNumber hl).load s hrow).trans (of_decide_eq_true hload).symm)

/-- A transaction that moves on under the same database. -/
theorem Rows.goto (h : Rows txs st) (hl : (txs i).load? = some loadNumber) {p : Phase}
    (hp : RowPhase (txs i).session loadNumber st.db p)
    (hlock : ∀ s, p.row? = some s → ∀ j, (st.phase j).holds loadNumber = true → i = j)
    (halone : st.db.shipment? loadNumber = none → p.active = true → ∀ j,
      (txs j).load? = some loadNumber → (st.phase j).active = true → i = j) 
    (hnc : st.phase i ≠ .committed) : Rows txs (st.goto i p) := by
  have hphase : ∀ j, (st.goto i p).phase j = if j = i then p else st.phase j := by
    intro j
    by_cases hj : j = i
    · rw [if_pos hj, hj, goto_phase_self]
    · rw [if_neg hj, goto_phase_of_ne st p hj]
  refine ⟨fun j l hj => ?_, fun j hj => ?_, fun j k s t hs ht hst => ?_,
    fun j k l hj hk hnone haj hak => ?_, h.keyed, fun j hj => ?_⟩
  · rw [hphase]
    split
    next hji =>
      subst hji
      cases hl.symm.trans hj
      exact hp
    next => exact h.phases j l hj
  · have hji : j ≠ i := by
      rintro rfl
      rw [hl] at hj
      cases hj
    rw [goto_phase_of_ne st p hji]
    exact h.idle j hj
  · rw [hphase] at hs ht
    by_cases hji : j = i
    · rw [if_pos hji] at hs
      by_cases hki : k = i
      · exact hji.trans hki.symm
      · rw [if_neg hki] at ht
        exact hji.trans (hlock s hs k (holds_of_row ht (hst.symm.trans (hp.load s hs))))
    · rw [if_neg hji] at hs
      by_cases hki : k = i
      · rw [if_pos hki] at ht
        exact (hki.trans (hlock t ht j (holds_of_row hs (hst.trans (hp.load t ht))))).symm
      · rw [if_neg hki] at ht
        exact h.lock j k s t hs ht hst
  · rw [hphase] at haj hak
    by_cases hji : j = i
    · subst hji
      cases hl.symm.trans hj
      rw [if_pos rfl] at haj
      by_cases hki : k = j
      · exact hki.symm
      · rw [if_neg hki] at hak
        exact halone hnone haj k hk hak
    · rw [if_neg hji] at haj
      by_cases hki : k = i
      · subst hki
        cases hl.symm.trans hk
        rw [if_pos rfl] at hak
        exact (halone hnone hak j hj haj).symm
      · rw [if_neg hki] at hak
        exact h.alone j k l hj hk hnone haj hak
  · by_cases hji : j = i
    · subst hji
      exact h.fresh j hnc
    · rw [goto_phase_of_ne st p hji] at hj
      exact h.fresh j hj

/-- What a commit leaves in the shipment table. -/
theorem Rows.commit_shipments (h : Rows txs st) (hl : (txs i).load? = some loadNumber)
    {s : Shipment} {r : ReconciliationResult} {ws : List Write}
    (hp : st.phase i = .reconciled s r ws) :
    (st.db.apply ws).shipment? loadNumber = some s ∧
      (∀ l, l ≠ loadNumber → (st.db.apply ws).shipment? l = st.db.shipment? l) ∧
      Table.Keyed Shipment.id (st.db.apply ws).shipments ∧
      ∀ t ∈ (st.db.apply ws).shipments, t ∈ st.db.shipments ∨ t.id = s.id ∧
        t.loadNumber = loadNumber := by
  have hrow : (st.phase i).row? = some s := by rw [hp]; rfl
  have hrp := h.phases i loadNumber hl
  have hwritten : ∀ t ∈ shipmentsOf ws, t.id = s.id ∧ t.loadNumber = loadNumber := by
    have := hrp.written s hrow
    rwa [hp] at this
  have hview : (shipmentsOf ws).getLast?.or (st.db.shipment? loadNumber) = some s := by
    have := hrp.viewed s hrow
    rwa [hp] at this
  have hheld := (hrp.held s hrow).1
  -- The rows of the held identifier are rows of the load.
  have hold : ∀ t ∈ st.db.shipments, t.id = s.id → t.loadNumber = loadNumber := by
    intro t ht hid
    unfold heldShipment at hheld
    cases hb : st.db.shipment? loadNumber with
    | none =>
        rw [hb] at hheld
        exact absurd (hid.trans hheld) (h.fresh i (by rw [hp]; exact fun e => by cases e) t ht)
    | some b =>
        rw [hb] at hheld
        have hget := Table.get?_of_mem h.keyed ht
        have hgetb := Table.get?_of_mem h.keyed (Table.get?_some_mem hb)
        rw [hid, hheld] at hget
        cases hgetb.symm.trans hget
        exact Table.get?_some_key hb
  have hfound : ∀ b, st.db.shipment? loadNumber = some b → b.id = s.id := by
    intro b hb
    rw [hheld, heldShipment, hb]
    rfl
  refine ⟨?_, fun l hne => ?_, ?_, fun t ht => ?_⟩
  · rw [Database.shipment?, shipments_apply]
    refine (Table.find?_puts_of_found h.keyed (fun t ht => ?_) hfound).trans hview
    exact ⟨(hwritten t ht).1, decide_eq_true (hwritten t ht).2⟩
  · rw [Database.shipment?, shipments_apply]
    refine Table.find?_puts_of_not (fun t ht => ⟨(hwritten t ht).1, ?_⟩) fun t ht hid => ?_
    · exact decide_eq_false fun e => hne (e.symm.trans (hwritten t ht).2)
    · exact decide_eq_false fun e => hne (e.symm.trans (hold t ht hid))
  · rw [shipments_apply]
    exact Table.nodup_puts h.keyed
  · rw [shipments_apply] at ht
    exact (Table.mem_puts ht).symm.imp_right (hwritten t)

/-- A commit. -/
theorem Rows.commit (h : Rows txs st)
    (huuid : ∀ i j, (txs i).session.shipmentUuid = (txs j).session.shipmentUuid → i = j)
    (hl : (txs i).load? = some loadNumber) {s : Shipment} {r : ReconciliationResult}
    {ws : List Write} (hp : st.phase i = .reconciled s r ws) : Rows txs (st.commit i r ws) := by
  obtain ⟨hfound, hother, hkeyed, hmem⟩ := h.commit_shipments hl hp
  have hrow : (st.phase i).row? = some s := by rw [hp]; rfl
  have hactive : (st.phase i).active = true := by rw [hp]; rfl
  have hrp := h.phases i loadNumber hl
  have hphase : ∀ j, (st.commit i r ws).phase j = if j = i then .committed else st.phase j := by
    intro j
    by_cases hj : j = i
    · rw [if_pos hj, hj]
      exact goto_phase_self ..
    · rw [if_neg hj]
      exact goto_phase_of_ne st _ hj
  refine ⟨fun j l hj => ?_, fun j hj => ?_, fun j k t u ht hu htu => ?_,
    fun j k l hj hk hnone haj hak => ?_, hkeyed, fun j hj t ht => ?_⟩
  · rw [hphase]
    by_cases hji : j = i
    · rw [if_pos hji]
      exact .quiet rfl fun ws e => by cases e
    · rw [if_neg hji]
      by_cases hll : l = loadNumber
      · -- Another transaction on the same load has no lock yet.
        subst hll
        have hnorow : (st.phase j).row? = none := by
          cases ht : (st.phase j).row? with
          | none => rfl
          | some t =>
              have hload := ((h.phases j l hj).load t ht).trans (hrp.load s hrow).symm
              exact absurd (h.lock j i t s ht hrow hload) hji
        refine ⟨fun ws' hw => ?_, ?_, ?_, ?_, ?_⟩
        · have hsome : (st.db.shipment? l).isNone = false := by
            cases hb : st.db.shipment? l with
            | none =>
                exact absurd (h.alone j i l hj hl hb (by rw [hw]; rfl) hactive) hji
            | some b => rfl
          have hsome' : ((st.commit i r ws).db.shipment? l).isNone = false := by
            rw [Assembly.commit, hfound]
            rfl
          rw [(h.phases j l hj).inserted ws' hw, shipmentsOf_insertShipment,
            shipmentsOf_insertShipment, hsome, hsome']
        all_goals
          intro t ht
          rw [hnorow] at ht
          cases ht
      · exact (h.phases j l hj).congr (hother l hll)
  · have hji : j ≠ i := by
      rintro rfl
      rw [hl] at hj
      cases hj
    rw [hphase, if_neg hji]
    exact h.idle j hj
  · rw [hphase] at ht hu
    by_cases hji : j = i
    · rw [if_pos hji] at ht
      cases ht
    · by_cases hki : k = i
      · rw [if_pos hki] at hu
        cases hu
      · rw [if_neg hji] at ht
        rw [if_neg hki] at hu
        exact h.lock j k t u ht hu htu
  · rw [hphase] at haj hak
    by_cases hji : j = i
    · rw [if_pos hji] at haj
      cases haj
    · by_cases hki : k = i
      · rw [if_pos hki] at hak
        cases hak
      · rw [if_neg hji] at haj
        rw [if_neg hki] at hak
        have hne : l ≠ loadNumber := by
          rintro rfl
          exact absurd (hfound.symm.trans hnone) (Option.some_ne_none _)
        exact h.alone j k l hj hk ((hother l hne).symm.trans hnone) haj hak
  · rw [hphase] at hj
    by_cases hji : j = i
    · rw [if_pos hji] at hj
      exact absurd rfl hj
    · rw [if_neg hji] at hj
      rcases hmem t ht with ht | ⟨hid, -⟩
      · exact h.fresh j hj t ht
      · rw [hid, (hrp.held s hrow).1, heldShipment]
        cases hb : st.db.shipment? loadNumber with
        | none => exact fun e => hji (huuid i j e).symm
        | some b => exact h.fresh j hj b (Table.get?_some_mem hb)

/-- Every step keeps the rows in order. -/
theorem Rows.step (h : Rows txs st)
    (huuid : ∀ i j, (txs i).session.shipmentUuid = (txs j).session.shipmentUuid → i = j)
    (hl : (txs i).load? = some loadNumber) {st' : Assembly n}
    (hm : Moves txs st i loadNumber st') : Rows txs st' := by
  have hrp := h.phases i loadNumber hl
  cases hm with
  | insert hidle hscan hfree =>
      refine h.goto hl ⟨fun ws hw => ?_, ?_, ?_, ?_, ?_⟩ ?_ (fun hnone _ j hj ha => ?_)
        (by rw [hidle]; exact fun e => by cases e)
      · cases hw
        rw [shipmentsOf_append, shipmentsOf_opening, insertShipment_opening]
        rfl
      · intro s hs; cases hs
      · intro s hs; cases hs
      · intro s hs; cases hs
      · intro s hs; cases hs
      · intro s hs; cases hs
      · exact absurd ((hfree hnone j).symm.trans (h.inserting hj hnone ha)) (by decide)
  | lock hp hfree hs =>
      rw [hp] at hrp
      refine h.goto hl (hrp.lock hs) (fun s hs j hj => ?_) (fun hnone _ j hj ha => ?_)
        (by rw [hp]; exact fun e => by cases e)
      · exact absurd ((hfree j).symm.trans hj) (by decide)
      · exact h.alone i j loadNumber hl hj hnone (by rw [hp]; rfl) ha
  | @claim s hidle hscan hfree hs =>
      refine h.goto hl ⟨?_, ?_, ?_, ?_, ?_⟩ (fun t ht j hj => ?_) (fun hnone _ j hj ha => ?_)
        (by rw [hidle]; exact fun e => by cases e)
      · intro ws hw; cases hw
      · intro t ht
        cases ht
        exact Table.get?_some_key hs
      · intro t ht r hr
        cases hr
      · intro t ht
        cases ht
        exact hs
      · intro t ht
        cases ht
        rw [heldShipment, hs]
        exact ⟨rfl, rfl⟩
      · exact absurd ((hfree j).symm.trans hj) (by decide)
      · exact absurd (hs.symm.trans hnone) (Option.some_ne_none _)
  | @attach s ws hp =>
      have hrow : (st.phase i).row? = some s := by rw [hp]; rfl
      obtain ⟨hid, hload, hc⟩ := tx_attach_row (txs i) s (st.db.apply ws)
      refine h.goto hl (hrp.extend hrow rfl (by rw [hp]; rfl) (tx_attach_shipments ..) hid hload hc)
        (fun t ht j hj => ?_) (fun hnone _ j hj ha => ?_) (by rw [hp]; exact fun e => by cases e)
      · exact h.row_holds hl hrow hj
      · exact h.alone i j loadNumber hl hj hnone (active_of_row hrow) ha
  | @reconcile s ws hp =>
      have hrow : (st.phase i).row? = some s := by rw [hp]; rfl
      obtain ⟨hid, hload, hc, -⟩ := reconcileShipment_row (txs i).session s
        ((txs i).evaluation s) (st.db.apply ws)
      refine h.goto hl (hrp.extend hrow rfl (by rw [hp]; rfl)
        (.inl (reconcileShipment_writes ..).2.1) hid hload hc)
        (fun t ht j hj => ?_) (fun hnone _ j hj ha => ?_) (by rw [hp]; exact fun e => by cases e)
      · exact h.row_holds hl hrow hj
      · exact h.alone i j loadNumber hl hj hnone (active_of_row hrow) ha
  | commit hp => exact h.commit huuid hl hp
  | abort ha =>
      refine h.goto hl (.quiet rfl fun ws e => by cases e) (fun s hs => by cases hs)
        (fun _ ha' => by cases ha') ?_
      intro e
      rw [e] at ha
      cases ha

/-- Before anything has started. -/
theorem Rows.start {db : Database} (hkeyed : Table.Keyed Shipment.id db.shipments)
    (hfresh : ∀ i, ∀ s ∈ db.shipments, s.id ≠ (txs i).session.shipmentUuid) :
    Rows txs (Assembly.start db) where
  phases i l _ := .quiet rfl fun ws e => by cases e
  idle i _ := rfl
  lock i j s t hs := by cases hs
  alone i j l _ _ _ ha := by cases ha
  keyed := hkeyed
  fresh i _ := hfresh i

end

end Assembly

end FreightAP
