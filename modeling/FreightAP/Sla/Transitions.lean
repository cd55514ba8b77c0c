import FreightAP.Sla.Log

/-!
# The transitions of an exception

Which transition an event announces is read off the status of the row, and
whether there is an event also off its deadline.  So a resolved exception that
is evaluated under another SLA is resolved once more.  `transitions_legal_iff`:
that is the only way the transitions of a shipment can go wrong.
-/

namespace FreightAP

open History Transition

variable [PyRuntime]

/-- Which transition may directly follow which. -/
def ExceptionTransition.MayFollow : ExceptionTransition → ExceptionTransition → Prop
  | .opened, t => t = .resolved
  | .changed, t => t = .opened ∨ t = .changed
  | .resolved, t => t = .opened ∨ t = .changed

/-- The transitions begin with `opened` and each may follow the one before it. -/
structure LegalTransitions (ts : List ExceptionTransition) : Prop where
  first : ∀ t, ts.head? = some t → t = .opened
  chain : ts.IsChain fun t u => u.MayFollow t

namespace SlaLog

/-- The transitions of a shipment's exception, oldest first. -/
def transitions (st : SlaLog) (k : Uuid) : List ExceptionTransition :=
  (((st.db.exception? k).map st.events).getD []).map (·.transition)

/-- An evaluation that leaves an exception resolved finds the deadline it was
resolved under. -/
def DeadlineKept (st : SlaLog) : SlaLabel → Prop
  | .arrive _ _ _ _ => True
  | .evaluate ses k ev => ∀ s x, Table.get? Shipment.id k st.db.shipments = some s →
      st.db.exception? k = some x → x.status = .resolved →
      (policyFound ses s ev st.db).state ≠ .overdue →
      x.deadlineAt = (policyFound ses s ev st.db).deadlineAt

instance (st : SlaLog) : (l : SlaLabel) → Decidable (st.DeadlineKept l)
  | .arrive _ _ _ _ => .isTrue trivial
  | .evaluate ses k ev =>
      decidable_of_iff (∀ s ∈ Table.get? Shipment.id k st.db.shipments, ∀ x ∈ st.db.exception? k,
          x.status = .resolved → (policyFound ses s ev st.db).state ≠ .overdue →
            x.deadlineAt = (policyFound ses s ev st.db).deadlineAt)
        ⟨fun h s x hs hx => h s hs x hx, fun h s hs x hx => h s x hs hx⟩

/-- The last event says what the row is. -/
def Told (st : SlaLog) (k : Uuid) : Prop :=
  ∀ x, st.db.exception? k = some x →
    ∃ t, (st.transitions k).getLast? = some t ∧ (t = .resolved ↔ x.status = .resolved)

omit [PyRuntime] in
theorem transitionOf_resolved {x? : Option ShipmentException} {row : ShipmentException}
    {p : MissingDocumentPolicyResult} (h : row.Follows p) :
    transitionOf x? p = .resolved ↔ row.status = .resolved := by
  rw [h.status]
  unfold transitionOf
  by_cases ho : p.state = .overdue
  · rw [if_neg (not_not.mpr ho), if_pos ho]
    split <;> decide
  · rw [if_pos ho, if_neg ho]
    exact iff_of_true rfl rfl

omit [PyRuntime] in
/-- A list of transitions goes on legally. -/
theorem legalTransitions_snoc {ts : List ExceptionTransition} {u : ExceptionTransition} :
    LegalTransitions (ts ++ [u]) ↔ LegalTransitions ts ∧ (ts = [] → u = .opened) ∧
      ∀ t, ts.getLast? = some t → u.MayFollow t := by
  constructor
  · rintro ⟨hfirst, hchain⟩
    obtain ⟨hchain, hlast⟩ := isChain_snoc.mp hchain
    refine ⟨⟨fun t ht => hfirst t ?_, hchain⟩, fun hts => hfirst u ?_, hlast⟩
    · rw [List.head?_append, ht]
      rfl
    · rw [hts]
      rfl
  · rintro ⟨⟨hfirst, hchain⟩, hnil, hlast⟩
    refine ⟨fun t ht => ?_, isChain_snoc.mpr ⟨hchain, hlast⟩⟩
    cases ts with
    | nil =>
        cases ht
        exact hnil rfl
    | cons t' ts => exact hfirst t ht

section

variable {st st' : SlaLog} {k : Uuid} {ses : Session} {p : MissingDocumentPolicyResult}

omit [PyRuntime] in
/-- The transition that a write announces is legal unless the exception was
resolved and stays so. -/
theorem mayFollow_iff {x : ShipmentException} {t : ExceptionTransition}
    (ht : t = .resolved ↔ x.status = .resolved) :
    (transitionOf (some x) p).MayFollow t ↔ ¬(x.status = .resolved ∧ p.state ≠ .overdue) := by
  unfold transitionOf
  by_cases ho : p.state = .overdue
  · rw [if_neg (not_not.mpr ho)]
    by_cases hx : x.status = .resolved
    · simp [hx, ho, ExceptionTransition.MayFollow, ht.mpr hx]
    · have hne : t ≠ .resolved := fun e => hx (ht.mp e)
      cases t <;> simp_all [ExceptionTransition.MayFollow]
  · rw [if_pos ho]
    by_cases hx : x.status = .resolved
    · simp [hx, ho, ExceptionTransition.MayFollow, ht.mpr hx]
    · have hne : t ≠ .resolved := fun e => hx (ht.mp e)
      cases t <;> simp_all [ExceptionTransition.MayFollow]

omit [PyRuntime] in
/-- A resolved row that is not as a resolving policy asks has another
deadline. -/
theorem follows_of_deadline {x : ShipmentException} {q : MissingDocumentPolicyResult}
    (hq : x.Follows q) (hx : x.status = .resolved) (ho : p.state ≠ .overdue)
    (hd : x.deadlineAt = p.deadlineAt) : x.Follows p := by
  have hqo : q.state ≠ .overdue := by
    intro e
    have := hq.status
    rw [if_pos e, hx] at this
    cases this
  refine ⟨by rw [hx, if_neg ho], ?_, ?_, hd⟩
  · rw [hq.missingDocs, if_neg hqo, if_neg ho]
  · rw [hq.reasonCodes, if_neg hqo, if_neg ho]

omit [PyRuntime] in
/-- Where no exception and no event is written, no transition is announced. -/
theorem transitions_congr (hx : st'.db.shipmentExceptions = st.db.shipmentExceptions)
    (he : st'.db.shipmentExceptionEvents = st.db.shipmentExceptionEvents) :
    st'.transitions = st.transitions := by
  funext j
  unfold transitions events
  rw [exception?_congr hx, he]

omit [PyRuntime] in
theorem Told.congr (h : st.Told k) (hx : st'.db.shipmentExceptions = st.db.shipmentExceptions)
    (he : st'.db.shipmentExceptionEvents = st.db.shipmentExceptionEvents) : st'.Told k := by
  unfold Told
  rw [exception?_congr hx, transitions_congr hx he]
  exact h

section

variable {row : ShipmentException} {e : ShipmentExceptionEvent} (hwf : Wf st.db)
  (hfresh : ses.Fresh st.db) (hold : ∀ x, st.db.exception? k = some x → row.id = x.id)
  (hnew : st.db.exception? k = none → row.id = ses.exceptionUuid) (hrow : row.shipmentId = k)
  (hrec : e.Records (st.db.exception? k) row p)
  (hx : st'.db.shipmentExceptions = Table.put ShipmentException.id row st.db.shipmentExceptions)
  (he : st'.db.shipmentExceptionEvents = st.db.shipmentExceptionEvents ++ [e])

include hwf hfresh hold hnew hrow hrec hx he

/-- A write announces one transition, of its own shipment. -/
theorem transitions_written (j : Uuid) :
    st'.transitions j =
      if j = k then st.transitions k ++ [transitionOf (st.db.exception? k) p]
      else st.transitions j := by
  have hlook := exception?_written hwf hfresh hold hnew hrow hx
  by_cases hj : j = k
  · rw [if_pos hj, hj]
    unfold transitions
    rw [hlook, if_pos rfl]
    simp only [Option.map_some, Option.getD_some]
    rw [events_written hwf hfresh hold hnew hrec.exceptionId he, List.map_append,
      List.map_singleton, hrec.transition]
  · rw [if_neg hj]
    unfold transitions
    rw [hlook, if_neg hj]
    cases hy : st.db.exception? j with
    | none => rfl
    | some y =>
        simp only [Option.map_some, Option.getD_some]
        rw [events_written_of_ne hwf hfresh hold hnew hrec.exceptionId he hj hy]

theorem Told.written (htold : ∀ j, st.Told j) (hfollows : row.Follows p) (j : Uuid) :
    st'.Told j := by
  have hts := transitions_written hwf hfresh hold hnew hrow hrec hx he j
  intro x hxj
  rw [exception?_written hwf hfresh hold hnew hrow hx] at hxj
  by_cases hj : j = k
  · rw [if_pos hj] at hxj hts
    cases hxj
    exact ⟨_, by rw [hts, List.getLast?_concat], transitionOf_resolved hfollows⟩
  · rw [if_neg hj] at hxj hts
    rw [hts]
    exact htold j x hxj

end

/-- The transition that a write announces goes on legally exactly when the
deadline is kept. -/
theorem legalTransitions_written {ev : Evaluation} {s : Shipment}
    (hk : Table.get? Shipment.id k st.db.shipments = some s) (h : st.Faithful k)
    (htold : st.Told k)
    (hold : ∀ x, st.db.exception? k = some x → ¬x.Follows (policyFound ses s ev st.db))
    (hnew : st.db.exception? k = none → (policyFound ses s ev st.db).state = .overdue) :
    LegalTransitions (st.transitions k ++
        [transitionOf (st.db.exception? k) (policyFound ses s ev st.db)]) ↔
      LegalTransitions (st.transitions k) ∧ st.DeadlineKept (.evaluate ses k ev) := by
  rw [legalTransitions_snoc]
  refine and_congr_right fun hlegal => ?_
  cases hxk : st.db.exception? k with
  | none =>
      have hnil : st.transitions k = [] := by
        unfold transitions
        rw [hxk]
        rfl
      refine iff_of_true ⟨fun _ => ?_, fun t ht => ?_⟩ fun s' x _ hx' => ?_
      · simp [transitionOf, hnew hxk]
      · rw [hnil] at ht
        cases ht
      · cases hxk.symm.trans hx'
  | some x =>
      obtain ⟨t, ht, htx⟩ := htold x hxk
      have hne : st.transitions k ≠ [] := by
        intro e
        rw [e] at ht
        cases ht
      have hmf : (∀ u, (st.transitions k).getLast? = some u →
          (transitionOf (some x) (policyFound ses s ev st.db)).MayFollow u) ↔
          ¬(x.status = .resolved ∧ (policyFound ses s ev st.db).state ≠ .overdue) := by
        rw [← mayFollow_iff htx]
        exact ⟨fun hu => hu t ht, fun hm u hu => by
          cases ht.symm.trans hu
          exact hm⟩
      rw [hmf, and_iff_right fun e => absurd e hne]
      constructor
      · intro hno s' x' hs' hx' hr ho
        cases hk.symm.trans hs'
        cases hxk.symm.trans hx'
        exact absurd ⟨hr, ho⟩ hno
      · -- a resolved row under the same deadline is as the policy asks
        rintro hkept ⟨hr, ho⟩
        have hd := hkept s x hk hxk hr ho
        obtain ⟨q, hq, -⟩ := h.opened.mp ⟨x, hxk⟩
        obtain ⟨q', hq'⟩ := Option.isSome_iff_exists.mp
          (List.getLast?_isSome.mpr (List.ne_nil_of_mem hq))
        exact hold x hxk (follows_of_deadline (h.follows x q' hxk hq') hr ho hd)

/-- An evaluation keeps a shipment's transitions legal exactly when the deadline
is kept. -/
theorem transitions_step {l : SlaLabel} (hwf : Wf st.db) (h : ∀ j, st.Faithful j)
    (htold : ∀ j, st.Told j) (hs : st.step l = some st') :
    (∀ j, st'.Told j) ∧ ((∀ j, LegalTransitions (st'.transitions j)) ↔
      (∀ j, LegalTransitions (st.transitions j)) ∧ st.DeadlineKept l) := by
  rcases step_cases hs with ⟨hx, he, -, hl⟩ | ⟨ses, k, ev, s, rfl, hfresh, hk, hsync, hf⟩
  · have hkept : st.DeadlineKept l := by
      cases l with
      | arrive => trivial
      | evaluate ses k ev => exact absurd rfl (hl ses k ev)
    refine ⟨fun j => (htold j).congr hx he, ?_⟩
    rw [transitions_congr hx he, and_iff_left hkept]
  · cases hsync with
    | kept hfollows hopen hx he =>
        refine ⟨fun j => (htold j).congr hx he, ?_⟩
        rw [transitions_congr hx he, and_iff_left]
        intro s' x hs' hx' _ _
        cases hk.symm.trans hs'
        exact (hfollows x hx').deadlineAt
    | @written row e hold hnew hrow hfollows hversion hrec hx he =>
        have hold' : ∀ x, st.db.exception? k = some x → row.id = x.id := fun x hx => (hold x hx).2
        have hnew' : st.db.exception? k = none → row.id = ses.exceptionUuid := fun hn =>
          (hnew hn).2
        have hts := transitions_written hwf hfresh hold' hnew' hrow hrec hx he
        refine ⟨Told.written hwf hfresh hold' hnew' hrow hrec hx he htold hfollows, ?_⟩
        -- Only the evaluated shipment has a new transition.
        have hiff : LegalTransitions (st'.transitions k) ↔
            LegalTransitions (st.transitions k) ∧ st.DeadlineKept (.evaluate ses k ev) := by
          rw [hts, if_pos rfl]
          exact legalTransitions_written hk (h k) (htold k) (fun x hx => (hold x hx).1)
            fun hn => (hnew hn).1
        have hothers : ∀ j, j ≠ k → st'.transitions j = st.transitions j := fun j hj =>
          (hts j).trans (if_neg hj)
        constructor
        · intro hall
          refine ⟨fun j => ?_, (hiff.mp (hall k)).2⟩
          by_cases hj : j = k
          · exact hj ▸ (hiff.mp (hall k)).1
          · exact hothers j hj ▸ hall j
        · rintro ⟨hall, hkept⟩ j
          by_cases hj : j = k
          · exact hj ▸ hiff.mpr ⟨hall k, hkept⟩
          · exact (hothers j hj).symm ▸ hall j

end

/-- The transitions of every shipment are legal all along exactly the runs that
never evaluate a resolved exception under another deadline and leave it
resolved. -/
theorem transitions_legal_iff {db : Database} (h : Unopened db) {ls : List SlaLabel} {st : SlaLog}
    (hrun : Run (Fires step) ⟨db, []⟩ ls st) :
    Always step (fun st => ∀ k, LegalTransitions (st.transitions k)) ⟨db, []⟩ ls ↔
      Run (Guarded DeadlineKept (Fires step)) ⟨db, []⟩ ls st := by
  have hnone := h.none
  refine always_iff_guarded (fun st => (Wf st.db ∧ ∀ k, st.Faithful k) ∧ ∀ k, st.Told k) hrun
    ⟨⟨h.wf, h.faithful⟩, fun k x hx => ?_⟩ (fun k => ?_) fun t a u ht hs => ?_
  · cases (hnone k).symm.trans hx
  · unfold transitions
    rw [hnone]
    exact ⟨by simp, List.isChain_nil⟩
  · obtain ⟨⟨hwf, hall⟩, htold⟩ := ht
    obtain ⟨htold', hiff⟩ := transitions_step hwf hall htold hs
    exact ⟨⟨faithful_step hwf hall hs, htold'⟩, fun hlegal => hiff.trans (and_iff_right hlegal)⟩

end SlaLog

omit [PyRuntime]

/-! ## An SLA that changes -/

/-- The opening of an overdue shipment's exception. -/
def opening : SlaLabel :=
  .evaluate ⟨1, 1, 100, "", 0, "r1", "x1", "e1"⟩ "s1" ⟨none, some 1000, some 100, none, none⟩

/-- Two more evaluations, while the SLA is raised twice. -/
def raisedSla : List SlaLabel :=
  [opening,
   .evaluate ⟨2, 2, 100, "", 0, "r2", "x2", "e2"⟩ "s1" ⟨none, some 1100, some 5000, none, none⟩,
   .evaluate ⟨3, 3, 100, "", 0, "r3", "x3", "e3"⟩ "s1" ⟨none, some 1200, some 6000, none, none⟩]

/-- An evaluation under a longer SLA, and one when that has run out too. -/
def reopening : List SlaLabel :=
  [opening,
   .evaluate ⟨2, 2, 100, "", 0, "r2", "x2", "e2"⟩ "s1" ⟨none, some 1100, some 5000, none, none⟩,
   .evaluate ⟨3, 3, 100, "", 0, "r3", "x3", "e3"⟩ "s1" ⟨none, some 1200, some 5000, none, none⟩,
   .evaluate ⟨4, 4, 100, "", 0, "r4", "x4", "e4"⟩ "s1" ⟨none, some 6000, some 5000, none, none⟩]

/-- The exception is opened, resolved and opened again. -/
theorem reopening_legal :
    letI := asciiRuntime
    ∃ st, Run (Fires SlaLog.step) ⟨lateShipment, []⟩ reopening st ∧
      st.transitions "s1" = [.opened, .resolved, .opened] ∧
      ∀ k, LegalTransitions (st.transitions k) := by
  let := asciiRuntime
  have hguarded : ∃ st, Run (Fires SlaLog.step) ⟨lateShipment, []⟩ reopening st ∧
      Run (Guarded SlaLog.DeadlineKept (Fires SlaLog.step)) ⟨lateShipment, []⟩ reopening st :=
    guarded_of_exec (by decide +kernel)
  obtain ⟨st, hrun, hkept⟩ := hguarded
  have hdata : (exec SlaLog.step ⟨lateShipment, []⟩ reopening).all (fun st =>
      decide (st.transitions "s1" = [.opened, .resolved, .opened])) = true := by decide +kernel
  rw [exec_of_run hrun, Option.all_some, decide_eq_true_iff] at hdata
  exact ⟨st, hrun, hdata, (SlaLog.transitions_legal_iff ⟨rfl, rfl⟩ hrun).mpr hkept _
    (List.prefix_refl _) st (exec_of_run hrun)⟩

/-- The resolution is announced twice. -/
theorem raisedSla_resolvedTwice :
    letI := asciiRuntime
    ∃ st, Run (Fires SlaLog.step) ⟨lateShipment, []⟩ raisedSla st ∧
      st.transitions "s1" = [.opened, .resolved, .resolved] ∧
      ¬LegalTransitions (st.transitions "s1") := by
  let := asciiRuntime
  let final := exec SlaLog.step ⟨lateShipment, []⟩ raisedSla
  have hsome : final.isSome = true := by decide +kernel
  have hdata : final.all (fun st =>
      decide (st.transitions "s1" = [.opened, .resolved, .resolved])) = true := by decide +kernel
  obtain ⟨st, hst⟩ := Option.isSome_iff_exists.mp hsome
  rw [hst, Option.all_some, decide_eq_true_iff] at hdata
  refine ⟨st, run_of_exec hst, hdata, ?_⟩
  rw [hdata]
  intro h
  have := h.chain
  simp [ExceptionTransition.MayFollow] at this

end FreightAP
