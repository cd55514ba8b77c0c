import Mathlib.Data.Fintype.Basic
import FreightAP.Lib.Table
import FreightAP.Lib.Transition
import FreightAP.Queue.Delivery
import FreightAP.Review.Record

/-!
# The records of a job

`_get_or_create_job_records` finds the document and the run of a job, or
inserts both in one transaction.  Any number of calls run at once under READ
COMMITTED, each for a job of its own or of another call.  A step is one
statement.

An insert into a unique index waits for the uncommitted row of another call,
and is a violation once such a row is committed.  Ids come from a sequence,
which keeps its value when the transaction does not commit.
-/

namespace FreightAP

open Transition

/-! ## The rows -/

/-- A row of `documents` with its source columns. -/
structure SourceDocument where
  id : Nat
  filename : String
  docType : String
  status : String
  sourceType : Option String
  sourceIdempotencyKey : Option String
  sourceMessageId : Option String
  sourcePartId : Option String
  sourceEnqueuedAt : Option Int
  contentSha256 : Option String
deriving DecidableEq

/-- The `interrupt_payload` a run of a job starts with. -/
structure GmailReference where
  gmailMessageId : String
  gmailThreadId : String
deriving DecidableEq

/-- A row of `workflow_runs` with its key. -/
structure SourceRun where
  runId : String
  run : WorkflowRun
  interruptPayload : Option GmailReference
deriving DecidableEq

/-- What a call raises. -/
inductive JobRecordsError where
  | missingRun
  | notCreated
  | noResultFound
  | multipleResultsFound
deriving DecidableEq, Repr

section

variable (uuid5 : String → String)

/-- `_deterministic_run_id`, of `uuid5` in the URL namespace. -/
def deterministicRunId (idempotencyKey : String) : String :=
  uuid5 ("freight-ap:gmail:" ++ idempotencyKey)

/-- The document a call inserts. -/
def jobDocument (job : InvoiceJobEnvelope) (id : Nat) : SourceDocument where
  id := id
  filename := job.filename
  docType := "unknown"
  status := "received"
  sourceType := some "gmail"
  sourceIdempotencyKey := some job.idempotencyKey
  sourceMessageId := some job.messageId
  sourcePartId := some job.mimePartId
  sourceEnqueuedAt := some job.enqueuedAt
  contentSha256 := some job.contentSha256

/-- The run a call inserts. -/
def jobRun (job : InvoiceJobEnvelope) (documentId : Nat) : SourceRun where
  runId := deterministicRunId uuid5 job.idempotencyKey
  run := ⟨documentId, .running, .running, .notReady⟩
  interruptPayload := some ⟨job.messageId, job.gmailThreadId⟩

end

/-! ## The calls -/

/-- Where a call is.  From `inserted` on it has an uncommitted document, from
`runInserted` on also the run. -/
inductive JobPhase where
  | idle
  | selecting
  | found (document : SourceDocument)
  | inserting
  | inserted (document : SourceDocument)
  | runInserted (document : SourceDocument) (run : SourceRun)
  | violated
  | reselected (document : SourceDocument)
  | returned (document : SourceDocument) (run : SourceRun)
  | raised (error : JobRecordsError)
  | stopped
deriving DecidableEq

namespace JobPhase

/-- The uncommitted document of a call. -/
def document? : JobPhase → Option SourceDocument
  | .inserted d => some d
  | .runInserted d _ => some d
  | _ => none

/-- The uncommitted run of a call. -/
def run? : JobPhase → Option SourceRun
  | .runInserted _ r => some r
  | _ => none

/-- Whether the call has returned its rows. -/
def isReturned : JobPhase → Bool
  | .returned _ _ => true
  | _ => false

theorem isReturned_iff {p : JobPhase} : p.isReturned = true ↔ ∃ d r, p = .returned d r := by
  cases p <;> simp [isReturned]

/-- Whether the call is under way. -/
def running : JobPhase → Bool
  | .idle => false
  | .returned _ _ => false
  | .raised _ => false
  | .stopped => false
  | _ => true

end JobPhase

/-- The committed rows, and the next value of the sequence of document ids. -/
structure JobTables where
  documents : List SourceDocument
  runs : List SourceRun
  nextId : Nat

/-- The committed rows and the calls. -/
structure JobStore (n : Nat) where
  tables : JobTables
  phase : Fin n → JobPhase

/-- The next statement of a call, a commit whose answer is lost, or the end of
a call at any point. -/
inductive JobAction (n : Nat) where
  | advance (c : Fin n)
  | commitLost (c : Fin n)
  | stop (c : Fin n)

namespace JobTables

/-- The documents of a key. -/
def documentsOf (db : JobTables) (key : String) : List SourceDocument :=
  db.documents.filter (·.sourceIdempotencyKey = some key)

/-- `_find_run_for_document`. -/
def findRunForDocument (db : JobTables) (documentId : Nat) : Option SourceRun :=
  db.runs.find? (·.run.documentId = documentId)

/-- The sequence goes on. -/
def bump (db : JobTables) : JobTables := { db with nextId := db.nextId + 1 }

/-- Commit a document and its run. -/
def commit (db : JobTables) (d : SourceDocument) (r : SourceRun) : JobTables :=
  { db with documents := db.documents ++ [d], runs := db.runs ++ [r] }

end JobTables

namespace JobStore

variable {n : Nat} (uuid5 : String → String) (jobs : Fin n → InvoiceJobEnvelope)

/-- A call goes on to another phase. -/
def goto (st : JobStore n) (c : Fin n) (p : JobPhase) : JobStore n :=
  { st with phase := Function.update st.phase c p }

/-- The tables are written. -/
def write (st : JobStore n) (db : JobTables) : JobStore n := { st with tables := db }

/-- Whether a call has an uncommitted document of a key. -/
def insertingDocument (st : JobStore n) (key : String) : Bool :=
  decide (∃ e, (st.phase e).document?.any (·.sourceIdempotencyKey = some key) = true)

/-- Whether a call has an uncommitted run of an id. -/
def insertingRun (st : JobStore n) (runId : String) : Bool :=
  decide (∃ e, (st.phase e).run?.any (·.runId = runId) = true)

/-- The next statement of a call. -/
def advance (st : JobStore n) (c : Fin n) : Option (JobStore n) :=
  let db := st.tables
  let job := jobs c
  match st.phase c with
  | .idle => some (st.goto c .selecting)
  | .selecting =>
      match db.documentsOf job.idempotencyKey with
      | [] => some (st.goto c .inserting)
      | [d] => some (st.goto c (.found d))
      | _ => some (st.goto c (.raised .multipleResultsFound))
  | .found d =>
      match db.findRunForDocument d.id with
      | some r => some (st.goto c (.returned d r))
      | none => some (st.goto c (.raised .missingRun))
  | .inserting =>
      if st.insertingDocument job.idempotencyKey then none
      else if db.documentsOf job.idempotencyKey ≠ [] then
        some ((st.write db.bump).goto c .violated)
      else some ((st.write db.bump).goto c (.inserted (jobDocument job db.nextId)))
  | .inserted d =>
      let run := jobRun uuid5 job d.id
      if st.insertingRun run.runId then none
      else if db.runs.any (·.runId = run.runId) then some (st.goto c .violated)
      else some (st.goto c (.runInserted d run))
  | .runInserted d r => some ((st.write (db.commit d r)).goto c (.returned d r))
  | .violated =>
      match db.documentsOf job.idempotencyKey with
      | [] => some (st.goto c (.raised .noResultFound))
      | [d] => some (st.goto c (.reselected d))
      | _ => some (st.goto c (.raised .multipleResultsFound))
  | .reselected d =>
      match db.findRunForDocument d.id with
      | some r => some (st.goto c (.returned d r))
      | none => some (st.goto c (.raised .notCreated))
  | _ => none

/-- One step. -/
def step (st : JobStore n) : JobAction n → Option (JobStore n)
  | .advance c => st.advance uuid5 jobs c
  | .commitLost c =>
      match st.phase c with
      | .runInserted d r => some ((st.write (st.tables.commit d r)).goto c .stopped)
      | _ => none
  | .stop c => if (st.phase c).running then some (st.goto c .stopped) else none

/-! ## The invariant -/

/-- The key of the job of a call. -/
def key (c : Fin n) : String := (jobs c).idempotencyKey

/-- The committed document of a job. -/
structure Stored (documents : List SourceDocument) (c : Fin n) (d : SourceDocument) : Prop where
  mem : d ∈ documents
  key : d.sourceIdempotencyKey = some (key jobs c)

/-- The document of a job, not committed yet. -/
structure Pending (db : JobTables) (c : Fin n) (d : SourceDocument) : Prop where
  key : d.sourceIdempotencyKey = some (key jobs c)
  below : d.id < db.nextId
  new : ∀ d' ∈ db.documents, d'.id ≠ d.id
  runs : ∀ r ∈ db.runs, r.run.documentId ≠ d.id
  first : ∀ d', ¬Stored jobs db.documents c d'

/-- What the phase of a call says about the tables. -/
def Holds (db : JobTables) (c : Fin n) : JobPhase → Prop
  | .found d => Stored jobs db.documents c d
  | .inserted d => Pending jobs db c d
  | .runInserted d r => Pending jobs db c d ∧ r.run.documentId = d.id ∧
      r.runId = deterministicRunId uuid5 (key jobs c)
  | .violated => ∃ d, Stored jobs db.documents c d
  | .reselected d => Stored jobs db.documents c d
  | .returned d r => Stored jobs db.documents c d ∧ r ∈ db.runs ∧ r.run.documentId = d.id
  | .raised _ => False
  | _ => True

/-- What the committed rows promise.  Rows of other sources are left open. -/
structure Consistent (db : JobTables) : Prop where
  ids : Table.Keyed SourceDocument.id db.documents
  below : ∀ d ∈ db.documents, d.id < db.nextId
  runBelow : ∀ r ∈ db.runs, r.run.documentId < db.nextId
  /-- The unique index on `source_idempotency_key`. -/
  keys : ∀ c d d', Stored jobs db.documents c d → Stored jobs db.documents c d' → d = d'
  /-- The unique index on `run_id`. -/
  runIds : Table.Keyed SourceRun.runId db.runs
  paired : ∀ c d, Stored jobs db.documents c d →
    ∃ r ∈ db.runs, r.run.documentId = d.id ∧ r.runId = deterministicRunId uuid5 (key jobs c)
  single : ∀ c d, Stored jobs db.documents c d → ∀ r ∈ db.runs, r.run.documentId = d.id →
    r.runId = deterministicRunId uuid5 (key jobs c)
  owned : ∀ r ∈ db.runs, ∀ c, r.runId = deterministicRunId uuid5 (key jobs c) →
    ∃ d, Stored jobs db.documents c d ∧ r.run.documentId = d.id

/-- The invariant of the calls. -/
structure Sound (st : JobStore n) : Prop where
  rows : Consistent uuid5 jobs st.tables
  calls : ∀ c, Holds uuid5 jobs st.tables c (st.phase c)
  /-- Two uncommitted documents are of different jobs. -/
  apart : ∀ c e d d', (st.phase c).document? = some d → (st.phase e).document? = some d' →
    c ≠ e → key jobs c ≠ key jobs e ∧ d.id ≠ d'.id

section

variable {uuid5 jobs} {st st' : JobStore n} {db db' : JobTables} {c : Fin n} {d : SourceDocument}
  {r : SourceRun}

@[simp] theorem goto_self (p : JobPhase) : (st.goto c p).phase c = p := Function.update_self ..

theorem goto_of_ne {e : Fin n} (p : JobPhase) (he : e ≠ c) :
    (st.goto c p).phase e = st.phase e := Function.update_of_ne he ..

/-- The query for the document of a job finds none, or one. -/
theorem Consistent.documentsOf (h : Consistent uuid5 jobs db) (c : Fin n) :
    (db.documentsOf (key jobs c) = [] ∧ ∀ d, ¬Stored jobs db.documents c d) ∨
      ∃ d, db.documentsOf (key jobs c) = [d] ∧ Stored jobs db.documents c d := by
  by_cases hd : ∃ d, Stored jobs db.documents c d
  · obtain ⟨d, hd⟩ := hd
    refine .inr ⟨d, ?_, hd⟩
    refine Table.filter_eq_singleton h.ids hd.mem (decide_eq_true hd.key) fun d' hd' hk => ?_
    exact h.keys c d' d ⟨hd', of_decide_eq_true hk⟩ hd
  · push Not at hd
    refine .inl ⟨List.filter_eq_nil_iff.mpr fun d hmem hk => ?_, hd⟩
    exact hd d ⟨hmem, of_decide_eq_true hk⟩

/-- A stored document has its run. -/
theorem Consistent.findRun (h : Consistent uuid5 jobs db) (hd : Stored jobs db.documents c d) :
    ∃ r, db.findRunForDocument d.id = some r ∧ r ∈ db.runs ∧ r.run.documentId = d.id := by
  obtain ⟨r, hr, hid, -⟩ := h.paired c d hd
  cases hf : db.findRunForDocument d.id with
  | none =>
      have := List.find?_eq_none.mp hf r hr
      simp [hid] at this
  | some r' => exact ⟨r', rfl, List.mem_of_find?_eq_some hf, by simpa using List.find?_some hf⟩

/-- A stored document has one run. -/
theorem Consistent.run_unique (h : Consistent uuid5 jobs db) (hd : Stored jobs db.documents c d)
    {r' : SourceRun} (hr : r ∈ db.runs) (hid : r.run.documentId = d.id) (hr' : r' ∈ db.runs)
    (hid' : r'.run.documentId = d.id) : r = r' :=
  Table.eq_of_key h.runIds hr hr' ((h.single c d hd r hr hid).trans
    (h.single c d hd r' hr' hid').symm)

/-- The two queries for the run of a stored document find it. -/
theorem Consistent.runs_eq (h : Consistent uuid5 jobs db) (hd : Stored jobs db.documents c d)
    (hr : r ∈ db.runs) (hid : r.run.documentId = d.id) :
    db.runs.filter (·.run.documentId = d.id) = [r] ∧
      db.runs.filter (·.runId = deterministicRunId uuid5 (key jobs c)) = [r] := by
  have hrid := h.single c d hd r hr hid
  refine ⟨Table.filter_eq_singleton h.runIds hr (decide_eq_true hid) fun r' hr' hid' => ?_,
    Table.filter_eq_singleton h.runIds hr (decide_eq_true hrid) fun r' hr' hid' => ?_⟩
  · exact h.run_unique hd hr' (of_decide_eq_true hid') hr hid
  · exact Table.eq_of_key h.runIds hr' hr ((of_decide_eq_true hid').trans hrid.symm)

/-- What a call knows stays true as rows are added. -/
theorem Holds.frame {p : JobPhase} (h : Holds uuid5 jobs db c p)
    (hdocs : ∀ d ∈ db.documents, d ∈ db'.documents) (hruns : ∀ r ∈ db.runs, r ∈ db'.runs)
    (hpending : ∀ d, p.document? = some d → Pending jobs db c d → Pending jobs db' c d) :
    Holds uuid5 jobs db' c p := by
  cases p with
  | found d => exact ⟨hdocs d h.mem, h.key⟩
  | inserted d => exact hpending d rfl h
  | runInserted d r => exact ⟨hpending d rfl h.1, h.2⟩
  | violated =>
      obtain ⟨d, hd⟩ := h
      exact ⟨d, hdocs d hd.mem, hd.key⟩
  | reselected d => exact ⟨hdocs d h.mem, h.key⟩
  | returned d r =>
      obtain ⟨hd, hr, hid⟩ := h
      exact ⟨⟨hdocs d hd.mem, hd.key⟩, hruns r hr, hid⟩
  | raised error => exact h
  | _ => trivial

/-- The rule for a step of one call: the tables stay consistent, the other calls
know what they knew, and a new uncommitted document is apart from theirs. -/
theorem Sound.frame (h : st.Sound uuid5 jobs) {p : JobPhase} (hrows : Consistent uuid5 jobs db)
    (hp : Holds uuid5 jobs db c p)
    (hothers : ∀ e, e ≠ c → Holds uuid5 jobs db e (st.phase e))
    (hdoc : ∀ d, p.document? = some d → ∀ e d', e ≠ c → (st.phase e).document? = some d' →
      key jobs c ≠ key jobs e ∧ d.id ≠ d'.id) : ((st.write db).goto c p).Sound uuid5 jobs := by
  refine ⟨hrows, fun e => ?_, fun e f d d' hd hd' hne => ?_⟩
  · by_cases he : e = c
    · subst he
      rw [goto_self]
      exact hp
    · rw [goto_of_ne p he]
      exact hothers e he
  · by_cases he : e = c
    · subst he
      rw [goto_self] at hd
      rw [goto_of_ne p hne.symm] at hd'
      exact hdoc d hd f d' hne.symm hd'
    · rw [goto_of_ne p he] at hd
      by_cases hf : f = c
      · subst hf
        rw [goto_self] at hd'
        obtain ⟨hk, hid⟩ := hdoc d' hd' e d he hd
        exact ⟨hk.symm, hid.symm⟩
      · rw [goto_of_ne p hf] at hd'
        exact h.apart e f d d' hd hd' hne

/-- A call goes on, and the tables stay. -/
theorem Sound.goto (h : st.Sound uuid5 jobs) {p : JobPhase} (hp : Holds uuid5 jobs st.tables c p)
    (hdoc : ∀ d, p.document? = some d → (st.phase c).document? = some d) :
    (st.goto c p).Sound uuid5 jobs :=
  h.frame h.rows hp (fun e _ => h.calls e) fun d hd e d' he hd' =>
    h.apart c e d d' (hdoc d hd) hd' (Ne.symm he)

theorem Consistent.bump (h : Consistent uuid5 jobs db) : Consistent uuid5 jobs db.bump where
  ids := h.ids
  below d hd := Nat.lt_succ_of_lt (h.below d hd)
  runBelow r hr := Nat.lt_succ_of_lt (h.runBelow r hr)
  keys := h.keys
  runIds := h.runIds
  paired := h.paired
  single := h.single
  owned := h.owned

theorem Holds.bump {p : JobPhase} (h : Holds uuid5 jobs db c p) :
    Holds uuid5 jobs db.bump c p :=
  h.frame (fun _ h => h) (fun _ h => h) fun _ _ hd =>
    ⟨hd.key, Nat.lt_succ_of_lt hd.below, hd.new, hd.runs, hd.first⟩

/-- The commit of a pending document and its run. -/
theorem Consistent.commit (h : Consistent uuid5 jobs db)
    (hinj : ∀ c e, deterministicRunId uuid5 (key jobs c) = deterministicRunId uuid5 (key jobs e) →
      key jobs c = key jobs e)
    (hd : Pending jobs db c d) (hid : r.run.documentId = d.id)
    (hrun : r.runId = deterministicRunId uuid5 (key jobs c)) :
    Consistent uuid5 jobs (db.commit d r) := by
  -- A committed row of the key is an old one, or the new one for a job of the same key.
  have hcases : ∀ e d', Stored jobs (db.documents ++ [d]) e d' →
      (Stored jobs db.documents e d' ∧ key jobs e ≠ key jobs c) ∨
        (d' = d ∧ key jobs e = key jobs c) := by
    intro e d' hs
    have hk := hs.key
    rcases List.mem_append.mp hs.mem with hold | hnew
    · refine .inl ⟨⟨hold, hk⟩, fun he => hd.first d' ⟨hold, ?_⟩⟩
      rw [hk, he]
    · have := List.mem_singleton.mp hnew
      subst this
      exact .inr ⟨rfl, Option.some.inj (hk.symm.trans hd.key)⟩
  refine ⟨Table.keyed_concat h.ids hd.new, fun d' hd' => ?_, fun r' hr' => ?_,
    fun e d₁ d₂ h₁ h₂ => ?_, Table.keyed_concat h.runIds fun r' hr' he => ?_, fun e d' hs => ?_,
    fun e d' hs r' hr' he => ?_, fun r' hr' e he => ?_⟩
  · rcases List.mem_append.mp hd' with hold | hnew
    · exact h.below d' hold
    · exact List.mem_singleton.mp hnew ▸ hd.below
  · rcases List.mem_append.mp hr' with hold | hnew
    · exact h.runBelow r' hold
    · rw [List.mem_singleton.mp hnew, hid]
      exact hd.below
  · rcases hcases e d₁ h₁ with ⟨h₁, hne⟩ | ⟨rfl, he⟩
    · rcases hcases e d₂ h₂ with ⟨h₂, -⟩ | ⟨-, he⟩
      · exact h.keys e d₁ d₂ h₁ h₂
      · exact absurd he hne
    · rcases hcases e d₂ h₂ with ⟨-, hne⟩ | ⟨rfl, -⟩
      · exact absurd he hne
      · rfl
  · obtain ⟨d', hs, -⟩ := h.owned r' hr' c (he.trans hrun)
    exact hd.first d' hs
  · rcases hcases e d' hs with ⟨hs, -⟩ | ⟨rfl, he⟩
    · obtain ⟨r', hr', hrest⟩ := h.paired e d' hs
      exact ⟨r', List.mem_append_left _ hr', hrest⟩
    · exact ⟨r, List.mem_append_right _ (List.mem_singleton_self r), hid, he ▸ hrun⟩
  · rcases hcases e d' hs with ⟨hs, -⟩ | ⟨rfl, hek⟩
    · rcases List.mem_append.mp hr' with hold | hnew
      · exact h.single e d' hs r' hold he
      · rw [List.mem_singleton.mp hnew, hid] at he
        exact absurd he.symm (hd.new d' hs.mem)
    · rcases List.mem_append.mp hr' with hold | hnew
      · exact absurd he (hd.runs r' hold)
      · rw [List.mem_singleton.mp hnew, hek]
        exact hrun
  · rcases List.mem_append.mp hr' with hold | hnew
    · obtain ⟨d', hs, hd'⟩ := h.owned r' hold e he
      exact ⟨d', ⟨List.mem_append_left _ hs.mem, hs.key⟩, hd'⟩
    · rw [List.mem_singleton.mp hnew] at he ⊢
      have hk := hinj c e (hrun.symm.trans he)
      exact ⟨d, ⟨List.mem_append_right _ (List.mem_singleton_self d), hd.key.trans (by rw [hk])⟩,
        hid⟩

/-- A pending document stays so when another job's is committed. -/
theorem Pending.commit {e : Fin n} {d' : SourceDocument} (h : Pending jobs db e d')
    (hd : Pending jobs db c d) (hid : r.run.documentId = d.id)
    (hapart : JobStore.key jobs e ≠ JobStore.key jobs c ∧ d'.id ≠ d.id) :
    Pending jobs (db.commit d r) e d' := by
  refine ⟨h.key, h.below, fun d₁ hd₁ => ?_, fun r₁ hr₁ => ?_, fun d₁ hs => ?_⟩
  · rcases List.mem_append.mp hd₁ with hold | hnew
    · exact h.new d₁ hold
    · rw [List.mem_singleton.mp hnew]
      exact Ne.symm hapart.2
  · rcases List.mem_append.mp hr₁ with hold | hnew
    · exact h.runs r₁ hold
    · rw [List.mem_singleton.mp hnew, hid]
      exact Ne.symm hapart.2
  · rcases List.mem_append.mp hs.mem with hold | hnew
    · exact h.first d₁ ⟨hold, hs.key⟩
    · have hk := hs.key
      rw [List.mem_singleton.mp hnew, hd.key] at hk
      exact hapart.1 (Option.some.inj hk).symm

/-- A commit of a call, whatever becomes of its answer. -/
theorem Sound.commit (h : st.Sound uuid5 jobs)
    (hinj : ∀ c e, deterministicRunId uuid5 (key jobs c) = deterministicRunId uuid5 (key jobs e) →
      key jobs c = key jobs e)
    (hphase : st.phase c = .runInserted d r) {p : JobPhase}
    (hp : p = .returned d r ∨ p = .stopped) :
    ((st.write (st.tables.commit d r)).goto c p).Sound uuid5 jobs := by
  have hc := h.calls c
  rw [hphase] at hc
  obtain ⟨hd, hid, hrun⟩ := hc
  refine h.frame (h.rows.commit hinj hd hid hrun) ?_ (fun e he => ?_) fun d' hd' => ?_
  · rcases hp with rfl | rfl
    · exact ⟨⟨List.mem_append_right _ (List.mem_singleton_self d), hd.key⟩,
        List.mem_append_right _ (List.mem_singleton_self r), hid⟩
    · trivial
  · refine (h.calls e).frame (fun _ => List.mem_append_left _) (fun _ => List.mem_append_left _)
      fun d' hd' hpend => hpend.commit hd hid ?_
    exact h.apart e c d' d hd' (by rw [hphase]; rfl) he
  · rcases hp with rfl | rfl <;> cases hd'

/-- A call that finds its document goes on to its run. -/
theorem Sound.returned (h : st.Sound uuid5 jobs) (hs : Stored jobs st.tables.documents c d)
    {error : JobRecordsError} {st' : JobStore n}
    (hstep : (match st.tables.findRunForDocument d.id with
      | some r => some (st.goto c (.returned d r))
      | none => some (st.goto c (.raised error))) = some st') : st'.Sound uuid5 jobs := by
  obtain ⟨r, hf, hr, hid⟩ := h.rows.findRun hs
  rw [hf] at hstep
  cases hstep
  exact h.goto ⟨hs, hr, hid⟩ fun d' hd' => (by cases hd')

/-- Every statement keeps the invariant. -/
theorem sound_advance (h : st.Sound uuid5 jobs)
    (hinj : ∀ c e, deterministicRunId uuid5 (key jobs c) = deterministicRunId uuid5 (key jobs e) →
      key jobs c = key jobs e)
    (hs : st.advance uuid5 jobs c = some st') : st'.Sound uuid5 jobs := by
  have hc := h.calls c
  unfold advance at hs
  cases hp : st.phase c with
  | idle =>
      rw [hp] at hs
      cases hs
      exact h.goto trivial fun d hd => (by cases hd)
  | selecting =>
      simp only [hp] at hs
      rcases h.rows.documentsOf c with ⟨hnil, -⟩ | ⟨d, hone, hd⟩
      · rw [show st.tables.documentsOf (jobs c).idempotencyKey = [] from hnil] at hs
        cases hs
        exact h.goto trivial fun d hd => (by cases hd)
      · rw [show st.tables.documentsOf (jobs c).idempotencyKey = [d] from hone] at hs
        cases hs
        exact h.goto hd fun d hd => (by cases hd)
  | found d =>
      rw [hp] at hc
      simp only [hp] at hs
      exact h.returned hc hs
  | inserting =>
      simp only [hp] at hs
      split at hs
      · cases hs
      next hfree =>
        rcases h.rows.documentsOf c with ⟨hnil, hnone⟩ | ⟨d, hone, hd⟩
        · rw [show st.tables.documentsOf (jobs c).idempotencyKey = [] from hnil,
            if_neg (not_not.mpr rfl)] at hs
          cases hs
          let d := jobDocument (jobs c) st.tables.nextId
          refine h.frame h.rows.bump ?_ (fun e _ => (h.calls e).bump) fun d' hd' e d₂ he hd₂ => ?_
          · exact ⟨rfl, Nat.lt_succ_self _, fun d' hd' => Nat.ne_of_lt (h.rows.below d' hd'),
              fun r hr => Nat.ne_of_lt (h.rows.runBelow r hr), hnone⟩
          · cases hd'
            -- The other document is older, and would have blocked one of its key.
            have hpend : Pending jobs st.tables e d₂ := by
              have hcall := h.calls e
              cases hpe : st.phase e with
              | inserted d =>
                  rw [hpe] at hcall hd₂
                  cases hd₂
                  exact hcall
              | runInserted d r =>
                  rw [hpe] at hcall hd₂
                  cases hd₂
                  exact hcall.1
              | _ =>
                  rw [hpe] at hd₂
                  cases hd₂
            refine ⟨fun hk => hfree ?_, Ne.symm (Nat.ne_of_lt hpend.below)⟩
            unfold insertingDocument
            refine decide_eq_true ⟨e, ?_⟩
            rw [hd₂, Option.any_some, decide_eq_true_iff, hpend.key]
            exact congrArg some hk.symm
        · rw [show st.tables.documentsOf (jobs c).idempotencyKey = [d] from hone,
            if_pos (List.cons_ne_nil d [])] at hs
          cases hs
          refine h.frame h.rows.bump (Holds.bump (p := .violated) ⟨d, hd⟩)
            (fun e _ => (h.calls e).bump) fun d' hd' => (by cases hd')
  | inserted d =>
      rw [hp] at hc
      simp only [hp] at hs
      split at hs
      · cases hs
      · split at hs
        next hrun =>
          cases hs
          obtain ⟨r, hr, hid⟩ := List.any_eq_true.mp hrun
          obtain ⟨d', hd', -⟩ := h.rows.owned r hr c (of_decide_eq_true hid)
          exact h.goto (p := .violated) ⟨d', hd'⟩ fun d hd => (by cases hd)
        · cases hs
          refine h.goto (p := .runInserted d (jobRun uuid5 (jobs c) d.id)) ⟨hc, rfl, rfl⟩
            fun d' hd' => ?_
          cases hd'
          rw [hp]
          rfl
  | runInserted d r =>
      simp only [hp] at hs
      cases hs
      exact h.commit hinj hp (.inl rfl)
  | violated =>
      rw [hp] at hc
      simp only [hp] at hs
      obtain ⟨d', hd'⟩ := hc
      rcases h.rows.documentsOf c with ⟨-, hnone⟩ | ⟨d, hone, hd⟩
      · exact absurd hd' (hnone d')
      · rw [show st.tables.documentsOf (jobs c).idempotencyKey = [d] from hone] at hs
        cases hs
        exact h.goto hd fun d hd => (by cases hd)
  | reselected d =>
      rw [hp] at hc
      simp only [hp] at hs
      exact h.returned hc hs
  | _ =>
      rw [hp] at hs
      cases hs

theorem sound_step {a : JobAction n} (h : st.Sound uuid5 jobs)
    (hinj : ∀ c e, deterministicRunId uuid5 (key jobs c) = deterministicRunId uuid5 (key jobs e) →
      key jobs c = key jobs e)
    (hs : st.step uuid5 jobs a = some st') : st'.Sound uuid5 jobs := by
  cases a with
  | advance c => exact sound_advance h hinj hs
  | commitLost c =>
      simp only [step] at hs
      split at hs
      next d r hp =>
        cases hs
        exact h.commit hinj hp (.inr rfl)
      · cases hs
  | stop c =>
      simp only [step] at hs
      split at hs
      · cases hs
        exact h.goto trivial fun d hd => (by cases hd)
      · cases hs

end

/-! ## In every run -/

/-- A consistent database, and no call yet. -/
structure Start (st : JobStore n) : Prop where
  rows : Consistent uuid5 jobs st.tables
  idle : ∀ c, st.phase c = .idle

variable {uuid5 jobs}

theorem Start.sound {st : JobStore n} (h : st.Start uuid5 jobs) : st.Sound uuid5 jobs := by
  refine ⟨h.rows, fun c => ?_, fun c e d d' hd => ?_⟩
  · rw [h.idle]
    trivial
  · rw [h.idle] at hd
    cases hd

/-- However the calls interleave and wherever they end, there is at most one
document of a job and one run of it, a committed document has its run, every
call that returns returns these two, and no call raises. -/
theorem job_records_once {st st' : JobStore n} (h : st.Start uuid5 jobs)
    (hinj : ∀ c e, deterministicRunId uuid5 (key jobs c) = deterministicRunId uuid5 (key jobs e) →
      key jobs c = key jobs e)
    {as : List (JobAction n)} (hrun : Run (Fires (step uuid5 jobs)) st as st') :
    (∀ c, (st'.tables.documentsOf (key jobs c)).length ≤ 1) ∧
      (∀ c, ∀ d ∈ st'.tables.documentsOf (key jobs c), ∃ r,
        st'.tables.runs.filter (·.run.documentId = d.id) = [r] ∧
        st'.tables.runs.filter (·.runId = deterministicRunId uuid5 (key jobs c)) = [r]) ∧
      (∀ c, st'.tables.documentsOf (key jobs c) = [] →
        st'.tables.runs.filter (·.runId = deterministicRunId uuid5 (key jobs c)) = []) ∧
      (∀ c d r, st'.phase c = .returned d r → st'.tables.documentsOf (key jobs c) = [d] ∧
        st'.tables.runs.filter (·.run.documentId = d.id) = [r] ∧
        st'.tables.runs.filter (·.runId = deterministicRunId uuid5 (key jobs c)) = [r]) ∧
      (∀ c e d r d' r', st'.phase c = .returned d r → st'.phase e = .returned d' r' →
        key jobs c = key jobs e → d = d' ∧ r = r') ∧
      ∀ c error, st'.phase c ≠ .raised error := by
  have hs : st'.Sound uuid5 jobs :=
    hrun.preserves (Sound uuid5 jobs) h.sound fun _ _ _ ih hs => sound_step ih hinj hs
  have hrows := hs.rows
  have hreturned : ∀ c d r, st'.phase c = .returned d r →
      Stored jobs st'.tables.documents c d ∧ r ∈ st'.tables.runs ∧ r.run.documentId = d.id := by
    intro c d r hc
    have hcall := hs.calls c
    rw [hc] at hcall
    exact hcall
  refine ⟨fun c => ?_, fun c d hd => ?_, fun c hnil => ?_, fun c d r hc => ?_,
    fun c e d r d' r' hc he hk => ?_, fun c error hc => ?_⟩
  · rcases hrows.documentsOf c with ⟨hnil, -⟩ | ⟨d, hone, -⟩
    · rw [hnil]
      exact Nat.zero_le 1
    · rw [hone]
      exact Nat.le_refl 1
  · obtain ⟨hmem, hk⟩ := List.mem_filter.mp hd
    have hd' : Stored jobs st'.tables.documents c d := ⟨hmem, of_decide_eq_true hk⟩
    obtain ⟨r, hr, hid, -⟩ := hrows.paired c d hd'
    exact ⟨r, hrows.runs_eq hd' hr hid⟩
  · refine List.filter_eq_nil_iff.mpr fun r hr hid => ?_
    obtain ⟨d, hd, -⟩ := hrows.owned r hr c (of_decide_eq_true hid)
    have hmem : d ∈ st'.tables.documentsOf (key jobs c) :=
      List.mem_filter.mpr ⟨hd.mem, decide_eq_true hd.key⟩
    rw [hnil] at hmem
    cases hmem
  · obtain ⟨hd, hr, hid⟩ := hreturned c d r hc
    refine ⟨?_, hrows.runs_eq hd hr hid⟩
    rcases hrows.documentsOf c with ⟨-, hnone⟩ | ⟨d', hone, hd'⟩
    · exact absurd hd (hnone d)
    · rw [hone, hrows.keys c d' d hd' hd]
  · obtain ⟨hd, hr, hid⟩ := hreturned c d r hc
    obtain ⟨hd', hr', hid'⟩ := hreturned e d' r' he
    have hdd : d = d' := hrows.keys c d d' hd ⟨hd'.mem, hd'.key.trans (congrArg some hk.symm)⟩
    subst hdd
    exact ⟨rfl, hrows.run_unique hd hr hid hr' hid'⟩
  · have hcall := hs.calls c
    rw [hc] at hcall
    exact hcall

end JobStore

/-! ## Two calls of one job -/

/-- `uuid5` on the names of two keys. -/
def sampleUuid5 (name : String) : String :=
  if name = "freight-ap:gmail:" ++ sampleKey 'a' then "6e75707b-8d54-5de5-ac37-35aa313cc02c"
  else "6b785ad2-1a16-59a9-87ac-1754fc05488b"

/-- Two deliveries of one job and a delivery of another. -/
def racingJobs (c : Fin 3) : InvoiceJobEnvelope := sampleJob (if c.val = 2 then 'b' else 'a')

/-- No row yet. -/
def noRecords : JobStore 3 := ⟨⟨[], [], 1⟩, fun _ => .idle⟩

/-- The loser of the race waits, is refused and finds the winner's rows. -/
def racingCalls : List (JobAction 3) :=
  [0, 1, 0, 1, 0, 2, 0, 0, 1, 1, 1].filterMap fun c : Nat =>
    if h : c < 3 then some (.advance ⟨c, h⟩) else none

theorem noRecords_start : noRecords.Start sampleUuid5 racingJobs := by
  have hnone : ∀ c d, ¬JobStore.Stored racingJobs noRecords.tables.documents c d := by
    rintro c d ⟨hd, -⟩
    cases hd
  exact ⟨⟨List.nodup_nil, fun d hd => (by cases hd), fun r hr => (by cases hr),
    fun c d _ hd => absurd hd (hnone c d), List.nodup_nil, fun c d hd => absurd hd (hnone c d),
    fun c d hd => absurd hd (hnone c d), fun r hr => (by cases hr)⟩, fun _ => rfl⟩

theorem racingCalls_once :
    ∃ st d r d' r', Run (Fires (JobStore.step sampleUuid5 racingJobs)) noRecords racingCalls st ∧
      st.phase 0 = .returned d r ∧ st.phase 1 = .returned d' r' ∧ d = d' ∧ r = r' ∧
      st.tables.documentsOf (sampleKey 'a') = [d] := by
  let final := exec (JobStore.step sampleUuid5 racingJobs) noRecords racingCalls
  have hsome : final.isSome = true := by decide +kernel
  have hdata : final.all (fun st => (st.phase 0).isReturned && (st.phase 1).isReturned) = true := by
    decide +kernel
  have hinj : ∀ c e, deterministicRunId sampleUuid5 (JobStore.key racingJobs c) =
      deterministicRunId sampleUuid5 (JobStore.key racingJobs e) →
      JobStore.key racingJobs c = JobStore.key racingJobs e := by
    decide +kernel
  obtain ⟨st, hst⟩ := Option.isSome_iff_exists.mp hsome
  rw [hst, Option.all_some, Bool.and_eq_true] at hdata
  obtain ⟨d, r, h₀⟩ := JobPhase.isReturned_iff.mp hdata.1
  obtain ⟨d', r', h₁⟩ := JobPhase.isReturned_iff.mp hdata.2
  have hrun := run_of_exec hst
  obtain ⟨-, -, -, hstored, hsame, -⟩ := JobStore.job_records_once noRecords_start hinj hrun
  obtain ⟨hd, hr⟩ := hsame 0 1 d r d' r' h₀ h₁ rfl
  exact ⟨st, d, r, d', r', hrun, h₀, h₁, hd, hr, (hstored 0 d r h₀).1⟩

end FreightAP
