import Mathlib.Logic.Function.Basic
import FreightAP.Lib.Table
import FreightAP.Lib.Transition
import FreightAP.Models

/-!
# The dispatch of SLA notifications

Any number of `dispatch_pending_sla_notifications` loops over the event rows.
A loop takes an event in three transactions apart from the send: it locks the
row and commits the claim, sends the mail, and writes the outcome.  Each step
is one of these; a loop can stop between any two.

The loops take the rows in no given order, since the statement that orders
them may read an older version than the one it locks.  The logs of claims and
of delivered mails are for the reader.
-/

namespace FreightAP

open Transition

/-! ## The rows and the mail -/

/-- `ShipmentExceptionEvent.notification_status`. -/
inductive NotificationStatus where
  | pending
  | sending
  | sent
  | failed
deriving DecidableEq, Repr

/-- A row of `shipment_exception_events` with its notification columns, and the
load number of the shipment it is joined to. -/
structure EventRow where
  event : ShipmentExceptionEvent
  loadNumber : String
  notificationStatus : NotificationStatus
  notificationAttemptCount : Nat
  notificationLastError : Option String
  notificationSentAt : Option Int
deriving DecidableEq

/-- The text of a transition. -/
def ExceptionTransition.value : ExceptionTransition → String
  | .opened => "opened"
  | .changed => "changed"
  | .resolved => "resolved"

/-- The payload of a notification. -/
structure Payload where
  transition : ExceptionTransition
  loadNumber : String
  missingDocs : List String
  reasonCodes : List String
deriving DecidableEq

/-- The subject and the body of a mail. -/
structure Mail where
  subject : String
  body : String
deriving DecidableEq

/-- A list in the body of a mail. -/
def listText (items : List String) : String :=
  if items.isEmpty then "none" else ", ".intercalate items

/-- The message that `_send_shipment_exception_email` sends. -/
def shipmentExceptionEmail (p : Payload) : Mail where
  subject := "AP Workflow — shipment " ++ p.loadNumber ++ " SLA exception " ++ p.transition.value
  body := "\n".intercalate
    ["Shipment " ++ p.loadNumber,
     "Missing-document SLA exception: " ++ p.transition.value,
     "Missing required documents: " ++ listText p.missingDocs,
     "Reason codes: " ++ listText p.reasonCodes]

namespace EventRow

/-- The key of the row. -/
def id (r : EventRow) : Uuid := r.event.id

/-- A row as it is inserted. -/
def new (event : ShipmentExceptionEvent) (loadNumber : String) : EventRow :=
  ⟨event, loadNumber, .pending, 0, none, none⟩

/-- `notification_status.in_(["pending", "failed"])`. -/
def selectable (r : EventRow) : Bool :=
  r.notificationStatus = .pending || r.notificationStatus = .failed

/-- What the loop reads off the row before it claims it. -/
def payload (r : EventRow) : Payload :=
  ⟨r.event.transition, r.loadNumber, r.event.afterState.missingDocs,
    r.event.afterState.reasonCodes⟩

/-- The claimed row. -/
def claim (r : EventRow) : EventRow :=
  { r with
    notificationStatus := .sending,
    notificationAttemptCount := r.notificationAttemptCount + 1,
    notificationLastError := none }

/-- The row after its mail was sent. -/
def storeSent (now : Int) (r : EventRow) : EventRow :=
  { r with notificationStatus := .sent, notificationSentAt := some now }

/-- The row after its mail could not be sent. -/
def storeFailed (error : String) (r : EventRow) : EventRow :=
  { r with notificationStatus := .failed, notificationLastError := some error }

end EventRow

/-! ## The loops -/

/-- How a call of `_send_shipment_exception_email` ends. -/
inductive SendOutcome where
  | delivered
  | notAuthenticated
  | raised (message : String)

/-- Where a loop is.  The number is its `sent_count`. -/
inductive LoopPhase where
  | idle
  | selecting (sentCount : Nat)
  | locked (sentCount : Nat) (eventId : Uuid)
  | claimed (sentCount : Nat) (eventId : Uuid) (payload : Payload)
  | delivered (sentCount : Nat) (eventId : Uuid)
  | failing (sentCount : Nat) (eventId : Uuid) (error : String)
  | returned (sentCount : Nat)
  | stopped
deriving DecidableEq

namespace LoopPhase

/-- The event a loop has claimed and not settled. -/
def event? : LoopPhase → Option Uuid
  | .claimed _ k _ => some k
  | .delivered _ k => some k
  | .failing _ k _ => some k
  | _ => none

/-- The number of mails a loop counts as delivered. -/
def delivered? : LoopPhase → Option Nat
  | .idle => some 0
  | .selecting n => some n
  | .locked n _ => some n
  | .claimed n _ _ => some n
  | .delivered n _ => some (n + 1)
  | .failing n _ _ => some n
  | .returned n => some n
  | .stopped => none

/-- Whether the loop is under way. -/
def running : LoopPhase → Bool
  | .idle => false
  | .returned _ => false
  | .stopped => false
  | _ => true

end LoopPhase

/-- A mail that was delivered: by which loop, for which event. -/
structure Delivery where
  loop : Nat
  eventId : Uuid
  mail : Mail

/-- The committed rows, who has locked which, and the loops. -/
structure Dispatch where
  events : List EventRow
  holder : Uuid → Option Nat
  phase : Nat → LoopPhase
  claims : List Uuid
  deliveries : List Delivery

/-- A step of a loop, or the insert of an event. -/
inductive DispatchAction where
  | insert (event : ShipmentExceptionEvent) (loadNumber : String)
  | call (d : Nat)
  | select (d : Nat) (eventId : Uuid)
  | selectNone (d : Nat)
  | claim (d : Nat)
  | send (d : Nat) (outcome : SendOutcome)
  | store (d : Nat) (now : Int)
  | stop (d : Nat)

namespace Dispatch

/-- The row of an event. -/
def row? (st : Dispatch) (k : Uuid) : Option EventRow := Table.get? EventRow.id k st.events

/-- A loop goes on to another phase. -/
def goto (st : Dispatch) (d : Nat) (p : LoopPhase) : Dispatch :=
  { st with phase := Function.update st.phase d p }

/-- Write the row of an event, if there is one. -/
def update (st : Dispatch) (k : Uuid) (f : EventRow → EventRow) : Dispatch :=
  match st.row? k with
  | some r => { st with events := Table.put EventRow.id (f r) st.events }
  | none => st

/-- The lock of a row is taken or let go. -/
def lock (st : Dispatch) (k : Uuid) (d? : Option Nat) : Dispatch :=
  { st with holder := Function.update st.holder k d? }

/-- One step.  An update waits for the holder of the row. -/
def step (st : Dispatch) : DispatchAction → Option Dispatch
  | .insert event loadNumber =>
      if st.row? event.id = none then
        some { st with events := st.events ++ [EventRow.new event loadNumber] }
      else none
  | .call d => if st.phase d = .idle then some (st.goto d (.selecting 0)) else none
  | .select d k =>
      match st.phase d, st.row? k with
      | .selecting n, some r =>
          -- `SKIP LOCKED`.
          if r.selectable ∧ st.holder k = none then
            some ((st.lock k (some d)).goto d (.locked n k))
          else none
      | _, _ => none
  | .selectNone d =>
      match st.phase d with
      | .selecting n =>
          if st.events.all fun r => !r.selectable || (st.holder r.id).isSome then
            some (st.goto d (.returned n))
          else none
      | _ => none
  | .claim d =>
      match st.phase d with
      | .locked n k =>
          (st.row? k).map fun r =>
            { ((st.update k EventRow.claim).lock k none).goto d (.claimed n k r.payload) with
              claims := st.claims ++ [k] }
      | _ => none
  | .send d outcome =>
      match st.phase d with
      | .claimed n k payload =>
          match outcome with
          | .delivered =>
              some { st.goto d (.delivered n k) with
                deliveries := st.deliveries ++ [⟨d, k, shipmentExceptionEmail payload⟩] }
          | .notAuthenticated => some (st.goto d (.failing n k "Gmail is not authenticated"))
          | .raised message => some (st.goto d (.failing n k message))
      | _ => none
  | .store d now =>
      match st.phase d with
      | .delivered n k =>
          if st.holder k = none then
            some ((st.update k (EventRow.storeSent now)).goto d (.selecting (n + 1)))
          else none
      | .failing n k error =>
          if st.holder k = none then
            some ((st.update k (EventRow.storeFailed error)).goto d (.returned n))
          else none
      | _ => none
  | .stop d =>
      match st.phase d with
      | .locked _ k => some ((st.lock k none).goto d .stopped)
      | p => if p.running then some (st.goto d .stopped) else none

/-- The mails delivered for an event. -/
def mailsOf (st : Dispatch) (k : Uuid) : List Delivery := st.deliveries.filter (·.eventId = k)

/-- The mails delivered by a loop. -/
def mailsBy (st : Dispatch) (d : Nat) : List Delivery := st.deliveries.filter (·.loop = d)

/-! ## What a step does -/

/-- The steps, with what each of them needs and does. -/
inductive Stepped (st : Dispatch) : DispatchAction → Dispatch → Prop where
  | insert {event : ShipmentExceptionEvent} {loadNumber : String} : st.row? event.id = none →
      Stepped st (.insert event loadNumber)
        { st with events := st.events ++ [EventRow.new event loadNumber] }
  | call {d : Nat} : st.phase d = .idle → Stepped st (.call d) (st.goto d (.selecting 0))
  | select {d n : Nat} {k : Uuid} {r : EventRow} : st.phase d = .selecting n → st.row? k = some r →
      r.selectable = true → st.holder k = none →
      Stepped st (.select d k) ((st.lock k (some d)).goto d (.locked n k))
  | selectNone {d n : Nat} : st.phase d = .selecting n →
      Stepped st (.selectNone d) (st.goto d (.returned n))
  | claim {d n : Nat} {k : Uuid} {r : EventRow} : st.phase d = .locked n k → st.row? k = some r →
      Stepped st (.claim d)
        { ((st.update k EventRow.claim).lock k none).goto d (.claimed n k r.payload) with
          claims := st.claims ++ [k] }
  | deliver {d n : Nat} {k : Uuid} {payload : Payload} : st.phase d = .claimed n k payload →
      Stepped st (.send d .delivered)
        { st.goto d (.delivered n k) with
          deliveries := st.deliveries ++ [⟨d, k, shipmentExceptionEmail payload⟩] }
  | fail {d n : Nat} {k : Uuid} {payload : Payload} {outcome : SendOutcome} {error : String} :
      st.phase d = .claimed n k payload →
      Stepped st (.send d outcome) (st.goto d (.failing n k error))
  | storeSent {d n : Nat} {k : Uuid} {now : Int} : st.phase d = .delivered n k →
      Stepped st (.store d now)
        ((st.update k (EventRow.storeSent now)).goto d (.selecting (n + 1)))
  | storeFailed {d n : Nat} {k : Uuid} {now : Int} {error : String} : st.phase d = .failing n k error →
      Stepped st (.store d now) ((st.update k (EventRow.storeFailed error)).goto d (.returned n))
  | unlock {d n : Nat} {k : Uuid} : st.phase d = .locked n k →
      Stepped st (.stop d) ((st.lock k none).goto d .stopped)
  | stop {d : Nat} : (∀ n k, st.phase d ≠ .locked n k) → Stepped st (.stop d) (st.goto d .stopped)

section

variable {st st' : Dispatch} {d : Nat} {k : Uuid}

theorem row?_update {f : EventRow → EventRow} (hf : ∀ r, (f r).id = r.id) (j : Uuid) :
    (st.update k f).row? j = if j = k then (st.row? k).map f else st.row? j := by
  unfold update
  cases hr : st.row? k with
  | none =>
      by_cases hj : j = k
      · rw [if_pos hj, hj]
        exact hr
      · rw [if_neg hj]
  | some r =>
      have hk : (f r).id = k := (hf r).trans (Table.get?_some_key hr)
      show Table.get? EventRow.id j (Table.put EventRow.id (f r) st.events) = _
      by_cases hj : j = k
      · rw [if_pos hj, hj, ← hk]
        exact Table.get?_put_self
      · rw [if_neg hj]
        exact Table.get?_put_of_ne (hk.symm ▸ Ne.symm hj)

theorem update_eq (f : EventRow → EventRow) :
    st.update k f = { st with events := (st.update k f).events } := by
  unfold update
  split <;> rfl

@[simp] theorem update_phase (f : EventRow → EventRow) : (st.update k f).phase = st.phase := by
  rw [update_eq]

@[simp] theorem update_holder (f : EventRow → EventRow) : (st.update k f).holder = st.holder := by
  rw [update_eq]

@[simp] theorem update_claims (f : EventRow → EventRow) : (st.update k f).claims = st.claims := by
  rw [update_eq]

@[simp] theorem update_deliveries (f : EventRow → EventRow) :
    (st.update k f).deliveries = st.deliveries := by
  rw [update_eq]

/-- A write to the row of an event delivers no mail. -/
theorem mailsOf_update (f : EventRow → EventRow) (j : Uuid) :
    (st.update k f).mailsOf j = st.mailsOf j := by
  unfold mailsOf
  rw [update_deliveries]

theorem mailsBy_update (f : EventRow → EventRow) (e : Nat) :
    (st.update k f).mailsBy e = st.mailsBy e := by
  unfold mailsBy
  rw [update_deliveries]

@[simp] theorem goto_self (p : LoopPhase) : (st.goto d p).phase d = p := Function.update_self ..

theorem goto_of_ne {e : Nat} (p : LoopPhase) (he : e ≠ d) : (st.goto d p).phase e = st.phase e :=
  Function.update_of_ne he ..

/-- The inserted row is the row of its event. -/
theorem row?_insert {event : ShipmentExceptionEvent} (loadNumber : String)
    (hn : st.row? event.id = none) (j : Uuid) :
    ({ st with events := st.events ++ [EventRow.new event loadNumber] } : Dispatch).row? j =
      if j = event.id then some (EventRow.new event loadNumber) else st.row? j := by
  unfold row? Table.get? at *
  rw [List.find?_append]
  by_cases hj : j = event.id
  · rw [if_pos hj, hj, hn]
    simp [EventRow.id, EventRow.new]
  · have hne : ¬event.id = j := Ne.symm hj
    rw [if_neg hj]
    simp [EventRow.id, EventRow.new, hne]

theorem step_cases {a : DispatchAction} (h : st.step a = some st') : Stepped st a st' := by
  cases a with
  | insert event loadNumber =>
      simp only [step] at h
      split at h
      next hn =>
        cases h
        exact .insert hn
      · cases h
  | call d =>
      simp only [step] at h
      split at h
      next hp =>
        cases h
        exact .call hp
      · cases h
  | select d k =>
      simp only [step] at h
      split at h
      next n r hp hr =>
        split at h
        next hc =>
          cases h
          exact .select hp hr hc.1 hc.2
        · cases h
      · cases h
  | selectNone d =>
      simp only [step] at h
      split at h
      next n hp =>
        split at h
        · cases h
          exact .selectNone hp
        · cases h
      · cases h
  | claim d =>
      simp only [step] at h
      split at h
      next n k hp =>
        obtain ⟨r, hr, h⟩ := Option.map_eq_some_iff.mp h
        subst h
        exact .claim hp hr
      · cases h
  | send d outcome =>
      simp only [step] at h
      split at h
      next n k payload hp =>
        cases outcome with
        | delivered =>
            cases h
            exact .deliver hp
        | notAuthenticated =>
            cases h
            exact .fail hp
        | raised message =>
            cases h
            exact .fail hp
      · cases h
  | store d now =>
      simp only [step] at h
      split at h
      next n k hp =>
        split at h
        · cases h
          exact .storeSent hp
        · cases h
      next n k error hp =>
        split at h
        · cases h
          exact .storeFailed hp
        · cases h
      · cases h
  | stop d =>
      simp only [step] at h
      split at h
      next n k hp =>
        cases h
        exact .unlock hp
      next p hp =>
        split at h
        · cases h
          exact .stop hp
        · cases h

end

/-! ## The invariant -/

/-- What the phase of a loop says about the event it is at. -/
def Holds (st : Dispatch) (d : Nat) : LoopPhase → Prop
  | .locked _ k => st.holder k = some d ∧ ∃ r, st.row? k = some r ∧ r.selectable = true
  | .claimed _ k payload => st.mailsOf k = [] ∧ ∃ r, st.row? k = some r ∧
      r.notificationStatus = .sending ∧ r.payload = payload
  | .delivered _ k => (st.mailsOf k).length = 1 ∧ ∃ r, st.row? k = some r ∧
      r.notificationStatus = .sending
  | .failing _ k _ => st.mailsOf k = [] ∧ ∃ r, st.row? k = some r ∧
      r.notificationStatus = .sending
  | _ => True

/-- The row of an event, claimed so often, with its mails. -/
structure RowSound (claims : Nat) (mails : List Delivery) (r : EventRow) : Prop where
  attempts : r.notificationAttemptCount = claims
  unsent : r.selectable = true → mails = []
  sent : r.notificationStatus = .sent → mails.length = 1
  once : mails.length ≤ 1
  mail : ∀ m ∈ mails, m.mail = shipmentExceptionEmail r.payload

/-- The invariant of the dispatch. -/
structure Sound (st : Dispatch) : Prop where
  loops : ∀ d, st.Holds d (st.phase d)
  /-- An event is claimed by one loop at a time. -/
  exclusive : ∀ d e k, (st.phase d).event? = some k → (st.phase e).event? = some k → d = e
  rows : ∀ k r, st.row? k = some r → RowSound (st.claims.count k) (st.mailsOf k) r
  unknown : ∀ k, st.row? k = none → st.claims.count k = 0 ∧ st.mailsOf k = []
  counted : ∀ d n, (st.phase d).delivered? = some n → (st.mailsBy d).length = n

section

variable {st st' : Dispatch} {d : Nat} {k : Uuid}

/-- The row of a claimed event. -/
theorem Sound.sending (h : st.Sound) (hk : (st.phase d).event? = some k) :
    ∃ r, st.row? k = some r ∧ r.notificationStatus = .sending := by
  have hd := h.loops d
  cases hp : st.phase d with
  | claimed n j payload =>
      rw [hp] at hd hk
      cases hk
      obtain ⟨-, r, hr, hs, -⟩ := hd
      exact ⟨r, hr, hs⟩
  | delivered n j =>
      rw [hp] at hd hk
      cases hk
      exact hd.2
  | failing n j error =>
      rw [hp] at hd hk
      cases hk
      exact hd.2
  | _ =>
      rw [hp] at hk
      cases hk

/-- A selectable row is claimed by no loop. -/
theorem Sound.unclaimed (h : st.Sound) {r : EventRow} (hr : st.row? k = some r)
    (hs : r.selectable = true) (e : Nat) : (st.phase e).event? ≠ some k := by
  intro he
  obtain ⟨r', hr', hs'⟩ := h.sending he
  cases hr.symm.trans hr'
  simp [EventRow.selectable, hs'] at hs

/-- A claimed row is locked by no loop. -/
theorem Sound.unlocked (h : st.Sound) (hk : (st.phase d).event? = some k) (e n : Nat) :
    st.phase e ≠ .locked n k := by
  intro he
  have hd := h.loops e
  rw [he] at hd
  obtain ⟨-, r, hr, hs⟩ := hd
  exact h.unclaimed hr hs d hk

/-- What a loop says of an event that is left alone. -/
theorem Holds.frame {p : LoopPhase} (h : st.Holds d p)
    (hholder : ∀ j, st.holder j = some d → st'.holder j = some d)
    (hrow : ∀ j n, p.event? = some j ∨ p = .locked n j → st'.row? j = st.row? j)
    (hmails : ∀ j, p.event? = some j → st'.mailsOf j = st.mailsOf j) : st'.Holds d p := by
  cases p with
  | locked n k =>
      obtain ⟨hl, hr⟩ := h
      exact ⟨hholder k hl, hrow k n (.inr rfl) ▸ hr⟩
  | claimed n k payload =>
      obtain ⟨hm, hr⟩ := h
      exact ⟨(hmails k rfl).trans hm, hrow k 0 (.inl rfl) ▸ hr⟩
  | delivered n k =>
      obtain ⟨hm, hr⟩ := h
      exact ⟨hmails k rfl ▸ hm, hrow k 0 (.inl rfl) ▸ hr⟩
  | failing n k error =>
      obtain ⟨hm, hr⟩ := h
      exact ⟨(hmails k rfl).trans hm, hrow k 0 (.inl rfl) ▸ hr⟩
  | _ => trivial

/-- A step of one loop on one event, which no other loop is at. -/
theorem Sound.frame (h : st.Sound)
    (hrow : ∀ j, j ≠ k → st'.row? j = st.row? j ∧ st'.claims.count j = st.claims.count j ∧
      st'.mailsOf j = st.mailsOf j)
    (hloop : ∀ e, e ≠ d → st'.phase e = st.phase e ∧ st'.mailsBy e = st.mailsBy e ∧
      ∀ j, st.holder j = some e → st'.holder j = some e)
    (hclaimed : ∀ e, e ≠ d → (st.phase e).event? ≠ some k)
    (hlocked : ∀ e n, e ≠ d → st.phase e ≠ .locked n k)
    (hself : st'.Holds d (st'.phase d)) (hevent : ∀ j, (st'.phase d).event? = some j → j = k)
    (hk : ∃ r, st'.row? k = some r ∧ RowSound (st'.claims.count k) (st'.mailsOf k) r)
    (hcount : ∀ n, (st'.phase d).delivered? = some n → (st'.mailsBy d).length = n) :
    st'.Sound := by
  refine ⟨fun e => ?_, fun e f j he hf => ?_, fun j r hr => ?_, fun j hj => ?_, fun e n hn => ?_⟩
  · by_cases he : e = d
    · exact he ▸ hself
    · obtain ⟨hphase, -, hholder⟩ := hloop e he
      rw [hphase]
      refine (h.loops e).frame hholder (fun j n hj => (hrow j ?_).1) fun j hj => (hrow j ?_).2.2
      · rintro rfl
        rcases hj with hj | hj
        · exact hclaimed e he hj
        · exact hlocked e n he hj
      · rintro rfl
        exact hclaimed e he hj
  · by_cases hed : e = d
    · by_cases hfd : f = d
      · rw [hed, hfd]
      · have hj := hevent j (hed ▸ he)
        rw [(hloop f hfd).1, hj] at hf
        exact absurd hf (hclaimed f hfd)
    · rw [(hloop e hed).1] at he
      by_cases hfd : f = d
      · have hj := hevent j (hfd ▸ hf)
        rw [hj] at he
        exact absurd he (hclaimed e hed)
      · rw [(hloop f hfd).1] at hf
        exact h.exclusive e f j he hf
  · by_cases hj : j = k
    · subst hj
      obtain ⟨r', hr', hs⟩ := hk
      cases hr.symm.trans hr'
      exact hs
    · obtain ⟨hrj, hcj, hmj⟩ := hrow j hj
      rw [hcj, hmj]
      exact h.rows j r (hrj ▸ hr)
  · by_cases hjk : j = k
    · subst hjk
      obtain ⟨r, hr, -⟩ := hk
      cases hj.symm.trans hr
    · obtain ⟨hrj, hcj, hmj⟩ := hrow j hjk
      rw [hcj, hmj]
      exact h.unknown j (hrj ▸ hj)
  · by_cases he : e = d
    · subst he
      exact hcount n hn
    · obtain ⟨hphase, hmails, -⟩ := hloop e he
      rw [hmails]
      exact h.counted e n (hphase ▸ hn)

/-- A step that only takes a loop away from an event, or to none. -/
theorem Sound.goto (h : st.Sound) {p : LoopPhase} (hp : st.Holds d p) (hnone : p.event? = none)
    (hcount : ∀ n, p.delivered? = some n → (st.mailsBy d).length = n) : (st.goto d p).Sound := by
  have hphase : ∀ e, (st.goto d p).phase e = if e = d then p else st.phase e := by
    intro e
    by_cases he : e = d
    · rw [if_pos he, he, goto_self]
    · rw [if_neg he, goto_of_ne p he]
  refine ⟨fun e => ?_, fun e f j he hf => ?_, h.rows, h.unknown, fun e n hn => ?_⟩
  · rw [hphase]
    split
    next he => exact he ▸ hp.frame (fun _ h => h) (fun _ _ _ => rfl) fun _ _ => rfl
    next => exact (h.loops e).frame (fun _ h => h) (fun _ _ _ => rfl) fun _ _ => rfl
  · rw [hphase] at he hf
    split at he
    · cases hnone.symm.trans he
    · split at hf
      · cases hnone.symm.trans hf
      · exact h.exclusive e f j he hf
  · rw [hphase] at hn
    split at hn
    next he => exact he ▸ hcount n hn
    next => exact h.counted e n hn

/-- A new event has no claim and no mail. -/
theorem Sound.insert (h : st.Sound) {event : ShipmentExceptionEvent} {loadNumber : String}
    (hn : st.row? event.id = none) :
    Sound { st with events := st.events ++ [EventRow.new event loadNumber] } := by
  have hrow := row?_insert loadNumber hn
  have hknown : ∀ j r, st.row? j = some r → ({ st with
      events := st.events ++ [EventRow.new event loadNumber] } : Dispatch).row? j = st.row? j := by
    intro j r hr
    rw [hrow, if_neg]
    rintro rfl
    cases hn.symm.trans hr
  refine ⟨fun d => ?_, h.exclusive, fun k r hr => ?_, fun k hk => ?_, h.counted⟩
  · refine (h.loops d).frame (fun _ h => h) (fun j n hj => ?_) fun _ _ => rfl
    rcases hj with hj | hj
    · obtain ⟨r, hr, -⟩ := h.sending hj
      exact hknown j r hr
    · have hd := h.loops d
      rw [hj] at hd
      obtain ⟨-, r, hr, -⟩ := hd
      exact hknown j r hr
  · rw [hrow] at hr
    split at hr
    next hk =>
      cases hr
      obtain ⟨hc, hm⟩ := h.unknown k (hk ▸ hn)
      show RowSound (st.claims.count k) (st.mailsOf k) _
      rw [hc, hm]
      exact ⟨rfl, fun _ => rfl, fun hs => (by cases hs), Nat.zero_le 1, fun m hm => (by cases hm)⟩
    next => exact h.rows k r hr
  · rw [hrow] at hk
    split at hk
    · cases hk
    · exact h.unknown k hk

/-- A claim writes the row of the locked event. -/
theorem Sound.claim (h : st.Sound) {n : Nat} {r : EventRow} (hp : st.phase d = .locked n k)
    (hr : st.row? k = some r) :
    Sound { ((st.update k EventRow.claim).lock k none).goto d (.claimed n k r.payload) with
      claims := st.claims ++ [k] } := by
  have hd := h.loops d
  rw [hp] at hd
  obtain ⟨hlock, r', hr', hsel⟩ := hd
  cases hr.symm.trans hr'
  have hrow : ∀ j, (st.update k EventRow.claim).row? j =
      if j = k then some r.claim else st.row? j := by
    intro j
    rw [row?_update (f := EventRow.claim) (fun _ => rfl), hr]
    rfl
  have hmails : ∀ j, (st.update k EventRow.claim).mailsOf j = st.mailsOf j :=
    mailsOf_update EventRow.claim
  have hby : ∀ e, (st.update k EventRow.claim).mailsBy e = st.mailsBy e :=
    mailsBy_update EventRow.claim
  have hsound := h.rows k r hr
  have hnil := hsound.unsent hsel
  refine h.frame (k := k) (d := d)
    (fun j hj => ⟨(hrow j).trans (if_neg hj), ?_, hmails j⟩)
    (fun e he => ⟨?_, hby e, fun j hj => ?_⟩)
    (fun e _ => h.unclaimed hr hsel e) (fun e m he hl => ?_) ?_ (fun j hj => ?_)
    ⟨r.claim, (hrow k).trans (if_pos rfl), ?_⟩ fun m hm => ?_
  · rw [List.count_append, List.count_singleton, if_neg (by simpa using Ne.symm hj)]
    rfl
  · exact (goto_of_ne _ he).trans (congrFun (update_phase _) e)
  · refine (Function.update_of_ne ?_ ..).trans ?_
    · rintro rfl
      exact he (Option.some.inj (hj.symm.trans hlock))
    · rw [update_holder]
      exact hj
  · have hle := h.loops e
    rw [hl] at hle
    exact he (Option.some.inj (hle.1.symm.trans hlock))
  · rw [show Dispatch.phase _ d = LoopPhase.claimed n k r.payload from goto_self _]
    exact ⟨(hmails k).trans hnil, r.claim, (hrow k).trans (if_pos rfl), rfl, rfl⟩
  · rw [show Dispatch.phase _ d = LoopPhase.claimed n k r.payload from goto_self _] at hj
    exact (Option.some.inj hj).symm
  · show RowSound ((st.claims ++ [k]).count k) ((st.update k EventRow.claim).mailsOf k) r.claim
    rw [hmails, hnil, List.count_append, List.count_singleton_self, ← hsound.attempts]
    exact ⟨rfl, fun _ => rfl, fun hsent => (by cases hsent), Nat.zero_le 1,
      fun m hm => (by cases hm)⟩
  · rw [show Dispatch.phase _ d = LoopPhase.claimed n k r.payload from goto_self _] at hm
    refine (congrArg List.length (hby d)).trans (h.counted d m ?_)
    rw [hp]
    exact hm

/-- The mail of a claimed event is its only one. -/
theorem Sound.deliver (h : st.Sound) {n : Nat} {payload : Payload}
    (hp : st.phase d = .claimed n k payload) :
    Sound { st.goto d (.delivered n k) with
      deliveries := st.deliveries ++ [⟨d, k, shipmentExceptionEmail payload⟩] } := by
  let mail : Delivery := ⟨d, k, shipmentExceptionEmail payload⟩
  have hd := h.loops d
  rw [hp] at hd
  obtain ⟨hnil, r, hr, hsending, hpayload⟩ := hd
  have hevent : (st.phase d).event? = some k := by
    rw [hp]
    rfl
  have hmails : ∀ j, (st.deliveries ++ [mail]).filter
      (fun m => decide (m.eventId = j)) =
        if j = k then [mail] else st.mailsOf j := by
    intro j
    rw [List.filter_append]
    by_cases hj : j = k
    · rw [if_pos hj, hj, show List.filter _ st.deliveries = [] from hnil]
      simp [mail]
    · rw [if_neg hj]
      simp [mail, mailsOf, Ne.symm hj]
  have hby : ∀ e, (st.deliveries ++ [mail]).filter
      (fun m => decide (m.loop = e)) =
        st.mailsBy e ++ if e = d then [mail] else [] := by
    intro e
    rw [List.filter_append]
    by_cases he : e = d
    · simp [mail, mailsBy, he]
    · simp [mail, mailsBy, he, Ne.symm he]
  refine h.frame (k := k) (d := d) (fun j hj => ⟨rfl, rfl, (hmails j).trans (if_neg hj)⟩)
    (fun e he => ⟨goto_of_ne _ he, ?_, fun j hj => hj⟩)
    (fun e he hk => he (h.exclusive e d k hk hevent)) (fun e m _ => h.unlocked hevent e m)
    ?_ (fun j hj => ?_) ⟨r, hr, ?_⟩ fun m hm => ?_
  · refine (hby e).trans ?_
    rw [if_neg he, List.append_nil]
  · rw [show Dispatch.phase _ d = LoopPhase.delivered n k from goto_self _]
    refine ⟨?_, r, hr, hsending⟩
    exact congrArg List.length ((hmails k).trans (if_pos rfl))
  · rw [show Dispatch.phase _ d = LoopPhase.delivered n k from goto_self _] at hj
    exact (Option.some.inj hj).symm
  · show RowSound (st.claims.count k) ((st.deliveries ++ [mail]).filter _) r
    rw [hmails k, if_pos rfl]
    refine ⟨(h.rows k r hr).attempts, fun hsel => ?_, fun _ => rfl, Nat.le_refl 1, fun m hm => ?_⟩
    · simp [EventRow.selectable, hsending] at hsel
    · rw [List.mem_singleton.mp hm, hpayload]
  · rw [show Dispatch.phase _ d = LoopPhase.delivered n k from goto_self _] at hm
    have hn : (st.mailsBy d).length = n := h.counted d n (by rw [hp]; rfl)
    refine (congrArg List.length (hby d)).trans ?_
    rw [if_pos rfl, List.length_append, hn]
    exact Option.some.inj hm

/-- A loop that has claimed an event writes its row and lets go of it. -/
theorem Sound.store (h : st.Sound) {n : Nat} {p : LoopPhase} {f : EventRow → EventRow}
    (hf : ∀ r, (f r).id = r.id) (hevent : (st.phase d).event? = some k)
    (hn : (st.mailsBy d).length = n)
    (hrow : ∀ r, RowSound (st.claims.count k) (st.mailsOf k) r →
      RowSound (st.claims.count k) (st.mailsOf k) (f r))
    (hp : p = .selecting n ∨ p = .returned n) : ((st.update k f).goto d p).Sound := by
  have hmails : ∀ j, ((st.update k f).goto d p).mailsOf j = st.mailsOf j := mailsOf_update f
  have hby : ∀ e, ((st.update k f).goto d p).mailsBy e = st.mailsBy e := mailsBy_update f
  have hclaims : ((st.update k f).goto d p).claims = st.claims := update_claims f
  refine h.frame (k := k) (d := d) (fun j hj => ⟨?_, by rw [hclaims], hmails j⟩)
    (fun e he => ⟨?_, hby e, fun j hj => ?_⟩) (fun e he hk => he (h.exclusive e d k hk hevent))
    (fun e m _ => h.unlocked hevent e m) ?_ (fun j hj => ?_) ?_ fun m hm => ?_
  · exact (row?_update hf j).trans (if_neg hj)
  · rw [goto_of_ne p he, update_phase]
  · exact (congrFun (update_holder f) j).trans hj
  · rw [goto_self]
    rcases hp with rfl | rfl <;> trivial
  · rw [goto_self] at hj
    rcases hp with rfl | rfl <;> cases hj
  · obtain ⟨r, hr, -⟩ := h.sending hevent
    refine ⟨f r, ?_, ?_⟩
    · exact (row?_update hf k).trans (by rw [if_pos rfl, hr]; rfl)
    · rw [hclaims, hmails]
      exact hrow r (h.rows k r hr)
  · rw [goto_self] at hm
    rw [hby, hn]
    rcases hp with rfl | rfl <;> exact Option.some.inj hm

/-- Every step keeps the invariant. -/
theorem sound_step {a : DispatchAction} (h : st.Sound) (hs : st.step a = some st') : st'.Sound := by
  cases step_cases hs with
  | insert hn => exact h.insert hn
  | @call d hp =>
      refine h.goto trivial rfl fun n hn => h.counted d n ?_
      rw [hp]
      exact hn
  | @selectNone d n hp =>
      refine h.goto trivial rfl fun m hm => h.counted d m ?_
      rw [hp]
      exact hm
  | @stop d hp => exact h.goto trivial rfl fun n hn => (by cases hn)
  | @select d n k r hp hr hsel hfree =>
      refine h.frame (k := k) (d := d) (fun j _ => ⟨rfl, rfl, rfl⟩)
        (fun e he => ⟨goto_of_ne _ he, rfl, fun j hj => ?_⟩) (fun e _ => h.unclaimed hr hsel e)
        (fun e m _ hl => ?_) ?_ (fun j hj => ?_) ⟨r, hr, h.rows k r hr⟩ fun m hm => ?_
      · refine (Function.update_of_ne ?_ ..).trans hj
        rintro rfl
        cases hfree.symm.trans hj
      · have he := h.loops e
        rw [hl] at he
        cases hfree.symm.trans he.1
      · rw [goto_self]
        exact ⟨Function.update_self .., r, hr, hsel⟩
      · rw [goto_self] at hj
        cases hj
      · rw [goto_self] at hm
        exact h.counted d m (by rw [hp]; exact hm)
  | @unlock d n k hp =>
      have hd := h.loops d
      rw [hp] at hd
      obtain ⟨hlock, r, hr, hsel⟩ := hd
      refine h.frame (k := k) (d := d) (fun j _ => ⟨rfl, rfl, rfl⟩)
        (fun e he => ⟨goto_of_ne _ he, rfl, fun j hj => ?_⟩) (fun e _ => h.unclaimed hr hsel e)
        (fun e m he hl => ?_) ?_ (fun j hj => ?_) ⟨r, hr, h.rows k r hr⟩ fun m hm => ?_
      · refine (Function.update_of_ne ?_ ..).trans hj
        rintro rfl
        exact he (Option.some.inj (hj.symm.trans hlock))
      · have hle := h.loops e
        rw [hl] at hle
        exact he (Option.some.inj (hle.1.symm.trans hlock))
      · rw [goto_self]
        trivial
      · rw [goto_self] at hj
        cases hj
      · rw [goto_self] at hm
        cases hm
  | claim hp hr => exact h.claim hp hr
  | deliver hp => exact h.deliver hp
  | @fail d n k payload outcome error hp =>
      have hd := h.loops d
      rw [hp] at hd
      obtain ⟨hnil, r, hr, hsending, -⟩ := hd
      have hevent : (st.phase d).event? = some k := by
        rw [hp]
        rfl
      refine h.frame (k := k) (d := d) (fun j _ => ⟨rfl, rfl, rfl⟩)
        (fun e he => ⟨goto_of_ne _ he, rfl, fun j hj => hj⟩)
        (fun e he hk => he (h.exclusive e d k hk hevent)) (fun e m _ => h.unlocked hevent e m)
        ?_ (fun j hj => ?_) ⟨r, hr, h.rows k r hr⟩ fun m hm => ?_
      · rw [goto_self]
        exact ⟨hnil, r, hr, hsending⟩
      · rw [goto_self] at hj
        exact (Option.some.inj hj).symm
      · rw [goto_self] at hm
        exact h.counted d m (by rw [hp]; exact hm)
  | @storeSent d n k now hp =>
      have hd := h.loops d
      rw [hp] at hd
      have hevent : (st.phase d).event? = some k := by
        rw [hp]
        rfl
      refine h.store (fun _ => rfl) hevent (h.counted d (n + 1) ?_) (fun r hr => ?_) (.inl rfl)
      · rw [hp]
        rfl
      · exact ⟨hr.attempts, fun hsel => (by cases hsel), fun _ => hd.1, hr.once, hr.mail⟩
  | @storeFailed d n k now error hp =>
      have hd := h.loops d
      rw [hp] at hd
      have hevent : (st.phase d).event? = some k := by
        rw [hp]
        rfl
      refine h.store (fun _ => rfl) hevent (h.counted d n ?_) (fun r hr => ?_) (.inr rfl)
      · rw [hp]
        rfl
      · exact ⟨hr.attempts, fun _ => hd.1, fun hsent => (by cases hsent), hr.once, hr.mail⟩

end

/-! ## In every run -/

/-- Event rows as they were inserted, and no loop called yet. -/
structure Start (st : Dispatch) : Prop where
  keyed : Table.Keyed EventRow.id st.events
  new : ∀ r ∈ st.events, r = EventRow.new r.event r.loadNumber
  holder : ∀ k, st.holder k = none
  phase : ∀ d, st.phase d = .idle
  claims : st.claims = []
  deliveries : st.deliveries = []

theorem Start.sound {st : Dispatch} (h : st.Start) : st.Sound := by
  have hmails : ∀ k, st.mailsOf k = [] := by
    intro k
    unfold mailsOf
    rw [h.deliveries]
    rfl
  refine ⟨fun d => ?_, fun d e k hd => ?_, fun k r hr => ?_, fun k _ => ?_, fun d n hn => ?_⟩
  · rw [h.phase]
    trivial
  · rw [h.phase] at hd
    cases hd
  · rw [h.claims, hmails, h.new r (Table.get?_some_mem hr)]
    exact ⟨rfl, fun _ => rfl, fun hs => (by cases hs), Nat.zero_le 1, fun m hm => (by cases hm)⟩
  · exact ⟨by rw [h.claims]; rfl, hmails k⟩
  · rw [h.phase] at hn
    unfold mailsBy
    rw [h.deliveries]
    exact Option.some.inj hn

theorem Start.run {st st' : Dispatch} (h : st.Start) {as : List DispatchAction}
    (hrun : Run (Fires step) st as st') : st'.Sound :=
  hrun.preserves Sound h.sound fun _ _ _ ih hs => sound_step ih hs

/-- However the loops interleave and wherever they stop, an event is mailed at
most once, a sent event exactly once, with the mail of its own row, the attempts
of an event count its claims, and a loop returns how many events it mailed. -/
theorem mailed_at_most_once {st st' : Dispatch} (h : st.Start) {as : List DispatchAction}
    (hrun : Run (Fires step) st as st') :
    (∀ k, (st'.mailsOf k).length ≤ 1) ∧
      (∀ k r, st'.row? k = some r →
        (r.notificationStatus = .sent → (st'.mailsOf k).length = 1) ∧
        r.notificationAttemptCount = st'.claims.count k ∧
        ∀ m ∈ st'.mailsOf k, m.mail = shipmentExceptionEmail r.payload) ∧
      ∀ d n, st'.phase d = .returned n → n = (st'.mailsBy d).length := by
  have hs := h.run hrun
  refine ⟨fun k => ?_, fun k r hr => ?_, fun d n hd => ?_⟩
  · cases hr : st'.row? k with
    | none => simp [(hs.unknown k hr).2]
    | some r => exact (hs.rows k r hr).once
  · have hrow := hs.rows k r hr
    exact ⟨hrow.sent, hrow.attempts, hrow.mail⟩
  · exact (hs.counted d n (by rw [hd]; rfl)).symm

end Dispatch

/-- Two events of one exception. -/
def twoEvents : Dispatch where
  events :=
    [.new ⟨"e1", "x1", "r1", 1, .opened, none, ⟨.active, ["pod"], [], "t1"⟩, 0⟩ "LD-001",
     .new ⟨"e2", "x1", "r2", 2, .resolved, some ⟨.active, ["pod"], [], "t1"⟩,
       ⟨.resolved, [], [], "t1"⟩, 1⟩ "LD-001"]
  holder _ := none
  phase _ := .idle
  claims := []
  deliveries := []

/-- Two loops, one of which fails to send and leaves its event to the other. -/
def sharedDispatch : List DispatchAction :=
  [.call 0, .call 1, .select 0 "e1", .select 1 "e2", .claim 0, .claim 1, .send 0 .delivered,
   .send 1 .notAuthenticated, .store 1 5, .store 0 6, .select 0 "e2", .claim 0,
   .send 0 .delivered, .store 0 7, .selectNone 0]

theorem twoEvents_start : twoEvents.Start := by
  have hkeyed : (twoEvents.events.map EventRow.id).Nodup := by decide
  exact ⟨hkeyed, by decide, fun _ => rfl, fun _ => rfl, rfl, rfl⟩

theorem sharedDispatch_mailed :
    ∃ st, Run (Fires Dispatch.step) twoEvents sharedDispatch st ∧ st.phase 0 = .returned 2 ∧
      (st.mailsBy 0).length = 2 ∧ ∀ k, (st.mailsOf k).length ≤ 1 := by
  let final := exec Dispatch.step twoEvents sharedDispatch
  have hsome : final.isSome = true := by decide +kernel
  have hdata : final.all (fun st => decide (st.phase 0 = .returned 2)) = true := by decide +kernel
  obtain ⟨st, hst⟩ := Option.isSome_iff_exists.mp hsome
  rw [hst, Option.all_some, decide_eq_true_iff] at hdata
  have hrun := run_of_exec hst
  obtain ⟨honce, -, hcount⟩ := Dispatch.mailed_at_most_once twoEvents_start hrun
  exact ⟨st, hrun, hdata, (hcount 0 2 hdata).symm, honce⟩

end FreightAP
