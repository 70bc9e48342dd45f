import IolinkMaster.Exchange

/-!
# Accounting for lost communication

In runs driven by the controller tick, the retry counter is the number of M-sequences
that failed one after the other, and communication is given up exactly at the third,
provided that failures are charged only to frames whose deadline agrees with their
replies.
-/

namespace IolinkMaster

/-! ### The account of a run -/

/-- The time, the frame in flight, and the number of M-sequences that failed since the last
accepted reply. -/
structure Account where
  now : UInt32
  flight : Flight
  failures : Nat
  deriving DecidableEq, Repr

/-- The frame in flight has failed. -/
def Account.fail (a : Account) : Account :=
  if a.flight = .none then a else { a with flight := .none, failures := a.failures + 1 }

/-- The deadline of the frame in flight has been reached. -/
def Account.expired (a : Account) : Bool :=
  match a.flight with
  | .armed deadline => decide (deadline ≤ a.now)
  | _ => false

/-- The deadline of the frame in flight is in the past. -/
def Account.overdue (a : Account) : Bool :=
  match a.flight with
  | .armed deadline => decide (deadline < a.now)
  | _ => false

/-- What an observation makes of the account.  An M-sequence fails with a bad checksum, or
with the timeout that finds it unanswered; a reply of the wrong length answers nothing. -/
def accountStep (o : Obs) (a : Account) : Account :=
  match o with
  | .tick now => { a with now := now }
  | .sent .preoperate _ | .sent .operate _ => { a with flight := .unarmed }
  | .armed deadline => if a.flight = .none then a else { a with flight := .armed deadline }
  | .accept _ _ _ => { a with flight := .none, failures := 0 }
  | .reject _ _ | .timeout .preoperate _ | .timeout .operate _ => a.fail
  | .timeout _ _ => { a with flight := .none }
  | .comlost _ _ _ _ _ => { a with failures := 0 }
  | _ => a

/-- The account after the observations of a run. -/
def account (log : List Obs) : Account := log.foldr accountStep ⟨0, .none, 0⟩

@[simp]
theorem account_nil :
  account [] = ⟨0, .none, 0⟩
  := rfl

@[simp]
theorem account_cons (o : Obs) (log : List Obs) :
  account (o :: log) = accountStep o (account log)
  := rfl

/-- A response timeout is processed in PREOPERATE or OPERATE. -/
def Obs.isTimeout : Obs → Bool
  | .timeout .preoperate _ | .timeout .operate _ => true
  | _ => false

/-- A reply is rejected after STARTUP. -/
def Obs.isReject : Obs → Bool
  | .reject .startup _ => false
  | .reject _ _ => true
  | _ => false

/-- Communication is given up exactly when the third M-sequence in a row has failed; a
timeout is processed only when the deadline of an unanswered frame has been reached, and
a reply is accepted only by the deadline of its frame. -/
def Accounted (log : List Obs) (o : Obs) : Prop :=
  (o.isComlost = true ↔ (account log).failures = RX_RETRY_LIMIT + 1) ∧
    (o.isTimeout = true → (account log).expired = true) ∧
    (o.isAccept = true → (account log).overdue = false)

/-- No slot opens while a frame without a deadline is unanswered, neither a second bad checksum
nor the deadline follows the bad checksum of a frame, and the receive path is flushed without
an error when a timeout is processed. -/
def Chargeable (log : List Obs) (o : Obs) : Prop :=
  (o = .slot → (account log).flight ≠ .unarmed) ∧
    (o.isReject = true ∨ o.isTimeout = true → (account log).flight ≠ .none) ∧
    (o = .enter .error → log.head?.any Obs.isTimeout = false)

instance (log : List Obs) (o : Obs) : Decidable (Accounted log o) :=
  inferInstanceAs (Decidable (_ ∧ _))

instance (log : List Obs) (o : Obs) : Decidable (Chargeable log o) :=
  inferInstanceAs (Decidable (_ ∧ _))

/-! ### Runs of the controller -/

/-- The deadline of the reply the port waits for lies before `now`. -/
def Late (p : PortState) (now : UInt32) : Prop :=
  p.state ≠ .startup ∧ p.awaitingResponse = true ∧ p.responseDeadline100us < now

/-- The PHY delivers too few octets for a reply. -/
def Short (env : Env) (p : PortState) : Prop :=
  ∀ expected, expectedLen p = some expected → p.rx.length + env.recv.length < expected

instance (p : PortState) (now : UInt32) : Decidable (Late p now) :=
  inferInstanceAs (Decidable (_ ∧ _))

instance (env : Env) (p : PortState) : Decidable (Short env p) :=
  inferInstanceAs (Decidable (∀ expected ∈ expectedLen p, _))

/-- The calls of an application that leaves the choice of the tick event to the controller.
A tick after the deadline of a reply finds no complete reply. -/
def controllerDriven (env : Env) (w : World) : Call → Prop
  | .controllerTickAt now => Late w.port now → Short env w.port
  | .service _ => True
  | _ => False

instance (env : Env) (w : World) : DecidablePred (controllerDriven env w) := by
  intro c
  -- `cases` would put an equation of calls between the instance and its value.
  apply Call.casesOn (motive := fun c => Decidable (controllerDriven env w c)) c <;> intros <;>
    unfold controllerDriven <;> infer_instance

/-! ### The invariant -/

/-- The retry counter of the port agrees with the account of the run. -/
structure Balanced (w : World) : Prop where
  always : Trace.Always Accounted w.log
  count : w.port.diagnostics.rxRetryCount = (account w.log).failures
  bound : (account w.log).failures ≤ RX_RETRY_LIMIT
  waiting : acyclicAvailable w.port.state = true → w.port.awaitingResponse = true →
    (account w.log).flight = .armed w.port.responseDeadline100us ∨
      (account w.log).flight = .none ∧ w.port.state = .operate
  armed : ∀ d, (account w.log).flight = .armed d →
    w.port.awaitingResponse = true ∧ w.port.responseDeadline100us = d
  operating : ∀ d, (account w.log).flight = .armed d → w.port.state ≠ .preoperate
  opened : slotOpen w.log = true → (account w.log).flight = .none ∧
    (acyclicAvailable w.port.state = true → w.port.awaitingResponse = false)
  startup : w.port.state = .startup → (account w.log).flight = .none

/-- An observation in order that does not give communication up before the third failure. -/
theorem accounted_within {log : List Obs} {o : Obs}
    (hbound : (account log).failures ≤ RX_RETRY_LIMIT) (hcomlost : o.isComlost = false)
    (htimeout : o.isTimeout = true → (account log).expired = true)
    (haccept : o.isAccept = true → (account log).overdue = false) :
  Accounted log o
  := by
  refine ⟨?_, htimeout, haccept⟩
  rw [hcomlost]
  constructor
  · intro hc
    contradiction
  · intro hthree
    omega

/-- An observation that closes no account. -/
theorem Balanced.observe {w : World} (h : Balanced w) {o : Obs} (hcomlost : o.isComlost = false)
    (htimeout : o.isTimeout = false) (haccept : o.isAccept = false) :
  Trace.Always Accounted (o :: w.log)
  := by
  refine ⟨h.always, accounted_within h.bound hcomlost ?_ ?_⟩
  · rw [htimeout]
    intro hc
    contradiction
  · rw [haccept]
    intro hc
    contradiction

/-- A reply is accepted by the deadline of its frame. -/
theorem Balanced.accepts {w : World} (h : Balanced w) (hdue : (account w.log).overdue = false)
    (st : MasterState) (data : List UInt8) (od : Option (List UInt8)) :
  Trace.Always Accounted (.accept st data od :: w.log)
  := by
  refine ⟨h.always, accounted_within h.bound rfl ?_ fun _ => hdue⟩
  intro hc
  contradiction

/-- The port enters a state while fewer than three M-sequences in a row have failed. -/
theorem always_enter {log : List Obs} (st : MasterState) (halways : Trace.Always Accounted log)
    (hbound : (account log).failures ≤ RX_RETRY_LIMIT) :
  Trace.Always Accounted (.enter st :: log)
  := by
  refine ⟨halways, accounted_within hbound rfl ?_ ?_⟩
  · intro hc
    contradiction
  · intro hc
    contradiction

/-- A step that does not touch the account. -/
theorem Balanced.quiet {w v : World} (h : Balanced w) (halways : Trace.Always Accounted v.log)
    (haccount : account v.log = account w.log) (hopen : slotOpen v.log = slotOpen w.log)
    (hstate : v.port.state = w.port.state ∨ v.port.state = .error)
    (hcount : v.port.diagnostics.rxRetryCount = w.port.diagnostics.rxRetryCount)
    (hawaiting : v.port.awaitingResponse = w.port.awaitingResponse)
    (hdeadline : v.port.responseDeadline100us = w.port.responseDeadline100us) :
  Balanced v
  := by
  constructor
  · apply halways
  · rw [hcount, haccount]
    apply h.count
  · rw [haccount]
    apply h.bound
  · rw [haccount, hawaiting, hdeadline]
    intro havail
    rcases hstate with hs | hs
    · rw [hs] at havail ⊢
      apply h.waiting havail
    · rw [hs] at havail
      contradiction
  · rw [haccount, hawaiting, hdeadline]
    apply h.armed
  · rw [haccount]
    intro d hd
    rcases hstate with hs | hs
    · rw [hs]
      apply h.operating d hd
    · rw [hs]
      decide
  · rw [haccount, hopen, hawaiting]
    intro hv
    refine ⟨(h.opened hv).1, fun havail => ?_⟩
    rcases hstate with hs | hs
    · rw [hs] at havail
      apply (h.opened hv).2 havail
    · rw [hs] at havail
      contradiction
  · rw [haccount]
    intro hv
    rcases hstate with hs | hs
    · rw [hs] at hv
      apply h.startup hv
    · rw [hs] at hv
      contradiction

/-- A step after which no frame is in flight and the port does not wait. -/
theorem Balanced.over {w : World} (halways : Trace.Always Accounted w.log)
    (hcount : w.port.diagnostics.rxRetryCount = (account w.log).failures)
    (hbound : (account w.log).failures ≤ RX_RETRY_LIMIT)
    (hflight : (account w.log).flight = .none)
    (hawaiting : acyclicAvailable w.port.state = true → w.port.awaitingResponse = false) :
  Balanced w
  := by
  constructor
  · apply halways
  · apply hcount
  · apply hbound
  · intro havail hwait
    rw [hawaiting havail] at hwait
    contradiction
  · rw [hflight]
    intro _ hd
    contradiction
  · rw [hflight]
    intro _ hd
    contradiction
  · intro _
    exact ⟨hflight, hawaiting⟩
  · intro _
    apply hflight

/-- An observation that the account does not look at. -/
def Obs.Uncounted (o : Obs) : Prop :=
  (∀ a, accountStep o a = a) ∧ o.isComlost = false ∧ o.isTimeout = false ∧ o.isAccept = false

theorem uncounted_ofService {o : Obs} (ho : o.ofService = true) :
  o.Uncounted
  := by
  cases o <;> first | exact ⟨fun _ => rfl, rfl, rfl, rfl⟩ | contradiction

theorem uncounted_ofRoute {o : Obs} (ho : o.ofRoute = true) :
  o.Uncounted
  := by
  cases o <;> first | exact ⟨fun _ => rfl, rfl, rfl, rfl⟩ | contradiction

theorem account_append {os : List Obs} (hos : ∀ o ∈ os, o.Uncounted) (log : List Obs) :
  account (os ++ log) = account log
  := by
  apply Trace.unaffected_append (q := Obs.Uncounted) _ hos
  intro o l ho
  apply ho.1

/-- Observations that the account does not look at are in order. -/
theorem Balanced.observes {w : World} (h : Balanced w) {os : List Obs}
    (hos : ∀ o ∈ os, o.Uncounted) :
  Trace.Always Accounted (os ++ w.log)
  := by
  induction os with
  | nil => apply h.always
  | cons o os ih =>
      have hrest : ∀ o' ∈ os, o'.Uncounted := fun o' ho' => hos o' (List.mem_cons_of_mem _ ho')
      obtain ⟨-, hcomlost, htimeout, haccept⟩ := hos o List.mem_cons_self
      have hobs : Accounted w.log o := (h.observe hcomlost htimeout haccept).2
      rw [Accounted, ← account_append hrest] at hobs
      exact ⟨ih hrest, hobs⟩

theorem balanced_service {w v : World} (hstep : ServiceStep w v) (h : Balanced w) :
  Balanced v
  := by
  have hsame := untouched_of_step hstep
  obtain ⟨os, hos, hlog⟩ := log_of_service hstep
  have hquiet : ∀ o ∈ os, o.Uncounted := fun o ho => uncounted_ofService (hos o ho)
  apply h.quiet _ _ hsame.slotOpen (.inl hsame.state) hsame.retries hsame.awaiting hsame.deadline
  · rw [hlog]
    apply h.observes hquiet
  · rw [hlog]
    apply account_append hquiet

/-- Handing on on-request data keeps the balance. -/
theorem balanced_routeOd {w : World} (od : List UInt8) (h : Balanced w) :
  Balanced (routeOd w od)
  := by
  obtain ⟨os, hos, hlog⟩ := log_of_routeOd w od
  obtain ⟨s, e, hport⟩ := routeOd_port w od
  have hquiet : ∀ o ∈ os, o.Uncounted := fun o ho => uncounted_ofRoute (hos o ho)
  apply h.quiet
  · rw [hlog]
    apply h.observes hquiet
  · rw [hlog]
    apply account_append hquiet
  · apply unaffected_by_routeOd
    intro o l ho
    cases o <;> first | rfl | contradiction
  · rw [hport]
    exact .inl rfl
  · rw [hport]
  · rw [hport]
  · rw [hport]

theorem balanced_control {w v : World} (hstep : ControlStep w v) (h : Balanced w) :
  Balanced v
  := by
  cases hstep with
  | service hstep => apply balanced_service hstep h
  | fail => exact h.quiet (h.observe rfl rfl rfl) rfl rfl (.inr rfl) rfl rfl rfl

/-- Giving up communication at the third failure. -/
theorem always_comlost {log : List Obs} (p : PortState) (halways : Trace.Always Accounted log)
    (hthree : (account log).failures = RX_RETRY_LIMIT + 1) :
  Trace.Always Accounted (.enter .startup :: comlostObs p :: log)
  := by
  apply always_enter
  · refine ⟨halways, ?_, ?_, ?_⟩
    · rw [hthree]
      simp [comlostObs, Obs.isComlost]
    · intro hc
      contradiction
    · intro hc
      contradiction
  · apply Nat.zero_le

/-- A failed frame is charged once. -/
theorem account_fail {a : Account} (h : a.flight ≠ .none) :
  a.fail = { a with flight := .none, failures := a.failures + 1 }
  := by
  rw [Account.fail, if_neg h]

/-- A bad checksum is charged to the frame in flight, whose deadline stays armed. -/
theorem Balanced.rejects {w v : World} (h : Balanced w) {st : MasterState} {data : List UInt8}
    (hflying : (account w.log).flight ≠ .none)
    (hcount : w.port.diagnostics.rxRetryCount + 1 ≤ RX_RETRY_LIMIT)
    (hlog : v.log = .reject st data :: w.log) (hstate : v.port.state = w.port.state)
    (hretries : v.port.diagnostics.rxRetryCount = w.port.diagnostics.rxRetryCount + 1)
    (hawaiting : v.port.awaitingResponse = w.port.awaitingResponse) :
  Balanced v
  := by
  have haccount : account v.log
      = { account w.log with flight := .none, failures := (account w.log).failures + 1 } := by
    rw [hlog, account_cons, accountStep, account_fail hflying]
  rw [h.count] at hcount hretries
  constructor
  · rw [hlog]
    exact h.observe rfl rfl rfl
  · rw [haccount]
    apply hretries
  · rw [haccount]
    apply hcount
  · rw [haccount, hstate, hawaiting]
    intro havail hwait
    refine .inr ⟨rfl, ?_⟩
    rcases h.waiting havail hwait with harmed | ⟨hnone, -⟩
    · have hnot := h.operating _ harmed
      cases hs : w.port.state <;> simp_all [acyclicAvailable]
    · contradiction
  · rw [haccount]
    intro _ hd
    contradiction
  · rw [haccount]
    intro _ hd
    contradiction
  · intro hopen
    rw [hlog] at hopen
    exact absurd (h.opened hopen).1 hflying
  · intro hv
    rw [hstate] at hv
    exact absurd (h.startup hv) hflying

theorem balanced_judge {K : Iolinki} {data : List UInt8} {w v : World}
    (hstep : JudgeStep K data w v) (h : Balanced w) (hdue : (account w.log).overdue = false)
    (hC : Trace.Always Chargeable v.log) :
  Balanced v
  := by
  cases hstep with
  | unframed => exact h.quiet (h.observe rfl rfl rfl) rfl rfl (.inl rfl) rfl rfl rfl
  | rejectTest hstate =>
      have hnone := h.startup hstate
      have hsame : account (.reject w.port.state data :: w.log) = account w.log := by
        simp [accountStep, Account.fail, hnone]
      exact h.quiet (h.observe rfl rfl rfl) hsame rfl (.inl rfl) rfl rfl rfl
  | rejectRetry hstate hcks hcount =>
      have hflying : (account w.log).flight ≠ .none := by
        apply hC.2.2.1
        left
        cases hs : w.port.state <;> first | rfl | contradiction
      exact h.rejects hflying hcount rfl rfl rfl rfl
  | rejectLost hstate hcks hcount =>
      have hflying : (account w.log).flight ≠ .none := by
        apply hC.1.1.2.2.1
        left
        cases hs : w.port.state <;> first | rfl | contradiction
      have hfail := account_fail hflying
      have hbound := h.bound
      rw [h.count] at hcount
      apply Balanced.over
      · apply always_comlost
        · exact h.observe rfl rfl rfl
        · rw [account_cons, accountStep, hfail]
          simp only
          omega
      · rfl
      · apply Nat.zero_le
      · simp [accountStep, comlostObs, hfail]
      · intro _
        rfl
  | acceptTest =>
      apply Balanced.over
      · apply always_enter _ (h.accepts hdue _ _ _)
        apply Nat.zero_le
      · rfl
      · apply Nat.zero_le
      · rfl
      · intro _
        rfl
  | acceptAck =>
      apply Balanced.over
      · apply always_enter _ (h.accepts hdue _ _ _)
        apply Nat.zero_le
      · rfl
      · apply Nat.zero_le
      · rfl
      · intro _
        rfl
  | @accept u pdIn pdInLen pdValid hstate hack hwidth hcks hhandler hpd =>
      have hreply : Balanced (accepted w data) := by
        apply Balanced.over
        · apply h.accepts hdue
        · rfl
        · apply Nat.zero_le
        · rfl
        · intro _
          rfl
      have hu : Balanced u :=
        hhandler.keeps (I := Balanced) (fun _ _ => balanced_service) hreply
      have hrouted := balanced_routeOd (data.take (odWidth w.port)) hu
      exact ⟨hrouted.always, hrouted.count, hrouted.bound, hrouted.waiting, hrouted.armed,
        hrouted.operating, hrouted.opened, hrouted.startup⟩

theorem balanced_receive {K : Iolinki} {judged : World → List UInt8 → Prop} {w v : World}
    (hstep : ReceiveStep K judged w v) (h : Balanced w)
    (hlate : ∀ data, judged w data → (account w.log).overdue = false)
    (hC : Trace.Always Chargeable v.log) :
  Balanced v
  := by
  cases hstep with
  | control hstep => apply balanced_control hstep h
  | recv byte => exact h.quiet (h.observe rfl rfl rfl) rfl rfl (.inl rfl) rfl rfl rfl
  | clearRx => exact h.quiet h.always rfl rfl (.inl rfl) rfl rfl rfl
  | judge data hjudged hstep => apply balanced_judge hstep h (hlate data hjudged) hC

/-- The frame of a slot is in flight, without a deadline so far. -/
theorem Balanced.sent {w v : World} (h : Balanced w) {frame : List UInt8}
    (hstate : acyclicAvailable w.port.state = true) (hopen : slotOpen w.log = true)
    (hlog : v.log = .sent w.port.state frame :: w.log)
    (hport : v.port.state = w.port.state ∨ v.port.state = .error)
    (hcount : v.port.diagnostics.rxRetryCount = w.port.diagnostics.rxRetryCount)
    (hawaiting : v.port.awaitingResponse = w.port.awaitingResponse) :
  Balanced v
  := by
  have hflight : account v.log = { account w.log with flight := .unarmed } := by
    rw [hlog, account_cons]
    cases hs : w.port.state <;> first | rfl | (rw [hs] at hstate; contradiction)
  have hidle : w.port.awaitingResponse = false := (h.opened hopen).2 hstate
  constructor
  · rw [hlog]
    exact h.observe rfl rfl rfl
  · rw [hflight, hcount]
    apply h.count
  · rw [hflight]
    apply h.bound
  · rw [hawaiting, hidle]
    intro _ hwait
    contradiction
  · rw [hflight]
    intro _ hd
    contradiction
  · rw [hflight]
    intro _ hd
    contradiction
  · rw [hlog]
    intro hv
    contradiction
  · intro hv
    rcases hport with hs | hs
    · rw [← hs, hv] at hstate
      contradiction
    · rw [hs] at hv
      contradiction

/-- What the startup sequence sends is charged to nobody. -/
theorem Balanced.starting {w v : World} (h : Balanced w) (hstate : w.port.state = .startup)
    (halways : Trace.Always Accounted v.log) (haccount : account v.log = account w.log)
    (hv : v.port.state = .startup)
    (hcount : v.port.diagnostics.rxRetryCount = w.port.diagnostics.rxRetryCount) :
  Balanced v
  := by
  apply Balanced.over
  · apply halways
  · rw [haccount, hcount]
    apply h.count
  · rw [haccount]
    apply h.bound
  · rw [haccount]
    apply h.startup hstate
  · intro havail
    rw [hv] at havail
    contradiction

/-- The deadline of the frame just sent is armed. -/
theorem Balanced.arms {w v : World} (h : Balanced w) {deadline : UInt32} {frame : List UInt8}
    {l : List Obs} (hsent : w.log = .sent .operate frame :: l)
    (hlog : v.log = .armed deadline :: w.log) (hstate : v.port.state = .operate)
    (hcount : v.port.diagnostics.rxRetryCount = w.port.diagnostics.rxRetryCount)
    (hawaiting : v.port.awaitingResponse = true)
    (hdeadline : v.port.responseDeadline100us = deadline) :
  Balanced v
  := by
  have haccount : account v.log = { account w.log with flight := .armed deadline } := by
    simp [hlog, hsent, accountStep]
  constructor
  · rw [hlog]
    exact h.observe rfl rfl rfl
  · rw [haccount, hcount]
    apply h.count
  · rw [haccount]
    apply h.bound
  · rw [haccount, hdeadline]
    intro _ _
    left
    rfl
  · rw [haccount]
    intro d hd
    exact ⟨hawaiting, hdeadline.trans (Flight.armed.inj hd)⟩
  · rw [hstate]
    intro _ _
    decide
  · intro hv
    simp [slotOpen, hlog, hsent] at hv
  · intro hv
    rw [hstate] at hv
    contradiction

theorem balanced_slot {K : Iolinki} {w v : World} (hstep : SlotStep K NotAwaiting w v)
    (h : Balanced w) (hC : Trace.Always Chargeable v.log) :
  Balanced v
  := by
  cases hstep with
  | control hstep => apply balanced_control hstep h
  | slot hready hstate =>
      have hnone : (account w.log).flight = .none := by
        have hunarmed := hC.2.1 rfl
        cases hf : (account w.log).flight with
        | none => rfl
        | unarmed => contradiction
        | armed d =>
            have hawaiting := (h.armed d hf).1
            rw [hready] at hawaiting
            contradiction
      have hview : ∀ o ∈ [Obs.slot, .view w.port], o.Uncounted := by
        simp [Obs.Uncounted, accountStep, Obs.isComlost, Obs.isTimeout, Obs.isAccept]
      apply Balanced.over
      · exact h.observes hview
      · apply h.count
      · apply h.bound
      · apply hnone
      · intro _
        apply hready
  | callWakeUp => exact h.quiet (h.observe rfl rfl rfl) rfl rfl (.inl rfl) rfl rfl rfl
  | send hstate hopen hemit => exact h.sent hstate hopen rfl (.inl rfl) rfl rfl
  | @sendFailed sent frame s e step e' hstate hopen hemit =>
      cases sent with
      | false => exact h.quiet (h.observe rfl rfl rfl) rfl rfl (.inr rfl) rfl rfl rfl
      | true =>
          have hsent : Balanced (w.emit (.sent w.port.state frame)) :=
            h.sent hstate hopen rfl (.inl rfl) rfl rfl
          exact hsent.quiet (hsent.observe rfl rfl rfl) rfl rfl (.inr rfl) rfl rfl rfl
  | restep step hstate => exact h.quiet h.always rfl rfl (.inl rfl) rfl rfl rfl
  | wake hstate => exact h.starting hstate (h.observe rfl rfl rfl) rfl hstate rfl
  | test deadline awaiting hstate =>
      exact h.starting hstate (h.observe rfl rfl rfl) rfl hstate rfl
  | startupFailed frame hstate =>
      have hsent : Balanced (w.emit (.sent .startup frame)) :=
        h.starting hstate (h.observe rfl rfl rfl) rfl hstate rfl
      exact hsent.quiet (hsent.observe rfl rfl rfl) rfl rfl (.inr rfl) rfl rfl rfl
  | count => exact h.quiet h.always rfl rfl (.inl rfl) rfl rfl rfl
  | arm deadline hstate hsent =>
      obtain ⟨frame, l, hlog⟩ := hsent
      exact h.arms hlog rfl hstate rfl rfl rfl

/-- The timeouts the controller has processed: the reply the port waits for is due by
`now`. -/
def DueBy (now : UInt32) (w : World) (_ : Bool) (awaiting : Bool) : Prop :=
  w.port.awaitingResponse = true ∧ w.port.responseDeadline100us ≤ now ∧ awaiting = false

/-- A timeout of the port is charged to the frame whose deadline has been reached. -/
theorem Balanced.charges {w : World} (h : Balanced w) (d : Bool)
    (havail : acyclicAvailable w.port.state = true) (hwait : w.port.awaitingResponse = true)
    (hdeadline : w.port.responseDeadline100us ≤ (account w.log).now)
    (hcharge : Chargeable w.log (.timeout w.port.state d)) :
  Trace.Always Accounted (.timeout w.port.state d :: w.log) ∧
    account (.timeout w.port.state d :: w.log)
      = { account w.log with flight := .none, failures := (account w.log).failures + 1 }
  := by
  have hflying : (account w.log).flight ≠ .none := by
    apply hcharge.2.1
    right
    cases hs : w.port.state <;> first | rfl | (rw [hs] at havail; contradiction)
  have hflight := (h.waiting havail hwait).resolve_right fun hnone => hflying hnone.1
  constructor
  · refine ⟨h.always, accounted_within h.bound rfl ?_ ?_⟩
    · intro _
      simp only [Account.expired, hflight, decide_eq_true_iff]
      apply hdeadline
    · intro hc
      contradiction
  · rw [← account_fail hflying]
    cases hs : w.port.state <;> first | rfl | (rw [hs] at havail; contradiction)

/-- Nothing is charged outside PREOPERATE and OPERATE. -/
theorem Balanced.spares {w v : World} (h : Balanced w) {d : Bool}
    (hstate : acyclicAvailable w.port.state = false)
    (hlog : v.log = .timeout w.port.state d :: w.log)
    (hcount : v.port.diagnostics.rxRetryCount = w.port.diagnostics.rxRetryCount)
    (hawaiting : v.port.awaitingResponse = false) :
  Balanced v
  := by
  have haccount : account v.log = { account w.log with flight := .none } := by
    rw [hlog]
    cases hs : w.port.state <;> first | rfl | (rw [hs] at hstate; contradiction)
  apply Balanced.over
  · rw [hlog]
    apply h.observe rfl _ rfl
    cases hs : w.port.state <;> first | rfl | (rw [hs] at hstate; contradiction)
  · rw [haccount, hcount]
    apply h.count
  · rw [haccount]
    apply h.bound
  · rw [haccount]
  · intro _
    apply hawaiting

theorem balanced_timeout {now : UInt32} {w v : World} (hstep : TimeoutStep (DueBy now) w v)
    (h : Balanced w) (hnow : (account w.log).now = now) (hC : Trace.Always Chargeable v.log) :
  Balanced v
  := by
  subst hnow
  cases hstep with
  | control hstep => apply balanced_control hstep h
  | clearRx => exact h.quiet h.always rfl rfl (.inl rfl) rfl rfl rfl
  | ignored d awaiting hdue hstate =>
      obtain ⟨hwait, hdeadline, hover⟩ := hdue
      have hunavailable : acyclicAvailable w.port.state = false := by
        rw [← Bool.not_eq_true]
        intro havail
        -- No deadline is ever armed in PREOPERATE.
        rcases h.waiting havail hwait with hflight | ⟨-, hoperate⟩
        · have hpreoperate := h.operating _ hflight
          cases hs : w.port.state <;> simp_all [acyclicAvailable]
        · exact hstate hoperate
      exact h.spares hunavailable rfl rfl hover
  | broken d awaiting hdue =>
      obtain ⟨hwait, hdeadline, hover⟩ := hdue
      have hstate : acyclicAvailable w.port.state = false := by
        have hflush := hC.2.2.2 rfl
        cases hs : w.port.state <;> first | rfl | (rw [hs] at hflush; contradiction)
      have hignored : Balanced ⟨{ w.port with
          rx := [], awaitingResponse := awaiting, state := .error },
            .timeout w.port.state d :: w.log⟩ :=
        h.spares hstate rfl rfl hover
      exact hignored.quiet (hignored.observe rfl rfl rfl) rfl rfl (.inr rfl) rfl rfl rfl
  | count d awaiting hdue hstate hawaiting hcount =>
      obtain ⟨hwait, hdeadline, hover⟩ := hdue
      obtain ⟨halways, haccount⟩ := h.charges d (by rw [hstate]; rfl) hwait hdeadline hC.2
      rw [h.count] at hcount
      apply Balanced.over
      · apply halways
      · rw [haccount]
        simp only [h.count]
      · rw [haccount]
        apply hcount
      · rw [haccount]
      · intro _
        apply hover
  | lost d hdue hstate hcount =>
      obtain ⟨hwait, hdeadline, -⟩ := hdue
      obtain ⟨halways, haccount⟩ := h.charges d (by rw [hstate]; rfl) hwait hdeadline hC.1.1.2
      have hbound := h.bound
      rw [h.count] at hcount
      have hthree : (account w.log).failures + 1 = RX_RETRY_LIMIT + 1 := by omega
      apply Balanced.over
      · apply always_comlost
        · apply halways
        · rw [haccount]
          apply hthree
      · rfl
      · apply Nat.zero_le
      · simp only [account_cons, comlostObs] at haccount ⊢
        rw [haccount]
        rfl
      · intro _
        rfl
  | restep => exact h.quiet h.always rfl rfl (.inl rfl) rfl rfl rfl

/-! ### Ticks -/

/-- Receiving leaves the time and the deadline as they are, and can only end an exchange. -/
structure Steady (w v : World) : Prop where
  now : (account v.log).now = (account w.log).now
  deadline : v.port.responseDeadline100us = w.port.responseDeadline100us
  flight : (account v.log).flight = (account w.log).flight ∨ (account v.log).flight = .none

theorem Account.fail_now (a : Account) :
  a.fail.now = a.now
  := by
  rw [Account.fail]
  split
  · rfl
  · rfl

theorem Account.fail_flight (a : Account) :
  a.fail.flight = .none
  := by
  rw [Account.fail]
  split
  · next hnone => apply hnone
  · rfl

theorem steady_service {w v : World} (hstep : ServiceStep w v) :
  Steady w v
  := by
  have haccount : account v.log = account w.log := by
    obtain ⟨os, hos, hlog⟩ := log_of_service hstep
    rw [hlog]
    apply account_append (fun o ho => uncounted_ofService (hos o ho))
  refine ⟨?_, (untouched_of_step hstep).deadline, .inl ?_⟩
  · rw [haccount]
  · rw [haccount]

theorem steady_routeOd (w : World) (od : List UInt8) :
  Steady w (routeOd w od)
  := by
  have haccount : account (routeOd w od).log = account w.log := by
    obtain ⟨os, hos, hlog⟩ := log_of_routeOd w od
    rw [hlog]
    apply account_append (fun o ho => uncounted_ofRoute (hos o ho))
  obtain ⟨s, e, hport⟩ := routeOd_port w od
  refine ⟨?_, ?_, .inl ?_⟩
  · rw [haccount]
  · rw [hport]
  · rw [haccount]

theorem steady_control {w v : World} (hstep : ControlStep w v) :
  Steady w v
  := by
  cases hstep with
  | service hstep => apply steady_service hstep
  | fail => exact ⟨rfl, rfl, .inl rfl⟩

theorem Steady.trans {u v w : World} (h : Steady u v) (h' : Steady v w) :
  Steady u w
  := by
  refine ⟨h'.now.trans h.now, h'.deadline.trans h.deadline, ?_⟩
  rcases h'.flight with hflight | hflight
  · rw [hflight]
    apply h.flight
  · right
    apply hflight

theorem steady_judge {K : Iolinki} {data : List UInt8} {w v : World}
    (hstep : JudgeStep K data w v) :
  Steady w v
  := by
  have hreject : ∀ st, (account (.reject st data :: w.log)).now = (account w.log).now ∧
      (account (.reject st data :: w.log)).flight = .none := by
    intro st
    exact ⟨Account.fail_now _, Account.fail_flight _⟩
  cases hstep with
  | rejectTest | rejectRetry | rejectLost => exact ⟨(hreject _).1, rfl, .inr (hreject _).2⟩
  | acceptTest | acceptAck => exact ⟨rfl, rfl, .inr rfl⟩
  | unframed => exact ⟨rfl, rfl, .inl rfl⟩
  | @accept u pdIn pdInLen pdValid hstate hack hwidth hcks hhandler hpd =>
      have haccepted : Steady w (accepted w data) := ⟨rfl, rfl, .inr rfl⟩
      have hu : Steady w u := hhandler.keeps
        (fun _ _ hstep hsteady => hsteady.trans (steady_service hstep)) haccepted
      have hrouted := hu.trans (steady_routeOd u (data.take (odWidth w.port)))
      exact ⟨hrouted.now, hrouted.deadline, hrouted.flight⟩

theorem steady_receive {K : Iolinki} {judged : World → List UInt8 → Prop} {w v : World}
    (hstep : ReceiveStep K judged w v) :
  Steady w v
  := by
  cases hstep with
  | control hstep => apply steady_control hstep
  | recv | clearRx => exact ⟨rfl, rfl, .inl rfl⟩
  | judge data hjudged hstep => apply steady_judge hstep

/-- An exchange that is not overdue does not become overdue by receiving. -/
theorem Steady.overdue {w v : World} (h : Steady w v) (hdue : (account w.log).overdue = false) :
  (account v.log).overdue = false
  := by
  rcases h.flight with hflight | hflight
  · rw [Account.overdue, hflight, h.now]
    apply hdue
  · rw [Account.overdue, hflight]

/-- Receiving keeps the balance if replies are judged only while the exchange is not
overdue. -/
theorem balanced_receivePath {K : Iolinki} {judged : World → List UInt8 → Prop} {w v : World}
    (hpath : ReceivePath K judged w v) (h : Balanced w)
    (hlate : (∀ u data, ¬ judged u data) ∨ (account w.log).overdue = false)
    (hC : Trace.Always Chargeable v.log) :
  Balanced v ∧ (account v.log).now = (account w.log).now ∧
    v.port.responseDeadline100us = w.port.responseDeadline100us
  := by
  have hkept : Balanced v ∧ (account v.log).now = (account w.log).now ∧
      v.port.responseDeadline100us = w.port.responseDeadline100us ∧
      ((account w.log).overdue = false → (account v.log).overdue = false) := by
    apply Trace.invariant_of_path (I := fun v => Balanced v ∧
      (account v.log).now = (account w.log).now ∧
      v.port.responseDeadline100us = w.port.responseDeadline100us ∧
      ((account w.log).overdue = false → (account v.log).overdue = false))
      extends_receive (Trace.closed_always Chargeable) _ hpath ⟨h, rfl, rfl, id⟩ hC
    rintro u u' hstep ⟨hu, hnow, hdeadline, hdue⟩ hC
    have hsteady := steady_receive hstep
    refine ⟨?_, hsteady.now.trans hnow, hsteady.deadline.trans hdeadline, ?_⟩
    · apply balanced_receive hstep hu _ hC
      intro data hjudged
      rcases hlate with hnever | hdue'
      · exact absurd hjudged (hnever u data)
      · apply hdue hdue'
    · intro hw
      apply hsteady.overdue (hdue hw)
  exact ⟨hkept.1, hkept.2.1, hkept.2.2.1⟩

/-- A poll that delivers too few octets for a reply judges none. -/
theorem pollRx_short (K : Iolinki) (env : Env) {w : World} (h : Short env w.port) :
  ReceivePath K (fun _ _ => False) w (pollRx K env w).1
  := by
  simp only [pollRx]
  split
  · apply Relation.ReflTransGen.refl
  · split
    · apply Relation.ReflTransGen.refl
    · next expected hexp => apply pollLoop_short env 0 (h expected hexp)

/-- The poll of a tick keeps the balance. -/
theorem balanced_poll {K : Iolinki} (hK : K.Lawful) (env : Env) {w : World} (h : Balanced w)
    (hlate : (account w.log).overdue = true → Short env w.port)
    (hC : Trace.Always Chargeable (pollRx K env w).1.log) :
  Balanced (pollRx K env w).1 ∧ (account (pollRx K env w).1.log).now = (account w.log).now ∧
    (pollRx K env w).1.port.responseDeadline100us = w.port.responseDeadline100us
  := by
  cases hdue : (account w.log).overdue with
  | false => apply balanced_receivePath (pollRx_path hK env w) h (.inr hdue) hC
  | true =>
      apply balanced_receivePath (pollRx_short K env (hlate hdue)) h _ hC
      left
      intro _ _
      apply id

/-- A timeout takes no time. -/
theorem now_timeout {due : World → Bool → Bool → Prop} {w v : World}
    (hstep : TimeoutStep due w v) :
  (account v.log).now = (account w.log).now
  := by
  have htimeout : ∀ st d, (account (.timeout st d :: w.log)).now = (account w.log).now := by
    intro st d
    cases st with
    | operate | preoperate => apply Account.fail_now
    | _ => rfl
  cases hstep with
  | control hstep => apply (steady_control hstep).now
  | clearRx | restep => rfl
  | ignored d | broken d | count d | lost d => apply htimeout _ d

/-- A tick of the controller keeps the balance. -/
theorem balanced_tick {K : Iolinki} (hK : K.Lawful) (env : Env) {w : World} (now : UInt32)
    (h : Balanced w) (hlate : Late w.port now → Short env w.port)
    (hC : Trace.Always Chargeable (controllerTickAt K env w now).1.log) :
  Balanced (controllerTickAt K env w now).1
  := by
  have htick : Balanced (w.emit (.tick now)) := by
    constructor
    · exact h.observe rfl rfl rfl
    · apply h.count
    · apply h.bound
    · apply h.waiting
    · apply h.armed
    · apply h.operating
    · apply h.opened
    · apply h.startup
  have hdue : (account (w.emit (.tick now)).log).overdue = true →
      Short env (w.emit (.tick now)).port := by
    intro hover
    apply hlate
    simp only [World.emit_log, account_cons, accountStep, Account.overdue] at hover
    cases hf : (account w.log).flight with
    | none | unarmed =>
        rw [hf] at hover
        contradiction
    | armed d =>
        rw [hf] at hover
        obtain ⟨hwait, rfl⟩ := h.armed d hf
        refine ⟨?_, hwait, ?_⟩
        · intro hstate
          rw [h.startup hstate] at hf
          contradiction
        · apply of_decide_eq_true hover
  simp only [controllerTickAt, tickAt] at hC ⊢
  rcases tickCommon_cases K env (w.emit (.tick now))
    (if responseDueAt w.port now then .responseTimeout else .cycleDue) true now
    with heq | ⟨hevent, hawaiting, heq⟩ | ⟨-, hawaiting, heq⟩
  · rw [heq] at hC ⊢
    apply (balanced_poll hK env htick hdue hC).1
  · rw [heq] at hC ⊢
    have hresponse : responseDueAt w.port now = true := by
      by_contra hnot
      rw [if_neg hnot] at hevent
      contradiction
    simp only [responseDueAt, Bool.and_eq_true, decide_eq_true_iff] at hresponse
    have hext : TimeoutPath (fun _ _ _ => True) (pollRx K env (w.emit (.tick now))).1 _ :=
      tickTimeout_path env _ now true (fun _ _ _ => trivial)
    obtain ⟨hpoll, hnow, hdeadline⟩ := balanced_poll hK env htick hdue
      (Trace.closed_always _ (extends_timeout.path hext) hC)
    have hpath : TimeoutPath (DueBy now) (pollRx K env (w.emit (.tick now))).1
        (tickTimeout env (pollRx K env (w.emit (.tick now))).1 now true).1 := by
      apply tickTimeout_path env _ now true
      intro v hv hdeadline'
      refine ⟨hv.trans (hawaiting rfl), ?_, rfl⟩
      rw [hdeadline', hdeadline]
      apply hresponse.2
    apply (Trace.invariant_of_path (I := fun v => Balanced v ∧ (account v.log).now = now)
      extends_timeout (Trace.closed_always Chargeable) _ hpath ⟨hpoll, hnow⟩ hC).1
    rintro u v hstep ⟨hu, hunow⟩ hC
    exact ⟨balanced_timeout hstep hu hunow hC, (now_timeout hstep).trans hunow⟩
  · rw [heq] at hC ⊢
    have hpath : SlotPath K NotAwaiting (pollRx K env (w.emit (.tick now))).1 _ :=
      processSlot_path hK env now true hawaiting
    obtain ⟨hpoll, -, -⟩ := balanced_poll hK env htick hdue
      (Trace.closed_always _ (extends_slot.path hpath) hC)
    apply Trace.invariant_of_path extends_slot (Trace.closed_always Chargeable) _ hpath hpoll hC
    intro u v hstep hu hC
    apply balanced_slot hstep hu hC

/-! ### Accounting for lost communication -/

/-- In every run of the controller in which failures are charged as they should, every
failed M-sequence is counted once, and communication is given up exactly at the third in
a row. -/
theorem comlost_accounting {K : Iolinki} (hK : K.Lawful) {phy : PhyApi} {config : Config}
    {w : World} (hw : Reach K controllerDriven phy config w)
    (hC : Trace.Always Chargeable w.log) :
  Trace.Always Accounted w.log ∧
    w.port.diagnostics.rxRetryCount = (account w.log).failures ∧
    (account w.log).failures ≤ RX_RETRY_LIMIT
  := by
  have hbalanced : Balanced w := by
    induction hw with
    | start env hconfig =>
        have hpath := started_path env phy config hconfig
        apply Trace.invariant_of_path extends_control (Trace.closed_always Chargeable) _ hpath _ hC
        · intro u v hstep hu _
          apply balanced_control hstep hu
        · apply Balanced.over
          · refine ⟨Trace.always_nil _, ⟨?_, ?_⟩, ?_, ?_⟩
            · intro hc
              contradiction
            · intro hthree
              exact absurd hthree (by decide)
            · intro hc
              contradiction
            · intro hc
              contradiction
          · rfl
          · apply Nat.zero_le
          · rfl
          · intro _
            rfl
    | @call w env c _ hc ih =>
        cases c with
        | controllerTickAt now =>
            apply balanced_tick hK env now _ hc hC
            apply ih
            apply Trace.closed_always _ _ hC
            exact (List.suffix_cons _ _).trans
              (tickCommon_extends hK env (w.emit (.tick now)) _ true now)
        | service call =>
            have hpath := (runService_path w call).control
            apply Trace.invariant_of_path extends_control (Trace.closed_always Chargeable) _ hpath
              _ hC
            · intro u v hstep hu _
              apply balanced_control hstep hu
            · apply ih
              apply Trace.closed_always _ (extends_control.path hpath) hC
        | _ => contradiction
  exact ⟨hbalanced.always, hbalanced.count, hbalanced.bound⟩

/-- Ticks of the controller that bring a port of type 2.1 into OPERATE at time 14. -/
def operating : List (Env × Call) :=
  [(.quiet [], .controllerTickAt 0), (.quiet [], .controllerTickAt 10),
    (.quiet (reply 0 [0x0A]), .controllerTickAt 12), (.quiet (reply 0 []), .controllerTickAt 14)]

/-- The three unanswered frames of a device that has been removed. -/
def removed : List (Env × Call) :=
  operating ++ [(.quiet [], .controllerTickAt 17), (.quiet [], .controllerTickAt 18),
    (.quiet [], .controllerTickAt 21), (.quiet [], .controllerTickAt 22),
    (.quiet [], .controllerTickAt 25)]

/-- In a run in which a device is removed, communication is given up at the third deadline. -/
theorem comlost_accounting_removed :
  Trace.Always Accounted
      (run .reference (started (.quiet []) .full (.bare .type2_1 1 1)) removed).log ∧
    (run .reference (started (.quiet []) .full
      (.bare .type2_1 1 1)) removed).port.diagnostics.rxRetryCount
        = (account (run .reference (started (.quiet []) .full
          (.bare .type2_1 1 1)) removed).log).failures ∧
    (account (run .reference (started (.quiet []) .full
      (.bare .type2_1 1 1)) removed).log).failures ≤ RX_RETRY_LIMIT
  := by
  apply comlost_accounting Iolinki.lawful_reference
  · apply (Reach.start _ (by decide)).run
    decide +kernel
  · decide +kernel

/-- A cyclic frame whose reply has a bad checksum, its deadline, and a second such frame. -/
def corrupted : List (Env × Call) :=
  operating ++ [(.quiet [0x55, 0x00], .controllerTickAt 15), (.quiet [], .controllerTickAt 16),
    (.quiet [], .controllerTickAt 17), (.quiet [0x55, 0x00], .controllerTickAt 18)]

/-- A reply with a bad checksum leaves the deadline of its frame armed, and the deadline
counts the frame again: communication is given up at the second failed M-sequence. -/
theorem comlost_accounting_corrupted :
  Reach .reference controllerDriven .full (.bare .type2_1 1 1)
    (run .reference (started (.quiet []) .full (.bare .type2_1 1 1)) corrupted) ∧
  ¬ Trace.Always Accounted
    (run .reference (started (.quiet []) .full (.bare .type2_1 1 1)) corrupted).log
  := by
  constructor
  · apply (Reach.start _ (by decide)).run
    decide +kernel
  · decide +kernel

end IolinkMaster
