import IolinkMaster.Rest
import IolinkMaster.WellFormed

/-!
# The two paths to lost communication

The retries of a port are exhausted by a corrupted reply or by a response timeout.  Both
paths restart the port alike exactly when a timeout is processed at all, there is no receive
path to flush and the gate of the next wake-up happens to be set as it has to be.
-/

namespace IolinkMaster

open Relation

/-! ### Ports that have sent -/

/-- A port that has connected, or waits for the answer to a test message, can send. -/
def CanSend (p : PortState) : Prop :=
  acyclicAvailable p.state = true ∨ p.startup.step = .awaitResponse → p.phy.send = true

section

variable {K : Iolinki} {w v : World}

theorem canSend_service (hstep : ServiceStep w v) (h : CanSend w.port) :
  CanSend v.port
  := by
  have hsame := untouched_of_step hstep
  rw [CanSend, hsame.state, hsame.step, hsame.phy]
  apply h

theorem canSend_control (hstep : ControlStep w v) (h : CanSend w.port) :
  CanSend v.port
  := by
  cases hstep with
  | service hstep => apply canSend_service hstep h
  | fail =>
      rintro (hstate | hstep)
      · contradiction
      · apply h (.inr hstep)

theorem canSend_routeOd (od : List UInt8) (h : CanSend w.port) :
  CanSend (routeOd w od).port
  := by
  obtain ⟨s, e, hport, -⟩ := routeOd_service w od
  rw [hport]
  apply h

theorem canSend_judge {data : List UInt8} (hstep : JudgeStep K data w v) (h : CanSend w.port) :
  CanSend v.port
  := by
  cases hstep with
  | unframed | rejectTest | rejectRetry => apply h
  | rejectLost =>
      rintro (hstate | hstep)
      · contradiction
      · contradiction
  | acceptTest hstate hstep =>
      intro _
      apply h (.inr hstep)
  | acceptAck hack =>
      intro _
      apply h
      left
      rw [hack.1]
      rfl
  | @accept u pdIn pdInLen pdValid hstate hack hwidth hcks hhandler hpd =>
      have hu : CanSend u.port :=
        hhandler.keeps (I := fun u => CanSend u.port) (fun _ _ => canSend_service)
          (show CanSend (accepted w data).port from h)
      apply canSend_routeOd (data.take (odWidth w.port)) hu

theorem canSend_receive {judged : World → List UInt8 → Prop}
    (hstep : ReceiveStep K judged w v) (h : CanSend w.port) :
  CanSend v.port
  := by
  cases hstep with
  | control hstep => apply canSend_control hstep h
  | recv | clearRx => apply h
  | judge data hjudged hstep => apply canSend_judge hstep h

theorem canSend_slot {ready : World → Prop} (hstep : SlotStep K ready w v)
    (h : CanSend w.port) :
  CanSend v.port
  := by
  cases hstep with
  | control hstep => apply canSend_control hstep h
  | send hstate =>
      intro _
      apply h (.inl hstate)
  | sendFailed sent e hstate =>
      intro _
      apply h (.inl hstate)
  | test deadline awaiting hstate hstep hsend =>
      intro _
      apply hsend
  | restep step hstate hstep =>
      rintro (hacyclic | hawait)
      · apply h (.inl hacyclic)
      · exact absurd hawait hstep.1
  | wake hstate =>
      rintro (hacyclic | hawait)
      · apply h (.inl hacyclic)
      · contradiction
  | startupFailed =>
      rintro (hacyclic | hawait)
      · contradiction
      · apply h (.inr hawait)
  | slot | callWakeUp | count | arm => apply h

theorem canSend_timeout {due : World → Bool → Bool → Prop} (hstep : TimeoutStep due w v)
    (h : CanSend w.port) :
  CanSend v.port
  := by
  cases hstep with
  | control hstep => apply canSend_control hstep h
  | clearRx | ignored | count => apply h
  | broken =>
      rintro (hacyclic | hawait)
      · contradiction
      · apply h (.inr hawait)
  | lost =>
      rintro (hacyclic | hawait)
      · contradiction
      · contradiction
  | restep step hstate hstep =>
      rintro (hacyclic | hawait)
      · apply h (.inl hacyclic)
      · exact absurd hawait hstep.1

end

theorem canSend_zeroPort (phy : PhyApi) (config : Config) :
  CanSend (zeroPort phy config)
  := by
  rintro (hacyclic | hawait)
  · simp only [zeroPort] at hacyclic
    split at hacyclic
    · contradiction
    · contradiction
  · contradiction

/-- What holds of every reachable port: it is well-formed, and it can send once it has. -/
theorem reachable_port {K : Iolinki} (hK : K.Lawful) {phy : PhyApi} {config : Config}
    {allowed : Env → World → Call → Prop} {w : World} (hw : Reach K allowed phy config w) :
  WellFormed config w.port ∧ CanSend w.port
  := by
  have hkept : KeptFormed K config (fun _ => True) (fun w => CanSend w.port) := by
    constructor
    · intro _ _ _ _
      trivial
    · intro w v hstep _ h _
      apply canSend_control hstep h
    · intro w v hstep _ h _
      apply canSend_receive hstep h
    · intro w v hstep _ h _
      apply canSend_slot hstep h
    · intro w v hstep _ h _
      apply canSend_timeout hstep h
  apply hkept.reachable hK _ _ _ hw trivial
  · apply canSend_zeroPort
  · intro w now h
    apply h
  · intro w mode _ _
    apply canSend_zeroPort

/-! ### Receiving a corrupted reply -/

/-- The octets `octets` are received and buffered. -/
def received (w : World) (octets : List (UInt8 × List Service)) : World :=
  ⟨{ w.port with rx := w.port.rx ++ octets.map Prod.fst },
    (octets.map fun o => Obs.recv o.1).reverse ++ w.log⟩

section

variable {K : Iolinki} {env : Env} {w : World}

/-- Octets that complete no reply are buffered. -/
theorem pollLoop_received (env : Env) {expected : Nat} (hbuf : expected ≤ FRAME_BUF_SIZE)
    {octets : List (UInt8 × List Service)} (rest : List (UInt8 × List Service)) (frames : Nat)
    (hlen : w.port.rx.length + octets.length < expected) :
  pollLoop K env expected w frames (octets ++ rest)
    = pollLoop K env expected (received w octets) frames rest
  := by
  induction octets generalizing w with
  | nil =>
      rw [List.nil_append]
      simp [received]
  | cons octet octets ih =>
      obtain ⟨byte, handler⟩ := octet
      rw [List.length_cons] at hlen
      have hroom : ¬ w.port.rx.length ≥ FRAME_BUF_SIZE := by omega
      have hshort : ¬ (w.port.rx ++ [byte]).length ≥ expected := by
        rw [List.length_append, List.length_singleton]
        omega
      rw [List.cons_append]
      simp only [pollLoop, World.emit_port, World.put_port, hroom, hshort, if_false]
      rw [ih]
      · simp [received, World.put, World.emit]
      · rw [World.put_port, List.length_append, List.length_singleton]
        omega

/-- The octet that completes a reply has it judged. -/
theorem pollLoop_judged {expected : Nat} (byte : UInt8) (handler : List Service)
    (rest : List (UInt8 × List Service)) (frames : Nat) {u : World}
    (hu : u = (w.emit (.recv byte)).put
      { (w.emit (.recv byte)).port with rx := (w.emit (.recv byte)).port.rx ++ [byte] })
    (hroom : w.port.rx.length < FRAME_BUF_SIZE) (hfull : expected ≤ u.port.rx.length)
    (hjudged : (onRx K env u u.port.rx handler).2 ≠ 0) :
  pollLoop K env expected w frames ((byte, handler) :: rest)
    = ((onRx K env u u.port.rx handler).1.put
        { (onRx K env u u.port.rx handler).1.port with rx := [] },
      (onRx K env u u.port.rx handler).2)
  := by
  subst hu
  rw [pollLoop]
  dsimp only
  rw [if_neg (by simpa using hroom), if_pos hfull, if_pos hjudged]

/-- Octets that complete a reply have it judged as a whole. -/
theorem pollLoop_complete {expected : Nat} (hbuf : expected ≤ FRAME_BUF_SIZE)
    {octets rest : List (UInt8 × List Service)} {last : UInt8 × List Service} (frames : Nat)
    (hlen : w.port.rx.length + octets.length + 1 = expected) {u : World} {data : List UInt8}
    (hu : u = received w (octets ++ [last])) (hdata : data = u.port.rx)
    (hjudged : (onRx K env u data last.2).2 ≠ 0) :
  pollLoop K env expected w frames (octets ++ last :: rest)
    = ((onRx K env u data last.2).1.put { (onRx K env u data last.2).1.port with rx := [] },
      (onRx K env u data last.2).2)
  := by
  subst hdata
  obtain ⟨byte, handler⟩ := last
  have hrx : u.port.rx.length = expected := by
    simp only [hu, received, List.length_append, List.length_map, List.length_singleton]
    omega
  rw [pollLoop_received env hbuf _ _ (by omega)]
  apply pollLoop_judged byte handler rest frames _ _ hrx.ge hjudged
  · rw [hu]
    simp [received, World.put, World.emit]
  · simp only [received, List.length_append, List.length_map]
    omega

/-- A reply of PREOPERATE or OPERATE with a wrong checksum, when no retry is left. -/
theorem onRx_corrupted (hK : K.Lawful) (env : Env) {data : List UInt8} (handler : List Service)
    (hstate : acyclicAvailable w.port.state = true)
    (hcount : w.port.diagnostics.rxRetryCount = RX_RETRY_LIMIT)
    (hwidth : replyWidth w.port = some data.length) (hcks : ¬ K.CksOk data) :
  onRx K env w data handler
    = ((restartEstablish env
        (countChecksumError (w.emit (.reject w.port.state data))) 0 false).1, ERR_CHECKSUM)
  := by
  have hrejected : replyRejected env w data
      = ((restartEstablish env
        (countChecksumError (w.emit (.reject w.port.state data))) 0 false).1, ERR_CHECKSUM) := by
    simp [replyRejected, countChecksumError, hcount]
  have hdata : data ≠ [] := by
    rintro rfl
    revert hwidth
    simp only [replyWidth]
    split <;> simp [M_SEQ_TYPE0_LEN]
    all_goals split <;> simp
  rw [← hrejected]
  simp only [onRx]
  rw [if_neg hdata]
  cases hst : w.port.state with
  | preoperate =>
      simp only [replyWidth, hst] at hwidth
      rw [if_neg (by decide), if_pos rfl]
      split
      · next hack =>
        rw [if_pos hack, Option.some.injEq] at hwidth
        rw [onRxOperateAck, if_neg (by simp [← hwidth]), if_pos]
        rw [ne_eq, ackOk_iff hwidth.symm]
        apply hcks
      · next hack =>
        rw [if_neg hack, Option.some.injEq] at hwidth
        rw [onRxType0, if_neg (by simp [← hwidth]), if_pos]
        rw [Bool.not_eq_true', ← Bool.not_eq_true, type0ReplyOk_iff hwidth.symm]
        apply hcks
  | operate =>
      simp only [replyWidth, hst] at hwidth
      rw [if_neg (by decide), if_neg (by decide)]
      split
      · next htype =>
        rw [if_pos htype.2, Option.some.injEq] at hwidth
        rw [onRxType0, if_neg (by simp [← hwidth]), if_pos]
        rw [Bool.not_eq_true', ← Bool.not_eq_true, type0ReplyOk_iff hwidth.symm]
        apply hcks
      · next htype =>
        have htype' : ¬ type0Operate w.port = true := fun h => htype ⟨rfl, h⟩
        rw [if_neg htype', Option.some.injEq] at hwidth
        simp only [onRxOperate]
        split
        · next hnone =>
          rw [hK.decode_none_iff] at hnone
          exact absurd hwidth.symm hnone
        · next r hsome =>
          have hok := (decodeOperateResponse_some hK hsome).2.2.1.not.mpr hcks
          rw [if_pos (by simpa using hok)]
  | _ =>
      rw [hst] at hstate
      contradiction

end

/-! ### Restarting -/

/-- The rate scan of a port cannot be reset. -/
def rateResetFails (env : Env) (p : PortState) : Bool :=
  p.config.autoBaudrate && p.startup.baudrateIndex != 0 && p.config.setBaudrateChecked &&
    env.setBaudrate != STATUS_OK

/-- The port after a restart of communication. -/
def restartedPort (env : Env) (p : PortState) (now : UInt32) (timed : Bool) : PortState :=
  let q := { p with
    state := if rateResetFails env p then .error else .startup
    startup :=
      { p.startup with
        step := .wake
        wakeAttempts := 0
        baudrateIndex := if p.config.autoBaudrate then 0 else p.startup.baudrateIndex }
    diagnostics := { p.diagnostics with rxRetryCount := 0 }
    awaitingResponse := false }
  if rateResetFails env p then q else armSendGate q now (tDwu100us p) timed

/-- The observations of a restart of communication. -/
def restartObs (env : Env) (p : PortState) : List Obs :=
  (if rateResetFails env p then [.enter .error] else []) ++
    (if p.config.autoBaudrate && p.startup.baudrateIndex != 0 then [.setBaudrate .com3] else []) ++
      [.enter .startup, comlostObs p]

/-- A restart of communication. -/
theorem restartEstablish_eq (env : Env) (w : World) (now : UInt32) (timed : Bool) :
  (restartEstablish env w now timed).1
    = ⟨restartedPort env w.port now timed, restartObs env w.port ++ w.log⟩
  := by
  by_cases hauto : w.port.config.autoBaudrate = true
  · by_cases hindex : w.port.startup.baudrateIndex = 0
    · simp [restartEstablish, resetRateScan, restartedPort, restartObs, rateResetFails, hauto,
        hindex, World.put, World.emit, World.enter, comlostObs, tDwu100us, armSendGate]
    · by_cases hchecked : w.port.config.setBaudrateChecked = true
      · by_cases hret : env.setBaudrate = STATUS_OK
        · simp [restartEstablish, resetRateScan, restartedPort, restartObs, rateResetFails,
            hauto, hindex, hchecked, hret, setBaudrate, World.put, World.emit, World.enter,
            comlostObs, tDwu100us, armSendGate, startupBaudrate, baudrateScan]
        · simp [restartEstablish, resetRateScan, restartedPort, restartObs, rateResetFails,
            hauto, hindex, hchecked, hret, setBaudrate, World.put, World.emit, World.enter,
            comlostObs, startupBaudrate, baudrateScan]
      · simp [restartEstablish, resetRateScan, restartedPort, restartObs, rateResetFails,
          hauto, hindex, hchecked, setBaudrate, World.put, World.emit, World.enter,
          comlostObs, tDwu100us, armSendGate, startupBaudrate, baudrateScan]
  · simp [restartEstablish, resetRateScan, restartedPort, restartObs, rateResetFails, hauto,
      World.put, World.emit, World.enter, comlostObs, tDwu100us, armSendGate]

/-- The ports `p` and `q` agree in what a restart of communication sets. -/
structure SameRestart (p q : PortState) : Prop where
  config : p.config = q.config
  phy : p.phy = q.phy
  state : p.state = q.state
  startup : p.startup = q.startup
  retries : p.diagnostics.rxRetryCount = q.diagnostics.rxRetryCount
  awaiting : p.awaitingResponse = q.awaitingResponse
  ready : p.sendReadyAt100us = q.sendReadyAt100us
  valid : p.sendReadyValid = q.sendReadyValid

theorem SameRestart.symm {p q : PortState} (h : SameRestart p q) :
  SameRestart q p
  := ⟨h.config.symm, h.phy.symm, h.state.symm, h.startup.symm, h.retries.symm, h.awaiting.symm,
    h.ready.symm, h.valid.symm⟩

theorem SameRestart.trans {p q r : PortState} (h : SameRestart p q) (h' : SameRestart q r) :
  SameRestart p r
  := ⟨h.config.trans h'.config, h.phy.trans h'.phy, h.state.trans h'.state,
    h.startup.trans h'.startup, h.retries.trans h'.retries, h.awaiting.trans h'.awaiting,
    h.ready.trans h'.ready, h.valid.trans h'.valid⟩

/-- What a restart of communication sets depends on few fields. -/
theorem restartedPort_congr {env env' : Env} {p q : PortState} (now : UInt32) (timed : Bool)
    (henv : env.setBaudrate = env'.setBaudrate) (hconfig : p.config = q.config)
    (hphy : p.phy = q.phy) (hstartup : p.startup = q.startup)
    (hready : p.sendReadyAt100us = q.sendReadyAt100us)
    (hvalid : p.sendReadyValid = q.sendReadyValid) :
  SameRestart (restartedPort env p now timed) (restartedPort env' q now timed)
  := by
  have hfails : rateResetFails env p = rateResetFails env' q := by
    simp only [rateResetFails, henv, hconfig, hstartup]
  have hdwu : tDwu100us p = tDwu100us q := by
    simp only [tDwu100us, hconfig]
  simp only [restartedPort, hfails, hdwu]
  split
  · exact ⟨hconfig, hphy, rfl, by simp only [hconfig, hstartup], rfl, rfl, hready, hvalid⟩
  · simp only [armSendGate]
    split
    · exact ⟨hconfig, hphy, rfl, by simp only [hconfig, hstartup], rfl, rfl, rfl, rfl⟩
    · exact ⟨hconfig, hphy, rfl, by simp only [hconfig, hstartup], rfl, rfl, hready, hvalid⟩

/-- What a restart sets apart from the gate. -/
theorem restartedPort_fields (env : Env) (p : PortState) (now : UInt32) (timed : Bool) :
  (restartedPort env p now timed).phy = p.phy ∧
    (restartedPort env p now timed).state
      = (if rateResetFails env p then .error else .startup) ∧
    (restartedPort env p now timed).startup.step = .wake ∧
    (restartedPort env p now timed).diagnostics.rxRetryCount = 0 ∧
    (restartedPort env p now timed).awaitingResponse = false
  := by
  simp only [restartedPort, armSendGate]
  split
  · exact ⟨rfl, rfl, rfl, rfl, rfl⟩
  · split
    · exact ⟨rfl, rfl, rfl, rfl, rfl⟩
    · exact ⟨rfl, rfl, rfl, rfl, rfl⟩

/-- Without a clock the gate stays as it is. -/
theorem restartedPort_untimed (env : Env) (p : PortState) (now : UInt32) :
  (restartedPort env p now false).sendReadyAt100us = p.sendReadyAt100us ∧
    (restartedPort env p now false).sendReadyValid = p.sendReadyValid
  := by
  simp only [restartedPort, armSendGate, Bool.false_eq_true, if_false]
  split
  · exact ⟨rfl, rfl⟩
  · exact ⟨rfl, rfl⟩

/-- A restart with a clock and one without agree when the gate is set already. -/
theorem restartedPort_agree (env : Env) {p : PortState} (now : UInt32)
    (hready : p.sendReadyAt100us = now + tDwu100us p) (hvalid : p.sendReadyValid = true) :
  SameRestart (restartedPort env p 0 false) (restartedPort env p now true)
  := by
  simp only [restartedPort, armSendGate, Bool.false_eq_true, if_false, if_true]
  split
  · exact ⟨rfl, rfl, rfl, rfl, rfl, rfl, rfl, rfl⟩
  · exact ⟨rfl, rfl, rfl, rfl, rfl, rfl, hready, hvalid⟩

/-! ### Waiting before the next wake-up -/

/-- Whatever happens, no tick less than `delay` after `now` communicates. -/
def WaitsOut (K : Iolinki) (v : World) (now delay : UInt32) : Prop :=
  ∀ (env : Env) (event : TickEvent) (later : UInt32), later - now < delay →
    communication (tickAt K env v event later).1.log = communication v.log

/-- The instant `now + delay` is within the range of the clock. -/
def Unwrapped (now delay : UInt32) : Prop := now.toNat + delay.toNat < 4294967296

instance (now delay : UInt32) : Decidable (Unwrapped now delay) :=
  inferInstanceAs (Decidable (_ < _))

theorem tDwu100us_pos (p : PortState) :
  0 < tDwu100us p
  := by
  simp only [tDwu100us]
  split
  · decide
  · next hne => exact UInt32.pos_iff_ne_zero.mpr hne

/-- A port of STARTUP that is to wake the device polls nothing. -/
theorem pollRx_wake (K : Iolinki) (env : Env) {w : World} (hstate : w.port.state = .startup)
    (hstep : w.port.startup.step = .wake) :
  pollRx K env w = (w, STATUS_OK)
  := by
  have hexpected : expectedLen w.port = none := by
    simp [expectedLen, hstate, hstep]
  simp only [pollRx, hexpected]
  split
  · rfl
  · rfl

section

variable {K : Iolinki} {v : World} {now delay : UInt32}
  (hstate : v.port.state = .startup) (hstep : v.port.startup.step = .wake)
  (hawaiting : v.port.awaitingResponse = false) (hready : v.port.sendReadyAt100us = now + delay)
  (hvalid : v.port.sendReadyValid = true)
include hstate hstep hawaiting hready hvalid

/-- The gate holds off the next wake-up if it is not beyond the range of the clock. -/
theorem waitsOut_gated (hclock : Unwrapped now delay) :
  WaitsOut K v now delay
  := by
  intro env event later hlater
  have hgated : later < v.port.sendReadyAt100us := by
    rw [hready]
    have hnow := now.toNat_lt
    have hlater' := later.toNat_lt
    simp only [Unwrapped] at hclock
    simp only [UInt32.lt_iff_toNat_lt, UInt32.toNat_sub, UInt32.toNat_add, Nat.reducePow]
      at hlater hnow hlater' ⊢
    omega
  have hpoll := pollRx_wake K env (w := v.emit (.tick later)) hstate hstep
  have htick : (tickAt K env v event later).1 = v.emit (.tick later) := by
    cases event with
    | none => simp [tickAt, tickCommon, hpoll, STATUS_OK]
    | responseTimeout => simp [tickAt, tickCommon, hpoll, STATUS_OK, hawaiting]
    | cycleDue =>
        simp [tickAt, tickCommon, hpoll, STATUS_OK, hawaiting, cycleDueAt, cyclePaced, hstate,
          processSlot, processAt, sendGated, hvalid, hgated]
  rw [htick]
  apply communication_cons rfl

/-- A gate beyond the range of the clock lets the next wake-up out at once. -/
theorem not_waitsOut_wrapped (hsend : v.port.phy.send = true) (hdelay : 0 < delay)
    (hclock : ¬ Unwrapped now delay) :
  ¬ WaitsOut K v now delay
  := by
  intro hwaits
  have hopen : ¬ now < v.port.sendReadyAt100us := by
    rw [hready]
    have hnow := now.toNat_lt
    have hdelay' := delay.toNat_lt
    simp only [Unwrapped] at hclock
    simp only [UInt32.lt_iff_toNat_lt, UInt32.toNat_add, Nat.reducePow] at hnow hdelay' ⊢
    omega
  have hpoll := pollRx_wake K (.quiet []) (w := v.emit (.tick now)) hstate hstep
  have hsilent := hwaits (.quiet []) .cycleDue now (by simpa using hdelay)
  have hhook : (Env.quiet []).wakeUp = STATUS_OK := rfl
  cases hwake : v.port.config.wakeUp with
  | true =>
      simp [tickAt, tickCommon, hpoll, STATUS_OK, hawaiting, cycleDueAt, cyclePaced, hstate,
        processSlot, processAt, sendGated, hvalid, hopen, hsend, processStartup, hstep,
        processWake, wakeUp, hwake, hhook, World.setStep, armSendGate] at hsilent
      exact absurd hsilent (communication_grows rfl List.suffix_rfl (List.suffix_cons _ _))
  | false =>
      simp [tickAt, tickCommon, hpoll, STATUS_OK, hawaiting, cycleDueAt, cyclePaced, hstate,
        processSlot, processAt, sendGated, hvalid, hopen, hsend, processStartup, hstep,
        processWake, wakeUp, hwake, sendFull_transmits (Env.transmits_quiet []), World.setStep,
        armSendGate] at hsilent
      exact absurd hsilent (communication_grows rfl List.suffix_rfl (List.suffix_cons _ _))

end

/-- A restarted port with its gate set waits for its next wake-up if and only if the gate is
within the range of the clock or the port has failed. -/
theorem waitsOut_iff {K : Iolinki} (hK : K.Lawful) {env : Env} {p : PortState} {v : World}
    {now' : UInt32} {timed : Bool} (hsame : SameRestart v.port (restartedPort env p now' timed))
    (now : UInt32) (hsend : p.phy.send = true)
    (hready : v.port.sendReadyAt100us = now + tDwu100us p ∧ v.port.sendReadyValid = true) :
  WaitsOut K v now (tDwu100us p) ↔
    Unwrapped now (tDwu100us p) ∨ rateResetFails env p = true
  := by
  obtain ⟨hphy, hstate, hstep, -, hawaiting⟩ := restartedPort_fields env p now' timed
  rw [← hsame.phy] at hphy
  rw [← hsame.state] at hstate
  rw [← hsame.startup] at hstep
  rw [← hsame.awaiting] at hawaiting
  by_cases hfails : rateResetFails env p = true
  · refine ⟨fun _ => .inr hfails, fun _ => ?_⟩
    rw [if_pos hfails] at hstate
    intro hooks event later _
    apply (rests_tickAt hK hooks event later (.inr hstate)).silent
  · rw [if_neg hfails] at hstate
    constructor
    · intro hwaits
      left
      by_contra hclock
      apply not_waitsOut_wrapped hstate hstep hawaiting hready.1 hready.2 _ (tDwu100us_pos p)
        hclock hwaits
      rw [hphy]
      apply hsend
    · intro h
      apply waitsOut_gated hstate hstep hawaiting hready.1 hready.2 (h.resolve_right hfails)

/-! ### The two paths -/

/-- The octets complete a reply of the expected length whose checksum is wrong. -/
structure Corrupts (K : Iolinki) (p : PortState) (octets : List UInt8) : Prop where
  received : p.phy.recvByte = true
  width : replyWidth p = some (p.rx ++ octets).length
  corrupted : ¬ K.CksOk (p.rx ++ octets)

/-- The tick at `now` that receives a corrupted reply; octets after it stay in the PHY. -/
def corruptedTick (K : Iolinki) (hooks : Env) (w : World) (event : TickEvent) (now : UInt32)
    (octets rest : List (UInt8 × List Service)) : World :=
  (tickAt K { hooks with recv := octets ++ rest } w event now).1

/-- The tick at `now` that reports a response timeout, receiving a part of a reply. -/
def timeoutTick (K : Iolinki) (hooks : Env) (w : World) (now : UInt32)
    (octets : List (UInt8 × List Service)) : World :=
  (tickAt K { hooks with recv := octets, recvFails := false } w .responseTimeout now).1

/-- The number of times the receive path was flushed. -/
def flushes (log : List Obs) : Nat := log.count .flushRx

/-- Octets received are no flushes. -/
theorem flushes_received (w : World) (octets : List (UInt8 × List Service)) :
  flushes (received w octets).log = flushes w.log
  := by
  simp only [flushes, received, List.count_append]
  rw [List.count_eq_zero_of_not_mem, Nat.zero_add]
  simp

/-- Two ways of losing communication in the world `w` at `now`, to the worlds `v` and `v'`,
are equivalent. -/
structure SameComlost (K : Iolinki) (w v v' : World) (now : UInt32) : Prop where
  state : v.port.state = v'.port.state
  step : v.port.startup.step = v'.port.startup.step
  wakeAttempts : v.port.startup.wakeAttempts = v'.port.startup.wakeAttempts
  baudrateIndex : v.port.startup.baudrateIndex = v'.port.startup.baudrateIndex
  retries : v.port.diagnostics.rxRetryCount = v'.port.diagnostics.rxRetryCount
  awaiting : v.port.awaitingResponse = v'.port.awaitingResponse
  gated : ∀ u ∈ [v, v'], u.port.sendReadyAt100us = now + tDwu100us w.port ∧
    u.port.sendReadyValid = true
  flushed : ∀ u ∈ [v, v'], w.port.config.flushRx = true → flushes w.log < flushes u.log
  waits : ∀ u ∈ [v, v'], WaitsOut K u now (tDwu100us w.port)

/-- The state of a port in which both ways of losing communication at `now` are equivalent:
a timeout is processed, there is no receive path to flush, the gate of the next wake-up
happens to be set already, and it is within the range of the clock unless the port fails. -/
structure ComlostAgrees (hooks : Env) (p : PortState) (now : UInt32) : Prop where
  operating : p.state = .operate
  awaiting : p.awaitingResponse = true
  unflushed : p.config.flushRx = false
  ready : p.sendReadyAt100us = now + tDwu100us p
  valid : p.sendReadyValid = true
  clock : Unwrapped now (tDwu100us p) ∨ rateResetFails hooks p = true

/-- In PREOPERATE and OPERATE of a well-formed port `poll_rx` waits for the octets `on_rx`
accepts. -/
theorem expectedLen_eq {config : Config} {p : PortState} (hvalid : configRefused config = false)
    (hformed : WellFormed config p) (hstate : acyclicAvailable p.state = true) :
  expectedLen p = replyWidth p ∧ ∀ width, replyWidth p = some width → width ≤ FRAME_BUF_SIZE
  := by
  obtain ⟨mode, hconfig⟩ := hformed.configured
  have hod := odLenForType_le config.mSeqType
  have hpd : config.pdInLen ≤ 32 := by
    simp only [configRefused, Bool.or_eq_false_iff, decide_eq_false_iff_not] at hvalid
    have := hvalid.1.1
    simp only [PD_IN_MAX_SIZE] at this
    omega
  rw [← hformed.odLen] at hod
  have hin : p.config.pdInLen = config.pdInLen := by rw [hconfig]
  cases hst : p.state with
  | preoperate =>
      simp only [expectedLen, replyWidth, hst, true_and, Option.some.injEq]
      rintro width rfl
      split
      · decide
      · decide
  | operate =>
      simp only [expectedLen, replyWidth, hst]
      by_cases htype : type0Operate p = true
      · have hzero : p.config.mSeqType = .type0 ∧ p.config.pdInLen = 0 := by
          simp only [type0Operate, Bool.and_eq_true, beq_iff_eq] at htype
          exact htype.1
        have hone : p.odLen = 1 := by
          rw [hformed.odLen, ← show p.config.mSeqType = config.mSeqType by rw [hconfig], hzero.1]
          rfl
        simp [htype, hzero.2, hone, M_SEQ_TYPE0_LEN, FRAME_BUF_SIZE]
      · simp only [htype, Bool.false_or, Bool.false_eq_true, if_false, Option.some.injEq]
        constructor
        · split
          · omega
          · omega
        · rintro width rfl
          simp only [FRAME_BUF_SIZE]
          split
          · omega
          · omega
  | _ =>
      rw [hst] at hstate
      contradiction

section

variable {K : Iolinki} {config : Config} {w : World} (hvalid : configRefused config = false)
  (hformed : WellFormed config w.port) (hstate : acyclicAvailable w.port.state = true)
include hvalid hformed hstate

/-- A poll that completes a corrupted reply when no retry is left. -/
theorem pollRx_corrupted (hK : K.Lawful) (env : Env)
    (hcount : w.port.diagnostics.rxRetryCount = RX_RETRY_LIMIT)
    {octets rest : List (UInt8 × List Service)} (hrecv : env.recv = octets ++ rest)
    (hoctets : octets ≠ []) (hcorrupts : Corrupts K w.port (octets.map Prod.fst)) :
  ∃ u, u.port = (countChecksumError (received w octets)).port ∧
    u.log = .reject w.port.state (w.port.rx ++ octets.map Prod.fst) :: (received w octets).log ∧
    pollRx K env w
      = ((restartEstablish env u 0 false).1.put
          { (restartEstablish env u 0 false).1.port with rx := [] }, ERR_CHECKSUM)
  := by
  obtain ⟨hexpected, hbuf⟩ := expectedLen_eq hvalid hformed hstate
  rw [hcorrupts.width] at hexpected
  have hroom := hbuf _ hcorrupts.width
  obtain ⟨init, last, rfl⟩ := List.eq_nil_or_concat' octets |>.resolve_left hoctets
  -- The reply is judged with the last of its octets.
  have hjudge := onRx_corrupted (w := received w (init ++ [last])) hK env last.2 hstate
    hcount hcorrupts.width hcorrupts.corrupted
  refine ⟨countChecksumError ((received w (init ++ [last])).emit (.reject _ _)), rfl, rfl, ?_⟩
  have hlen : w.port.rx.length + init.length + 1
      = (w.port.rx ++ (init ++ [last]).map Prod.fst).length := by
    simp only [List.length_append, List.length_map, List.length_singleton]
    omega
  have hdata : w.port.rx ++ (init ++ [last]).map Prod.fst
      = (received w (init ++ [last])).port.rx := rfl
  have hret : (onRx K env (received w (init ++ [last]))
      (w.port.rx ++ (init ++ [last]).map Prod.fst) last.2).2 ≠ 0 := by
    rw [hjudge]
    change ERR_CHECKSUM ≠ 0
    decide
  have hloop : pollLoop K env _ w 0 (init ++ last :: rest) = _ :=
    pollLoop_complete hroom 0 hlen rfl hdata hret
  rw [hjudge] at hloop
  simp only [pollRx, hcorrupts.received, Bool.not_true, Bool.false_eq_true, if_false, hexpected,
    hrecv]
  rw [List.append_assoc, List.singleton_append, hloop]
  rfl

/-- The port after a corrupted reply has exhausted the retries, and no flush on the way. -/
theorem corruptedTick_restarts (hK : K.Lawful) (hooks : Env) (event : TickEvent) (now : UInt32)
    (hcount : w.port.diagnostics.rxRetryCount = RX_RETRY_LIMIT)
    {octets : List (UInt8 × List Service)} (rest : List (UInt8 × List Service))
    (hoctets : octets ≠ []) (hcorrupts : Corrupts K w.port (octets.map Prod.fst)) :
  SameRestart (corruptedTick K hooks w event now octets rest).port
      (restartedPort hooks w.port 0 false) ∧
    flushes (corruptedTick K hooks w event now octets rest).log = flushes w.log
  := by
  obtain ⟨u, hport, hlog, hpoll⟩ := pollRx_corrupted (w := w.emit (.tick now)) hvalid hformed
    hstate hK { hooks with recv := octets ++ rest } hcount rfl hoctets hcorrupts
  have htick : corruptedTick K hooks w event now octets rest = _ :=
    congrArg Prod.fst (show tickAt K _ w event now = (_, ERR_CHECKSUM) by
      rw [tickAt, tickCommon, hpoll]
      rfl)
  rw [htick, restartEstablish_eq, hport, hlog]
  constructor
  · have hsame : SameRestart
        (restartedPort { hooks with recv := octets ++ rest }
          (countChecksumError (received (w.emit (.tick now)) octets)).port 0 false)
        (restartedPort hooks w.port 0 false) :=
      restartedPort_congr 0 false rfl rfl rfl rfl rfl rfl
    exact ⟨hsame.config, hsame.phy, hsame.state, hsame.startup, hsame.retries, hsame.awaiting,
      hsame.ready, hsame.valid⟩
  · have hrestart : ∀ env p, (restartObs env p).count .flushRx = 0 := by
      intro env p
      rw [List.count_eq_zero]
      simp only [restartObs, comlostObs]
      split <;> split <;> simp
    rw [World.put_log, flushes, List.count_append, hrestart, Nat.zero_add,
      List.count_cons_of_ne (by simp)]
    exact (flushes_received (w.emit (.tick now)) octets).trans
      (List.count_cons_of_ne (by simp))

/-- A poll that receives a part of a reply. -/
theorem pollRx_part (env : Env) (hrecv : w.port.phy.recvByte = true)
    (hfails : env.recvFails = false)
    (hshort : ∀ width, replyWidth w.port = some width →
      w.port.rx.length + env.recv.length < width) :
  pollRx K env w = (received w env.recv, STATUS_OK)
  := by
  obtain ⟨hexpected, hbuf⟩ := expectedLen_eq hvalid hformed hstate
  cases hwidth : replyWidth w.port with
  | none =>
      rw [hwidth] at hexpected
      simp only [expectedLen] at hexpected
      split at hexpected
      all_goals first
        | contradiction
        | (rename_i hst
           rw [hst] at hstate
           contradiction)
  | some width =>
      rw [hwidth] at hexpected
      have hloop := pollLoop_received (K := K) env (hbuf width hwidth) [] 0
        (hshort width hwidth)
      rw [List.append_nil] at hloop
      simp only [pollRx, hrecv, hexpected, Bool.not_true, Bool.false_eq_true, if_false]
      rw [hloop, pollLoop, hfails]
      rfl

/-- A response timeout exhausts the retries of a port in OPERATE that awaits a response and
has no receive path to flush. -/
theorem timeoutTick_restarts (hooks : Env) (now : UInt32)
    (hrecv : w.port.phy.recvByte = true)
    (hcount : w.port.diagnostics.rxRetryCount = RX_RETRY_LIMIT)
    {octets : List (UInt8 × List Service)}
    (hshort : ∀ width, replyWidth w.port = some width →
      w.port.rx.length + octets.length < width)
    (hoperate : w.port.state = .operate) (hawaiting : w.port.awaitingResponse = true)
    (hflush : w.port.config.flushRx = false) :
  SameRestart (timeoutTick K hooks w now octets).port (restartedPort hooks w.port now true)
  := by
  have hpoll := pollRx_part (w := w.emit (.tick now)) (K := K) hvalid hformed hstate
    { hooks with recv := octets, recvFails := false } hrecv rfl hshort
  simp only [timeoutTick, tickAt, tickCommon, hpoll]
  simp [received, hawaiting, STATUS_OK, tickTimeout, flushRx, hflush, World.put, World.emit,
    onTimeoutAt, hoperate, operateTimeout, hcount, restartEstablish_eq]
  exact restartedPort_congr now true rfl rfl rfl rfl rfl rfl

omit hvalid hformed hstate in
/-- A response timeout counts nothing in PREOPERATE. -/
theorem onTimeoutAt_preoperate (env : Env) (now : UInt32) (timed : Bool)
    (hpre : w.port.state = .preoperate) :
  (onTimeoutAt env w now timed).1.port.diagnostics = w.port.diagnostics
  := by
  have hport : (flushRx env w).1.port = { w.port with rx := [] } := by
    rw [flushRx_fst]
  simp only [onTimeoutAt]
  split
  · rw [World.enter_port, World.emit_port, hport]
  · rw [World.emit_port, hport]
    simp only [hpre]
    rw [World.emit_port, hport]

/-- A response timeout that is not processed, or in PREOPERATE, leaves the retries alone. -/
theorem timeoutTick_idles (hooks : Env) (now : UInt32)
    (hrecv : w.port.phy.recvByte = true)
    {octets : List (UInt8 × List Service)}
    (hshort : ∀ width, replyWidth w.port = some width →
      w.port.rx.length + octets.length < width)
    (hidle : w.port.state ≠ .operate ∨ w.port.awaitingResponse = false) :
  (timeoutTick K hooks w now octets).port.diagnostics.rxRetryCount
    = w.port.diagnostics.rxRetryCount
  := by
  have hpoll := pollRx_part (w := w.emit (.tick now)) (K := K) hvalid hformed hstate
    { hooks with recv := octets, recvFails := false } hrecv rfl hshort
  simp only [timeoutTick, tickAt, tickCommon, hpoll]
  cases hawaiting : w.port.awaitingResponse with
  | false => simp [received, hawaiting, STATUS_OK]
  | true =>
      have hpre : w.port.state = .preoperate := by
        have hne := hidle.resolve_right (by simp [hawaiting])
        simpa [acyclicAvailable, hne] using hstate
      have hnever : ¬ STATUS_OK < 0 := by decide
      simp only [received, World.emit_port, hawaiting, hnever, if_false, Bool.not_true,
        Bool.and_false, Bool.false_eq_true, tickTimeout, if_true]
      rw [onTimeoutAt_preoperate]
      · rw [World.put_port, flushRx_fst]
      · rw [World.put_port, flushRx_fst]
        apply hpre

end

/-- In every reachable state of PREOPERATE or OPERATE with exhausted retries, losing
communication through a corrupted reply is equivalent to losing it through a response timeout
if and only if the state happens to make the two paths agree. -/
theorem comlost_paths {K : Iolinki} (hK : K.Lawful) {phy : PhyApi} {config : Config}
    {allowed : Env → World → Call → Prop} {w : World} (hw : Reach K allowed phy config w)
    (hstate : acyclicAvailable w.port.state = true)
    (hcount : w.port.diagnostics.rxRetryCount = RX_RETRY_LIMIT) (hooks : Env)
    (event : TickEvent) (now : UInt32) {octets part : List (UInt8 × List Service)}
    (rest : List (UInt8 × List Service)) (hcorrupts : Corrupts K w.port (octets.map Prod.fst))
    (hpart : part.length < octets.length) :
  SameComlost K w (corruptedTick K hooks w event now octets rest)
      (timeoutTick K hooks w now part) now ↔
    ComlostAgrees hooks w.port now
  := by
  have hvalid : configRefused config = false := hw.accepted
  obtain ⟨hformed, hsender⟩ := reachable_port hK hw
  have hoctets : octets ≠ [] := by
    rintro rfl
    simp at hpart
  have hshort : ∀ width, replyWidth w.port = some width →
      w.port.rx.length + part.length < width := by
    intro width hwidth
    rw [hcorrupts.width, Option.some.injEq] at hwidth
    rw [← hwidth, List.length_append, List.length_map]
    omega
  obtain ⟨hreply, hflushes⟩ := corruptedTick_restarts hvalid hformed hstate hK hooks event now
    hcount rest hoctets hcorrupts
  constructor
  · intro h
    -- The timeout resets the retries, so it is processed.
    have hretries : (timeoutTick K hooks w now part).port.diagnostics.rxRetryCount
        ≠ RX_RETRY_LIMIT := by
      rw [← h.retries, hreply.retries, (restartedPort_fields _ _ _ _).2.2.2.1]
      decide
    have hprocessed : w.port.state = .operate ∧ w.port.awaitingResponse = true := by
      by_contra hidle
      rw [not_and_or, Bool.not_eq_true] at hidle
      apply hretries
      rw [timeoutTick_idles hvalid hformed hstate hooks now hcorrupts.received hshort hidle,
        hcount]
    have hunflushed : w.port.config.flushRx = false := by
      rw [← Bool.not_eq_true]
      intro hflush
      have hgrows := h.flushed _ List.mem_cons_self hflush
      omega
    -- The path of the corrupted reply leaves the gate alone.
    have huntimed := restartedPort_untimed hooks w.port 0
    have hgated := h.gated _ List.mem_cons_self
    have hclock := (waitsOut_iff hK hreply now (hsender (.inl hstate)) hgated).mp
      (h.waits _ List.mem_cons_self)
    rw [hreply.ready, hreply.valid, huntimed.1, huntimed.2] at hgated
    exact ⟨hprocessed.1, hprocessed.2, hunflushed, hgated.1, hgated.2, hclock⟩
  · intro h
    have htimeout := timeoutTick_restarts hvalid hformed hstate hooks now hcorrupts.received
      hcount hshort h.operating h.awaiting h.unflushed (K := K)
    have hsame := hreply.trans
      ((restartedPort_agree hooks now h.ready h.valid).trans htimeout.symm)
    have hgated : (corruptedTick K hooks w event now octets rest).port.sendReadyAt100us
          = now + tDwu100us w.port ∧
        (corruptedTick K hooks w event now octets rest).port.sendReadyValid = true := by
      obtain ⟨hready, hvalid⟩ := restartedPort_untimed hooks w.port 0
      exact ⟨(hreply.ready.trans hready).trans h.ready, (hreply.valid.trans hvalid).trans h.valid⟩
    have hgated' : (timeoutTick K hooks w now part).port.sendReadyAt100us
          = now + tDwu100us w.port ∧
        (timeoutTick K hooks w now part).port.sendReadyValid = true := by
      rw [← hsame.ready, ← hsame.valid]
      apply hgated
    have hsend := hsender (.inl hstate)
    constructor
    · apply hsame.state
    · rw [hsame.startup]
    · rw [hsame.startup]
    · rw [hsame.startup]
    · apply hsame.retries
    · apply hsame.awaiting
    · simp only [List.forall_mem_cons, List.not_mem_nil, false_imp_iff, implies_true, and_true]
      exact ⟨hgated, hgated'⟩
    · intro u _ hflush
      rw [h.unflushed] at hflush
      contradiction
    · simp only [List.forall_mem_cons, List.not_mem_nil, false_imp_iff, implies_true, and_true]
      exact ⟨(waitsOut_iff hK hreply now hsend hgated).mpr h.clock,
        (waitsOut_iff hK htimeout now hsend hgated').mpr h.clock⟩

/-- Calls that bring a port of type 2.1 into OPERATE and leave it with exhausted retries and a
reply outstanding. -/
def exhausting : List (Env × Call) :=
  connecting ++ [(.quiet (reply 0 []), .tickAt .cycleDue 14), (.quiet [0, 0], .tickAt .cycleDue 16),
    (.quiet [0, 0], .tickAt .cycleDue 16)]

/-- A port of type 2.1 with exhausted retries and a given delay of wake-ups. -/
def exhausted (tDwu : UInt32) : World :=
  run .reference (started (.quiet []) .full { Config.bare .type2_1 1 1 with tDwu100us := tDwu })
    exhausting

/-- The first frame of such a port was gated until `7`, so the two paths agree at `6` for a delay
of `1`. -/
theorem comlost_paths_gated :
  SameComlost .reference (exhausted 1)
    (corruptedTick .reference (.quiet []) (exhausted 1) .cycleDue 6 [(0, []), (0, [])] [])
    (timeoutTick .reference (.quiet []) (exhausted 1) 6 []) 6
  := by
  have hreach : Reach .reference (fun _ _ _ => True) .full
      { Config.bare .type2_1 1 1 with tDwu100us := 1 } (exhausted 1) := by
    apply (Reach.start _ (by decide)).run
    decide +kernel
  apply (comlost_paths Iolinki.lawful_reference hreach (by decide +kernel) (by decide +kernel)
    (.quiet []) .cycleDue 6 [] ⟨by decide +kernel, by decide +kernel, ?_⟩ (by decide)).mpr
  · refine ⟨?_, ?_, ?_, ?_, ?_, .inl ?_⟩
    all_goals decide +kernel
  · rw [show (exhausted 1).port.rx ++ [((0 : UInt8), ([] : List Service)), (0, [])].map Prod.fst
        = [0] ++ [0] from by decide +kernel, cksOk_concat]
    decide +kernel

/-- With the default delay a corrupted reply at `20` leaves the gate at `7`, where a response
timeout sets it to `420`, and the next wake-up goes out at `22`. -/
theorem comlost_paths_ungated :
  Reach .reference ticksAndServices .full { Config.bare .type2_1 1 1 with tDwu100us := 0 }
      (exhausted 0) ∧
    (timeoutTick .reference (.quiet []) (exhausted 0) 20 []).port.sendReadyAt100us = 420 ∧
    Obs.sent .startup [WAKEUP_BYTE] ∈ ((tickAt .reference (.quiet [])
      (corruptedTick .reference (.quiet []) (exhausted 0) .cycleDue 20 [(0, []), (0, [])] [])
      .cycleDue 22).1.log.take 1) ∧
    ¬ SameComlost .reference (exhausted 0)
      (corruptedTick .reference (.quiet []) (exhausted 0) .cycleDue 20 [(0, []), (0, [])] [])
      (timeoutTick .reference (.quiet []) (exhausted 0) 20 []) 20
  := by
  refine ⟨?_, ?_, ?_, ?_⟩
  · apply (Reach.start _ (by decide)).run
    decide +kernel
  · decide +kernel
  · decide +kernel
  · intro h
    have hready := (h.gated _ List.mem_cons_self).1
    revert hready
    decide +kernel

end IolinkMaster
