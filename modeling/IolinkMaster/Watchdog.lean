import IolinkMaster.Verdict

/-!
# The watchdog of a polling service

How long a port polls the ISDU channel while the device answers "no service" or "busy",
and what bounds it.
-/

namespace IolinkMaster

/-! ### PollsFor without an answer -/

/-- The time the configuration grants the device for its response. -/
def watchdog100us (config : Config) : Nat :=
  if config.isduTimeout100us = 0 then 50000 else config.isduTimeout100us.toNat

/-- The request of the service is sent, and the port polls for the response. -/
structure Waiting (s : IsduState) : Prop where
  active : s.op ≠ .none
  pending : s.done = false
  phase : s.phase = .wait

/-- What is observed while the port stays in PREOPERATE or OPERATE and the device answers
every frame, with "no service" or "busy" on the ISDU channel. -/
def Obs.unanswered : Obs → Bool
  | .isduOd od => od.all isduIdleOctet
  | .enter st => st == .operate
  | .reject _ _ | .badFrame _ | .timeout _ _ => false
  | _ => true

/-- A call an application with a clock makes at the time `t`. -/
def Call.OnTime (t : Nat) : Call → Prop
  | .tickAt _ now | .controllerTickAt now => now = UInt32.ofNat t
  | .onRx _ _ | .pollRx | .service _ => True
  | _ => False

/-- The port polls from the world `w` at the time `start` to the world `v` at the time `t`. -/
inductive PollsFor (K : Iolinki) (start : Nat) (w : World) : Nat → World → Prop where
  | refl : PollsFor K start w start w
  | call {t t' : Nat} {v : World} (env : Env) (c : Call) (os : List Obs)
      (h : PollsFor K start w t v) (hlater : t ≤ t') (htimed : c.OnTime t')
      (hlog : (runCall K env v c).log = os ++ v.log) (hos : ∀ o ∈ os, o.unanswered = true) :
      PollsFor K start w t' (runCall K env v c)

/-- The service is over, the next call of its owner reports an error, and then a new service is
accepted. -/
structure Released (w : World) : Prop where
  ended : isduBusy w.port.isdu = false
  reported : ∀ cap data, (ownerCall w cap data).ret < 0
  accepts : ∀ cap data index subindex,
    (readIsdu (ownerCall w cap data).world index subindex cap).2.ret = STATUS_PENDING

/-- A service that waits is not over. -/
theorem Waiting.not_released {w : World} (h : Waiting w.port.isdu) :
  ¬ Released w
  := by
  intro hreleased
  have hended := hreleased.ended
  simp [isduBusy, h.active, h.pending] at hended

/-! ### What a waiting service survives -/

section

variable {K : Iolinki} {w v : World}

/-- What was observed between two worlds, if the later log extends the earlier one, is
unanswered. -/
def UnansweredSince (w v : World) : Prop :=
  ∀ os, v.log = os ++ w.log → ∀ o ∈ os, o.unanswered = true

/-- No service call touches a waiting service. -/
theorem waiting_service (hstep : ServiceStep w v) (h : Waiting w.port.isdu) :
  v.port.isdu = w.port.isdu
  := by
  have hbusy : isduBusy w.port.isdu = true := by simp [isduBusy, h.active, h.pending]
  have hpending := h.pending
  cases hstep with
  | tune hp => apply hp.isdu
  | startRead _ _ _ hidle | startWrite _ _ _ _ hidle =>
      rw [hbusy] at hidle
      contradiction
  | giveUpRead hdone | giveUpWrite _ _ _ hdone | collectRead _ _ hdone | collectPage hdone
  | collectWrite _ _ _ _ hdone =>
      rw [hpending] at hdone
      contradiction
  | _ => rfl

theorem waiting_servicePath (hpath : ServicePath w v) (h : Waiting w.port.isdu) :
  v.port.isdu = w.port.isdu
  := by
  apply hpath.keeps (I := fun u => u.port.isdu = w.port.isdu) _ rfl
  intro u u' hstep hu
  rw [waiting_service hstep (hu ▸ h), hu]

theorem waiting_control (hstep : ControlStep w v) (h : Waiting w.port.isdu) :
  Waiting v.port.isdu
  := by
  cases hstep with
  | service hstep =>
      rw [waiting_service hstep h]
      apply h
  | fail => apply h

/-- "No service" and "busy" octets leave a waiting service alone. -/
theorem waiting_routeOd {od : List UInt8} (h : Waiting w.port.isdu)
    (hod : UnansweredSince w (routeOd w od)) :
  Waiting (routeOd w od).port.isdu
  := by
  rcases routeOd_cases w od with ⟨-, -, heq⟩ | ⟨-, heq⟩ | ⟨-, heq⟩
  · rw [heq]
    apply h
  · rw [heq]
    apply h
  · have hidle : ∀ b ∈ od, b = 0x00 ∨ b = 0x01 := by
      have hmem := hod (isduObserved w.port.isdu od) (by rw [heq]) (.isduOd od)
        (List.mem_append_right _ List.mem_cons_self)
      simpa [Obs.unanswered, isduIdleOctet] using hmem
    rw [heq, isduOnOd_idle h.phase hidle]
    apply h

theorem waiting_judge {data : List UInt8} (hstep : JudgeStep K data w v)
    (h : Waiting w.port.isdu) (hsince : UnansweredSince w v) :
  Waiting v.port.isdu
  := by
  cases hstep with
  | @accept u pdIn pdInLen pdValid hstate hack hwidth hcks hhandler hpd =>
      have hu : Waiting u.port.isdu := by
        rw [waiting_servicePath hhandler h]
        apply h
      obtain ⟨os, -, hlog⟩ := log_of_servicePath hhandler
      apply waiting_routeOd hu
      intro os' hlog' o ho
      apply hsince (os' ++ (os ++ [.accept w.port.state data (some (data.take (odWidth w.port)))]))
        _ o (List.mem_append_left _ ho)
      change (routeOd u (data.take (odWidth w.port))).log = _
      rw [hlog', hlog]
      simp [accepted]
  | _ => apply h

theorem waiting_receive {judged : World → List UInt8 → Prop} (hstep : ReceiveStep K judged w v)
    (h : Waiting w.port.isdu) (hsince : UnansweredSince w v) :
  Waiting v.port.isdu
  := by
  cases hstep with
  | control hstep => apply waiting_control hstep h
  | recv | clearRx => apply h
  | judge data hjudged hstep => apply waiting_judge hstep h hsince

/-- A frame leaves a waiting service waiting. -/
theorem Emission.waiting {p : PortState} {frame : List UInt8} {s : IsduState} {e : EventState}
    {step : StartupStep} (hemit : Emission K p frame s e step) (h : Waiting p.isdu) :
  Waiting s
  := by
  obtain ⟨pos, phase, flowctrl, abort, idle, hphase, rfl⟩ := hemit.moves
  refine ⟨h.active, h.pending, ?_⟩
  rcases hphase with hsame | ⟨hrequest, -⟩
  · apply hsame.trans h.phase
  · rw [h.phase] at hrequest
    contradiction

theorem waiting_slot {ready : World → Prop} (hstep : SlotStep K ready w v)
    (h : Waiting w.port.isdu) :
  Waiting v.port.isdu
  := by
  cases hstep with
  | control hstep => apply waiting_control hstep h
  | send hstate hopen hemit hview => apply hemit.waiting h
  | sendFailed sent e' hstate hopen hemit hview hevent => apply hemit.waiting h
  | _ => apply h

theorem waiting_timeout {due : World → Bool → Bool → Prop} (hstep : TimeoutStep due w v)
    (h : Waiting w.port.isdu) :
  Waiting v.port.isdu
  := by
  cases hstep with
  | control hstep => apply waiting_control hstep h
  | _ => apply h

/-- The service has been waiting as long as everything observed since `l` was unanswered. -/
def WaitsSince (l : List Obs) (w : World) : Prop :=
  l <:+ w.log ∧
    ((∀ os, w.log = os ++ l → ∀ o ∈ os, o.unanswered = true) → Waiting w.port.isdu)

theorem WaitsSince.step {l : List Obs} (h : WaitsSince l w) (hext : w.log <:+ v.log)
    (hstep : Waiting w.port.isdu → UnansweredSince w v → Waiting v.port.isdu) :
  WaitsSince l v
  := by
  obtain ⟨hsuffix, hwaits⟩ := h
  refine ⟨hsuffix.trans hext, fun hos => ?_⟩
  obtain ⟨before, hbefore⟩ := hsuffix
  obtain ⟨after, hafter⟩ := hext
  apply hstep
  · apply hwaits
    intro os hlog o ho
    apply hos (after ++ os) _ o (List.mem_append_right _ ho)
    rw [← hafter, hlog, List.append_assoc]
  · intro os hlog o ho
    apply hos (os ++ before) _ o (List.mem_append_left _ ho)
    rw [hlog, ← hbefore, List.append_assoc]

theorem kept_waitsSince (K : Iolinki) (l : List Obs) :
  Kept K (fun _ _ => True) (fun _ => True) (fun _ _ _ => True) (fun _ => True) (WaitsSince l)
  := by
  constructor
  · intro _ _ _ _
    trivial
  · intro w v hstep hw _
    apply hw.step (extends_control hstep)
    intro h _
    apply waiting_control hstep h
  · intro w v hstep hw _
    apply hw.step (extends_receive hstep)
    apply waiting_receive hstep
  · intro w v hstep hw _
    apply hw.step (extends_slot hstep)
    intro h _
    apply waiting_slot hstep h
  · intro w v hstep hw _
    apply hw.step (extends_timeout hstep)
    intro h _
    apply waiting_timeout hstep h

/-- A call during which the device does not answer leaves a waiting service waiting. -/
theorem waiting_runCall (hK : K.Lawful) (env : Env) (c : Call) {os : List Obs}
    (hlog : (runCall K env w c).log = os ++ w.log) (hos : ∀ o ∈ os, o.unanswered = true)
    (h : Waiting w.port.isdu) :
  Waiting (runCall K env w c).port.isdu
  := by
  have hstart : WaitsSince w.log w := ⟨List.suffix_refl _, fun _ => h⟩
  have hkept : WaitsSince w.log (runCall K env w c) := by
    apply (kept_waitsSince K w.log).runCall hK _ _ env c (fun _ => hstart) trivial
    · intro u now hu
      apply hu.step (List.suffix_cons _ _)
      intro h _
      apply h
    · -- An initialization enters STARTUP or INACTIVE.
      intro u mode hu
      apply hu.step (List.suffix_cons _ _)
      intro _ hsince
      have henter := hsince [.enter (renewed u mode).port.state] rfl _ List.mem_cons_self
      simp only [Obs.unanswered, renewed, zeroPort, beq_iff_eq] at henter
      split at henter <;> contradiction
  apply hkept.2
  intro os' hos'
  rw [hlog] at hos'
  rw [← List.append_cancel_right hos']
  apply hos

end

/-- A service keeps waiting as long as the port polls for it. -/
theorem PollsFor.waiting {K : Iolinki} (hK : K.Lawful) {start t : Nat} {w v : World}
    (h : PollsFor K start w t v) (hw : Waiting w.port.isdu) :
  Waiting v.port.isdu
  := by
  induction h with
  | refl => apply hw
  | call env c os h hlater htimed hlog hos ih => apply waiting_runCall hK env c hlog hos ih

/-! ### A device that answers every poll with "no service" -/

/-- The reply of a device without an answer, of the length the port `p` expects. -/
def idleReply (K : Iolinki) (p : PortState) : List UInt8 :=
  let body := List.replicate ((replyWidth p).getD 1 - 1) 0
  body ++ [K.cks 0 body]

/-- The port goes on polling from the world `w` to the world `v`. -/
structure Onward (w v : World) : Prop where
  state : acyclicAvailable v.port.state = true
  waiting : Waiting v.port.isdu
  since : ∃ os, v.log = os ++ w.log ∧ ∀ o ∈ os, o.unanswered = true

section

variable {K : Iolinki} {u w v : World}

theorem Onward.refl (hstate : acyclicAvailable w.port.state = true) (h : Waiting w.port.isdu) :
  Onward w w
  := ⟨hstate, h, [], rfl, by simp⟩

/-- Fields that neither the services nor the states look at may change on the way. -/
theorem Onward.put (h : Onward u w) {p : PortState} (hstate : p.state = w.port.state)
    (hisdu : p.isdu = w.port.isdu) :
  Onward u (w.put p)
  := by
  refine ⟨?_, ?_, h.since⟩
  · rw [World.put_port, hstate]
    apply h.state
  · rw [World.put_port, hisdu]
    apply h.waiting

/-- What is observed on the way is unanswered. -/
theorem Onward.emit (h : Onward u w) {o : Obs} (ho : o.unanswered = true) :
  Onward u (w.emit o)
  := by
  obtain ⟨os, hlog, hos⟩ := h.since
  refine ⟨h.state, h.waiting, o :: os, ?_, List.forall_mem_cons.mpr ⟨ho, hos⟩⟩
  rw [World.emit_log, hlog, List.cons_append]

/-- The routing of "no service" octets. -/
theorem Onward.routeOd (h : Onward u w) {od : List UInt8} (hod : ∀ b ∈ od, b = 0x00) :
  Onward u (IolinkMaster.routeOd w od)
  := by
  rcases routeOd_cases w od with ⟨-, -, heq⟩ | ⟨-, heq⟩ | ⟨-, heq⟩
  · rw [heq]
    have hheard : Onward u (w.emit (.eventOd od)) := h.emit rfl
    apply hheard.put <;> rfl
  · rw [heq]
    apply h.emit rfl
  · have hkept : isduOnOd w.port.isdu od = w.port.isdu :=
      isduOnOd_idle h.waiting.phase fun b hb => .inl (hod b hb)
    have hobserved : isduObserved w.port.isdu od = [.isduOd od] := by
      simp [isduObserved, hkept, h.waiting.pending]
    have hidle : (Obs.isduOd od).unanswered = true := by
      simp only [Obs.unanswered, List.all_eq_true]
      intro b hb
      rw [hod b hb]
      rfl
    rw [heq, hkept, hobserved]
    apply h.emit hidle

/-- The checksum of a reply with clear flags is correct. -/
theorem cksOk_cks (hK : K.Lawful) (body : List UInt8) :
  K.CksOk (body ++ [K.cks 0 body])
  := by
  have hmask := hK.checksum6_mask (body ++ [0])
  have hcks : K.cks 0 body = K.checksum6 (body ++ [0]) := by
    rw [Iolinki.cks, UInt8.zero_or]
  rw [cksOk_concat, hcks, hmask]
  revert hmask
  generalize K.checksum6 (body ++ [0]) = c
  revert c
  apply forall_octet
  decide +kernel

/-- The acceptance of a reply is over. -/
theorem Onward.accept (h : Onward u w) (data : List UInt8) (od : Option (List UInt8)) :
  Onward u (replyAccepted w data od)
  := by
  have haccept : Onward u (w.emit (.accept w.port.state data od)) := h.emit rfl
  apply haccept.put <;> rfl

/-- A reply without an answer is accepted as the acknowledge of DeviceOperate. -/
theorem Onward.ack (hK : K.Lawful) (h : Onward u w) (env : Env) :
  Onward u (onRxOperateAck K env w [K.cks 0 []]).1
  := by
  have hcks : K.CksOk [K.cks 0 []] := cksOk_cks hK []
  have hok := (ackOk_iff rfl).mpr hcks
  simp only [onRxOperateAck]
  rw [if_neg (by simp), if_neg (not_not.mpr hok)]
  have haccept := h.accept [K.cks 0 []] none
  obtain ⟨os, hlog, hos⟩ := haccept.since
  refine ⟨rfl, haccept.waiting, .enter .operate :: os, ?_, ?_⟩
  · rw [World.enter_log, World.put_log, hlog, List.cons_append]
  · rw [List.forall_mem_cons]
    exact ⟨rfl, hos⟩

/-- A reply without an answer is accepted in TYPE_0. -/
theorem Onward.type0 (hK : K.Lawful) (h : Onward u w) (env : Env) :
  Onward u (onRxType0 K env w [0, K.cks 0 [0]]).1
  := by
  have hcks : K.CksOk [0, K.cks 0 [0]] := cksOk_cks hK [0]
  have hok := (type0ReplyOk_iff rfl).mpr hcks
  simp only [onRxType0]
  rw [if_neg (by simp [M_SEQ_TYPE0_LEN]), if_neg (by simp [hok])]
  apply (h.accept [0, K.cks 0 [0]] _).routeOd
  simp

/-- The handler that makes no call only leaves the notification. -/
theorem Onward.notify (h : Onward u w) (raised : Bool) :
  Onward u (notifyEventPending w raised [])
  := by
  simp only [notifyEventPending, List.foldl_nil]
  split
  · have hnotified : Onward u (w.emit .eventPending) := h.emit rfl
    apply hnotified.put <;> rfl
  · apply h.put <;> rfl

/-- A reply without an answer is accepted in OPERATE. -/
theorem Onward.operate (hK : K.Lawful) (h : Onward u w) (env : Env) {n : Nat}
    (hn : n = (if w.port.rxOdExpected then w.port.odLen else 0) + w.port.config.pdInLen) :
  Onward u (onRxOperate K env w (List.replicate n 0 ++ [K.cks 0 (List.replicate n 0)]) []).1
  := by
  have hcks := cksOk_cks hK (List.replicate n 0)
  simp only [onRxOperate]
  split
  · next hnone =>
    rw [hK.decode_none_iff, List.length_append, List.length_replicate, hn] at hnone
    exact absurd rfl hnone
  · next r hsome =>
    obtain ⟨-, hod, hok, -⟩ := decodeOperateResponse_some hK hsome
    rw [if_neg (by simp [hok.mpr hcks])]
    have htaken : ∀ v : World, Onward u v → Onward u (v.put (takePdIn v.port r)) := by
      intro v hv
      rw [put_takePdIn]
      apply hv.put <;> rfl
    apply (htaken _ (Onward.notify _ _)).routeOd
    · intro b hb
      rw [hod, hn, List.take_append_of_le_length (by rw [List.length_replicate]; omega)] at hb
      apply List.eq_of_mem_replicate (List.mem_of_mem_take hb)
    · apply (h.accept _ _).put <;> rfl

/-- The reply of a device without an answer is accepted. -/
theorem Onward.idle (hK : K.Lawful) (h : Onward u w) (env : Env) :
  Onward u (onRx K env w (idleReply K w.port) []).1
  := by
  have hstate := h.state
  have hdata : idleReply K w.port ≠ [] := by simp [idleReply]
  simp only [onRx, hdata, if_false]
  cases hst : w.port.state with
  | preoperate =>
      by_cases hstep : w.port.startup.step = .awaitOperateAck
      · have hreply : idleReply K w.port = [K.cks 0 []] := by
          simp [idleReply, replyWidth, hst, hstep]
        rw [if_neg (by simp), if_pos rfl, if_pos hstep, hreply]
        apply h.ack hK
      · have hreply : idleReply K w.port = [0, K.cks 0 [0]] := by
          simp [idleReply, replyWidth, hst, hstep, M_SEQ_TYPE0_LEN]
        rw [if_neg (by simp), if_pos rfl, if_neg hstep, hreply]
        apply h.type0 hK
  | operate =>
      by_cases htype : type0Operate w.port = true
      · have hreply : idleReply K w.port = [0, K.cks 0 [0]] := by
          simp [idleReply, replyWidth, hst, htype, M_SEQ_TYPE0_LEN]
        rw [if_neg (by simp), if_neg (by simp), if_pos ⟨rfl, htype⟩, hreply]
        apply h.type0 hK
      · rw [if_neg (by simp), if_neg (by simp), if_neg (by simp [htype])]
        apply h.operate hK
        simp [replyWidth, hst, htype]
  | startup | inactive | error =>
      rw [hst] at hstate
      contradiction

/-- Nothing arrives in a quiet environment. -/
theorem pollRx_quiet (w : World) :
  pollRx K (.quiet []) w = (w, 0)
  := by
  simp only [pollRx, Env.quiet, List.map_nil]
  split
  · rfl
  · split
    · rfl
    · simp [pollLoop]

/-- A frame goes out. -/
theorem Onward.send (h : Onward u w) {env : Env} (henv : env.Transmits) (frame : List UInt8) :
  Onward u (sendFull env w frame).1 ∧ (sendFull env w frame).2 = true
  := by
  rw [sendFull_transmits henv]
  have hsent : Onward u (w.emit (.sent w.port.state frame)) := h.emit rfl
  constructor
  · apply hsent.put <;> rfl
  · rfl

/-- A frame of the diagnosis channel goes out if a readout is active. -/
theorem Onward.sendEvent (hK : K.Lawful) (h : Onward u w) {env : Env} (henv : env.Transmits) :
  Onward u (IolinkMaster.sendEvent K env w).1
  := by
  simp only [IolinkMaster.sendEvent]
  split
  · apply h
  · next read addr haccess =>
    obtain ⟨hsent, hout⟩ := h.send henv (eventFrame K w.port read addr)
    simp only [eventFrame_ne_nil hK w.port read addr, if_false, hout, Bool.true_and]
    cases read with
    | true => apply hsent.put <;> rfl
    | false => apply hsent.put <;> rfl

/-- The transport of a waiting service asks for a read. -/
theorem Waiting.next {s : IsduState} (h : Waiting s) (odLen : Nat) :
  ∃ f t, isduNext s odLen = some (f, t) ∧ Waiting t
  := by
  simp only [isduNext]
  split
  · exact ⟨_, _, rfl, h.active, h.pending, h.phase⟩
  · split
    · exact ⟨_, _, rfl, h.active, h.pending, h.phase⟩
    · rw [if_neg (by simp [h.active, h.pending]), if_neg (by simp [h.phase])]
      refine ⟨_, _, rfl, ?_⟩
      simp only [isduFillOd, h.active, h.phase, if_false]
      exact ⟨h.active, h.pending, rfl⟩

/-- The port polls for the response. -/
theorem Onward.sendIsdu (hK : K.Lawful) (h : Onward u w) {env : Env} (henv : env.Transmits) :
  Onward u (IolinkMaster.sendIsdu K env w).1 ∧ (IolinkMaster.sendIsdu K env w).2 = true
  := by
  obtain ⟨f, t, hnext, ht⟩ := h.waiting.next w.port.odLen
  rw [sendIsdu_transmits hK henv, hnext]
  have hsent : Onward u (w.emit (.sent w.port.state (f.octets K w.port))) := h.emit rfl
  exact ⟨⟨h.state, ht, hsent.since⟩, rfl⟩

/-- A slot polls on. -/
theorem Onward.slot (hK : K.Lawful) (h : Onward u w) {env : Env} (henv : env.Transmits)
    (now : UInt32) (timed : Bool) :
  Onward u (processAt K env w now timed)
  := by
  have hstate := h.state
  have hview : Onward u (w.emit (.view w.port)) := h.emit rfl
  have hopen : Onward u w.openSlot := hview.emit rfl
  have hevent := hopen.sendEvent hK henv
  have hisdu := hevent.sendIsdu hK henv
  simp only [processAt]
  split
  · apply h
  · cases hst : w.port.state with
    | preoperate =>
        simp only [processPreoperate]
        split
        · apply hevent
        · rw [hisdu.2]
          apply hisdu.1
    | operate =>
        simp only [processOperate]
        split
        · apply hevent
        · rw [hisdu.2]
          apply hisdu.1
    | startup | inactive | error =>
        rw [hst] at hstate
        contradiction

/-- A tick polls on. -/
theorem Onward.tick (hK : K.Lawful) (h : Onward u w) (now : UInt32) :
  Onward u (tickAt K (.quiet []) w .cycleDue now).1
  := by
  have htick : Onward u (w.emit (.tick now)) := h.emit rfl
  have hslot := htick.slot hK (Env.transmits_quiet []) now true
  simp only [tickAt, tickCommon, pollRx_quiet]
  rw [if_neg (by decide)]
  split
  · apply htick
  · split
    · apply htick
    · simp only [processSlot]
      split
      · have harmed : Onward u ((processAt K (.quiet []) (w.emit (.tick now)) now true).put
            (armCycle (processAt K (.quiet []) (w.emit (.tick now)) now true).port now)) := by
          rw [armCycle_eq]
          apply hslot.put <;> rfl
        apply harmed.emit rfl
      · apply hslot

end

/-- The world after the times `times`: before each of them a device without an answer replies,
and then the port is ticked. -/
def polled (K : Iolinki) (w : World) : List Nat → World
  | [] => w
  | t :: times =>
    let answered := runCall K (.quiet []) w (.onRx (idleReply K w.port) [])
    polled K (runCall K (.quiet []) answered (.tickAt .cycleDue (UInt32.ofNat t))) times

/-- A device without an answer keeps the port polling at whatever times it is ticked. -/
theorem pollsFor_polled {K : Iolinki} (hK : K.Lawful) {start t : Nat} {w v : World}
    (h : PollsFor K start w t v) (hstate : acyclicAvailable v.port.state = true)
    (hwait : Waiting v.port.isdu) {times : List Nat} (htimes : (t :: times).Pairwise (· ≤ ·)) :
  PollsFor K start w (times.getLastD t) (polled K v times)
  := by
  induction times generalizing t v with
  | nil => apply h
  | cons t' times ih =>
      have hlater : t ≤ t' := List.rel_of_pairwise_cons htimes List.mem_cons_self
      have hanswered := (Onward.refl hstate hwait).idle hK (.quiet [])
      have hticked := (Onward.refl hanswered.state hanswered.waiting).tick hK (UInt32.ofNat t')
      obtain ⟨os, hlog, hos⟩ := hanswered.since
      obtain ⟨os', hlog', hos'⟩ := hticked.since
      have hreply : PollsFor K start w t
          (runCall K (.quiet []) v (.onRx (idleReply K v.port) [])) :=
        .call _ _ os h le_rfl trivial hlog hos
      rw [List.getLastD_cons, polled]
      apply ih _ hticked.state hticked.waiting htimes.tail
      exact .call _ (.tickAt .cycleDue (UInt32.ofNat t')) os' hreply hlater rfl hlog' hos'

/-! ### The watchdog -/

/-- A service that has been polling since `start` is over once the time of the watchdog and an
M-sequence of the length `mseq` have passed. -/
def Watched (K : Iolinki) (start mseq : Nat) (w : World) : Prop :=
  ∀ t v, PollsFor K start w t v → start + watchdog100us w.port.config + mseq < t → Released v

/-- No service is watched, and no service is over while the port polls for it. -/
theorem isdu_unwatched {K : Iolinki} (hK : K.Lawful) {w : World}
    (hstate : acyclicAvailable w.port.state = true) (hwait : Waiting w.port.isdu)
    (start mseq : Nat) :
  ¬ Watched K start mseq w ∧ ∀ t v, PollsFor K start w t v → ¬ Released v
  := by
  have hkept : ∀ t v, PollsFor K start w t v → ¬ Released v := by
    intro t v h
    apply (h.waiting hK hwait).not_released
  refine ⟨fun hwatched => ?_, hkept⟩
  have htimes : (start :: [start + watchdog100us w.port.config + mseq + 1]).Pairwise (· ≤ ·) := by
    simp [Nat.add_assoc]
  have hpolls := pollsFor_polled hK .refl hstate hwait htimes
  apply hkept _ _ hpolls
  apply hwatched _ _ hpolls
  apply Nat.lt_succ_self

/-- The service of `readWaiting` waits. -/
theorem waiting_readWaiting :
  Waiting readWaiting.port.isdu
  := ⟨by decide +kernel, by decide +kernel, by decide +kernel⟩

/-- A read that has been waiting since the time 20 is not watched. -/
theorem isdu_unwatched_read :
  ¬ Watched .reference 20 10 readWaiting
  := (isdu_unwatched Iolinki.lawful_reference (by decide +kernel) waiting_readWaiting 20 10).1

/-- A device answers "no service" every millisecond; six seconds later the read still waits. -/
theorem isdu_unwatched_polled :
  Reach .reference ticksAndServices .full (.bare .type2_1 1 1) readWaiting ∧
    watchdog100us readWaiting.port.config = 50000 ∧
    (let times := (List.range 6000).map fun i => 20 + 10 * (i + 1)
    PollsFor .reference 20 readWaiting (times.getLastD 20) (polled .reference readWaiting times) ∧
      20 + 50000 + 10 < times.getLastD 20 ∧
      ¬ Released (polled .reference readWaiting times))
  := by
  refine ⟨reach_readWaiting, by decide +kernel, ?_⟩
  intro times
  have htimes : (20 :: times).Pairwise (· ≤ ·) := by
    simp only [times, List.pairwise_cons, List.mem_map, List.pairwise_map]
    constructor
    · rintro t ⟨i, -, rfl⟩
      omega
    · apply List.pairwise_lt_range.imp
      intro i j hij
      omega
  have hpolls := pollsFor_polled Iolinki.lawful_reference .refl (by decide +kernel)
    waiting_readWaiting htimes
  refine ⟨hpolls, ?_, (hpolls.waiting Iolinki.lawful_reference waiting_readWaiting).not_released⟩
  have hlast : ∀ n, ((List.range (n + 1)).map fun i => 20 + 10 * (i + 1)).getLastD 20
      = 20 + 10 * (n + 1) := by
    intro n
    rw [List.range_succ, List.map_append]
    apply List.getLastD_concat
  rw [hlast 5999]
  omega

end IolinkMaster
