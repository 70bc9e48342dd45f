import IolinkMaster.ServicePaths

/-!
# Receiving and timing out step by step

The judgement of replies, the polling of the PHY and the processing of response timeouts
are sequences of atomic steps.
-/

namespace IolinkMaster

open Relation

/-- A sequence of control steps. -/
abbrev ControlPath : World → World → Prop := ReflTransGen ControlStep

/-- A sequence of receive steps. -/
abbrev ReceivePath (K : Iolinki) (judged : World → List UInt8 → Prop) : World → World → Prop :=
  ReflTransGen (ReceiveStep K judged)

/-- A sequence of slot steps. -/
abbrev SlotPath (K : Iolinki) (ready : World → Prop) : World → World → Prop :=
  ReflTransGen (SlotStep K ready)

/-- A sequence of timeout steps. -/
abbrev TimeoutPath (due : World → Bool → Bool → Prop) : World → World → Prop :=
  ReflTransGen (TimeoutStep due)

variable {K : Iolinki} {judged : World → List UInt8 → Prop} {ready : World → Prop}
  {due : World → Bool → Bool → Prop}

/-! ### Embeddings -/

/-- Service calls are among what can happen at any point. -/
theorem ServicePath.control {w v : World} (h : ServicePath w v) :
  ControlPath w v
  := ReflTransGen.mono (fun _ _ => ControlStep.service) _ _ h

/-- What can happen at any point happens while receiving. -/
theorem ControlPath.receive {w v : World} (h : ControlPath w v) :
  ReceivePath K judged w v
  := ReflTransGen.mono (fun _ _ => ReceiveStep.control) _ _ h

/-- What can happen at any point happens in a slot. -/
theorem ControlPath.slot {w v : World} (h : ControlPath w v) :
  SlotPath K ready w v
  := ReflTransGen.mono (fun _ _ => SlotStep.control) _ _ h

/-- What can happen at any point happens in a timeout. -/
theorem ControlPath.timeout {w v : World} (h : ControlPath w v) :
  TimeoutPath due w v
  := ReflTransGen.mono (fun _ _ => TimeoutStep.control) _ _ h

/-- Service calls happen in a slot. -/
theorem ServicePath.slot {w v : World} (h : ServicePath w v) :
  SlotPath K ready w v
  := h.control.slot

/-- Service calls happen in a timeout. -/
theorem ServicePath.timeout {w v : World} (h : ServicePath w v) :
  TimeoutPath due w v
  := h.control.timeout

/-- A failed hook latches the error state. -/
theorem ControlPath.fail (w : World) :
  ControlPath w (w.enter .error)
  := .single .fail

/-- A change nobody looks at, in a timeout. -/
theorem TimeoutPath.tune {w v : World} {p : PortState} (h : TimeoutPath due w v)
    (hp : Similar v.port p) :
  TimeoutPath due w (v.put p)
  := h.tail (.control (.service (.tune hp)))

/-- A neutral observation, in a timeout. -/
theorem TimeoutPath.note {w v : World} {o : Obs} (h : TimeoutPath due w v)
    (ho : o.neutral = true) :
  TimeoutPath due w (v.emit o)
  := h.tail (.control (.service (.note ho)))

/-- A failed hook, in a timeout. -/
theorem TimeoutPath.fail {w v : World} (h : TimeoutPath due w v) :
  TimeoutPath due w (v.enter .error)
  := h.tail (.control .fail)

/-- A step of the startup sequence, in a timeout. -/
theorem TimeoutPath.restep {w v : World} {step : StartupStep} (h : TimeoutPath due w v)
    (hstate : v.port.state = .startup)
    (hstep : step ≠ .awaitResponse ∧ step ≠ .awaitOperateAck) :
  TimeoutPath due w (v.setStep step)
  := h.tail (.restep step hstate hstep)

/-! ### Lost communication -/

/-- Counters and timers of the establish procedure decide nothing. -/
theorem similar_startup (p : PortState) (baudrateIndex : Nat) (wakeAttempts : UInt8) :
  Similar p { p with startup := { p.startup with
    baudrateIndex := baudrateIndex, wakeAttempts := wakeAttempts } }
  := ⟨id, rfl, rfl, rfl, rfl, rfl, rfl, rfl, rfl, rfl, rfl, rfl, rfl, rfl, rfl, rfl, rfl,
    rfl, rfl, rfl⟩

/-- Arming the startup gate changes nothing a service looks at. -/
theorem similar_armSendGate (p : PortState) (now delay : UInt32) (timed : Bool) :
  Similar p (armSendGate p now delay timed)
  := by
  simp only [armSendGate]
  split
  · exact ⟨id, rfl, rfl, rfl, rfl, rfl, rfl, rfl, rfl, rfl, rfl, rfl, rfl, rfl, rfl, rfl, rfl,
    rfl, rfl, rfl⟩
  · apply Similar.refl

/-- Resetting the rate scan is no step of its own. -/
theorem resetRateScan_path (env : Env) (w : World) :
  ServicePath w (resetRateScan env w).1
  := by
  simp only [resetRateScan]
  split
  · apply ReflTransGen.refl
  · apply (ServicePath.tune (similar_startup w.port 0 w.port.startup.wakeAttempts)).tail
    apply ServiceStep.note rfl

/-- Resetting the rate scan keeps the state. -/
theorem resetRateScan_state (env : Env) (w : World) :
  (resetRateScan env w).1.port.state = w.port.state
  := (untouched_of_path (resetRateScan_path env w)).state

/-- Giving up communication, and what follows it. -/
theorem restartEstablish_path (env : Env) (w : World) (now : UInt32) (timed : Bool) :
  ControlPath ⟨comlostPort w.port, .enter .startup :: comlostObs w.port :: w.log⟩
    (restartEstablish env w now timed).1
  := by
  have hscan := (resetRateScan_path env
    ⟨comlostPort w.port, .enter .startup :: comlostObs w.port :: w.log⟩).control
  simp only [restartEstablish]
  split
  · apply hscan.tail
    apply ControlStep.fail
  · apply hscan.trans
    apply (ServicePath.tune (similar_armSendGate _ _ _ _)).control

/-- A failed attempt to establish communication. -/
theorem establishAttemptFailed_path (env : Env) (w : World) (now : UInt32) (timed : Bool)
    (hstate : w.port.state = .startup) :
  TimeoutPath due (w.put { w.port with awaitingResponse := false })
    (establishAttemptFailed env w now timed).1
  := by
  simp only [establishAttemptFailed]
  split
  · -- The next rate.
    split
    · apply TimeoutPath.fail
      apply TimeoutPath.note _ rfl
      apply TimeoutPath.tune .refl
      apply similar_startup _ _ w.port.startup.wakeAttempts
    · apply TimeoutPath.tune _ (similar_armSendGate _ _ _ _)
      apply TimeoutPath.restep
      · apply TimeoutPath.note _ rfl
        apply TimeoutPath.tune .refl
        apply similar_startup _ _ w.port.startup.wakeAttempts
      · apply hstate
      · decide
  · have hscan : TimeoutPath due (w.put { w.port with awaitingResponse := false })
        (resetRateScan env (w.put { w.port with
          awaitingResponse := false
          startup := { w.port.startup with
            wakeAttempts := w.port.startup.wakeAttempts + 1 } })).1 := by
      apply ReflTransGen.trans _ (resetRateScan_path _ _).timeout
      apply TimeoutPath.tune .refl
      apply similar_startup _ w.port.startup.baudrateIndex
    have hscanState := resetRateScan_state env (w.put { w.port with
      awaitingResponse := false
      startup := { w.port.startup with wakeAttempts := w.port.startup.wakeAttempts + 1 } })
    simp only [World.put_port, hstate] at hscan hscanState ⊢
    split
    · apply hscan.fail
    · split
      · -- Another wake-up of this sequence.
        apply TimeoutPath.tune _ (similar_armSendGate _ _ _ _)
        apply hscan.restep hscanState (by decide)
      · -- The sequence has failed.
        split
        · apply TimeoutPath.fail
          apply TimeoutPath.note _ rfl
          apply hscan.tune
          exact ⟨id, rfl, rfl, rfl, rfl, rfl, rfl, rfl, rfl, rfl, rfl, rfl, rfl, rfl, rfl, rfl, rfl,
            rfl, rfl, rfl⟩
        · apply TimeoutPath.tune _ (similar_armSendGate _ _ _ _)
          apply TimeoutPath.restep
          · apply TimeoutPath.note _ rfl
            apply hscan.tune
            exact ⟨id, rfl, rfl, rfl, rfl, rfl, rfl, rfl, rfl, rfl, rfl, rfl, rfl, rfl, rfl, rfl, rfl,
              rfl, rfl, rfl⟩
          · apply hscanState
          · decide

/-! ### Response timeouts -/

/-- A response timeout in OPERATE, after the receive path has been flushed. -/
theorem operateTimeout_path (env : Env) (w : World) (d awaiting : Bool) (now : UInt32)
    (timed : Bool) (hstate : w.port.state = .operate)
    (hawaiting : awaiting = false ∨ awaiting = w.port.awaitingResponse)
    (hdue : ∀ b, b = awaiting ∨ b = false → due w d b) :
  TimeoutPath due w
    (operateTimeout env
      ⟨{ w.port with rx := [], awaitingResponse := awaiting }, .timeout w.port.state d :: w.log⟩
      now timed).1
  := by
  simp only [operateTimeout]
  split
  · next hcount =>
    have hstep : TimeoutPath due w _ := .single
      (.count d awaiting (hdue _ (.inl rfl)) hstate hawaiting hcount)
    apply hstep.tune
    exact ⟨id, rfl, rfl, rfl, rfl, rfl, rfl, rfl, rfl, rfl, rfl, rfl, rfl, rfl, rfl, rfl, rfl,
      rfl, rfl, rfl⟩
  · next hcount =>
    apply ReflTransGen.trans _ (restartEstablish_path _ _ _ _).timeout
    have hstep : TimeoutPath due w _ := .single (.lost d (hdue _ (.inr rfl)) hstate hcount)
    apply hstep.tune
    exact ⟨id, rfl, rfl, rfl, rfl, rfl, rfl, rfl, rfl, rfl, rfl, rfl, rfl, rfl, rfl, rfl, rfl,
      rfl, rfl, rfl⟩

/-- The observation that `flush_rx` is called, if it is configured. -/
def flushNoted (w : World) : World := if w.port.config.flushRx then w.emit .flushRx else w

/-- Noting a flush leaves the port alone. -/
theorem flushNoted_port (w : World) :
  (flushNoted w).port = w.port
  := by
  simp only [flushNoted]
  split <;> rfl

/-- A flush drops the buffered octets. -/
theorem flushRx_fst (env : Env) (w : World) :
  (flushRx env w).1 = ⟨{ w.port with rx := [] }, (flushNoted w).log⟩
  := by
  simp only [flushRx, flushNoted]
  cases h : w.port.config.flushRx with
  | false => simp [h, World.put]
  | true => simp [h, World.put, World.emit]

/-- Noting a flush is a control step. -/
theorem flushNoted_path (w : World) :
  ControlPath w (flushNoted w)
  := by
  simp only [flushNoted]
  split
  · apply ReflTransGen.single
    apply ControlStep.service (.note rfl)
  · apply ReflTransGen.refl

/-- A response timeout is a sequence of timeout steps. -/
theorem onTimeoutAt_path (env : Env) (w : World) (awaiting : Bool) (now : UInt32) (timed : Bool)
    (hawaiting : awaiting = false ∨ awaiting = w.port.awaitingResponse)
    (hdue : ∀ v : World, v.port = w.port → ∀ b, b = awaiting ∨ b = false →
      due v (!timed || decide (now ≥ w.port.responseDeadline100us)) b) :
  TimeoutPath due w
    (onTimeoutAt env (w.put { w.port with awaitingResponse := awaiting }) now timed).1
  := by
  apply (flushNoted_path w).timeout.trans
  have hport := flushNoted_port w
  have hlog : (flushNoted (w.put { w.port with awaitingResponse := awaiting })).log
      = (flushNoted w).log := by
    simp only [flushNoted]
    cases h : w.port.config.flushRx with
    | false => simp [h]
    | true => simp [h]
  simp only [onTimeoutAt, flushRx_fst, hlog, World.put_port]
  generalize flushNoted w = v at hport
  obtain ⟨p, l⟩ := v
  obtain rfl : p = w.port := hport
  have hdue' := hdue ⟨w.port, l⟩ rfl
  split
  · apply ReflTransGen.single
    exact TimeoutStep.broken (w := ⟨w.port, l⟩) _ awaiting (hdue' _ (.inl rfl)) hawaiting
  · have hflush : ∀ b, b = awaiting ∨ b = false → w.port.state ≠ .operate →
        TimeoutPath due ⟨w.port, l⟩ ⟨{ w.port with rx := [], awaitingResponse := b },
          .timeout w.port.state (!timed || decide (now ≥ w.port.responseDeadline100us)) :: l⟩ := by
      intro b hb hstate
      apply ReflTransGen.single
      apply TimeoutStep.ignored _ b (hdue' b hb) hstate
      rcases hb with rfl | rfl
      · apply hawaiting
      · left
        rfl
    split
    · next heq =>
      have hstate : w.port.state = .startup := heq
      have hne : w.port.state ≠ .operate := by
        rw [hstate]
        decide
      split
      · apply hflush awaiting (.inl rfl) hne
      · apply (hflush false (.inr rfl) hne).trans
        apply establishAttemptFailed_path env ⟨{ w.port with
          rx := [], awaitingResponse := awaiting }, _⟩
        apply hstate
    · next heq => exact operateTimeout_path env ⟨w.port, l⟩ _ awaiting now timed heq hawaiting hdue'
    all_goals
      next heq =>
      have hne : w.port.state ≠ .operate := by
        intro hstate
        exact absurd (heq.symm.trans hstate) (by decide)
      apply hflush awaiting (.inl rfl) hne

/-! ### Checksums of replies -/

/-- The checksum of a reply, by its octets before the CKS octet. -/
theorem cksOk_concat (K : Iolinki) (body : List UInt8) (c : UInt8) :
  K.CksOk (body ++ [c]) ↔ K.checksum6 (body ++ [c &&& 0xC0]) = c &&& CKS_CHECKSUM_MASK
  := by
  constructor
  · rintro ⟨body', c', heq, hcks⟩
    obtain ⟨rfl, hc⟩ := List.append_inj' heq rfl
    rw [List.singleton_inj] at hc
    rw [hc]
    apply hcks
  · intro hcks
    exact ⟨body, c, rfl, hcks⟩

/-- A TYPE_0 reply passes its check exactly when its checksum is correct. -/
theorem type0ReplyOk_iff {data : List UInt8} (hlen : data.length = M_SEQ_TYPE0_LEN) :
  type0ReplyOk K data = true ↔ K.CksOk data
  := by
  obtain ⟨od, c, rfl⟩ := List.length_eq_two.mp hlen
  rw [show [od, c] = [od] ++ [c] from rfl, cksOk_concat]
  simp [type0ReplyOk, CKS_CHECKSUM_MASK]

/-- The acknowledge of DeviceOperate passes its check exactly when its checksum is
correct. -/
theorem ackOk_iff {data : List UInt8} (hlen : data.length = 1) :
  K.checksum6 [data.getD 0 0 &&& 0xC0] = data.getD 0 0 &&& 0x3F ↔ K.CksOk data
  := by
  obtain ⟨c, rfl⟩ := List.length_eq_one_iff.mp hlen
  rw [show [c] = [] ++ [c] from rfl, cksOk_concat]
  rfl

/-- A reply is its on-request data, its process data and its CKS octet. -/
theorem reply_cut {data : List UInt8} {pdIn od : Nat} (hlen : data.length = od + pdIn + 1) :
  data = data.take od ++ (data.drop od).dropLast ++ [data.getLastD 0] ∧
    (data.take od).length = od ∧ (data.drop od).dropLast.length = pdIn
  := by
  refine ⟨?_, ?_, ?_⟩
  · have hne : data.drop od ≠ [] := by
      rw [ne_eq, List.drop_eq_nil_iff]
      omega
    have hlast : data.getLastD 0 = (data.drop od).getLast hne := by
      rw [List.getLast_drop, List.getLastD_eq_getLast?, List.getLast?_eq_some_getLast,
        Option.getD_some]
    rw [hlast, List.append_assoc, List.dropLast_concat_getLast hne, List.take_append_drop]
  · rw [List.length_take]
    omega
  · rw [List.length_dropLast, List.length_drop]
    omega

/-- What the codec reports about a reply: its length, its on-request data, and whether its
checksum is correct; and its process data, if it reports them as valid. -/
theorem decodeOperateResponse_some (hK : K.Lawful) {data : List UInt8} {pdIn od : Nat}
    {r : OperateResponse} (h : K.decodeOperateResponse data pdIn od = some r) :
  data.length = od + pdIn + 1 ∧ r.od = data.take od ∧ (r.checksumOk = true ↔ K.CksOk data) ∧
    (r.pdValid = true → r.pd = (data.drop od).dropLast)
  := by
  have hlen : data.length = od + pdIn + 1 := by
    by_contra hne
    rw [(hK.decode_none_iff data pdIn od).mpr hne] at h
    contradiction
  obtain ⟨hcut, hod, hpd⟩ := reply_cut hlen
  obtain ⟨r', hr', hok, -, -, hvalid, hbody⟩ :=
    hK.decode_body (data.take od) (data.drop od).dropLast (data.getLastD 0)
  rw [← hcut, hod, hpd, h, Option.some.injEq] at hr'
  subst hr'
  refine ⟨hlen, hbody, ?_, fun h => (hvalid h).2⟩
  rw [hok, decide_eq_true_iff, ← cksOk_concat, ← hcut]

/-! ### Input process data -/

/-- Process data that are set again change nothing. -/
theorem setPd_self (w : World) :
  w.setPd w.port.pdIn w.port.pdInLen w.port.pdValid = w
  := rfl

/-- Taking over process data touches nothing else. -/
theorem put_takePdIn (w : World) (r : OperateResponse) :
  w.put (takePdIn w.port r)
    = w.setPd (takePdIn w.port r).pdIn (takePdIn w.port r).pdInLen (takePdIn w.port r).pdValid
  := by
  simp only [takePdIn]
  split <;> rfl

/-- The services do not look at process data. -/
theorem routeOd_setPd (w : World) (od : List UInt8) (pdIn : List UInt8) (pdInLen : Nat)
    (pdValid : Bool) :
  routeOd (w.setPd pdIn pdInLen pdValid) od = (routeOd w od).setPd pdIn pdInLen pdValid
  := by
  cases haccess : eventChannelAccess w.port.event with
  | none => simp [routeOd, World.setPd, haccess, World.put]
  | some access =>
      by_cases hexpected : (access.1 && w.port.event.odExpected) = true
      · simp [routeOd, World.setPd, haccess, hexpected, World.putEvent, World.put, World.emit]
      · simp [routeOd, World.setPd, haccess, hexpected, World.put, World.emit]

/-! ### Judging a reply -/

/-- The count of checksum errors decides nothing. -/
theorem similar_checksumErrors (p : PortState) (count : UInt32) :
  Similar p { p with diagnostics := { p.diagnostics with checksumErrors := count } }
  := ⟨id, rfl, rfl, rfl, rfl, rfl, rfl, rfl, rfl, rfl, rfl, rfl, rfl, rfl, rfl, rfl, rfl,
    rfl, rfl, rfl⟩

/-- A reply is judged, and what follows from the judgement is done. -/
def Judged (K : Iolinki) (data : List UInt8) (w v : World) : Prop :=
  ∃ u, JudgeStep K data w u ∧ ControlPath u v

/-- A judgement by itself. -/
theorem JudgeStep.done {w v : World} {data : List UInt8} (h : JudgeStep K data w v) :
  Judged K data w v
  := ⟨v, h, .refl⟩

/-- A change nobody looks at, after a judgement. -/
theorem Judged.tune {w v : World} {data : List UInt8} {p : PortState} (h : Judged K data w v)
    (hp : Similar v.port p) :
  Judged K data w (v.put p)
  := by
  obtain ⟨u, hstep, hpath⟩ := h
  exact ⟨u, hstep, hpath.tail (.service (.tune hp))⟩

/-- The rejection of a reply of PREOPERATE or OPERATE. -/
theorem replyRejected_path (env : Env) (w : World) {data : List UInt8}
    (hstate : w.port.state ≠ .startup) (hcks : ¬ K.CksOk data)
    (hwidth : replyWidth w.port = some data.length) :
  Judged K data w (replyRejected env w data).1
  := by
  simp only [replyRejected]
  split
  · next hcount =>
    have hstep : JudgeStep K data w _ := .rejectRetry hstate hcks hcount hwidth
    apply hstep.done.tune
    exact ⟨id, rfl, rfl, rfl, rfl, rfl, rfl, rfl, rfl, rfl, rfl, rfl, rfl, rfl, rfl, rfl, rfl,
      rfl, rfl, rfl⟩
  · next hcount =>
    refine ⟨_, .rejectLost hstate hcks hcount hwidth, ?_⟩
    apply ReflTransGen.trans _ (restartEstablish_path _ _ _ _)
    apply (ServicePath.tune _).control
    exact ⟨id, rfl, rfl, rfl, rfl, rfl, rfl, rfl, rfl, rfl, rfl, rfl, rfl, rfl, rfl, rfl, rfl,
      rfl, rfl, rfl⟩

/-- The judgement of the answer to a test message. -/
theorem onRxStartup_path (w : World) {data : List UInt8}
    (hstate : w.port.state = .startup) :
  Judged K data w (onRxStartup K w data).1
  := by
  simp only [onRxStartup]
  by_cases hstep : w.port.startup.step = .awaitResponse
  · rw [if_neg (not_not.mpr hstep)]
    by_cases hlen : data.length = M_SEQ_TYPE0_LEN
    · rw [if_neg (not_not.mpr hlen)]
      split
      · next hok =>
        have hcks : ¬ K.CksOk data := by
          rw [← type0ReplyOk_iff hlen]
          simpa using hok
        have hwidth : replyWidth w.port = some data.length := by
          simp only [replyWidth, hstate, hstep, if_true, hlen]
        have hreject : JudgeStep K data w _ := .rejectTest hstate hcks hwidth
        apply hreject.done.tune
        apply similar_checksumErrors
      · next hok =>
        have hcks : K.CksOk data := by
          rw [← type0ReplyOk_iff hlen]
          simpa using hok
        have haccept : JudgeStep K data w _ := .acceptTest hstate hstep hlen hcks
        rw [← hstate] at haccept
        apply haccept.done.tune
        exact ⟨id, rfl, rfl, rfl, rfl, rfl, rfl, rfl, rfl, rfl, rfl, rfl, rfl, rfl, rfl, rfl, rfl,
          rfl, rfl, rfl⟩
    · rw [if_pos hlen]
      apply JudgeStep.done
      apply JudgeStep.unframed
      simp only [replyWidth, hstate, hstep, if_true]
      intro heq
      apply hlen (Option.some.inj heq).symm
  · rw [if_pos hstep]
    apply JudgeStep.done
    apply JudgeStep.unframed
    simp [replyWidth, hstate, hstep]

/-- The judgement of the acknowledge of DeviceOperate. -/
theorem onRxOperateAck_path (env : Env) (w : World) {data : List UInt8}
    (hack : awaitsAck w.port) :
  Judged K data w (onRxOperateAck K env w data).1
  := by
  obtain ⟨hstate, hstep⟩ := hack
  have hne : w.port.state ≠ .startup := by
    rw [hstate]
    decide
  simp only [onRxOperateAck]
  by_cases hlen : data.length = 1
  · rw [if_neg (not_not.mpr hlen)]
    split
    · next hcks =>
      rw [ne_eq, ackOk_iff hlen] at hcks
      apply replyRejected_path env w hne hcks
      simp only [replyWidth, hstate, hstep, if_true, hlen]
    · next hcks =>
      rw [ne_eq, not_not, ackOk_iff hlen] at hcks
      have haccept : JudgeStep K data w _ := .acceptAck ⟨hstate, hstep⟩ hlen hcks
      rw [← hstate] at haccept
      apply haccept.done.tune
      exact ⟨id, rfl, rfl, rfl, rfl, rfl, rfl, rfl, rfl, rfl, rfl, rfl, rfl, rfl, rfl, rfl, rfl,
        rfl, rfl, rfl⟩
  · rw [if_pos hlen]
    apply JudgeStep.done
    apply JudgeStep.unframed
    simp only [replyWidth, hstate, hstep, if_true]
    intro heq
    apply hlen (Option.some.inj heq).symm

/-- The judgement of a TYPE_0 reply. -/
theorem onRxType0_path (env : Env) (w : World) {data : List UInt8}
    (hne : w.port.state ≠ .startup) (hack : ¬ awaitsAck w.port)
    (hcarries : carriesPd w.port = false)
    (hwidth : replyWidth w.port = some M_SEQ_TYPE0_LEN) (hod : odWidth w.port = 1) :
  Judged K data w (onRxType0 K env w data).1
  := by
  simp only [onRxType0]
  by_cases hlen : data.length = M_SEQ_TYPE0_LEN
  · rw [if_neg (not_not.mpr hlen)]
    split
    · next hok =>
      apply replyRejected_path env w hne _ (hwidth.trans (congrArg some hlen.symm))
      rw [← type0ReplyOk_iff hlen]
      simpa using hok
    · next hok =>
      have hcks : K.CksOk data := by
        rw [← type0ReplyOk_iff hlen]
        simpa using hok
      have hpd : TakesPd K w.port data (accepted w data).port (accepted w data).port.pdIn
          (accepted w data).port.pdInLen (accepted w data).port.pdValid := by
        rw [TakesPd, hcarries]
        exact ⟨rfl, rfl, rfl⟩
      have haccept : JudgeStep K data w _ :=
        .accept hne hack (hwidth.trans (congrArg some hlen.symm)) hcks .refl hpd
      rw [← routeOd_setPd, setPd_self] at haccept
      simp only [accepted, hod] at haccept
      apply haccept.done
  · rw [if_pos hlen]
    apply JudgeStep.done
    apply JudgeStep.unframed
    rw [hwidth]
    intro heq
    apply hlen (Option.some.inj heq).symm

/-- The notification of a pending event. -/
theorem notifyEventPending_path (w : World) (raised : Bool) (handler : List Service) :
  ServicePath w (notifyEventPending w raised handler)
  := by
  simp only [notifyEventPending]
  apply ServicePath.retune
  · split
    · apply (ServicePath.note rfl).trans (runServices_path _ handler)
    · apply ReflTransGen.refl
  · exact ⟨id, rfl, rfl, rfl, rfl, rfl, rfl, rfl, rfl, rfl, rfl, rfl, rfl, rfl, rfl, rfl, rfl,
    rfl, rfl, rfl⟩

/-- The judgement of a reply of OPERATE. -/
theorem onRxOperate_path (hK : K.Lawful) (env : Env) (w : World) {data : List UInt8}
    (handler : List Service) (hne : w.port.state ≠ .startup)
    (hack : ¬ awaitsAck w.port) (hcarries : carriesPd w.port = true)
    (hwidth : replyWidth w.port
      = some ((if w.port.rxOdExpected then w.port.odLen else 0) + w.port.config.pdInLen + 1))
    (hod : odWidth w.port = if w.port.rxOdExpected then w.port.odLen else 0) :
  Judged K data w (onRxOperate K env w data handler).1
  := by
  simp only [onRxOperate]
  split
  · next hnone =>
    rw [hK.decode_none_iff] at hnone
    apply JudgeStep.done
    apply JudgeStep.unframed
    rw [hwidth]
    intro heq
    apply hnone (Option.some.inj heq).symm
  · next r hsome =>
    obtain ⟨hlen, hrod, hcks, -⟩ := decodeOperateResponse_some hK hsome
    split
    · next hok =>
      apply replyRejected_path env w hne _ (hwidth.trans (congrArg some hlen.symm))
      rw [← hcks]
      simpa using hok
    · -- Accept, notify, take the process data, hand on the on-request data.
      next hok =>
      have hod' : data.take (odWidth w.port) = r.od := by
        rw [hod, hrod]
      have hhandler : ServicePath (accepted w data)
          (notifyEventPending ((replyAccepted w data (some r.od)).put
            { (replyAccepted w data (some r.od)).port with
              diagnostics := { (replyAccepted w data (some r.od)).port.diagnostics with
                odStatus := r.status } }) r.eventPending handler) := by
        rw [accepted, hod']
        apply ReflTransGen.trans _ (notifyEventPending_path _ _ _)
        apply ServicePath.tune
        exact ⟨id, rfl, rfl, rfl, rfl, rfl, rfl, rfl, rfl, rfl, rfl, rfl, rfl, rfl, rfl, rfl, rfl,
          rfl, rfl, rfl⟩
      generalize notifyEventPending ((replyAccepted w data (some r.od)).put
        { (replyAccepted w data (some r.od)).port with
          diagnostics := { (replyAccepted w data (some r.od)).port.diagnostics with
            odStatus := r.status } }) r.eventPending handler = u at hhandler
      have hpd : TakesPd K w.port data u.port (takePdIn u.port r).pdIn
          (takePdIn u.port r).pdInLen (takePdIn u.port r).pdValid := by
        simp only [TakesPd, hcarries, if_true]
        rw [← hod] at hsome
        exact ⟨r, hsome, rfl, rfl, rfl⟩
      have haccept : JudgeStep K data w _ :=
        .accept hne hack (hwidth.trans (congrArg some hlen.symm))
          (hcks.mp (by simpa using hok)) hhandler hpd
      rw [hod', ← routeOd_setPd, ← put_takePdIn] at haccept
      apply haccept.done

/-- Every reply is judged. -/
theorem onRx_judged (hK : K.Lawful) (env : Env) (w : World) {data : List UInt8}
    (handler : List Service) (hdata : data ≠ []) :
  Judged K data w (onRx K env w data handler).1
  := by
  simp only [onRx]
  rw [if_neg hdata]
  · split
    · next hstate => apply onRxStartup_path w hstate
    · next hne =>
      split
      · next hstate =>
        split
        · next hstep => apply onRxOperateAck_path env w ⟨hstate, hstep⟩
        · next hstep =>
          apply onRxType0_path env w hne
          · rintro ⟨-, h⟩
            apply hstep h
          · simp [carriesPd, hstate]
          · simp [replyWidth, hstate, hstep]
          · simp [odWidth, hstate]
      · next hpre =>
        have hack : ¬ awaitsAck w.port := by
          rintro ⟨h, -⟩
          apply hpre h
        split
        · next htype =>
          apply onRxType0_path env w hne hack
          · simp [carriesPd, htype.1, htype.2]
          · simp [replyWidth, htype.1, htype.2]
          · simp [odWidth, htype.1, htype.2]
        · next htype =>
          apply onRxOperate_path hK env w handler hne hack
          · simp [carriesPd, hpre, imp_iff_not_or.mp (by simpa using htype)]
          · cases hstate : w.port.state with
            | startup => exact absurd hstate hne
            | preoperate => exact absurd hstate hpre
            | operate =>
                have h : ¬ type0Operate w.port = true := fun h => htype ⟨hstate, h⟩
                simp [replyWidth, hstate, h]
            | inactive => simp [replyWidth, hstate]
            | error => simp [replyWidth, hstate]
          · simp only [odWidth, hpre, false_or, if_neg htype]

/-- The judgement of a reply is a sequence of receive steps. -/
theorem onRx_path (hK : K.Lawful) (env : Env) (w : World) (data : List UInt8)
    (handler : List Service) (hjudged : judged w data) :
  ReceivePath K judged w (onRx K env w data handler).1
  := by
  by_cases hdata : data = []
  · simp only [onRx]
    rw [if_pos hdata]
  · obtain ⟨u, hstep, hpath⟩ := onRx_judged hK env w handler hdata
    apply ReflTransGen.head (ReceiveStep.judge data hjudged hstep) hpath.receive

/-! ### Polling -/

/-- The replies `poll_rx` judges while it waits for `expected` octets: everything
buffered, once it is as long as expected. -/
def PolledFor (expected : Nat) (w : World) (data : List UInt8) : Prop :=
  data = w.port.rx ∧ expected ≤ data.length

/-- The replies a call of `poll_rx` on the port `p` judges. -/
def Polled (p : PortState) (w : World) (data : List UInt8) : Prop :=
  ∃ expected, expectedLen p = some expected ∧ PolledFor expected w data

/-- Restricting which replies are judged. -/
theorem ReceivePath.mono {judged' : World → List UInt8 → Prop} {w v : World}
    (himp : ∀ w data, judged w data → judged' w data) (h : ReceivePath K judged w v) :
  ReceivePath K judged' w v
  := by
  apply ReflTransGen.mono _ _ _ h
  intro a b hstep
  cases hstep with
  | control h => apply ReceiveStep.control h
  | recv byte => apply ReceiveStep.recv byte
  | clearRx => apply ReceiveStep.clearRx
  | judge data hjudged h => apply ReceiveStep.judge data (himp _ _ hjudged) h

/-- Dropping the buffered octets and latching the error state. -/
theorem rxFailed_path (w : World) :
  ReceivePath K judged w (rxFailed w)
  := (ReflTransGen.single .clearRx).tail (.control .fail)

/-- Receiving an octet. -/
theorem recv_path (w : World) (byte : UInt8) :
  ReceivePath K judged w ((w.emit (.recv byte)).put { w.port with rx := w.port.rx ++ [byte] })
  := .single (.recv byte)

/-- The octets of one poll are received and judged one after the other. -/
theorem pollLoop_path (hK : K.Lawful) (env : Env) (expected frames : Nat) (w : World)
    (octets : List (UInt8 × List Service)) :
  ReceivePath K (PolledFor expected) w (pollLoop K env expected w frames octets).1
  := by
  induction octets generalizing w frames with
  | nil =>
      simp only [pollLoop]
      split
      · apply rxFailed_path
      · apply ReflTransGen.refl
  | cons octet octets ih =>
      obtain ⟨byte, handler⟩ := octet
      simp only [pollLoop]
      split
      · have hdrop : ReceivePath K (PolledFor expected) w
            (((w.emit (.recv byte)).put { w.port with rx := w.port.rx ++ [byte] }).put
              { w.port with rx := [] }) := (recv_path w byte).tail .clearRx
        apply hdrop.tail
        apply ReceiveStep.control .fail
      · split
        · next hlen =>
          have hjudged : PolledFor expected
              ((w.emit (.recv byte)).put { w.port with rx := w.port.rx ++ [byte] })
              (w.port.rx ++ [byte]) := ⟨rfl, hlen⟩
          have hjudge := onRx_path hK env _ _ handler hjudged
          have hclear := ((recv_path w byte).trans hjudge).tail .clearRx
          split
          · apply hclear
          · apply hclear.trans (ih _ _)
        · apply (recv_path w byte).trans (ih _ _)

/-- A call of `poll_rx` is a sequence of receive steps. -/
theorem pollRx_path (hK : K.Lawful) (env : Env) (w : World) :
  ReceivePath K (Polled w.port) w (pollRx K env w).1
  := by
  simp only [pollRx]
  split
  · apply ReflTransGen.refl
  · split
    · apply ReflTransGen.refl
    · next expected hexp =>
      apply (pollLoop_path hK env expected 0 w env.recv).mono
      intro v data hpolled
      exact ⟨expected, hexp, hpolled⟩

/-- A poll that delivers too few octets for a reply judges none. -/
theorem pollLoop_short (env : Env) {expected : Nat} (frames : Nat) {w : World}
    {octets : List (UInt8 × List Service)} (h : w.port.rx.length + octets.length < expected) :
  ReceivePath K (fun _ _ => False) w (pollLoop K env expected w frames octets).1
  := by
  induction octets generalizing w frames with
  | nil =>
      simp only [pollLoop]
      split
      · apply rxFailed_path
      · apply ReflTransGen.refl
  | cons octet octets ih =>
      obtain ⟨byte, handler⟩ := octet
      rw [List.length_cons] at h
      simp only [pollLoop]
      split
      · have hdrop : ReceivePath K (fun _ _ => False) w
            (((w.emit (.recv byte)).put { w.port with rx := w.port.rx ++ [byte] }).put
              { w.port with rx := [] }) := (recv_path w byte).tail .clearRx
        apply hdrop.tail
        apply ReceiveStep.control .fail
      · have hshort : ¬ (w.port.rx ++ [byte]).length ≥ expected := by
          rw [List.length_append, List.length_singleton]
          omega
        simp only [World.emit_port, World.put_port, hshort, if_false]
        apply (recv_path w byte).trans
        apply ih
        rw [World.put_port, List.length_append, List.length_singleton]
        omega

end IolinkMaster
