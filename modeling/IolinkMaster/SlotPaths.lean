import IolinkMaster.ReceivePaths

/-!
# Slots and ticks step by step

A transmission slot is a sequence of atomic steps, and a tick is a poll followed by the
steps of a response timeout or of a slot.
-/

namespace IolinkMaster

open Relation

variable {K : Iolinki} {ready : World → Prop}

/-! ### Transmission -/

theorem SlotPath.tune {w v : World} {p : PortState} (h : SlotPath K ready w v)
    (hp : Similar v.port p) :
  SlotPath K ready w (v.put p)
  := h.tail (.control (.service (.tune hp)))

theorem SlotPath.note {w v : World} {o : Obs} (h : SlotPath K ready w v)
    (ho : o.neutral = true) :
  SlotPath K ready w (v.emit o)
  := h.tail (.control (.service (.note ho)))

theorem SlotPath.fail {w v : World} (h : SlotPath K ready w v) :
  SlotPath K ready w (v.enter .error)
  := h.tail (.control .fail)

/-- The count of failed transmissions decides nothing. -/
theorem similar_sendErrors (p : PortState) (count : UInt32) :
  Similar p { p with diagnostics := { p.diagnostics with sendErrors := count } }
  := ⟨id, rfl, rfl, rfl, rfl, rfl, rfl, rfl, rfl, rfl, rfl, rfl, rfl, rfl, rfl, rfl, rfl,
    rfl, rfl, rfl⟩

/-- The ways a transmission ends. -/
inductive SendOutcome (w : World) (frame : List UInt8) : World × Bool → Prop where
  /-- The frame does not go out. -/
  | blocked : SendOutcome w frame (sendFailed w, false)
  /-- The frame goes out, but the transmission is reported as failed. -/
  | failed : SendOutcome w frame (sendFailed (w.emit (.sent w.port.state frame)), false)
  /-- The frame goes out. -/
  | sent :
      SendOutcome w frame
        (⟨{ w.port with rxOdExpected := mcIsRead (frame.getD 0 0) },
          .sent w.port.state frame :: w.log⟩, true)

/-- A transmission ends in one of these ways. -/
theorem sendFull_cases (env : Env) (w : World) (frame : List UInt8) :
  SendOutcome w frame (sendFull env w frame)
  := by
  simp only [sendFull]
  split
  · apply SendOutcome.blocked
  · split
    · apply SendOutcome.failed
    · split
      · apply SendOutcome.sent
      · apply SendOutcome.failed

/-- A transmission leaves the services and the startup sequence alone. -/
theorem sendFull_keeps (env : Env) (w : World) (frame : List UInt8) :
  (sendFull env w frame).1.port.event = w.port.event ∧
    (sendFull env w frame).1.port.startup = w.port.startup ∧
    (sendFull env w frame).1.port.cycleCount = w.port.cycleCount
  := by
  have hcases := sendFull_cases env w frame
  revert hcases
  generalize sendFull env w frame = r
  rintro (_ | _ | _) <;> exact ⟨rfl, rfl, rfl⟩

/-- A frame that goes out as soon as the slot opens. -/
theorem poised_open {w : World} (hview : viewed w.log = some w.port) (frame : List UInt8) :
  Poised K w frame
  := ⟨w.port, hview, rfl, rfl, .inl ⟨rfl, rfl, rfl, rfl⟩⟩

/-- A transmission in a slot of PREOPERATE or OPERATE: the state it leaves when the frame
goes out, and when it does not. -/
theorem transmit_path (ready : World → Prop) {w : World} {frame : List UInt8} {s : IsduState}
    {e : EventState} {step : StartupStep} (h : Emission K w.port frame s e step)
    (hstate : acyclicAvailable w.port.state = true) (hopen : slotOpen w.log = true)
    (hview : Poised K w frame) (env : Env) :
  ((sendFull env (w.putIsdu s) frame).2 = true →
    SlotPath K ready w
      ((sendFull env (w.putIsdu s) frame).1.put
        { (sendFull env (w.putIsdu s) frame).1.port with
          event := e
          startup := { (sendFull env (w.putIsdu s) frame).1.port.startup with step := step } }))
  ∧ ∀ e', e' = eventOnWritten w.port.event → (sendFull env (w.putIsdu s) frame).2 = false →
    SlotPath K ready w ((sendFull env (w.putIsdu s) frame).1.putEvent e')
  := by
  have hcases := sendFull_cases env (w.putIsdu s) frame
  revert hcases
  generalize sendFull env (w.putIsdu s) frame = r
  rintro (_ | _ | _)
  · constructor
    · intro hsent
      contradiction
    · intro e' he _
      have hfail : SlotPath K ready w _ :=
        .single (.sendFailed false e' hstate hopen h hview he)
      apply hfail.tune
      exact ⟨id, rfl, rfl, rfl, rfl, rfl, rfl, rfl, rfl, rfl, rfl, rfl, rfl, rfl, rfl, rfl, rfl,
        rfl, rfl, rfl⟩
  · constructor
    · intro hsent
      contradiction
    · intro e' he _
      have hfail : SlotPath K ready w _ :=
        .single (.sendFailed true e' hstate hopen h hview he)
      apply hfail.tune
      exact ⟨id, rfl, rfl, rfl, rfl, rfl, rfl, rfl, rfl, rfl, rfl, rfl, rfl, rfl, rfl, rfl, rfl,
        rfl, rfl, rfl⟩
  · constructor
    · intro _
      apply ReflTransGen.single
      apply SlotStep.send hstate hopen h hview
    · intro _ _ hsent
      contradiction

/-! ### The senders of PREOPERATE and OPERATE -/

/-- A diagnosis frame has octets. -/
theorem eventFrame_ne_nil (hK : K.Lawful) (p : PortState) (read : Bool) (addr : Nat) :
  eventFrame K p read addr ≠ []
  := by
  simp only [eventFrame]
  split
  · split
    · simp [hK.encodeType0_eq]
    · simp [hK.encodeType0Write_eq]
  · simp [message]

/-- A call of `send_event` sends a diagnosis frame, or there is none to send. -/
theorem sendEvent_path (ready : World → Prop) (hK : K.Lawful) (env : Env) {w : World}
    (hstate : acyclicAvailable w.port.state = true) (hopen : slotOpen w.log = true)
    (hview : viewed w.log = some w.port) :
  SlotPath K ready w (sendEvent K env w).1 ∧
    ((sendEvent K env w).2 = false →
      (sendEvent K env w).1 = w ∧ w.port.event.phase = .none)
  := by
  cases haccess : eventChannelAccess w.port.event with
  | none =>
      have hphase : w.port.event.phase = .none := by
        simp only [eventChannelAccess] at haccess
        split at haccess
        · next h => apply h
        · contradiction
        · contradiction
      have hnone : sendEvent K env w = (w, false) := by
        simp only [sendEvent, haccess]
      rw [hnone]
      exact ⟨.refl, fun _ => ⟨rfl, hphase⟩⟩
  | some access =>
      obtain ⟨read, addr⟩ := access
      have hframe := eventFrame_ne_nil hK w.port read addr
      constructor
      · cases read with
        | true =>
            obtain ⟨hsent, hfailed⟩ := transmit_path ready
              (Emission.readEvent (K := K) addr haccess) hstate hopen (poised_open hview _) env
            have hself : w.putIsdu w.port.isdu = w := rfl
            rw [hself] at hsent hfailed
            simp only [sendEvent, haccess, hframe, if_false, Bool.and_true, Bool.not_true,
              Bool.false_eq_true]
            split
            · next h =>
              have hpath := hsent h
              obtain ⟨hevent, hstartup, -⟩ := sendFull_keeps env w (eventFrame K w.port true addr)
              rw [← hevent, ← hstartup] at hpath
              apply hpath
            · next h =>
              have hphase : w.port.event.phase ≠ .write := by
                intro hwrite
                simp [eventChannelAccess, hwrite] at haccess
              have hpath := hfailed _ (eventOnWritten_of_ne hphase).symm
                (Bool.eq_false_iff.mpr h)
              obtain ⟨hevent, -⟩ := sendFull_keeps env w (eventFrame K w.port true addr)
              rw [← hevent] at hpath
              apply hpath
        | false =>
            obtain ⟨hsent, hfailed⟩ := transmit_path ready
              (Emission.writeEvent (K := K) addr haccess) hstate hopen (poised_open hview _) env
            have hself : w.putIsdu w.port.isdu = w := rfl
            rw [hself] at hsent hfailed
            simp only [sendEvent, haccess, hframe, if_false, Bool.and_false, Bool.not_false,
              Bool.false_eq_true, if_true]
            obtain ⟨hevent, hstartup, -⟩ := sendFull_keeps env w (eventFrame K w.port false addr)
            rw [hevent]
            cases h : (sendFull env w (eventFrame K w.port false addr)).2 with
            | true =>
                have hpath := hsent h
                rw [← hstartup] at hpath
                apply hpath
            | false => apply hfailed _ rfl h
      · intro h
        simp [sendEvent, haccess, hframe] at h

/-- A call of `send_isdu` sends a frame of the ISDU channel, or there is none to send. -/
theorem sendIsdu_path (ready : World → Prop) (hK : K.Lawful) (env : Env) {w : World}
    (hstate : acyclicAvailable w.port.state = true) (hopen : slotOpen w.log = true)
    (hview : viewed w.log = some w.port) (hevent : w.port.event.phase = .none) :
  SlotPath K ready w (sendIsdu K env w).1 ∧
    ((sendIsdu K env w).2 = false →
      (sendIsdu K env w).1 = w ∧ isduNext w.port.isdu w.port.odLen = none)
  := by
  rw [sendIsdu_eq]
  cases hnext : isduNext w.port.isdu w.port.odLen with
  | none => exact ⟨.refl, fun _ => ⟨rfl, rfl⟩⟩
  | some next =>
      obtain ⟨f, s⟩ := next
      obtain ⟨rest, hhead⟩ := IsduFrame.octets_head hK w.port f
      have hframe : f.octets K w.port ≠ [] := by
        rw [hhead]
        apply List.cons_ne_nil
      simp only [sendFrame, hframe, if_false]
      constructor
      · obtain ⟨hsent, hfailed⟩ := transmit_path ready
          (Emission.isdu (K := K) f s hevent hnext) hstate hopen (poised_open hview _) env
        obtain ⟨hsame, hstartup, -⟩ := sendFull_keeps env (w.putIsdu s) (f.octets K w.port)
        cases h : (sendFull env (w.putIsdu s) (f.octets K w.port)).2 with
        | true =>
            have hpath := hsent h
            rw [show w.port.event = (w.putIsdu s).port.event from rfl,
              show w.port.startup.step = (w.putIsdu s).port.startup.step from rfl, ← hsame,
              ← hstartup] at hpath
            apply hpath
        | false =>
            have hphase : w.port.event.phase ≠ .write := by simp [hevent]
            have hpath := hfailed (w.putIsdu s).port.event (eventOnWritten_of_ne hphase).symm h
            rw [← hsame] at hpath
            apply hpath
      · intro h
        contradiction

/-- The write of DeviceOperate. -/
theorem processDeviceOperate_path (hK : K.Lawful) (env : Env) {w : World}
    (hstate : w.port.state = .preoperate) (hopen : slotOpen w.log = true)
    (hview : Poised K w (deviceOperateMessage K)) (hevent : w.port.event.phase = .none)
    (hisdu : isduNext w.port.isdu w.port.odLen = none) (hchecked : DeviceChecked w.port) :
  SlotPath K ready w (processDeviceOperate K env w)
  := by
  have hframe : deviceOperateMessage K ≠ [] := by
    simp [deviceOperateMessage, hK.encodeType0Write_eq]
  have havail : acyclicAvailable w.port.state = true := by
    rw [hstate]
    rfl
  obtain ⟨hsent, hfailed⟩ := transmit_path ready
    (Emission.deviceOperate (K := K) hstate hevent hisdu hchecked) havail hopen hview env
  have hself : w.putIsdu w.port.isdu = w := rfl
  obtain ⟨hsame, -, -⟩ := sendFull_keeps env w (deviceOperateMessage K)
  rw [hself] at hsent hfailed
  simp only [processDeviceOperate, hframe, if_false]
  split
  · next h =>
    have hpath := hsent h
    rw [← hsame] at hpath
    apply hpath
  · next h =>
    have hphase : w.port.event.phase ≠ .write := by simp [hevent]
    have hpath := hfailed w.port.event (eventOnWritten_of_ne hphase).symm
      (Bool.eq_false_iff.mpr h)
    rw [← hsame] at hpath
    apply hpath

/-- Device information that is read at once comes from a collected page. -/
theorem readDeviceInfo_collected (w : World) :
  (readDeviceInfo w).2 = STATUS_PENDING ∨ (readDeviceInfo w).2 < 0 ∨
    (readDeviceInfo w).1.port.isdu = isduClear w.port.isdu ∧
      (readDeviceInfo w).1.port.event = w.port.event
  := by
  simp only [readDeviceInfo]
  rcases readIsdu_ret w IDX_DIRECT_PARAMETERS_1 0 (UInt8.ofNat DPP1_LEN) with hok | hwait
  · right
    right
    have hport := readIsdu_ok hok
    have hzero : ¬ (readIsdu w IDX_DIRECT_PARAMETERS_1 0 (UInt8.ofNat DPP1_LEN)).2.ret ≠ 0 :=
      not_not.mpr hok
    rw [if_neg hzero, apply_ite Prod.fst, ite_self, World.put_port, World.emit_port,
      applyDirectParameterPage1_eq, hport]
    exact ⟨serviceResult_isdu _ _, rfl⟩
  · have hne : (readIsdu w IDX_DIRECT_PARAMETERS_1 0 (UInt8.ofNat DPP1_LEN)).2.ret ≠ 0 := by
      rcases hwait with h | h
      · rw [h]
        decide
      · omega
    rw [if_pos hne]
    rcases hwait with h | h
    · exact .inl h
    · exact .inr (.inl h)

/-- The check of the device information before DeviceOperate. -/
theorem processValidation_path (w : World) :
  ControlPath w (processValidation w).1 ∧
    ((processValidation w).2 = true →
      ServicePath w (processValidation w).1 ∧ DeviceChecked (processValidation w).1.port ∧
        ((processValidation w).1.port.isdu = w.port.isdu ∨
          (processValidation w).1.port.isdu = isduClear w.port.isdu) ∧
        (processValidation w).1.port.event = w.port.event)
  := by
  simp only [processValidation]
  by_cases hreq : startupValidationRequired w.port.config = true
  · have hread : ServicePath w
        (if w.port.deviceInfo.valid then (w, STATUS_OK) else readDeviceInfo w).1 := by
      split
      · apply ReflTransGen.refl
      · apply readDeviceInfo_path
    have hservices : ∀ r, r = (if w.port.deviceInfo.valid then (w, STATUS_OK)
        else readDeviceInfo w) → r.2 = STATUS_PENDING ∨ r.2 < 0 ∨
          (r.1.port.isdu = w.port.isdu ∨ r.1.port.isdu = isduClear w.port.isdu) ∧
            r.1.port.event = w.port.event := by
      rintro r rfl
      split
      · exact .inr (.inr ⟨.inl rfl, rfl⟩)
      · rcases readDeviceInfo_collected w with h | h | ⟨hisdu, hevent⟩
        · exact .inl h
        · exact .inr (.inl h)
        · exact .inr (.inr ⟨.inr hisdu, hevent⟩)
    simp only [hreq, if_true]
    revert hread hservices
    generalize (if w.port.deviceInfo.valid then (w, STATUS_OK) else readDeviceInfo w) = r
    intro hread hservices
    split
    · exact ⟨hread.control, fun h => Bool.noConfusion h⟩
    · next hpending =>
      split
      · exact ⟨hread.control.tail .fail, fun h => Bool.noConfusion h⟩
      · next hneg =>
        split
        · exact ⟨hread.control.tail .fail, fun h => Bool.noConfusion h⟩
        · next hvalid =>
          refine ⟨hread.control, fun _ => ⟨hread, fun _ => not_not.mp hvalid, ?_⟩⟩
          rcases hservices r rfl with h | h | h
          · exact absurd h hpending
          · exact absurd h hneg
          · apply h
  · simp only [hreq, Bool.false_eq_true, if_false]
    exact ⟨.refl, fun _ => ⟨.refl, fun h => absurd h hreq, .inl trivial, trivial⟩⟩

/-- A slot of PREOPERATE. -/
theorem processPreoperate_path (hK : K.Lawful) (env : Env) {w : World}
    (hstate : w.port.state = .preoperate) (hopen : slotOpen w.log = true)
    (hview : viewed w.log = some w.port) :
  SlotPath K ready w (processPreoperate K env w)
  := by
  have havail : acyclicAvailable w.port.state = true := by
    rw [hstate]
    rfl
  obtain ⟨hevent, hevent'⟩ := sendEvent_path ready hK env havail hopen hview
  simp only [processPreoperate]
  split
  · apply hevent
  · next hnone =>
    obtain ⟨heq, hphase⟩ := hevent' (Bool.eq_false_iff.mpr hnone)
    rw [heq]
    obtain ⟨hisdu, hisdu'⟩ := sendIsdu_path ready hK env havail hopen hview hphase
    split
    · apply hisdu
    · next hnone =>
      obtain ⟨heq, hidle⟩ := hisdu' (Bool.eq_false_iff.mpr hnone)
      rw [heq]
      obtain ⟨hcontrol, hchecked⟩ := processValidation_path w
      split
      · next hgoOn =>
        obtain ⟨hservice, hdevice, hisdu, hevent⟩ := hchecked hgoOn
        have hsame := untouched_of_path hservice
        apply hservice.slot.trans
        apply processDeviceOperate_path hK env
        · rw [hsame.state, hstate]
        · rw [hsame.slotOpen, hopen]
        · exact ⟨w.port, hsame.viewed.trans hview, hsame.config.symm, hsame.state.symm,
            .inr ⟨rfl, hphase, hidle⟩⟩
        · rw [hevent, hphase]
        · rcases hisdu with h | h
          · rw [h, hsame.odLen, hidle]
          · rw [h]
            rfl
        · apply hdevice
      · apply hcontrol.slot

/-- A cyclic frame has octets. -/
theorem cyclicFrame_ne_nil (hK : K.Lawful) (p : PortState) (od od' : List UInt8)
    (type0 : Bool) :
  (if type0 then type0CyclicFrame K od else cyclicFrame K p od') ≠ []
  := by
  cases type0 with
  | true => simp [type0CyclicFrame, hK.encodeType0_eq]
  | false => simp [cyclicFrame, message]

/-- The cyclic exchange sends a frame and counts it when it goes out. -/
theorem processCyclic_path (hK : K.Lawful) (env : Env) {w : World}
    (hstate : w.port.state = .operate) (hopen : slotOpen w.log = true)
    (hview : viewed w.log = some w.port) (hevent : w.port.event.phase = .none)
    (hisdu : isduNext w.port.isdu w.port.odLen = none) :
  SlotPath K ready w (processCyclic K env w)
  := by
  have havail : acyclicAvailable w.port.state = true := by
    rw [hstate]
    rfl
  have hsame : w.port.event = eventOnWritten w.port.event := by
    rw [eventOnWritten_of_ne (by simp [hevent])]
  have hcyclic : ∀ frame s, Emission K w.port frame s w.port.event w.port.startup.step →
      SlotPath K ready w
        (if (sendFull env (w.putIsdu s) frame).2 then
          (sendFull env (w.putIsdu s) frame).1.put
            (countCycle (sendFull env (w.putIsdu s) frame).1.port)
        else (sendFull env (w.putIsdu s) frame).1) := by
    intro frame s h
    obtain ⟨hsent, hfailed⟩ := transmit_path ready h havail hopen (poised_open hview _) env
    have hcases := sendFull_cases env (w.putIsdu s) frame
    revert hsent hfailed hcases
    generalize sendFull env (w.putIsdu s) frame = r
    rintro hsent hfailed (_ | _ | _)
    · apply hfailed w.port.event hsame rfl
    · apply hfailed w.port.event hsame rfl
    · apply (hsent rfl).tail
      apply SlotStep.count
      · apply hstate
      · use frame, w.log
        simp [World.putIsdu, hstate]
  simp only [processCyclic]
  rw [if_neg]
  · cases htype : type0Operate w.port with
    | true =>
        simp only [if_true]
        apply hcyclic _ _ (.cyclicType0 hstate hevent hisdu htype)
    | false =>
        simp only [Bool.false_eq_true, if_false]
        apply hcyclic _ _ (.cyclic hstate hevent hisdu htype)
  · apply cyclicFrame_ne_nil hK

/-- A slot of OPERATE. -/
theorem processOperate_path (hK : K.Lawful) (env : Env) {w : World}
    (hstate : w.port.state = .operate) (hopen : slotOpen w.log = true)
    (hview : viewed w.log = some w.port) :
  SlotPath K ready w (processOperate K env w)
  := by
  have havail : acyclicAvailable w.port.state = true := by
    rw [hstate]
    rfl
  obtain ⟨hevent, hevent'⟩ := sendEvent_path ready hK env havail hopen hview
  simp only [processOperate]
  split
  · apply hevent
  · next hnone =>
    obtain ⟨heq, hphase⟩ := hevent' (Bool.eq_false_iff.mpr hnone)
    rw [heq]
    obtain ⟨hisdu, hisdu'⟩ := sendIsdu_path ready hK env havail hopen hview hphase
    split
    · apply hisdu
    · next hnone =>
      obtain ⟨heq, hidle⟩ := hisdu' (Bool.eq_false_iff.mpr hnone)
      rw [heq]
      apply processCyclic_path hK env hstate hopen hview hphase hidle

/-! ### The slots of STARTUP -/

theorem SlotPath.restep {w v : World} {step : StartupStep} (h : SlotPath K ready w v)
    (hstate : v.port.state = .startup)
    (hstep : step ≠ .awaitResponse ∧ step ≠ .awaitOperateAck) :
  SlotPath K ready w (v.setStep step)
  := h.tail (.restep step hstate hstep)

/-- The wake-up request. -/
theorem processWake_path (env : Env) {w : World} (now : UInt32) (timed : Bool)
    (hstate : w.port.state = .startup) (hstep : w.port.startup.step = .wake) :
  SlotPath K ready w (processWake env w now timed)
  := by
  simp only [processWake, wakeUp]
  split
  · have hcases := sendFull_cases env w [WAKEUP_BYTE]
    revert hcases
    generalize sendFull env w [WAKEUP_BYTE] = r
    rintro (_ | _ | _)
    · apply SlotPath.fail
      apply SlotPath.tune .refl
      apply similar_sendErrors
    · rw [hstate]
      have hfail : SlotPath K ready w _ := .single (.startupFailed [WAKEUP_BYTE] hstate (.inl rfl))
      apply hfail.tune
      exact ⟨id, rfl, rfl, rfl, rfl, rfl, rfl, rfl, rfl, rfl, rfl, rfl, rfl, rfl, rfl, rfl, rfl,
        rfl, rfl, rfl⟩
    · rw [hstate]
      have hwake : SlotPath K ready w _ := .single (.wake hstate hstep)
      apply hwake.tune
      apply similar_armSendGate
  · split
    · apply SlotPath.tune _ (similar_armSendGate _ _ _ _)
      apply SlotPath.restep
      · apply ReflTransGen.single (.callWakeUp hstate hstep)
      · apply hstate
      · decide
    · apply SlotPath.fail
      apply SlotPath.tune
      · apply ReflTransGen.single (.callWakeUp hstate hstep)
      · apply similar_sendErrors

/-- The test message. -/
theorem processTest_path (env : Env) {w : World} (now : UInt32) (timed : Bool)
    (hstate : w.port.state = .startup) (hstep : w.port.startup.step = .sendType0)
    (hsend : w.port.phy.send = true) :
  SlotPath K ready w (processTest K env w now timed)
  := by
  simp only [processTest]
  split
  · apply ReflTransGen.refl
  · have hcases := sendFull_cases env w (testMessage K)
    revert hcases
    generalize sendFull env w (testMessage K) = r
    rintro (_ | _ | _)
    · apply SlotPath.fail
      apply SlotPath.tune .refl
      apply similar_sendErrors
    · have hfail : SlotPath K ready w _ := .single (.startupFailed (testMessage K) hstate (.inr rfl))
      rw [← hstate] at hfail
      apply hfail.tune
      exact ⟨id, rfl, rfl, rfl, rfl, rfl, rfl, rfl, rfl, rfl, rfl, rfl, rfl, rfl, rfl, rfl, rfl,
        rfl, rfl, rfl⟩
    · have htest : ∀ deadline awaiting, SlotPath K ready w _ := fun deadline awaiting =>
        .single (.test deadline awaiting hstate hstep hsend)
      rw [← hstate] at htest
      simp only [if_true]
      split
      · apply htest
      · apply htest w.port.responseDeadline100us w.port.awaitingResponse

/-- A slot of STARTUP. -/
theorem processStartup_path (env : Env) {w : World} (now : UInt32) (timed : Bool)
    (hstate : w.port.state = .startup) (hsend : w.port.phy.send = true) :
  SlotPath K ready w (processStartup K env w now timed)
  := by
  simp only [processStartup]
  split
  · split
    · apply SlotPath.fail
      apply SlotPath.note .refl rfl
    · apply ReflTransGen.trans _ (processWake_path env now timed _ _)
      · apply SlotPath.restep
        · apply SlotPath.note .refl rfl
        · apply hstate
        · decide
      · apply hstate
      · rfl
  · next hstep => apply processWake_path env now timed hstate hstep
  · next hstep => apply processTest_path env now timed hstate hstep hsend
  · apply ReflTransGen.refl
  · apply ReflTransGen.refl

/-! ### Slots -/

/-- A run of the state machine is a sequence of slot steps. -/
theorem processAt_path (hK : K.Lawful) (env : Env) {w : World} (now : UInt32) (timed : Bool)
    (hready : ready w) :
  SlotPath K ready w (processAt K env w now timed)
  := by
  simp only [processAt]
  split
  · apply ReflTransGen.refl
  · next hopen =>
    have hsend : w.port.phy.send = true := by
      simp only [Bool.or_eq_true, not_or, Bool.not_eq_true'] at hopen
      simpa using hopen.1
    split
    · next hstate => apply processStartup_path env now timed hstate hsend
    · next hstate =>
      apply ReflTransGen.head (SlotStep.slot hready (by rw [hstate]; rfl))
      apply processPreoperate_path hK env
      · apply hstate
      · rfl
      · rfl
    · next hstate =>
      apply ReflTransGen.head (SlotStep.slot hready (by rw [hstate]; rfl))
      apply processOperate_path hK env
      · apply hstate
      · rfl
      · rfl
    · apply ReflTransGen.refl
    · apply ReflTransGen.refl

/-! ### The cycle counter -/

theorem sendEvent_cycleCount (hK : K.Lawful) (env : Env) (w : World) :
  (sendEvent K env w).1.port.cycleCount = w.port.cycleCount
  := by
  simp only [sendEvent]
  split
  · rfl
  · next read addr _ =>
    have hkeeps := (sendFull_keeps env w (eventFrame K w.port read addr)).2.2
    rw [if_neg (eventFrame_ne_nil hK w.port read addr)]
    cases read with
    | true =>
        simp only [Bool.and_true, Bool.not_true, Bool.false_eq_true, if_false]
        split
        · apply hkeeps
        · apply hkeeps
    | false =>
        simp only [Bool.and_false, Bool.not_false, Bool.false_eq_true, if_false, if_true]
        apply hkeeps

theorem sendIsdu_cycleCount (env : Env) (w : World) :
  (sendIsdu K env w).1.port.cycleCount = w.port.cycleCount
  := by
  rw [sendIsdu_eq]
  split
  · rfl
  · next f s _ =>
    simp only [sendFrame]
    split
    · rfl
    · apply (sendFull_keeps env (w.putIsdu s) _).2.2

theorem processStartup_cycleCount (env : Env) (w : World) (now : UInt32) (timed : Bool) :
  (processStartup K env w now timed).port.cycleCount = w.port.cycleCount
  := by
  have hwake : ∀ v : World, (processWake env v now timed).port.cycleCount = v.port.cycleCount := by
    intro v
    simp only [processWake, wakeUp]
    have hkeeps := (sendFull_keeps env v [WAKEUP_BYTE]).2.2
    split
    · split
      · have hgate := (similar_armSendGate ((sendFull env v [WAKEUP_BYTE]).1.setStep .sendType0).port
          now (5 + tDmt100us ((sendFull env v [WAKEUP_BYTE]).1.setStep .sendType0).port
            (startupBaudrate ((sendFull env v [WAKEUP_BYTE]).1.setStep .sendType0).port))
          timed).cycleCount
        apply hgate.trans hkeeps
      · apply hkeeps
    · split
      · apply (similar_armSendGate _ _ _ _).cycleCount
      · rfl
  simp only [processStartup]
  split
  · split
    · rfl
    · apply hwake
  · apply hwake
  · simp only [processTest]
    have hkeeps := (sendFull_keeps env w (testMessage K)).2.2
    split
    · rfl
    · split
      · split
        · apply hkeeps
        · apply hkeeps
      · apply hkeeps
  · rfl
  · rfl

theorem processPreoperate_cycleCount (hK : K.Lawful) (env : Env) (w : World) :
  (processPreoperate K env w).port.cycleCount = w.port.cycleCount
  := by
  have hevent := sendEvent_cycleCount hK env w
  have hisdu := sendIsdu_cycleCount (K := K) env (sendEvent K env w).1
  simp only [processPreoperate]
  split
  · apply hevent
  · split
    · apply hisdu.trans hevent
    · have hvalidation : ∀ v : World,
          (processValidation v).1.port.cycleCount = v.port.cycleCount := by
        intro v
        have hread := (untouched_of_path (readDeviceInfo_path v)).cycleCount
        simp only [processValidation]
        repeat' split
        all_goals first
          | rfl
          | apply hread
      split
      · simp only [processDeviceOperate]
        have hkeeps := (sendFull_keeps env
          (processValidation (sendIsdu K env (sendEvent K env w).1).1).1
          (deviceOperateMessage K)).2.2
        split
        · apply (hvalidation _).trans (hisdu.trans hevent)
        · split
          · apply hkeeps.trans ((hvalidation _).trans (hisdu.trans hevent))
          · apply hkeeps.trans ((hvalidation _).trans (hisdu.trans hevent))
      · apply (hvalidation _).trans (hisdu.trans hevent)

/-- The cyclic exchange counts a cycle only when its frame has just gone out. -/
theorem processCyclic_cycleCount (hK : K.Lawful) (env : Env) {w : World}
    (hstate : w.port.state = .operate) :
  (processCyclic K env w).port.cycleCount = w.port.cycleCount ∨
    (processCyclic K env w).port.state = .operate ∧
      ∃ frame l, (processCyclic K env w).log = .sent .operate frame :: l
  := by
  have hcyclic : ∀ frame s,
      let r := sendFull env (w.putIsdu s) frame
      (if r.2 then r.1.put (countCycle r.1.port) else r.1).port.cycleCount = w.port.cycleCount ∨
        (if r.2 then r.1.put (countCycle r.1.port) else r.1).port.state = .operate ∧
          ∃ frame l, (if r.2 then r.1.put (countCycle r.1.port) else r.1).log
            = .sent .operate frame :: l := by
    intro frame s
    have hcases := sendFull_cases env (w.putIsdu s) frame
    revert hcases
    generalize sendFull env (w.putIsdu s) frame = r
    rintro (_ | _ | _)
    · left
      rfl
    · left
      rfl
    · right
      refine ⟨hstate, frame, w.log, ?_⟩
      simp [World.putIsdu, hstate]
  simp only [processCyclic]
  rw [if_neg]
  · apply hcyclic
  · apply cyclicFrame_ne_nil hK

/-- A cycle is counted only when the frame of OPERATE has just gone out. -/
theorem processAt_cycleCount (hK : K.Lawful) (env : Env) (w : World) (now : UInt32) (timed : Bool) :
  (processAt K env w now timed).port.cycleCount = w.port.cycleCount ∨
    (processAt K env w now timed).port.state = .operate ∧
      ∃ frame l, (processAt K env w now timed).log = .sent .operate frame :: l
  := by
  simp only [processAt]
  split
  · left
    rfl
  · split
    · left
      apply processStartup_cycleCount
    · left
      apply processPreoperate_cycleCount hK
    · next hstate =>
      simp only [processOperate]
      have hevent := sendEvent_cycleCount hK env w.openSlot
      have hisdu := sendIsdu_cycleCount (K := K) env (sendEvent K env w.openSlot).1
      obtain ⟨-, hevent'⟩ := sendEvent_path (fun _ => True) hK env (w := w.openSlot)
        (by rw [World.openSlot_port, hstate]; rfl) rfl rfl
      split
      · left
        apply hevent
      · next hnone =>
        obtain ⟨heq, hphase⟩ := hevent' (Bool.eq_false_iff.mpr hnone)
        rw [heq] at hisdu ⊢
        obtain ⟨-, hisdu'⟩ := sendIsdu_path (fun _ => True) hK env (w := w.openSlot)
          (by rw [World.openSlot_port, hstate]; rfl) rfl rfl hphase
        split
        · left
          apply hisdu
        · next hnone =>
          rw [(hisdu' (Bool.eq_false_iff.mpr hnone)).1]
          apply processCyclic_cycleCount hK env (w := w.openSlot) hstate
    · left
      rfl
    · left
      rfl

/-! ### Ticks -/

/-- The response timeout depends on the configuration and the rate only. -/
theorem responseTimeout100us_congr {p q : PortState} (hconfig : q.config = p.config)
    (hstartup : q.startup = p.startup) :
  responseTimeout100us q = responseTimeout100us p
  := by
  have hrate : startupBaudrate q = startupBaudrate p := by
    rw [startupBaudrate, startupBaudrate, hconfig, hstartup]
  rw [responseTimeout100us, responseTimeout100us, hrate, hconfig]

/-- The diagnostics after a cycle that has slipped, or not, and its jitter. -/
def Diagnostics.cycled (d : Diagnostics) (slipped : Bool) (jitter : UInt32) : Diagnostics :=
  let d := if slipped then { d with cycleSlips := d.cycleSlips + 1 } else d
  let d := { d with lastCycleJitter100us := jitter }
  if jitter > d.maxCycleJitter100us then { d with maxCycleJitter100us := jitter } else d

/-- What an executed cycle stores. -/
theorem armCycle_eq (p : PortState) (now : UInt32) :
  armCycle p now = { p with
    diagnostics := p.diagnostics.cycled (cycleSlippedAt p now) (cycleJitterAt p now)
    lastCycleStart100us := now
    responseDeadline100us := now + responseTimeout100us p
    cycleTimerValid := true
    awaitingResponse := true }
  := by
  rw [armCycle]
  dsimp only
  rw [responseTimeout100us_congr (p := p) rfl rfl]
  rfl

/-- Jitter statistics and cycle times decide nothing. -/
theorem similar_armCycle (p : PortState) (now : UInt32) :
  Similar
    { p with
      responseDeadline100us := (armCycle p now).responseDeadline100us
      awaitingResponse := true }
    (armCycle p now)
  := by
  simp only [armCycle]
  repeat' split
  all_goals exact ⟨id, rfl, rfl, rfl, rfl, rfl, rfl, rfl, rfl, rfl, rfl, rfl, rfl, rfl, rfl, rfl, rfl,
    rfl, rfl, rfl⟩

/-- A slot of a tick is a sequence of slot steps. -/
theorem processSlot_path (hK : K.Lawful) (env : Env) {w : World} (now : UInt32) (pace : Bool)
    (hready : ready w) :
  SlotPath K ready w (processSlot K env w now pace)
  := by
  have hslot : SlotPath K ready w _ := processAt_path hK env now pace hready
  simp only [processSlot]
  split
  · next harmed =>
    rcases processAt_cycleCount hK env w now pace with hsame | ⟨hstate, hsent⟩
    · rw [hsame] at harmed
      simp at harmed
    · have harm : SlotPath K ready w _ := hslot.tail
        (.arm (armCycle (processAt K env w now pace).port now).responseDeadline100us hstate
          hsent)
      apply harm.tune
      apply similar_armCycle
  · apply hslot

/-- A response timeout of a tick is a sequence of timeout steps. -/
theorem tickTimeout_path {due : World → Bool → Bool → Prop} (env : Env) (w : World)
    (now : UInt32) (pace : Bool)
    (hdue : ∀ v : World, v.port.awaitingResponse = w.port.awaitingResponse →
      v.port.responseDeadline100us = w.port.responseDeadline100us →
      due v (!pace || decide (now ≥ w.port.responseDeadline100us)) false) :
  TimeoutPath due w (tickTimeout env w now pace).1
  := by
  simp only [tickTimeout]
  split
  · apply (flushNoted_path w).timeout.trans
    apply ReflTransGen.head TimeoutStep.clearRx
    have hport := flushNoted_port w
    rw [flushRx_fst]
    generalize flushNoted w = v at hport
    obtain ⟨p, l⟩ := v
    obtain rfl : p = w.port := hport
    apply onTimeoutAt_path env ⟨{ w.port with rx := [] }, l⟩ false now pace (.inl rfl)
    rintro v hv b (rfl | rfl) <;> exact hdue v (by rw [hv]) (by rw [hv])
  · apply onTimeoutAt_path env w false now pace (.inl rfl)
    rintro v hv b (rfl | rfl) <;> exact hdue v (by rw [hv]) (by rw [hv])

/-- A tick polls, and then processes a timeout, or runs a slot while no reply is
outstanding, or ends. -/
theorem tickCommon_cases (K : Iolinki) (env : Env) (w : World) (event : TickEvent)
    (pace : Bool) (now : UInt32) :
  (tickCommon K env w event pace now).1 = (pollRx K env w).1 ∨
    (event = .responseTimeout ∧
      (pace = true → (pollRx K env w).1.port.awaitingResponse = true) ∧
      (tickCommon K env w event pace now).1 = (tickTimeout env (pollRx K env w).1 now pace).1) ∨
    (event = .cycleDue ∧ (pollRx K env w).1.port.awaitingResponse = false ∧
      (tickCommon K env w event pace now).1 = processSlot K env (pollRx K env w).1 now pace)
  := by
  simp only [tickCommon]
  split
  · left
    rfl
  · split
    · left
      rfl
    · split
      · left
        rfl
      · next hawaiting =>
        right
        left
        refine ⟨rfl, ?_, rfl⟩
        rintro rfl
        simpa using hawaiting
    · split
      · left
        rfl
      · next hawaiting =>
        split
        · left
          rfl
        · right
          right
          exact ⟨rfl, Bool.eq_false_iff.mpr hawaiting, rfl⟩

end IolinkMaster
