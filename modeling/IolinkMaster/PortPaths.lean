import IolinkMaster.Conclusion
import IolinkMaster.Establish
import IolinkMaster.Reconnection

/-!
# What a call does to the acyclic services

Every call but an initialization as a sequence of port steps.  A port step tells what becomes of
the state of the port, of its ISDU transport and of its parameter block; the service calls an
application makes, and the check of the device information in PREOPERATE, are steps of their own.
-/

namespace IolinkMaster

open Relation

/-! ### Port steps -/

/-- A frame writes on the ISDU channel. -/
def isRequestFrame (frame : List UInt8) : Bool := (isduAccess frame).any fun access => !access.1

/-- The PHY puts the frames that write on the ISDU channel on the wire in full. -/
structure Env.TransmitsRequests (env : Env) : Prop where
  prepareTx : env.prepareTx = STATUS_OK
  prepareRx : env.prepareRx = STATUS_OK
  send : ∀ frame, isRequestFrame frame = true → env.send frame = frame.length

/-- An observation that tells nothing of ISDU services and of the state of the port. -/
def Obs.aloof : Obs → Bool
  | .enter _ | .view _ | .slot | .comlost _ _ _ _ _ | .isduDone _ _ | .isduLeft _
  | .isduStart _ _ _ _ _ | .wrote _ _ _ _ | .page _ | .returned _ _ => false
  | .sent _ frame => !isRequestFrame frame
  | _ => true

/-- The ports `p` and `q` serve alike; the cycle time a device declares in its answer to the test
message may differ. -/
structure SameServices (p q : PortState) : Prop where
  config : q.config = p.config
  state : q.state = p.state
  odLen : q.odLen = p.odLen
  isdu : q.isdu = p.isdu
  block : q.block = p.block
  deviceInfo : ∃ time, q.deviceInfo = { p.deviceInfo with minCycleTime := time }

/-- A slot of PREOPERATE is open, and no acyclic service has anything to send. -/
structure Unclaimed (w : World) : Prop where
  state : w.port.state = .preoperate
  event : w.port.event.phase = .none
  isdu : isduNext w.port.isdu w.port.odLen = none
  opened : ∃ l, w.log = .slot :: .view w.port :: l

/-- The steps of a port in the environment `env` whose application makes the calls `allowed`. -/
inductive PortStep (K : Iolinki) (env : Env) (allowed : Service → Prop) (w : World) :
    World → Prop where
  | put {p : PortState} (h : SameServices w.port p) : PortStep K env allowed w (w.put p)
  | emit {o : Obs} (ho : o.aloof = true) : PortStep K env allowed w (w.emit o)
  /-- A cyclic frame goes out. -/
  | cycle (frame : List UInt8) (h : w.port.isdu.RestsWhenDone → isRequestFrame frame = false) :
      PortStep K env allowed w (w.emit (.sent w.port.state frame))
  /-- A transmission slot opens. -/
  | slot : PortStep K env allowed w w.openSlot
  /-- The next state of the connection is entered. -/
  | connect (st : MasterState)
      (hstate : w.port.state = .startup ∧ st = .preoperate ∨
        w.port.state = .preoperate ∧ st = .operate) :
      PortStep K env allowed w (w.enter st)
  /-- Communication is given up. -/
  | lost : PortStep K env allowed w ((w.emit (comlostObs w.port)).enter .startup)
  /-- The error state is latched because of the PHY. -/
  | fail (henv : ¬ env.Succeeds) : PortStep K env allowed w (w.enter .error)
  /-- The receive buffer is full. -/
  | overflow (hfull : FRAME_BUF_SIZE ≤ w.port.rx.length) : PortStep K env allowed w (rxFailed w)
  /-- A slot no service claims is left to the check of the device information. -/
  | validate (h : Unclaimed w) : PortStep K env allowed w (processValidation w).1
  /-- A frame of the ISDU channel goes out. -/
  | send {f : IsduFrame} {s : IsduState} (h : isduNext w.port.isdu w.port.odLen = some (f, s)) :
      PortStep K env allowed w
        ⟨{ w.port with isdu := s }, .sent w.port.state (f.octets K w.port) :: w.log⟩
  /-- The transmission of a frame of the ISDU channel fails. -/
  | sendFailed (sent : Bool) {f : IsduFrame} {s : IsduState} (henv : ¬ env.Succeeds)
      (hlost : isRequestFrame (f.octets K w.port) = true → ¬ env.TransmitsRequests)
      (h : isduNext w.port.isdu w.port.odLen = some (f, s)) :
      PortStep K env allowed w
        ⟨{ w.port with isdu := s, state := .error },
          .enter .error ::
            (if sent then [.sent w.port.state (f.octets K w.port)] else []) ++ w.log⟩
  /-- The on-request data of a cyclic frame is filled in. -/
  | fill (n : Nat) (h : isduNext w.port.isdu w.port.odLen = none) :
      PortStep K env allowed w (w.putIsdu (isduFillOd w.port.isdu n).2)
  /-- On-request data is handed to the ISDU transport. -/
  | hear (od : List UInt8) :
      PortStep K env allowed w
        ⟨{ w.port with isdu := isduOnOd w.port.isdu od }, isduObserved w.port.isdu od ++ w.log⟩
  /-- The application makes a call. -/
  | call (call : Service) (h : allowed call) : PortStep K env allowed w (runService w call)

/-- A sequence of port steps. -/
abbrev PortPath (K : Iolinki) (env : Env) (allowed : Service → Prop) : World → World → Prop :=
  ReflTransGen (PortStep K env allowed)

/-- Port steps only add observations. -/
theorem extends_portStep {K : Iolinki} {env : Env} {allowed : Service → Prop} :
  Trace.Extends World.log (PortStep K env allowed)
  := by
  intro w v hstep
  cases hstep with
  | put | fill => apply List.suffix_refl
  | emit | cycle | connect | fail | overflow | send => apply List.suffix_cons
  | slot | lost => exact ⟨[_, _], rfl⟩
  | validate => exact extends_control.path (processValidation_path w).1
  | sendFailed sent => exact ⟨_, rfl⟩
  | hear od => apply List.suffix_append
  | call call => exact extends_control.path (runService_path w call).control

section

variable {K : Iolinki} {env : Env} {allowed : Service → Prop} {u w v : World}

namespace PortPath

/-- A change of what services do not look at. -/
theorem put (h : PortPath K env allowed u w) {p : PortState} (hconfig : p.config = w.port.config)
    (hstate : p.state = w.port.state) (hodLen : p.odLen = w.port.odLen)
    (hisdu : p.isdu = w.port.isdu) (hblock : p.block = w.port.block)
    (hinfo : p.deviceInfo = w.port.deviceInfo) :
  PortPath K env allowed u (w.put p)
  := h.tail (.put ⟨hconfig, hstate, hodLen, hisdu, hblock, _, hinfo⟩)

/-- An observation that tells nothing of services. -/
theorem emit (h : PortPath K env allowed u w) {o : Obs} (ho : o.aloof = true) :
  PortPath K env allowed u (w.emit o)
  := h.tail (.emit ho)

/-- A hook that fails latches the error state. -/
theorem fail (h : PortPath K env allowed u w) (henv : ¬ env.Succeeds) :
  PortPath K env allowed u (w.enter .error)
  := h.tail (.fail henv)

/-! ### The physical layer -/

/-- Setting the line mode. -/
theorem setMode (h : PortPath K env allowed u w) (mode : PhyMode) :
  PortPath K env allowed u (IolinkMaster.setMode env w mode).1
  := h.emit rfl

/-- Setting the rate. -/
theorem setBaudrate (h : PortPath K env allowed u w) (rate : Baudrate) :
  PortPath K env allowed u (IolinkMaster.setBaudrate env w rate).1
  := h.emit rfl

/-- Flushing the receive path. -/
theorem flushRx (h : PortPath K env allowed u w) :
  PortPath K env allowed u (IolinkMaster.flushRx env w).1
  := by
  have hdropped : PortPath K env allowed u (w.put { w.port with rx := [] }) := by
    apply h.put <;> rfl
  simp only [IolinkMaster.flushRx]
  split
  · apply hdropped.emit rfl
  · apply hdropped

/-- A transmission that fails. -/
theorem sendFailed (h : PortPath K env allowed u w) (henv : ¬ env.Succeeds) :
  PortPath K env allowed u (IolinkMaster.sendFailed w)
  := by
  apply PortPath.fail _ henv
  apply h.put <;> rfl

/-- The transmission of a frame whose octets on the wire are a step. -/
theorem sendFull (h : PortPath K env allowed u w) {frame : List UInt8}
    (hsent : PortPath K env allowed u (w.emit (.sent w.port.state frame))) :
  PortPath K env allowed u (IolinkMaster.sendFull env w frame).1
  := by
  simp only [IolinkMaster.sendFull]
  split
  · next hprepare =>
    apply h.sendFailed
    intro henv
    simp [henv.prepareTx] at hprepare
  · split
    · next hprepare =>
      apply hsent.sendFailed
      intro henv
      simp [henv.prepareRx] at hprepare
    · split
      · apply hsent.put <;> rfl
      · next hlength =>
        apply hsent.sendFailed
        intro henv
        apply hlength (henv.send frame)

/-- The transmission of a frame that writes nothing on the ISDU channel. -/
theorem sendOther (h : PortPath K env allowed u w) {frame : List UInt8}
    (hframe : isRequestFrame frame = false) :
  PortPath K env allowed u (IolinkMaster.sendFull env w frame).1
  := by
  apply h.sendFull
  apply h.emit
  simp [Obs.aloof, hframe]

/-- A wake-up request. -/
theorem wakeUp (h : PortPath K env allowed u w) :
  PortPath K env allowed u (IolinkMaster.wakeUp env w).1
  := by
  have hwoken : PortPath K env allowed u (w.emit .wakeUp) := h.emit rfl
  simp only [IolinkMaster.wakeUp]
  split
  · apply h.sendOther
    decide
  · split
    · apply hwoken
    · next hfailed =>
      apply hwoken.sendFailed
      intro henv
      apply hfailed henv.wakeUp

/-- Arming the startup gate. -/
theorem armSendGate (h : PortPath K env allowed u w) (now delay : UInt32) (timed : Bool) :
  PortPath K env allowed u (w.put (IolinkMaster.armSendGate w.port now delay timed))
  := by
  simp only [IolinkMaster.armSendGate]
  split
  · apply h.put <;> rfl
  · apply h

/-- A step of the startup sequence. -/
theorem setStep (h : PortPath K env allowed u w) (step : StartupStep) :
  PortPath K env allowed u (w.setStep step)
  := by
  apply h.put <;> rfl

/-! ### Slots -/

/-- Replacing the event state. -/
theorem putEvent (h : PortPath K env allowed u w) (e : EventState) :
  PortPath K env allowed u (w.putEvent e)
  := by
  apply h.put <;> rfl

/-- A frame with the Master Command of another channel. -/
theorem not_request {frame : List UInt8} {read : Bool} {channel : McChannel} {address : UInt8}
    (hframe : frame.getD 0 0 = encodeMasterCommand read channel address) (hne : channel ≠ .isdu) :
  isRequestFrame frame = false
  := by
  rw [isRequestFrame, isduAccess_other]
  · rfl
  · rw [hframe, mcChannel_encode]
    apply hne

/-- A frame of the diagnosis channel, if there is one. -/
theorem sendEvent (hK : K.Lawful) (h : PortPath K env allowed u w) :
  PortPath K env allowed u (IolinkMaster.sendEvent K env w).1
  := by
  have hput : ∀ (v : World) (c : Prop) [Decidable c] (e : EventState), PortPath K env allowed u v →
      PortPath K env allowed u (if c then v.putEvent e else v) := by
    intro v c _ e hv
    split
    · apply hv.putEvent
    · apply hv
  simp only [IolinkMaster.sendEvent]
  split
  · apply h
  · apply hput
    apply hput
    split
    · apply h
    · apply h.sendOther
      apply not_request (eventFrame_command hK _ _ _)
      decide

/-- A call of `send_event` that sends nothing finds no readout. -/
theorem sendEvent_unsent (hK : K.Lawful) (h : (IolinkMaster.sendEvent K env w).2 = false) :
  (IolinkMaster.sendEvent K env w).1 = w ∧ w.port.event.phase = .none
  := by
  revert h
  simp only [IolinkMaster.sendEvent]
  split
  · next haccess =>
    intro _
    refine ⟨rfl, ?_⟩
    cases hphase : w.port.event.phase with
    | none => rfl
    | read | write => simp [eventChannelAccess, hphase] at haccess
  · intro hnil
    exact absurd hnil (by simp [eventFrame_ne_nil hK])

/-- A frame of the ISDU channel, or the knowledge that none is due. -/
theorem sendIsdu (hK : K.Lawful) (h : PortPath K env allowed u w) :
  PortPath K env allowed u (IolinkMaster.sendIsdu K env w).1 ∧
    ((IolinkMaster.sendIsdu K env w).2 = false →
      (IolinkMaster.sendIsdu K env w).1 = w ∧ isduNext w.port.isdu w.port.odLen = none)
  := by
  rw [sendIsdu_eq]
  cases hnext : isduNext w.port.isdu w.port.odLen with
  | none => exact ⟨h, fun _ => ⟨rfl, rfl⟩⟩
  | some next =>
      obtain ⟨f, s⟩ := next
      obtain ⟨rest, hhead⟩ := IsduFrame.octets_head hK w.port f
      have hframe : f.octets K w.port ≠ [] := by
        rw [hhead]
        apply List.cons_ne_nil
      have hfailed : ∀ sent : Bool, ¬ env.Succeeds →
          (isRequestFrame (f.octets K w.port) = true → ¬ env.TransmitsRequests) →
          PortPath K env allowed u (IolinkMaster.sendFailed
            (if sent then (w.putIsdu s).emit (.sent w.port.state (f.octets K w.port))
              else w.putIsdu s)) := by
        intro sent henv hlost
        have hbroken : PortPath K env allowed u _ := h.tail (.sendFailed sent henv hlost hnext)
        cases sent with
        | true => exact hbroken.put rfl rfl rfl rfl rfl rfl
        | false => exact hbroken.put rfl rfl rfl rfl rfl rfl
      have hsent : PortPath K env allowed u _ := h.tail (.send hnext)
      simp only [sendFrame, hframe, if_false]
      refine ⟨?_, fun hunsent => Bool.noConfusion hunsent⟩
      simp only [IolinkMaster.sendFull]
      split
      · next hprepare =>
        apply hfailed false
        · intro henv
          simp [henv.prepareTx] at hprepare
        · intro _ henv
          simp [henv.prepareTx] at hprepare
      · split
        · next hprepare =>
          apply hfailed true
          · intro henv
            simp [henv.prepareRx] at hprepare
          · intro _ henv
            simp [henv.prepareRx] at hprepare
        · split
          · apply hsent.put <;> rfl
          · next hlength =>
            apply hfailed true
            · intro henv
              apply hlength (henv.send _)
            · intro hrequest henv
              apply hlength (henv.send _ hrequest)

/-- The wake-up of a slot in STARTUP. -/
theorem processWake (h : PortPath K env allowed u w) (now : UInt32) (timed : Bool) :
  PortPath K env allowed u (IolinkMaster.processWake env w now timed)
  := by
  simp only [IolinkMaster.processWake]
  split
  · apply (h.wakeUp.setStep _).armSendGate
  · apply h.wakeUp

/-- The test message of a slot in STARTUP. -/
theorem processTest (hK : K.Lawful) (h : PortPath K env allowed u w) (now : UInt32)
    (timed : Bool) :
  PortPath K env allowed u (IolinkMaster.processTest K env w now timed)
  := by
  have hsent : PortPath K env allowed u (IolinkMaster.sendFull env w (testMessage K)).1 := by
    apply h.sendOther
    rw [isRequestFrame, isduAccess_startup hK (.inr rfl)]
    rfl
  simp only [IolinkMaster.processTest]
  split
  · apply h
  · split
    · split
      · apply (hsent.setStep _).put <;> rfl
      · apply hsent.setStep
    · apply hsent

/-- A slot in STARTUP. -/
theorem processStartup (hK : K.Lawful) (h : PortPath K env allowed u w) (now : UInt32)
    (timed : Bool) :
  PortPath K env allowed u (IolinkMaster.processStartup K env w now timed)
  := by
  simp only [IolinkMaster.processStartup]
  split
  · split
    · next hmode =>
      apply (h.setMode _).fail
      intro henv
      apply hmode
      rw [setMode_succeeds henv]
    · apply ((h.setMode _).setStep _).processWake
  · apply h.processWake
  · apply h.processTest hK
  · apply h
  · apply h

/-- The write of DeviceOperate. -/
theorem processDeviceOperate (hK : K.Lawful) (h : PortPath K env allowed u w) :
  PortPath K env allowed u (IolinkMaster.processDeviceOperate K env w)
  := by
  have hsent : PortPath K env allowed u
      (IolinkMaster.sendFull env w (deviceOperateMessage K)).1 := by
    apply h.sendOther
    apply not_request (deviceOperateMessage_command hK)
    decide
  simp only [IolinkMaster.processDeviceOperate]
  split
  · apply h
  · split
    · apply hsent.setStep
    · apply hsent

/-- The opening of a slot. -/
theorem openSlot (h : PortPath K env allowed u w) :
  PortPath K env allowed u w.openSlot
  := h.tail .slot

/-- A slot of PREOPERATE: what no service claims is left to the check of the device
information. -/
theorem processPreoperate (hK : K.Lawful) (h : PortPath K env allowed u w)
    (hstate : w.port.state = .preoperate) :
  PortPath K env allowed u (IolinkMaster.processPreoperate K env w.openSlot)
  := by
  simp only [IolinkMaster.processPreoperate]
  split
  · apply h.openSlot.sendEvent hK
  · next hevent =>
    obtain ⟨hsame, hphase⟩ := sendEvent_unsent hK (Bool.eq_false_iff.mpr hevent)
    rw [hsame]
    obtain ⟨hpath, hunsent⟩ := h.openSlot.sendIsdu hK
    split
    · apply hpath
    · next hisdu =>
      obtain ⟨hsame', hnext⟩ := hunsent (Bool.eq_false_iff.mpr hisdu)
      rw [hsame']
      have hvalidated : PortPath K env allowed u (processValidation w.openSlot).1 :=
        h.openSlot.tail (.validate ⟨hstate, hphase, hnext, w.log, rfl⟩)
      split
      · apply hvalidated.processDeviceOperate hK
      · apply hvalidated

/-- The on-request data of a cyclic frame is that of no service. -/
theorem processCyclic (hK : K.Lawful) (h : PortPath K env allowed u w)
    (hnext : isduNext w.port.isdu w.port.odLen = none) :
  PortPath K env allowed u (IolinkMaster.processCyclic K env w)
  := by
  have hsent : ∀ n frame, (w.port.isdu.RestsWhenDone → isRequestFrame frame = false) →
      PortPath K env allowed u
        (if frame = [] then w.putIsdu (isduFillOd w.port.isdu n).2
          else
            let r := IolinkMaster.sendFull env (w.putIsdu (isduFillOd w.port.isdu n).2) frame
            if r.2 then r.1.put (countCycle r.1.port) else r.1) := by
    intro n frame hframe
    have hfilled : PortPath K env allowed u (w.putIsdu (isduFillOd w.port.isdu n).2) :=
      h.tail (.fill n hnext)
    have hfull : PortPath K env allowed u
        (IolinkMaster.sendFull env (w.putIsdu (isduFillOd w.port.isdu n).2) frame).1 := by
      apply hfilled.sendFull
      apply hfilled.tail
      apply PortStep.cycle
      -- What rests after filling rested before.
      intro hrests
      have hbefore : w.port.isdu.RestsWhenDone := by
        obtain ⟨pos, phase, flowctrl, hphase, hfill⟩ := isduFillOd_moves w.port.isdu n
        intro hdone
        have hnone : (isduFillOd w.port.isdu n).2.phase = .none := by
          apply hrests
          change (isduFillOd w.port.isdu n).2.done = true
          rw [hfill]
          apply hdone
        rw [hfill] at hnone
        rcases hphase with hsame | ⟨-, hwait⟩
        · rw [← hsame]
          apply hnone
        · rw [hwait] at hnone
          contradiction
      apply hframe hbefore
    split
    · apply hfilled
    · dsimp only
      split
      · apply hfull.put <;> rfl
      · apply hfull
  simp only [IolinkMaster.processCyclic]
  split
  · apply hsent
    intro hrests
    have hcommand : (type0CyclicFrame K (isduFillOd w.port.isdu 1).1).getD 0 0
        = encodeMasterCommand false .process 0 := by
      rw [type0CyclicFrame_command hK, isduFillOd_idle hrests hnext]
      rfl
    apply not_request hcommand
    decide
  · apply hsent
    intro _
    have hcommand : (cyclicFrame K (w.putIsdu (isduFillOd w.port.isdu w.port.odLen).2).port
        (isduFillOd w.port.isdu w.port.odLen).1).getD 0 0 = encodeMasterCommand false .process 0 :=
      rfl
    apply not_request hcommand
    decide

/-- A slot in OPERATE. -/
theorem processOperate (hK : K.Lawful) (h : PortPath K env allowed u w) :
  PortPath K env allowed u (IolinkMaster.processOperate K env w)
  := by
  have hevent := h.sendEvent hK
  obtain ⟨hpath, hunsent⟩ := hevent.sendIsdu hK
  simp only [IolinkMaster.processOperate]
  split
  · apply hevent
  · split
    · apply hpath
    · next hisdu =>
      obtain ⟨hsame, hnext⟩ := hunsent (Bool.eq_false_iff.mpr hisdu)
      rw [hsame]
      apply hevent.processCyclic hK hnext

/-- A slot in any state. -/
theorem processAt (hK : K.Lawful) (h : PortPath K env allowed u w) (now : UInt32)
    (timed : Bool) :
  PortPath K env allowed u (IolinkMaster.processAt K env w now timed)
  := by
  simp only [IolinkMaster.processAt]
  split
  · apply h
  · split
    · apply h.processStartup hK
    · next hstate => apply h.processPreoperate hK hstate
    · apply h.openSlot.processOperate hK
    · apply h
    · apply h

/-- A slot, and the deadline of its cycle. -/
theorem processSlot (hK : K.Lawful) (h : PortPath K env allowed u w) (now : UInt32)
    (pace : Bool) :
  PortPath K env allowed u (IolinkMaster.processSlot K env w now pace)
  := by
  have hslot : PortPath K env allowed u (IolinkMaster.processAt K env w now pace) :=
    h.processAt hK now pace
  simp only [IolinkMaster.processSlot]
  split
  · apply PortPath.emit _ rfl
    rw [armCycle_eq]
    apply hslot.put <;> rfl
  · apply hslot

/-! ### Timeouts and lost communication -/

/-- A hook that fails. -/
theorem not_succeeds {r : World × Int} {v : World} (h : r.2 ≠ STATUS_OK)
    (hr : env.Succeeds → r = (v, STATUS_OK)) :
  ¬ env.Succeeds
  := by
  intro henv
  apply h
  rw [hr henv]

/-- The rate scan starts again, and does not fail if no hook does. -/
theorem resetRateScan (h : PortPath K env allowed u w) :
  PortPath K env allowed u (IolinkMaster.resetRateScan env w).1 ∧
    (env.Succeeds → (IolinkMaster.resetRateScan env w).2 = STATUS_OK)
  := by
  simp only [IolinkMaster.resetRateScan]
  split
  · exact ⟨h, fun _ => rfl⟩
  · refine ⟨?_, ?_⟩
    · apply PortPath.setBaudrate
      apply h.put <;> rfl
    · intro henv
      rw [setBaudrate_succeeds henv]

/-- Communication is lost and established again. -/
theorem restartEstablish (h : PortPath K env allowed u w) (now : UInt32) (timed : Bool) :
  PortPath K env allowed u (IolinkMaster.restartEstablish env w now timed).1
  := by
  have hlost : PortPath K env allowed u ((w.emit (comlostObs w.port)).enter .startup) :=
    h.tail .lost
  have hwake : PortPath K env allowed u (((w.emit (comlostObs w.port)).enter .startup).put
      { ((w.emit (comlostObs w.port)).enter .startup).port with
        startup := { w.port.startup with step := .wake, wakeAttempts := 0 }
        diagnostics := { w.port.diagnostics with rxRetryCount := 0 }
        awaitingResponse := false }) := by
    apply hlost.put <;> rfl
  have hscan : ∀ v : World, PortPath K env allowed u v →
      PortPath K env allowed u (IolinkMaster.resetRateScan env v).1 ∧
        (env.Succeeds → (IolinkMaster.resetRateScan env v).2 = STATUS_OK) :=
    fun v hv => hv.resetRateScan
  simp only [IolinkMaster.restartEstablish]
  obtain ⟨hpath, hreset⟩ := hscan _ hwake
  split
  · next hfailed =>
    apply hpath.fail
    intro henv
    apply hfailed (hreset henv)
  · apply hpath.armSendGate

/-- A test message without a valid answer. -/
theorem establishAttemptFailed (h : PortPath K env allowed u w) (now : UInt32) (timed : Bool) :
  PortPath K env allowed u (IolinkMaster.establishAttemptFailed env w now timed).1
  := by
  have hover : PortPath K env allowed u (w.put { w.port with awaitingResponse := false }) := by
    apply h.put <;> rfl
  have hexhausted : ∀ v : World, PortPath K env allowed u v →
      PortPath K env allowed u (v.put { v.port with
        startup := { v.port.startup with wakeAttempts := 0 }
        diagnostics :=
          { v.port.diagnostics with
            establishFailures := v.port.diagnostics.establishFailures + 1 } }) := by
    intro v hv
    apply hv.put <;> rfl
  have hcounted : PortPath K env allowed u
      ((w.put { w.port with awaitingResponse := false }).put
        { w.port with
          awaitingResponse := false
          startup := { w.port.startup with wakeAttempts := w.port.startup.wakeAttempts + 1 } }) := by
    apply hover.put <;> rfl
  simp only [IolinkMaster.establishAttemptFailed]
  split
  · have hrate : ∀ v : World, PortPath K env allowed u v →
        PortPath K env allowed u (IolinkMaster.setBaudrate env v (startupBaudrate v.port)).1 :=
      fun v hv => hv.setBaudrate _
    split
    · next hfailed =>
      apply PortPath.fail
      · apply hrate
        apply hover.put <;> rfl
      · apply not_succeeds hfailed
        intro henv
        apply setBaudrate_succeeds henv
    · apply PortPath.armSendGate
      apply PortPath.setStep
      apply hrate
      apply hover.put <;> rfl
  · obtain ⟨hscanned, hreset⟩ := hcounted.resetRateScan
    split
    · next hfailed =>
      apply hscanned.fail
      intro henv
      apply hfailed (hreset henv)
    · split
      · apply (hscanned.setStep _).armSendGate
      · split
        · next hfailed =>
          apply PortPath.fail
          · apply PortPath.setMode
            apply hexhausted _ hscanned
          · apply not_succeeds hfailed
            intro henv
            apply setMode_succeeds henv
        · apply PortPath.armSendGate
          apply PortPath.setStep
          apply PortPath.setMode
          apply hexhausted _ hscanned

/-- A failed M-sequence of OPERATE. -/
theorem operateTimeout (h : PortPath K env allowed u w) (now : UInt32) (timed : Bool) :
  PortPath K env allowed u (IolinkMaster.operateTimeout env w now timed).1
  := by
  simp only [IolinkMaster.operateTimeout]
  split
  · apply h.put <;> rfl
  · apply PortPath.restartEstablish
    apply h.put <;> rfl

/-- A response timeout. -/
theorem onTimeoutAt (h : PortPath K env allowed u w) (now : UInt32) (timed : Bool) :
  PortPath K env allowed u (IolinkMaster.onTimeoutAt env w now timed).1
  := by
  have hnoted : ∀ due, PortPath K env allowed u ((IolinkMaster.flushRx env w).1.emit
      (.timeout (IolinkMaster.flushRx env w).1.port.state due)) := fun _ => h.flushRx.emit rfl
  simp only [IolinkMaster.onTimeoutAt]
  split
  · next hfailed =>
    apply (hnoted _).fail
    intro henv
    obtain ⟨os, -, hflush⟩ := flushRx_succeeds henv w
    apply hfailed
    rw [hflush]
  · split
    · split
      · apply hnoted
      · apply (hnoted _).establishAttemptFailed
    · apply (hnoted _).operateTimeout
    · apply hnoted
    · apply hnoted
    · apply hnoted

/-- The response timeout of a tick. -/
theorem tickTimeout (h : PortPath K env allowed u w) (now : UInt32) (pace : Bool) :
  PortPath K env allowed u (IolinkMaster.tickTimeout env w now pace).1
  := by
  simp only [IolinkMaster.tickTimeout]
  apply PortPath.onTimeoutAt
  split
  · apply h.flushRx.put <;> rfl
  · apply h.put <;> rfl

/-! ### Replies -/

/-- On-request data on their way to a service. -/
theorem routeOd (h : PortPath K env allowed u w) (od : List UInt8) :
  PortPath K env allowed u (IolinkMaster.routeOd w od)
  := by
  rcases routeOd_cases w od with ⟨-, -, heq⟩ | ⟨-, heq⟩ | ⟨-, heq⟩
  · rw [heq]
    have hheard : PortPath K env allowed u (w.emit (.eventOd od)) := h.emit rfl
    apply hheard.putEvent
  · rw [heq]
    apply h.emit rfl
  · rw [heq]
    apply h.tail (.hear od)

/-- A reply of the wrong length. -/
theorem replyUnframed (h : PortPath K env allowed u w) (data : List UInt8) :
  PortPath K env allowed u (IolinkMaster.replyUnframed w data).1
  := h.emit rfl

/-- A reply with a bad checksum. -/
theorem replyRejected (h : PortPath K env allowed u w) (data : List UInt8) :
  PortPath K env allowed u (IolinkMaster.replyRejected env w data).1
  := by
  have hnoted : PortPath K env allowed u (w.emit (.reject w.port.state data)) := h.emit rfl
  have hcounted : PortPath K env allowed u
      (countChecksumError (w.emit (.reject w.port.state data))) := by
    apply hnoted.put <;> rfl
  simp only [IolinkMaster.replyRejected]
  split
  · apply hcounted.put <;> rfl
  · apply hcounted.restartEstablish

/-- A reply that is accepted. -/
theorem replyAccepted (h : PortPath K env allowed u w) (data : List UInt8)
    (od : Option (List UInt8)) :
  PortPath K env allowed u (IolinkMaster.replyAccepted w data od)
  := by
  have hnoted : PortPath K env allowed u (w.emit (.accept w.port.state data od)) := h.emit rfl
  apply hnoted.put <;> rfl

/-- The answer to a test message. -/
theorem onRxStartup (h : PortPath K env allowed u w) (data : List UInt8)
    (hstate : w.port.state = .startup) :
  PortPath K env allowed u (IolinkMaster.onRxStartup K w data).1
  := by
  have hnoted : PortPath K env allowed u (w.emit (.reject w.port.state data)) := h.emit rfl
  have haccepted := h.replyAccepted data none
  simp only [IolinkMaster.onRxStartup]
  split
  · apply h.replyUnframed
  · split
    · apply h.replyUnframed
    · split
      · apply hnoted.put <;> rfl
      · have hanswered : PortPath K env allowed u
            ((IolinkMaster.replyAccepted w data none).put
              { (IolinkMaster.replyAccepted w data none).port with
                startup := { w.port.startup with wakeAttempts := 0 }
                deviceInfo := { w.port.deviceInfo with minCycleTime := data.getD 0 0 } }) :=
          haccepted.tail (.put ⟨rfl, rfl, rfl, rfl, rfl, _, rfl⟩)
        exact hanswered.tail (.connect .preoperate (.inl ⟨hstate, rfl⟩))

/-- The acknowledge of DeviceOperate. -/
theorem onRxOperateAck (h : PortPath K env allowed u w) (data : List UInt8)
    (hstate : w.port.state = .preoperate) :
  PortPath K env allowed u (IolinkMaster.onRxOperateAck K env w data).1
  := by
  simp only [IolinkMaster.onRxOperateAck]
  split
  · apply h.replyUnframed
  · split
    · apply h.replyRejected
    · have hacknowledged : PortPath K env allowed u
          ((IolinkMaster.replyAccepted w data none).put
            { (IolinkMaster.replyAccepted w data none).port with
              diagnostics :=
                { (IolinkMaster.replyAccepted w data none).port.diagnostics with
                  eventPending := data.getD 0 0 &&& 0x80 != 0 } }) := by
        apply (h.replyAccepted data none).put <;> rfl
      exact hacknowledged.tail (.connect .operate (.inr ⟨hstate, rfl⟩))

/-- A TYPE_0 reply. -/
theorem onRxType0 (h : PortPath K env allowed u w) (data : List UInt8) :
  PortPath K env allowed u (IolinkMaster.onRxType0 K env w data).1
  := by
  simp only [IolinkMaster.onRxType0]
  split
  · apply h.replyUnframed
  · split
    · apply h.replyRejected
    · apply (h.replyAccepted _ _).routeOd

/-- The calls of a handler. -/
theorem runServices (h : PortPath K env allowed u w) (calls : List Service)
    (hcalls : ∀ call ∈ calls, allowed call) :
  PortPath K env allowed u (calls.foldl runService w)
  := by
  induction calls generalizing w with
  | nil => apply h
  | cons call calls ih =>
      rw [List.forall_mem_cons] at hcalls
      apply ih (h.tail (.call call hcalls.1)) hcalls.2

/-- The Event flag of a reply and the calls of its handler. -/
theorem notifyEventPending (h : PortPath K env allowed u w) (raised : Bool)
    (handler : List Service) (hhandler : ∀ call ∈ handler, allowed call) :
  PortPath K env allowed u (IolinkMaster.notifyEventPending w raised handler)
  := by
  have hstored : ∀ v : World, PortPath K env allowed u v → PortPath K env allowed u
      (v.put { v.port with
        diagnostics := { v.port.diagnostics with eventPending := raised } }) := by
    intro v hv
    apply hv.put <;> rfl
  simp only [IolinkMaster.notifyEventPending]
  apply hstored
  split
  · have hnotified : PortPath K env allowed u (w.emit .eventPending) := h.emit rfl
    apply hnotified.runServices handler hhandler
  · apply h

/-- A reply of OPERATE. -/
theorem onRxOperate (h : PortPath K env allowed u w) (data : List UInt8) (handler : List Service)
    (hhandler : ∀ call ∈ handler, allowed call) :
  PortPath K env allowed u (IolinkMaster.onRxOperate K env w data handler).1
  := by
  simp only [IolinkMaster.onRxOperate]
  split
  · apply h.replyUnframed
  · next r hsome =>
    split
    · apply h.replyRejected
    · apply PortPath.routeOd
      rw [put_takePdIn]
      apply PortPath.put
      · apply PortPath.notifyEventPending _ _ _ hhandler
        apply (h.replyAccepted data (some r.od)).put <;> rfl
      all_goals rfl

/-- Any reply. -/
theorem onRx (h : PortPath K env allowed u w) (data : List UInt8) (handler : List Service)
    (hhandler : ∀ call ∈ handler, allowed call) :
  PortPath K env allowed u (IolinkMaster.onRx K env w data handler).1
  := by
  simp only [IolinkMaster.onRx]
  split
  · apply h
  · split
    · next hstate => apply h.onRxStartup data hstate
    · split
      · next hstate =>
        split
        · apply h.onRxOperateAck data hstate
        · apply h.onRxType0
      · split
        · apply h.onRxType0
        · apply h.onRxOperate data handler hhandler

/-! ### Calls -/

/-- Octets are taken from the PHY. -/
theorem pollLoop (h : PortPath K env allowed u w) (expected frames : Nat)
    (octets : List (UInt8 × List Service))
    (hhandlers : ∀ call ∈ octets.flatMap Prod.snd, allowed call) :
  PortPath K env allowed u (IolinkMaster.pollLoop K env expected w frames octets).1
  := by
  induction octets generalizing w frames with
  | nil =>
      simp only [IolinkMaster.pollLoop]
      split
      · next hfails =>
        have hdropped : PortPath K env allowed u (w.put { w.port with rx := [] }) := by
          apply h.put <;> rfl
        apply hdropped.fail
        intro henv
        rw [henv.recvFails] at hfails
        contradiction
      · apply h
  | cons octet octets ih =>
      obtain ⟨byte, handler⟩ := octet
      rw [List.flatMap_cons] at hhandlers
      have hhandler : ∀ call ∈ handler, allowed call :=
        fun call hcall => hhandlers call (List.mem_append_left _ hcall)
      have hrest : ∀ call ∈ octets.flatMap Prod.snd, allowed call :=
        fun call hcall => hhandlers call (List.mem_append_right _ hcall)
      have hrecv : PortPath K env allowed u (w.emit (.recv byte)) := h.emit rfl
      have hbuffered : PortPath K env allowed u
          ((w.emit (.recv byte)).put { w.port with rx := w.port.rx ++ [byte] }) := by
        apply hrecv.put <;> rfl
      simp only [IolinkMaster.pollLoop]
      split
      · next hfull => apply hrecv.tail (.overflow hfull)
      · split
        · have hjudged := hbuffered.onRx (w.port.rx ++ [byte]) handler hhandler
          have hcleared : ∀ v : World, PortPath K env allowed u v →
              PortPath K env allowed u (v.put { v.port with rx := [] }) := by
            intro v hv
            apply hv.put <;> rfl
          split
          · apply hcleared _ hjudged
          · apply ih (hcleared _ hjudged) _ hrest
        · apply ih hbuffered _ hrest

/-- What the PHY delivers. -/
theorem pollRx (h : PortPath K env allowed u w)
    (hhandlers : ∀ call ∈ env.recv.flatMap Prod.snd, allowed call) :
  PortPath K env allowed u (IolinkMaster.pollRx K env w).1
  := by
  simp only [IolinkMaster.pollRx]
  split
  · apply h
  · split
    · apply h
    · apply h.pollLoop _ _ _ hhandlers

/-- A tick. -/
theorem tickCommon (hK : K.Lawful) (h : PortPath K env allowed u w) (event : TickEvent)
    (pace : Bool) (now : UInt32) (hhandlers : ∀ call ∈ env.recv.flatMap Prod.snd, allowed call) :
  PortPath K env allowed u (IolinkMaster.tickCommon K env w event pace now).1
  := by
  have hpolled := h.pollRx hhandlers
  rcases tickCommon_cases K env w event pace now with heq | ⟨-, -, heq⟩ | ⟨-, -, heq⟩
  · rw [heq]
    apply hpolled
  · rw [heq]
    apply hpolled.tickTimeout
  · rw [heq]
    apply hpolled.processSlot hK

end PortPath

/-- A call that is no initialization is a sequence of port steps. -/
theorem runCall_portPath (hK : K.Lawful) (w : World) {c : Call} (hc : c.initializes = false)
    (hcalls : ∀ call ∈ c.services env, allowed call) :
  PortPath K env allowed w (runCall K env w c)
  := by
  have hrefl : PortPath K env allowed w w := .refl
  cases c with
  | tickAt event now =>
      apply PortPath.tickCommon hK _ _ _ _ hcalls
      apply hrefl.emit rfl
  | tickEvent event => apply hrefl.tickCommon hK _ _ _ hcalls
  | controllerTickAt now =>
      apply PortPath.tickCommon hK _ _ _ _ hcalls
      apply hrefl.emit rfl
  | process => apply hrefl.processAt hK
  | pollRx => apply hrefl.pollRx hcalls
  | onRx data handler => apply hrefl.onRx data handler hcalls
  | onTimeout => apply hrefl.onTimeoutAt
  | service call => exact .single (.call call (hcalls call (List.mem_singleton_self call)))
  | restart | setPortMode => contradiction

end

end IolinkMaster
