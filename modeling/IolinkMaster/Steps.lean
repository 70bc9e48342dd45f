import IolinkMaster.Library.Trace
import IolinkMaster.Tick
import IolinkMaster.Transport

/-!
# What a port can do in one step

The calls of the master decomposed into atomic steps: what a service call can do, what
the judgement of a reply can do, what a transmission slot and a response timeout can do.
Each step names the state in which it is possible and the state and the observations it
leaves.  The invariants of runs are proved step by step.
-/

namespace IolinkMaster

open Relation

/-! ### Fields that decide -/

/-- A parameter block that `write_parameter_block` accepts. -/
def BlockState.Fits (b : BlockState) : Prop :=
  b.data.length ≤ ISDU_BUFFER_SIZE - ISDU_WRITE_HEADER_MAX

/-- The states `p` and `q` differ at most in fields that decide nothing: statistics, timers,
the parameter block. -/
structure Similar (p q : PortState) : Prop where
  block : p.block.Fits → q.block.Fits
  config : q.config = p.config
  state : q.state = p.state
  odLen : q.odLen = p.odLen
  pdOutLen : q.pdOutLen = p.pdOutLen
  step : q.startup.step = p.startup.step
  retries : q.diagnostics.rxRetryCount = p.diagnostics.rxRetryCount
  deviceInfo : q.deviceInfo = p.deviceInfo
  isdu : q.isdu = p.isdu
  event : q.event = p.event
  rx : q.rx = p.rx
  deadline : q.responseDeadline100us = p.responseDeadline100us
  awaiting : q.awaitingResponse = p.awaitingResponse
  rxOdExpected : q.rxOdExpected = p.rxOdExpected
  cycleCount : q.cycleCount = p.cycleCount
  phy : q.phy = p.phy
  pdOut : q.pdOut = p.pdOut
  pdIn : q.pdIn = p.pdIn ∧ q.pdInLen = p.pdInLen ∧ q.pdValid = p.pdValid

theorem Similar.refl (p : PortState) :
  Similar p p
  := ⟨id, rfl, rfl, rfl, rfl, rfl, rfl, rfl, rfl, rfl, rfl, rfl, rfl, rfl, rfl, rfl, rfl,
    rfl, rfl, rfl⟩

/-- The call stages output process data. -/
def Service.stages : Service → Bool
  | .setPdOut _ => true
  | _ => false

/-- An observation no property of runs is about. -/
def Obs.neutral : Obs → Bool
  | .flushRx | .setMode _ | .setBaudrate _ | .eventPending | .event _ => true
  | .returned call ret => call.eventRequest.isNone && !call.stages || ret != STATUS_OK
  | _ => false

/-- An observation of a service call. -/
def Obs.ofService : Obs → Bool
  | .eventStart | .eventFor _ | .eventTaken _ | .returned _ _ => true
  | .isduLeft _ | .isduStart _ _ _ _ _ | .wrote _ _ _ _ | .page _ => true
  | o => o.neutral

/-- Communication is given up. -/
def Obs.isComlost : Obs → Bool
  | .comlost _ _ _ _ _ => true
  | _ => false

/-- A reply is accepted. -/
def Obs.isAccept : Obs → Bool
  | .accept _ _ _ => true
  | _ => false

/-! ### Services -/

/-- The steps of service calls. -/
inductive ServiceStep (w : World) : World → Prop where
  /-- Fields that decide nothing change. -/
  | tune {p : PortState} (h : Similar w.port p) : ServiceStep w (w.put p)
  /-- Something is observed that no property is about. -/
  | note {o : Obs} (h : o.neutral = true) : ServiceStep w (w.emit o)
  /-- An ISDU read starts. -/
  | startRead (index : UInt16) (subindex : UInt8)
      (hstate : acyclicAvailable w.port.state = true)
      (hbusy : isduBusy w.port.isdu = false) (hdone : w.port.isdu.done = false) :
      ServiceStep w
        ⟨{ w.port with isdu := isduStartRead w.port.isdu index subindex },
          .isduStart .read index subindex [] (isduReadRequest index subindex) ::
            .isduLeft w.port.isdu :: w.log⟩
  /-- An ISDU write starts. -/
  | startWrite (index : UInt16) (subindex : UInt8) (data : List UInt8)
      (hstate : acyclicAvailable w.port.state = true)
      (hbusy : isduBusy w.port.isdu = false) (hdone : w.port.isdu.done = false)
      (hlen : isduWriteTooLong index subindex data.length = false) :
      ServiceStep w
        ⟨{ w.port with isdu := isduStartWrite w.port.isdu index subindex data },
          .wrote index subindex data STATUS_PENDING ::
            .isduStart .write index subindex data (isduWriteRequest index subindex data) ::
              .isduLeft w.port.isdu :: w.log⟩
  /-- A completed service with an error is given up by a read call. -/
  | giveUpRead (hdone : w.port.isdu.done = true) :
      ServiceStep w (w.leaveIsdu { w.port with isdu := { isduClear w.port.isdu with
        abortPending := w.port.isdu.abortPending } })
  /-- A completed service with an error is given up by a write call. -/
  | giveUpWrite (index : UInt16) (subindex : UInt8) (data : List UInt8)
      (hdone : w.port.isdu.done = true)
      (hmatches : isduMatches w.port.isdu .write index subindex = true) :
      ServiceStep w
        ((w.leaveIsdu { w.port with isdu := { isduClear w.port.isdu with
          abortPending := w.port.isdu.abortPending } }).emit
            (.wrote index subindex data ISDU_ERR_DEVICE))
  /-- The result of a read is collected. -/
  | collectRead (index : UInt16) (subindex : UInt8) (hdone : w.port.isdu.done = true)
      (hmatches : isduMatches w.port.isdu .read index subindex = true)
      (herror : w.port.isdu.error = ISDU_ERROR_NONE) :
      ServiceStep w (w.leaveIsdu { w.port with isdu := isduClear w.port.isdu })
  /-- A read of Direct Parameter Page 1 is collected and decoded. -/
  | collectPage (hdone : w.port.isdu.done = true)
      (hmatches : isduMatches w.port.isdu .read IDX_DIRECT_PARAMETERS_1 0 = true)
      (herror : w.port.isdu.error = ISDU_ERROR_NONE) :
      ServiceStep w
        ⟨{ w.port with
            isdu := isduClear w.port.isdu
            deviceInfo :=
              (applyDirectParameterPage1 w.port w.port.isdu.response).1.deviceInfo },
          .page w.port.isdu.response :: .isduLeft w.port.isdu :: w.log⟩
  /-- A write call is refused. -/
  | refuseWrite (index : UInt16) (subindex : UInt8) (data : List UInt8) (ret : Int)
      (hret : ret < 0) : ServiceStep w (w.emit (.wrote index subindex data ret))
  /-- A write call finds its service in progress. -/
  | pendingWrite (index : UInt16) (subindex : UInt8) (data : List UInt8)
      (hstate : acyclicAvailable w.port.state = true)
      (hbusy : isduBusy w.port.isdu = true)
      (hmatches : isduMatches w.port.isdu .write index subindex = true) :
      ServiceStep w (w.emit (.wrote index subindex data STATUS_PENDING))
  /-- The success of a write is collected. -/
  | collectWrite (index : UInt16) (subindex : UInt8) (data : List UInt8)
      (hstate : acyclicAvailable w.port.state = true) (hdone : w.port.isdu.done = true)
      (hmatches : isduMatches w.port.isdu .write index subindex = true)
      (herror : w.port.isdu.error = ISDU_ERROR_NONE) :
      ServiceStep w
        ((w.leaveIsdu { w.port with isdu := isduClear w.port.isdu }).emit
          (.wrote index subindex data STATUS_OK))
  /-- An event readout starts. -/
  | startEvent (request : EventReq) (hstate : acyclicAvailable w.port.state = true)
      (hphase : w.port.event.phase = .none) (hrequest : request ≠ .none) :
      ServiceStep w
        ⟨{ w.port with event := eventStart request },
          .eventFor request :: .eventStart :: w.log⟩
  /-- A completed event readout is consumed. -/
  | consumeEvent (call : Service) (hphase : w.port.event.phase = .none)
      (hrequest : w.port.event.request ≠ .none) (hstages : call.stages = false) :
      ServiceStep w
        ⟨{ w.port with event := { w.port.event with request := .none } },
          .returned call STATUS_OK :: .eventTaken w.port.event.request :: w.log⟩
  /-- Output process data is staged. -/
  | setPdOut (data : List UInt8) (hlen : data.length = w.port.config.pdOutLen) :
      ServiceStep w
        ⟨{ w.port with pdOut := data, pdOutLen := data.length },
          .returned (.setPdOut data) STATUS_OK :: w.log⟩

/-- A sequence of service steps. -/
abbrev ServicePath : World → World → Prop := ReflTransGen ServiceStep

/-- The steps of a call that may fail because of the PHY or the validation. -/
inductive ControlStep (w : World) : World → Prop where
  | service {w' : World} (h : ServiceStep w w') : ControlStep w w'
  /-- The error state is latched. -/
  | fail : ControlStep w (w.enter .error)

/-! ### Receiving -/

/-- The number of octets `on_rx` accepts as a reply. -/
def replyWidth (p : PortState) : Option Nat :=
  match p.state with
  | .startup => if p.startup.step = .awaitResponse then some M_SEQ_TYPE0_LEN else none
  | .preoperate => some (if p.startup.step = .awaitOperateAck then 1 else M_SEQ_TYPE0_LEN)
  | .operate =>
    if type0Operate p then some M_SEQ_TYPE0_LEN
    else some ((if p.rxOdExpected then p.odLen else 0) + p.config.pdInLen + 1)
  | .inactive | .error =>
    some ((if p.rxOdExpected then p.odLen else 0) + p.config.pdInLen + 1)

/-- The number of on-request data octets `on_rx` takes from a reply. -/
def odWidth (p : PortState) : Nat :=
  if p.state = .preoperate ∨ p.state = .operate ∧ type0Operate p then 1
  else if p.rxOdExpected then p.odLen else 0

/-- The port after communication has been given up. -/
def comlostPort (p : PortState) : PortState :=
  { p with
    state := .startup
    startup := { p.startup with step := .wake, wakeAttempts := 0 }
    diagnostics := { p.diagnostics with rxRetryCount := 0 }
    awaitingResponse := false }

/-- The observation that communication is given up. -/
def comlostObs (p : PortState) : Obs :=
  .comlost p.deviceInfo.valid p.isdu.op p.isdu.index p.isdu.subindex p.isdu.done

/-- The port waits for the acknowledge of DeviceOperate. -/
def awaitsAck (p : PortState) : Prop :=
  p.state = .preoperate ∧ p.startup.step = .awaitOperateAck

instance (p : PortState) : Decidable (awaitsAck p) := inferInstanceAs (Decidable (_ ∧ _))

/-- The world after a reply with on-request data has been accepted. -/
def accepted (w : World) (data : List UInt8) : World :=
  ⟨{ w.port with
      diagnostics := { w.port.diagnostics with rxRetryCount := 0 }
      awaitingResponse := false },
    .accept w.port.state data (some (data.take (odWidth w.port))) :: w.log⟩

variable (K : Iolinki)

/-- A reply with on-request data carries process data, too. -/
def carriesPd (p : PortState) : Bool :=
  p.state != .preoperate && !(p.state == .operate && type0Operate p)

/-- Replace the input process data. -/
def World.setPd (w : World) (pdIn : List UInt8) (pdInLen : Nat) (pdValid : Bool) : World :=
  w.put { w.port with pdIn := pdIn, pdInLen := pdInLen, pdValid := pdValid }

/-- The process data of the port `q` after the port `p` has accepted the reply `data`. -/
def TakesPd (p : PortState) (data : List UInt8) (q : PortState) (pdIn : List UInt8)
    (pdInLen : Nat) (pdValid : Bool) : Prop :=
  if carriesPd p then
    ∃ r, K.decodeOperateResponse data p.config.pdInLen (odWidth p) = some r ∧
      pdIn = (takePdIn q r).pdIn ∧ pdInLen = (takePdIn q r).pdInLen ∧
        pdValid = (takePdIn q r).pdValid
  else pdIn = q.pdIn ∧ pdInLen = q.pdInLen ∧ pdValid = q.pdValid

/-- The ways the reply `data` is judged. -/
inductive JudgeStep (data : List UInt8) (w : World) : World → Prop where
  /-- A reply of the wrong length is refused. -/
  | unframed (hwidth : replyWidth w.port ≠ some data.length) :
      JudgeStep data w (w.emit (.badFrame data))
  /-- The checksum of the answer to a test message is wrong. -/
  | rejectTest (hstate : w.port.state = .startup) (hcks : ¬ K.CksOk data)
      (hwidth : replyWidth w.port = some data.length) :
      JudgeStep data w (w.emit (.reject w.port.state data))
  /-- The checksum of a reply is wrong, and a retry is left. -/
  | rejectRetry (hstate : w.port.state ≠ .startup) (hcks : ¬ K.CksOk data)
      (hcount : w.port.diagnostics.rxRetryCount < RX_RETRY_LIMIT)
      (hwidth : replyWidth w.port = some data.length) :
      JudgeStep data w
        ⟨{ w.port with diagnostics := { w.port.diagnostics with
            rxRetryCount := w.port.diagnostics.rxRetryCount + 1 } },
          .reject w.port.state data :: w.log⟩
  /-- The checksum of a reply is wrong, and no retry is left. -/
  | rejectLost (hstate : w.port.state ≠ .startup) (hcks : ¬ K.CksOk data)
      (hcount : ¬ w.port.diagnostics.rxRetryCount < RX_RETRY_LIMIT)
      (hwidth : replyWidth w.port = some data.length) :
      JudgeStep data w
        ⟨comlostPort w.port,
          .enter .startup :: comlostObs w.port :: .reject w.port.state data :: w.log⟩
  /-- The answer to a test message is accepted. -/
  | acceptTest (hstate : w.port.state = .startup)
      (hstep : w.port.startup.step = .awaitResponse) (hlen : data.length = M_SEQ_TYPE0_LEN)
      (hcks : K.CksOk data) :
      JudgeStep data w
        ⟨{ w.port with
            state := .preoperate
            diagnostics := { w.port.diagnostics with rxRetryCount := 0 }
            deviceInfo := { w.port.deviceInfo with minCycleTime := data.getD 0 0 }
            awaitingResponse := false },
          .enter .preoperate :: .accept .startup data none :: w.log⟩
  /-- The acknowledge of DeviceOperate is accepted. -/
  | acceptAck (hack : awaitsAck w.port) (hlen : data.length = 1) (hcks : K.CksOk data) :
      JudgeStep data w
        ⟨{ w.port with
            state := .operate
            diagnostics := { w.port.diagnostics with rxRetryCount := 0 }
            awaitingResponse := false },
          .enter .operate :: .accept .preoperate data none :: w.log⟩
  /-- A reply with on-request data is accepted; the event handler makes its calls, valid
  process data is taken over, and the on-request data is handed on. -/
  | accept {u : World} {pdIn : List UInt8} {pdInLen : Nat} {pdValid : Bool}
      (hstate : w.port.state ≠ .startup) (hack : ¬ awaitsAck w.port)
      (hwidth : replyWidth w.port = some data.length) (hcks : K.CksOk data)
      (hhandler : ServicePath (accepted w data) u)
      (hpd : TakesPd K w.port data u.port pdIn pdInLen pdValid) :
      JudgeStep data w ((routeOd u (data.take (odWidth w.port))).setPd pdIn pdInLen pdValid)

/-- The steps of the reception of octets; `judged` limits the replies that are judged. -/
inductive ReceiveStep (judged : World → List UInt8 → Prop) (w : World) : World → Prop where
  | control {w' : World} (h : ControlStep w w') : ReceiveStep judged w w'
  /-- An octet is received. -/
  | recv (byte : UInt8) :
      ReceiveStep judged w ⟨{ w.port with rx := w.port.rx ++ [byte] }, .recv byte :: w.log⟩
  /-- The buffered octets are dropped. -/
  | clearRx : ReceiveStep judged w (w.put { w.port with rx := [] })
  /-- A reply is judged. -/
  | judge (data : List UInt8) {w' : World} (hjudged : judged w data)
      (h : JudgeStep K data w w') : ReceiveStep judged w w'

/-! ### Transmission slots -/

/-- A slot is open: nothing was sent since. -/
def slotOpen : List Obs → Bool
  | .slot :: _ => true
  | .sent _ _ :: _ => false
  | _ :: l => slotOpen l
  | [] => false

/-- The port in whose state the last slot opened. -/
def viewed : List Obs → Option PortState
  | .view p :: _ => some p
  | _ :: l => viewed l
  | [] => none

/-- The device information meets what the configuration demands. -/
def DeviceChecked (p : PortState) : Prop :=
  startupValidationRequired p.config = true → validateDeviceInfo p = STATUS_OK

/-- What a slot of PREOPERATE or OPERATE may send: the frame, and the ISDU state, event
state and startup step it leaves. -/
inductive Emission (p : PortState) :
    List UInt8 → IsduState → EventState → StartupStep → Prop where
  | readEvent (addr : Nat) (h : eventChannelAccess p.event = some (true, addr)) :
      Emission p (eventFrame K p true addr) p.isdu { p.event with odExpected := true }
        p.startup.step
  | writeEvent (addr : Nat) (h : eventChannelAccess p.event = some (false, addr)) :
      Emission p (eventFrame K p false addr) p.isdu (eventOnWritten p.event) p.startup.step
  | isdu (f : IsduFrame) (s : IsduState) (hevent : p.event.phase = .none)
      (h : isduNext p.isdu p.odLen = some (f, s)) :
      Emission p (f.octets K p) s p.event p.startup.step
  | deviceOperate (hstate : p.state = .preoperate) (hevent : p.event.phase = .none)
      (hisdu : isduNext p.isdu p.odLen = none) (hchecked : DeviceChecked p) :
      Emission p (deviceOperateMessage K) p.isdu p.event .awaitOperateAck
  | cyclicType0 (hstate : p.state = .operate) (hevent : p.event.phase = .none)
      (hisdu : isduNext p.isdu p.odLen = none) (htype : type0Operate p = true) :
      Emission p (type0CyclicFrame K (isduFillOd p.isdu 1).1) (isduFillOd p.isdu 1).2 p.event
        p.startup.step
  | cyclic (hstate : p.state = .operate) (hevent : p.event.phase = .none)
      (hisdu : isduNext p.isdu p.odLen = none) (htype : type0Operate p = false) :
      Emission p (cyclicFrame K p (isduFillOd p.isdu p.odLen).1) (isduFillOd p.isdu p.odLen).2
        p.event p.startup.step

/-- Filling a frame moves the position of the transport and nothing else. -/
theorem isduFillOd_moves (s : IsduState) (odLen : Nat) :
  ∃ pos phase flowctrl, (phase = s.phase ∨ s.phase = .request ∧ phase = .wait) ∧
    (isduFillOd s odLen).2 = { s with requestPos := pos, phase := phase, flowctrl := flowctrl }
  := by
  simp only [isduFillOd]
  split
  · exact ⟨_, _, _, .inl rfl, rfl⟩
  · split
    · next hphase =>
      generalize (if (s.requestLen + 65536 - s.requestPos) % 65536 < odLen then
        (s.requestLen + 65536 - s.requestPos) % 65536 else odLen) = n
      split
      · exact ⟨_, _, _, .inr ⟨hphase, rfl⟩, rfl⟩
      · split
        · exact ⟨_, _, _, .inl rfl, rfl⟩
        · exact ⟨_, _, _, .inl rfl, rfl⟩
    · exact ⟨_, _, _, .inl rfl, rfl⟩
    · split
      · exact ⟨_, _, _, .inl rfl, rfl⟩
      · exact ⟨_, _, _, .inl rfl, rfl⟩
    · exact ⟨_, _, _, .inl rfl, rfl⟩

/-- A frame of the ISDU channel moves the position of the transport and consumes the pending
concluding requests, and nothing else. -/
theorem isduNext_moves {s t : IsduState} {odLen : Nat} {f : IsduFrame}
    (h : isduNext s odLen = some (f, t)) :
  ∃ pos phase flowctrl abort idle, (phase = s.phase ∨ s.phase = .request ∧ phase = .wait) ∧
    t = { s with
      requestPos := pos
      phase := phase
      flowctrl := flowctrl
      abortPending := abort
      idlePending := idle }
  := by
  obtain ⟨pos, phase, flowctrl, hphase, hfill⟩ := isduFillOd_moves s odLen
  simp only [isduNext] at h
  split at h
  · cases h
    exact ⟨_, _, _, _, _, .inl rfl, rfl⟩
  · split at h
    · cases h
      exact ⟨_, _, _, _, _, .inl rfl, rfl⟩
    · split at h
      · contradiction
      · split at h
        · cases h
          exact ⟨pos, phase, flowctrl, _, _, hphase, hfill⟩
        · cases h
          exact ⟨pos, phase, flowctrl, _, _, hphase, hfill⟩

/-- A frame moves the position of the ISDU transport and consumes its pending concluding
requests, and nothing else of the ISDU state. -/
theorem Emission.moves {p : PortState} {frame : List UInt8} {s : IsduState} {e : EventState}
    {step : StartupStep} (h : Emission K p frame s e step) :
  ∃ pos phase flowctrl abort idle,
    (phase = p.isdu.phase ∨ p.isdu.phase = .request ∧ phase = .wait) ∧
    s = { p.isdu with
      requestPos := pos
      phase := phase
      flowctrl := flowctrl
      abortPending := abort
      idlePending := idle }
  := by
  cases h with
  | readEvent | writeEvent | deviceOperate => exact ⟨_, _, _, _, _, .inl rfl, rfl⟩
  | isdu f s hevent hnext => apply isduNext_moves hnext
  | cyclicType0 | cyclic =>
      obtain ⟨pos, phase, flowctrl, hphase, hfill⟩ := isduFillOd_moves p.isdu _
      exact ⟨pos, phase, flowctrl, _, _, hphase, hfill⟩

/-- The slot of a world opened in the state in which the frame `frame` goes out; only the
write of DeviceOperate may follow the collection of a page. -/
def Poised (w : World) (frame : List UInt8) : Prop :=
  ∃ p, viewed w.log = some p ∧ p.config = w.port.config ∧ p.state = w.port.state ∧
    (p.isdu = w.port.isdu ∧ p.event = w.port.event ∧ p.odLen = w.port.odLen ∧
        p.pdOutLen = w.port.pdOutLen ∨
      frame = deviceOperateMessage K ∧ p.event.phase = .none ∧
        isduNext p.isdu p.odLen = none)

/-- The steps of a transmission slot; `ready` limits the states in which one opens. -/
inductive SlotStep (ready : World → Prop) (w : World) : World → Prop where
  | control {w' : World} (h : ControlStep w w') : SlotStep ready w w'
  /-- A slot of PREOPERATE or OPERATE opens. -/
  | slot (hready : ready w) (hstate : acyclicAvailable w.port.state = true) :
      SlotStep ready w ⟨w.port, .slot :: .view w.port :: w.log⟩
  /-- A frame goes out in PREOPERATE or OPERATE. -/
  | send {frame : List UInt8} {s : IsduState} {e : EventState} {step : StartupStep}
      (hstate : acyclicAvailable w.port.state = true) (hopen : slotOpen w.log = true)
      (h : Emission K w.port frame s e step) (hview : Poised K w frame) :
      SlotStep ready w
        ⟨{ w.port with
            isdu := s
            event := e
            startup := { w.port.startup with step := step }
            rxOdExpected := mcIsRead (frame.getD 0 0) },
          .sent w.port.state frame :: w.log⟩
  /-- The transmission of a frame fails, before or after octets are on the wire. -/
  | sendFailed (sent : Bool) {frame : List UInt8} {s : IsduState} {e : EventState}
      {step : StartupStep} (e' : EventState)
      (hstate : acyclicAvailable w.port.state = true) (hopen : slotOpen w.log = true)
      (h : Emission K w.port frame s e step) (hview : Poised K w frame)
      (hevent : e' = eventOnWritten w.port.event) :
      SlotStep ready w
        ⟨{ w.port with isdu := s, event := e', state := .error },
          .enter .error :: (if sent then [.sent w.port.state frame] else []) ++ w.log⟩
  /-- The step of the startup micro-sequence changes. -/
  | restep (step : StartupStep) (hstate : w.port.state = .startup)
      (hstep : step ≠ .awaitResponse ∧ step ≠ .awaitOperateAck) :
      SlotStep ready w (w.setStep step)
  /-- The `wake_up` hook is called. -/
  | callWakeUp (hstate : w.port.state = .startup) (hstep : w.port.startup.step = .wake) :
      SlotStep ready w (w.emit .wakeUp)
  /-- The wake-up byte goes out. -/
  | wake (hstate : w.port.state = .startup) (hstep : w.port.startup.step = .wake) :
      SlotStep ready w
        ⟨{ w.port with
            startup := { w.port.startup with step := .sendType0 }
            rxOdExpected := mcIsRead WAKEUP_BYTE },
          .sent .startup [WAKEUP_BYTE] :: w.log⟩
  /-- The test message goes out. -/
  | test (deadline : UInt32) (awaiting : Bool) (hstate : w.port.state = .startup)
      (hstep : w.port.startup.step = .sendType0) (hsend : w.port.phy.send = true) :
      SlotStep ready w
        ⟨{ w.port with
            startup := { w.port.startup with step := .awaitResponse }
            rxOdExpected := mcIsRead ((testMessage K).getD 0 0)
            responseDeadline100us := deadline
            awaitingResponse := awaiting },
          .sent .startup (testMessage K) :: w.log⟩
  /-- The transmission of a frame of STARTUP fails. -/
  | startupFailed (frame : List UInt8) (hstate : w.port.state = .startup)
      (hframe : frame = [WAKEUP_BYTE] ∨ frame = testMessage K) :
      SlotStep ready w
        ⟨{ w.port with state := .error }, .enter .error :: .sent .startup frame :: w.log⟩
  /-- A cyclic frame that went out is counted. -/
  | count (hstate : w.port.state = .operate)
      (hsent : ∃ frame l, w.log = .sent .operate frame :: l) :
      SlotStep ready w (w.put (countCycle w.port))
  /-- The response deadline of a cyclic frame is armed. -/
  | arm (deadline : UInt32) (hstate : w.port.state = .operate)
      (hsent : ∃ frame l, w.log = .sent .operate frame :: l) :
      SlotStep ready w
        ⟨{ w.port with responseDeadline100us := deadline, awaitingResponse := true },
          .armed deadline :: w.log⟩

/-! ### Response timeouts -/

/-- The steps of a response timeout; `due` limits the timeouts that are processed, by
whether the deadline has passed and whether the port goes on waiting for a reply. -/
inductive TimeoutStep (due : World → Bool → Bool → Prop) (w : World) : World → Prop where
  | control {w' : World} (h : ControlStep w w') : TimeoutStep due w w'
  /-- Received octets are flushed before the timeout is processed. -/
  | clearRx : TimeoutStep due w (w.put { w.port with rx := [] })
  /-- A timeout outside OPERATE: no failure is counted. -/
  | ignored (d awaiting : Bool) (hdue : due w d awaiting) (hstate : w.port.state ≠ .operate)
      (hawaiting : awaiting = false ∨ awaiting = w.port.awaitingResponse) :
      TimeoutStep due w
        ⟨{ w.port with rx := [], awaitingResponse := awaiting },
          .timeout w.port.state d :: w.log⟩
  /-- The receive path cannot be flushed. -/
  | broken (d awaiting : Bool) (hdue : due w d awaiting)
      (hawaiting : awaiting = false ∨ awaiting = w.port.awaitingResponse) :
      TimeoutStep due w
        ⟨{ w.port with rx := [], awaitingResponse := awaiting, state := .error },
          .enter .error :: .timeout w.port.state d :: w.log⟩
  /-- A failed M-sequence of OPERATE is counted. -/
  | count (d awaiting : Bool) (hdue : due w d awaiting) (hstate : w.port.state = .operate)
      (hawaiting : awaiting = false ∨ awaiting = w.port.awaitingResponse)
      (hcount : w.port.diagnostics.rxRetryCount < RX_RETRY_LIMIT) :
      TimeoutStep due w
        ⟨{ w.port with
            rx := []
            awaitingResponse := awaiting
            diagnostics := { w.port.diagnostics with
              rxRetryCount := w.port.diagnostics.rxRetryCount + 1 } },
          .timeout w.port.state d :: w.log⟩
  /-- A failed M-sequence of OPERATE exhausts the retries. -/
  | lost (d : Bool) (hdue : due w d false) (hstate : w.port.state = .operate)
      (hcount : ¬ w.port.diagnostics.rxRetryCount < RX_RETRY_LIMIT) :
      TimeoutStep due w
        ⟨{ comlostPort w.port with rx := [] },
          .enter .startup :: comlostObs w.port :: .timeout w.port.state d :: w.log⟩
  /-- The step of the startup micro-sequence changes. -/
  | restep (step : StartupStep) (hstate : w.port.state = .startup)
      (hstep : step ≠ .awaitResponse ∧ step ≠ .awaitOperateAck) :
      TimeoutStep due w (w.setStep step)

end IolinkMaster
