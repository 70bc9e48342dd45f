import IolinkMaster.Download

/-!
# From power-on to OPERATE

A port that has just been initialized and a device that has just been switched on, ticked together:
wake-up, test message, DeviceOperate and the first cyclic frame take four ticks if the port is not
to inspect the device.  From then on the system is at rest and the calls of the application are
served.
-/

namespace IolinkMaster

section

variable {μ : Type} {K : Iolinki} {A : Application μ} {config : Config}

/-- A device that has just been switched on. -/
def Device.fresh (m : μ) : Device μ := ⟨m, [], 0, []⟩

/-- A port that has just been initialized, and a device that has just been switched on. -/
def System.powerOn (phy : PhyApi) (config : Config) (m : μ) : System μ :=
  ⟨started (.quiet []) phy config, Device.fresh m, []⟩

/-- The device information that is handed out, if there is any. -/
def reportedInfo (p : PortState) : Option DeviceInfo :=
  if (getDeviceInfo p).1 = STATUS_OK then some (getDeviceInfo p).2 else none

/-- What is handed out depends on the device information only. -/
theorem reportedInfo_eq (p : PortState) :
  reportedInfo p = if p.deviceInfo.valid then some p.deviceInfo else none
  := by
  rw [reportedInfo, getDeviceInfo]
  cases p.deviceInfo.valid <;> rfl

theorem reportedInfo_none {p : PortState} :
  reportedInfo p = none ↔ p.deviceInfo.valid = false
  := by
  rw [reportedInfo_eq]
  cases p.deviceInfo.valid <;> simp

/-- A port that is to communicate, in the state `state` at the startup step `step`, with the ISDU
state `isdu` and the device information `info`; no event service is in progress. -/
structure Starting (config : Config) (state : MasterState) (step : StartupStep) (isdu : IsduState)
    (info : Option DeviceInfo) (p : PortState) : Prop where
  configured : p.config = config
  send : p.phy.send = true
  recvByte : p.phy.recvByte = true
  state : p.state = state
  step : p.startup.step = step
  isdu : p.isdu = isdu
  info : reportedInfo p = info
  event : p.event = .zero
  odLen : p.odLen = odLenForType config.mSeqType
  pdOutLen : (pdOutOctets p).length = config.pdOutLen
  pdOutLen' : p.pdOutLen = config.pdOutLen
  answered : p.awaitingResponse = false

variable {isdu : IsduState} {info : Option DeviceInfo}

theorem Starting.rx {state : MasterState} {step : StartupStep} {p : PortState}
    (h : Starting config state step isdu info p) (octets : List UInt8) :
  Starting config state step isdu info { p with rx := octets }
  := by
  obtain ⟨configured, send, recvByte, state, step, isdu, info, event, odLen, pdOutLen, pdOutLen',
    answered⟩ := h
  exact ⟨configured, send, recvByte, state, step, isdu, info, event, odLen, pdOutLen, pdOutLen',
    answered⟩

/-- The PHY of a quiet environment comes up. -/
theorem initPhy_quiet {w : World} (hmode : w.port.config.portMode = .iolink) :
  (initPhy (.quiet []) w).1.port = { w.port with rx := [] }
  := by
  have hflush : (flushRx (.quiet []) w).1.port = { w.port with rx := [] } ∧
      (flushRx (.quiet []) w).2 = STATUS_OK := by
    rw [flushRx]
    dsimp only
    split
    · exact ⟨rfl, rfl⟩
    · exact ⟨rfl, rfl⟩
  have hbaudrate : ∀ (v : World) (rate : Baudrate),
      (setBaudrate (.quiet []) v rate).2 = STATUS_OK := by
    intro v rate
    rw [setBaudrate]
    dsimp only
    split <;> rfl
  have hset : ∀ (v : World) (mode : PhyMode), (setMode (.quiet []) v mode).2 = STATUS_OK := by
    intro v mode
    rw [setMode]
    dsimp only
    split <;> rfl
  simp only [initPhy, hmode, initStep, hflush.2, hbaudrate, hset, ne_eq, not_true_eq_false, if_false]
  exact hflush.1

/-- An initialized port starts with the wake-up. -/
theorem starting_started {phy : PhyApi} (hvalid : configRefused config = false)
    (hmode : config.portMode = .iolink) (hsend : phy.send = true) (hrecv : phy.recvByte = true) :
  Starting config .startup .wake .zero none (started (.quiet []) phy config).port ∧
    (started (.quiet []) phy config).port.rx = []
  := by
  have hport : (started (.quiet []) phy config).port = zeroPort phy config := by
    have hinit : ¬ (phy.init && (Env.quiet []).phyInit != 0) = true := by simp [Env.quiet]
    rw [started, initPort, hvalid, if_neg Bool.false_ne_true]
    dsimp only
    rw [if_neg hinit]
    exact initPhy_quiet (w := ⟨zeroPort phy config, _⟩) hmode
  rw [hport]
  refine ⟨?_, rfl⟩
  constructor <;> try rfl
  · exact hsend
  · exact hrecv
  · simp [zeroPort, hmode]
  · simp [pdOutOctets, zeroPort]

/-! ### Ticks of STARTUP -/

/-- A port that waits for no reply hears nothing. -/
theorem pollRx_deaf {env : Env} {w : World} (h : expectedLen w.port = none) :
  pollRx K env w = (w, STATUS_OK)
  := by
  rw [pollRx, h]
  split <;> rfl

theorem Starting.processAt_startup {env : Env} {w : World} {step : StartupStep}
    (h : Starting config .startup step isdu info w.port) :
  processAt K env w 0 false = processStartup K env w 0 false
  := by
  simp only [processAt, h.send, sendGated, Bool.not_true, Bool.false_and, Bool.or_self,
    Bool.false_eq_true, if_false, h.state]

/-- A tick of a port that starts, before its test message has gone out. -/
theorem Starting.tickEvent_startup {env : Env} {w : World} {step : StartupStep}
    (h : Starting config .startup step isdu info w.port) (hstep : step ≠ .awaitResponse) :
  (tickEvent K env w .cycleDue).1 = processStartup K env w 0 false
  := by
  have hexpected : expectedLen w.port = none := by
    simp only [expectedLen, h.state, h.step, hstep, if_false]
  rw [tickEvent_slot (pollRx_deaf hexpected) (by decide) h.answered, h.processAt_startup]

/-- The only frame between two worlds. -/
theorem framesSince_only {w u v : World} (hunsent : Unsent w u) {st : MasterState}
    {frame : List UInt8} (hlog : v.log = .sent st frame :: u.log) :
  framesSince w v = [frame]
  := by
  have hnil : ∀ o ∈ ([] : List Obs), o.frame = none := by simp
  exact framesSince_sent hunsent hnil hlog

/-- The first tick wakes the device up; no frame goes out. -/
theorem Starting.tick_wake (wire : List UInt8) {w : World}
    (h : Starting config .startup .wake isdu info w.port) :
  Starting config .startup .sendType0 isdu info (tickEvent K (.quiet wire) w .cycleDue).1.port ∧
    (tickEvent K (.quiet wire) w .cycleDue).1.port.rx = w.port.rx ∧
    ∀ frame ∈ framesSince w (tickEvent K (.quiet wire) w .cycleDue).1,
      frame.length < M_SEQ_HEADER_LEN
  := by
  obtain ⟨configured, send, recvByte, state, step, isdu, info, event, odLen, pdOutLen, pdOutLen',
    answered⟩ := id h
  have hprocess : processStartup K (.quiet wire) w 0 false
      = processWake (.quiet wire) w 0 false := by
    rw [processStartup, step]
  rw [h.tickEvent_startup (by decide), hprocess, processWake, wakeUp]
  by_cases hhook : w.port.config.wakeUp = true
  · have hok : (Env.quiet wire).wakeUp = STATUS_OK := rfl
    simp only [hhook, Bool.not_true, Bool.false_eq_true, if_false, hok, if_true]
    refine ⟨⟨configured, send, recvByte, state, rfl, isdu, info, event, odLen, pdOutLen, pdOutLen',
      answered⟩, rfl, ?_⟩
    intro frame hframe
    simp [framesSince, armSendGate, World.setStep, World.put, World.emit, Obs.frame] at hframe
  · simp only [hhook, Bool.not_false, if_true, sendFull_transmits (Env.transmits_quiet wire)]
    refine ⟨⟨configured, send, recvByte, state, rfl, isdu, info, event, odLen, pdOutLen, pdOutLen',
      answered⟩, rfl, ?_⟩
    intro frame hframe
    rw [framesSince_only (Slotless.refl w).unsent rfl, List.mem_singleton] at hframe
    rw [hframe]
    decide

/-- The second tick sends the test message. -/
theorem Starting.tick_test (hK : K.Lawful) (wire : List UInt8) {w : World}
    (h : Starting config .startup .sendType0 isdu info w.port) :
  Starting config .startup .awaitResponse isdu info
      (tickEvent K (.quiet wire) w .cycleDue).1.port ∧
    (tickEvent K (.quiet wire) w .cycleDue).1.port.rx = w.port.rx ∧
    framesSince w (tickEvent K (.quiet wire) w .cycleDue).1 = [testMessage K]
  := by
  obtain ⟨configured, send, recvByte, state, step, isdu, info, event, odLen, pdOutLen, pdOutLen',
    answered⟩ := id h
  have hprocess : processStartup K (.quiet wire) w 0 false
      = processTest K (.quiet wire) w 0 false := by
    rw [processStartup, step]
  have hne : testMessage K ≠ [] := by
    rw [testMessage, hK.encodeType0_eq]
    apply List.cons_ne_nil
  rw [h.tickEvent_startup (by decide), hprocess, processTest]
  simp only [if_neg hne, sendFull_transmits (Env.transmits_quiet wire), if_true, Bool.false_eq_true,
    if_false]
  exact ⟨⟨configured, send, recvByte, state, rfl, isdu, info, event, odLen, pdOutLen, pdOutLen',
    answered⟩, rfl, framesSince_only (Slotless.refl w).unsent rfl⟩

/-! ### Polls -/

/-- A poll that hears one whole reply judges it. -/
theorem pollRx_accepted {w v : World} (hrecv : w.port.phy.recvByte = true) (hrx : w.port.rx = [])
    (body : List UInt8) {last : UInt8} (hexpected : expectedLen w.port = some (body.length + 1))
    (hbuf : body.length + 1 ≤ FRAME_BUF_SIZE)
    (hjudged : onRx K (.quiet (body ++ [last]))
      (received w ((body ++ [last]).map fun b => (b, []))) (body ++ [last]) [] = (v, STATUS_OK)) :
  pollRx K (.quiet (body ++ [last])) w = (v.put { v.port with rx := [] }, 1)
  := by
  rw [pollRx, hrecv, hexpected]
  exact pollLoop_accepted (show (Env.quiet (body ++ [last])).recvFails = false from rfl) hbuf hrx rfl
    hjudged

/-- A poll sends nothing. -/
theorem pollRx_unsent (hK : K.Lawful) (env : Env) (w : World) :
  Unsent w (pollRx K env w).1
  := (Slotless.path (fun _ _ => slotless_receive) (pollRx_path hK env w)).unsent

/-- The next poll leaves the port in PREOPERATE. -/
def Prepared (K : Iolinki) (config : Config) (wire : List UInt8) (isdu : IsduState)
    (info : Option DeviceInfo) (w : World) : Prop :=
  ∃ v ret, pollRx K (.quiet wire) w = (v, ret) ∧ ¬ ret < 0 ∧ Unsent w v ∧
    Starting config .preoperate .awaitResponse isdu info v.port ∧ v.port.rx = []

/-- A poll that hears a reply of TYPE_0. -/
theorem Starting.poll_type0 (hK : K.Lawful) {w : World} {state : MasterState} {flags : UInt8}
    (octet : UInt8) (h : Starting config state .awaitResponse isdu info w.port)
    (hexpected : expectedLen w.port = some M_SEQ_TYPE0_LEN) (hrx : w.port.rx = [])
    {isdu' : IsduState} {info' : Option DeviceInfo}
    (hjudged : ∀ u : World, Starting config state .awaitResponse isdu info u.port →
      ∃ v, onRx K (.quiet (deviceReply K flags [octet] [])) u (deviceReply K flags [octet] []) []
          = (v, STATUS_OK) ∧
        Starting config .preoperate .awaitResponse isdu' info' v.port) :
  Prepared K config (deviceReply K flags [octet] []) isdu' info' w
  := by
  obtain ⟨u, hu, hprepared⟩ := hjudged
    (received w ((deviceReply K flags [octet] []).map fun b => (b, []))) (h.rx _)
  have hpoll : pollRx K (.quiet (deviceReply K flags [octet] [])) w
      = (u.put { u.port with rx := [] }, 1) :=
    pollRx_accepted h.recvByte hrx [octet] hexpected (Nat.le_add_left 2 62) hu
  have hunsent := pollRx_unsent hK (.quiet (deviceReply K flags [octet] [])) w
  rw [hpoll] at hunsent
  exact ⟨_, _, hpoll, by decide, hunsent, hprepared.rx [], rfl⟩

/-- A reply of TYPE_0 has a correct CKS octet. -/
theorem type0ReplyOk_deviceReply (hK : K.Lawful) {flags : UInt8}
    (hflags : flags &&& CKS_CHECKSUM_MASK = 0) (octet : UInt8) :
  type0ReplyOk K (deviceReply K flags [octet] []) = true
  := (type0ReplyOk_iff rfl).mpr (cksOk_deviceReply hK hflags [octet] [])

/-- The answer to the test message leads to PREOPERATE. -/
theorem Starting.poll_found (hK : K.Lawful) {w : World} {flags : UInt8}
    (hflags : flags &&& CKS_CHECKSUM_MASK = 0) (octet : UInt8)
    (h : Starting config .startup .awaitResponse isdu none w.port) (hrx : w.port.rx = []) :
  Prepared K config (deviceReply K flags [octet] []) isdu none w
  := by
  have hexpected : expectedLen w.port = some M_SEQ_TYPE0_LEN := by
    simp only [expectedLen, h.state, h.step, if_true]
  apply h.poll_type0 hK octet hexpected hrx
  intro u hu
  obtain ⟨configured, send, recvByte, state, step, isdu, info, event, odLen, pdOutLen, pdOutLen',
    answered⟩ := hu
  have hne : deviceReply K flags [octet] [] ≠ [] := List.cons_ne_nil _ _
  have hlen : (deviceReply K flags [octet] []).length = M_SEQ_TYPE0_LEN := rfl
  rw [onRx, if_neg hne, if_pos state, onRxStartup, if_neg (not_not.mpr step),
    if_neg (not_not.mpr hlen), type0ReplyOk_deviceReply hK hflags]
  refine ⟨_, rfl, configured, send, recvByte, rfl, step, isdu, ?_, event, odLen, pdOutLen, pdOutLen',
    rfl⟩
  rw [reportedInfo_none] at info ⊢
  exact info

/-! ### Slots of PREOPERATE -/

theorem Starting.processAt_preoperate {env : Env} {w : World} {step : StartupStep}
    (h : Starting config .preoperate step isdu info w.port) :
  processAt K env w 0 false = processPreoperate K env w.openSlot
  := by
  simp only [processAt, h.send, sendGated, Bool.not_true, Bool.false_and, Bool.or_self,
    Bool.false_eq_true, if_false, h.state]

/-- No event service asks for a frame. -/
theorem Starting.sendEvent_none {env : Env} {w : World} {state : MasterState} {step : StartupStep}
    (h : Starting config state step isdu info w.port) :
  sendEvent K env w.openSlot = (w.openSlot, false)
  := by
  rw [sendEvent, eventChannelAccess, w.openSlot_port, h.event]
  rfl

/-- A slot in which the transport asks for nothing inspects the device. -/
theorem Starting.slot_validates (hK : K.Lawful) {env : Env} (henv : env.Transmits) {w v : World}
    {step : StartupStep} {goOn : Bool} (h : Starting config .preoperate step isdu info w.port)
    (hnext : isduNext isdu (odLenForType config.mSeqType) = none)
    (hvalidation : processValidation w.openSlot = (v, goOn)) :
  processAt K env w 0 false = if goOn then processDeviceOperate K env v else v
  := by
  have hnone : isduNext w.openSlot.port.isdu w.openSlot.port.odLen = none := by
    rw [w.openSlot_port, h.isdu, h.odLen]
    apply hnext
  rw [h.processAt_preoperate, processPreoperate, h.sendEvent_none]
  dsimp only
  rw [if_neg Bool.false_ne_true, sendIsdu_transmits hK henv, hnone]
  dsimp only
  rw [if_neg Bool.false_ne_true, hvalidation]

/-- DeviceOperate is written. -/
theorem Starting.operates (hK : K.Lawful) {env : Env} (henv : env.Transmits) {w : World}
    {step : StartupStep} (h : Starting config .preoperate step isdu info w.port) :
  Starting config .preoperate .awaitOperateAck isdu info (processDeviceOperate K env w).port ∧
    (processDeviceOperate K env w).port.rx = w.port.rx ∧
    (processDeviceOperate K env w).log = .sent .preoperate (deviceOperateMessage K) :: w.log
  := by
  obtain ⟨configured, send, recvByte, state, step, isdu, info, event, odLen, pdOutLen, pdOutLen',
    answered⟩ := h
  have hne : deviceOperateMessage K ≠ [] := by
    rw [deviceOperateMessage, hK.encodeType0Write_eq]
    apply List.cons_ne_nil
  simp only [processDeviceOperate, if_neg hne, sendFull_transmits henv, if_true]
  refine ⟨⟨configured, send, recvByte, state, rfl, isdu, info, event, odLen, pdOutLen, pdOutLen',
    answered⟩, rfl, ?_⟩
  rw [state]
  rfl

theorem Unsent.trans {u v w : World} (h : Unsent u v) (h' : Unsent v w) :
  Unsent u w
  := by
  obtain ⟨os, hos, hlog⟩ := h
  obtain ⟨os', hos', hlog'⟩ := h'
  refine ⟨os' ++ os, ?_, by rw [hlog', hlog, List.append_assoc]⟩
  intro o ho
  rcases List.mem_append.mp ho with ho | ho
  · exact hos' o ho
  · exact hos o ho

/-- The inspection of the device sends nothing. -/
theorem processValidation_unsent (w : World) :
  Unsent w (processValidation w.openSlot).1
  := by
  have hopened : Unsent w w.openSlot := ⟨[.slot, .view w.port], by simp [Obs.isSent], rfl⟩
  exact hopened.trans
    (Slotless.path (fun _ _ => slotless_control) (processValidation_path w.openSlot).1).unsent

/-- The inspection of the device lets the port go on, and leaves it with the ISDU state `isdu'` and
the device information `info'`. -/
def Validates (config : Config) (isdu : IsduState) (info : Option DeviceInfo) (isdu' : IsduState)
    (info' : Option DeviceInfo) : Prop :=
  ∀ v : World, Starting config .preoperate .awaitResponse isdu info v.port →
    ∃ u, processValidation v.openSlot = (u, true) ∧
      Starting config .preoperate .awaitResponse isdu' info' u.port ∧ u.port.rx = v.port.rx

/-- A tick of PREOPERATE whose inspection lets the port go on writes DeviceOperate. -/
theorem Prepared.tick_operates (hK : K.Lawful) {wire : List UInt8} {w : World}
    (h : Prepared K config wire isdu info w)
    (hnext : isduNext isdu (odLenForType config.mSeqType) = none) {isdu' : IsduState}
    {info' : Option DeviceInfo} (hvalidation : Validates config isdu info isdu' info') :
  Starting config .preoperate .awaitOperateAck isdu' info'
      (tickEvent K (.quiet wire) w .cycleDue).1.port ∧
    (tickEvent K (.quiet wire) w .cycleDue).1.port.rx = [] ∧
    framesSince w (tickEvent K (.quiet wire) w .cycleDue).1 = [deviceOperateMessage K]
  := by
  obtain ⟨v, ret, hpoll, hret, hunsent, hv, hrx⟩ := h
  obtain ⟨u, hvalidated, hu, hkept⟩ := hvalidation v hv
  obtain ⟨hoperates, hdrained, hlog⟩ := hu.operates hK (Env.transmits_quiet wire)
  have hlater := processValidation_unsent v
  rw [hvalidated] at hlater
  rw [tickEvent_slot hpoll hret hv.answered,
    hv.slot_validates hK (Env.transmits_quiet wire) hnext hvalidated, if_pos rfl]
  exact ⟨hoperates, by rw [hdrained, hkept, hrx], framesSince_only (hunsent.trans hlater) hlog⟩

/-! ### The first tick of OPERATE -/

/-- The acknowledge of DeviceOperate leads to OPERATE. -/
theorem Starting.acknowledged (env : Env) {w : World} {data : List UInt8}
    (h : Starting config .preoperate .awaitOperateAck isdu info w.port) (hlen : data.length = 1)
    (hok : K.CksOk data) :
  ∃ v, onRx K env w data [] = (v, STATUS_OK) ∧ Operating config v.port ∧ v.port.isdu = isdu ∧
    reportedInfo v.port = info ∧ v.port.event = .zero ∧ v.port.awaitingResponse = false
  := by
  obtain ⟨configured, send, recvByte, state, step, isdu, info, event, odLen, pdOutLen, pdOutLen',
    answered⟩ := h
  have hne : data ≠ [] := by
    rintro rfl
    contradiction
  have hstate : w.port.state ≠ .startup := by
    rw [state]
    decide
  rw [onRx, if_neg hne, if_neg hstate, if_pos state, if_pos step, onRxOperateAck]
  dsimp only
  rw [if_neg (not_not.mpr hlen), if_neg (not_not.mpr ((ackOk_iff hlen).mpr hok))]
  exact ⟨_, rfl, ⟨configured, send, recvByte, rfl, odLen, pdOutLen, pdOutLen'⟩, isdu, info, event,
    rfl⟩

/-- The next tick takes the acknowledge and sends the first cyclic frame. -/
theorem Starting.tick_operate (hK : K.Lawful) (hvalid : configRefused config = false)
    (hfits : A.Fits config) {s : System μ} {flags : UInt8}
    (hflags : flags &&& CKS_CHECKSUM_MASK = 0)
    (h : Starting config .preoperate .awaitOperateAck isdu info s.world.port)
    (hcleared : Cleared isdu) (hrx : s.world.port.rx = [])
    (hwire : s.wire = deviceReply K flags [] []) :
  AtRest K config (s.tick K A config) s.device.memory ∧
    reportedInfo (s.tick K A config).world.port = info
  := by
  have hexpected : expectedLen s.world.port = some (([] : List UInt8).length + 1) := by
    simp only [expectedLen, h.state, h.step, if_true]
    rfl
  have hreceived : Starting config .preoperate .awaitOperateAck isdu info
      (received s.world ((deviceReply K flags [] []).map fun b => (b, []))).port := h.rx _
  obtain ⟨u, hu, ⟨configured, send, recvByte, state, odLen, pdOutLen, pdOutLen'⟩, hisdu, hinfo,
    hevent, hanswered⟩ := hreceived.acknowledged (.quiet (deviceReply K flags [] [])) rfl
      (cksOk_deviceReply hK hflags [] [])
  have hpoll : pollRx K (.quiet s.wire) s.world = (u.put { u.port with rx := [] }, 1) := by
    rw [hwire]
    exact pollRx_accepted h.recvByte hrx [] hexpected (Nat.le_add_left 1 63) hu
  have hunsent := pollRx_unsent hK (.quiet s.wire) s.world
  rw [hpoll] at hunsent
  obtain ⟨v, hv⟩ : ∃ v, v = u.put { u.port with rx := [] } := ⟨_, rfl⟩
  have hoperating : Operating config v.port := by
    rw [hv]
    exact ⟨configured, send, recvByte, state, odLen, pdOutLen, pdOutLen'⟩
  have hidle : v.port.isdu = isdu ∧ reportedInfo v.port = info ∧ v.port.event = .zero ∧
      v.port.awaitingResponse = false ∧ v.port.rx = [] := by
    rw [hv]
    exact ⟨hisdu, hinfo, hevent, hanswered, rfl⟩
  obtain ⟨hisdu, hinfo, hevent, hanswered, hdrained⟩ := hidle
  rw [← hisdu] at hcleared
  rw [← hv] at hpoll hunsent
  obtain ⟨hslot, hframes⟩ := hoperating.tick_polled hK hpoll (by decide) hunsent hanswered
  have hphase : v.port.event.phase = .none := by rw [hevent]; rfl
  have hnext : isduNext v.port.isdu v.port.odLen = none := by
    simp [isduNext, hcleared.op, hcleared.noIdle, hcleared.noAbort]
  have hrests : v.port.isdu.RestsWhenDone := by
    intro hdone
    rw [hcleared.notDone] at hdone
    contradiction
  obtain ⟨hchannel, hleft⟩ := slotFrame_cyclic hK hphase hnext hrests
  obtain ⟨hlength, htype⟩ := hoperating.slotFrame_typed hK hvalid
  have hreceive : s.device.receive A K config (slotFrame K v.port).1 = (s.device,
      A.reply K config s.device.memory
        (noService config (mcIsRead ((slotFrame K v.port).1.getD 0 0)))) := by
    rw [Device.receive_operate hvalid s.device hlength htype, Device.respond_process _ hchannel]
  have htick : s.tick K A config = ⟨(tickEvent K (.quiet s.wire) s.world .cycleDue).1, s.device,
      A.reply K config s.device.memory
        (noService config (mcIsRead ((slotFrame K v.port).1.getD 0 0)))⟩ := by
    rw [System.tick, hframes, List.foldl_cons, List.foldl_nil, hreceive]
  rw [htick]
  refine ⟨⟨⟨noService config (mcIsRead ((slotFrame K v.port).1.getD 0 0)), ⟨?_, ?_, ?_, ?_, ?_⟩, ?_,
    ?_⟩, ?_, rfl⟩, ?_⟩
  · exact hoperating.ticked hslot.ticked
  · exact hslot.drained.trans hdrained
  · exact hslot.answered.trans hanswered
  · apply A.carries_reply hvalid hfits
    rw [← length_noService, hslot.direction]
  · intro hnil
    exact absurd hnil (A.reply_ne_nil _ _)
  · dsimp only
    rw [hslot.event, hleft, hphase]
  · dsimp only
    rw [hslot.event, hleft, hevent]
    rfl
  · dsimp only
    rw [hslot.isdu, hleft]
    exact hcleared
  · rw [← hinfo, reportedInfo_eq, reportedInfo_eq]
    dsimp only
    rw [hslot.ticked.deviceInfo]
    rfl

/-! ### The device -/

/-- A device answers a frame of TYPE_0 with one of TYPE_0. -/
theorem Device.receive_type0 (d : Device μ) {frame : List UInt8}
    (hlength : ¬ frame.length < M_SEQ_HEADER_LEN) (htype : isType0Frame frame = true) :
  d.receive A K config frame = d.respond A K config.asType0 frame
  := by
  rw [Device.receive, if_neg hlength, if_pos htype]

/-- The device answers the test message with its MinCycleTime. -/
theorem Device.receive_test (hK : K.Lawful) (d : Device μ) :
  d.receive A K config (testMessage K)
    = (d, deviceReply K (A.flags d.memory)
        [A.page d.memory (UInt8.ofNat DPP1_OFF_MIN_CYCLE_TIME)] [])
  := by
  have haddress : UInt8.ofNat DPP1_OFF_MIN_CYCLE_TIME &&& MC_ADDR_MASK
      = UInt8.ofNat DPP1_OFF_MIN_CYCLE_TIME := by decide
  have hlength : ¬ (testMessage K).length < M_SEQ_HEADER_LEN := by
    rw [testMessage, hK.encodeType0_eq]
    exact Nat.lt_irrefl _
  have hmc : (testMessage K).getD 0 0
      = encodeMasterCommand true .page (UInt8.ofNat DPP1_OFF_MIN_CYCLE_TIME) := by
    rw [testMessage, hK.encodeType0_eq, List.getD_cons_zero]
  rw [Device.receive_type0 d hlength (isType0Frame_encodeType0 hK _)]
  simp only [Device.respond, hmc, mcChannel_encode, mcIsRead_encode, mcAddress_encode, haddress,
    if_true]

/-- The device acknowledges DeviceOperate. -/
theorem Device.receive_deviceOperate (hK : K.Lawful) (d : Device μ) :
  d.receive A K config (deviceOperateMessage K) = (d, deviceReply K (A.flags d.memory) [] [])
  := by
  have hlength : ¬ (deviceOperateMessage K).length < M_SEQ_HEADER_LEN := by
    rw [deviceOperateMessage, hK.encodeType0Write_eq]
    simp [M_SEQ_HEADER_LEN]
  have hmc : (deviceOperateMessage K).getD 0 0
      = encodeMasterCommand false .page (UInt8.ofNat DPP1_OFF_MASTER_COMMAND) := by
    rw [deviceOperateMessage, hK.encodeType0Write_eq, List.getD_cons_zero]
  rw [Device.receive_type0 d hlength (isType0Frame_encodeType0Write hK _ _)]
  simp only [Device.respond, hmc, mcChannel_encode, mcIsRead_encode, Bool.false_eq_true, if_false]

/-- The device ignores what is no frame. -/
theorem Device.ignores {frames : List (List UInt8)} (d : Device μ)
    (h : ∀ frame ∈ frames, frame.length < M_SEQ_HEADER_LEN) :
  frames.foldl (fun r frame => r.1.receive A K config frame) (d, []) = (d, [])
  := by
  induction frames with
  | nil => rfl
  | cons frame frames ih =>
      have hframe : d.receive A K config frame = (d, []) := by
        rw [Device.receive, if_pos (h frame List.mem_cons_self)]
      rw [List.foldl_cons, hframe]
      apply ih
      intro frame' hframe'
      exact h frame' (List.mem_cons_of_mem _ hframe')

/-! ### Power-on -/

/-- A tick whose only frame is `frame`. -/
theorem System.tick_eq (K : Iolinki) (A : Application μ) (config : Config) {s : System μ}
    {frame : List UInt8} {r : Device μ × List UInt8}
    (hframes : framesSince s.world (tickEvent K (.quiet s.wire) s.world .cycleDue).1 = [frame])
    (hreceive : s.device.receive A K config frame = r) :
  s.tick K A config = ⟨(tickEvent K (.quiet s.wire) s.world .cycleDue).1, r.1, r.2⟩
  := by
  rw [System.tick, hframes, List.foldl_cons, List.foldl_nil, hreceive]

/-- The system while the answer to the test message is on the wire. -/
structure Found (K : Iolinki) (config : Config) (s : System μ) (m : μ) : Prop where
  starting : Starting config .startup .awaitResponse .zero none s.world.port
  drained : s.world.port.rx = []
  device : s.device = Device.fresh m
  wire : ∃ flags octet, flags &&& CKS_CHECKSUM_MASK = 0 ∧ s.wire = deviceReply K flags [octet] []

/-- The system while the acknowledge of DeviceOperate is on the wire. -/
structure Operated (K : Iolinki) (config : Config) (isdu : IsduState) (info : Option DeviceInfo)
    (s : System μ) (m : μ) : Prop where
  starting : Starting config .preoperate .awaitOperateAck isdu info s.world.port
  drained : s.world.port.rx = []
  memory : s.device.memory = m
  wire : ∃ flags, flags &&& CKS_CHECKSUM_MASK = 0 ∧ s.wire = deviceReply K flags [] []

/-- Wake-up and test message. -/
theorem powerOn_found (hK : K.Lawful) (hvalid : configRefused config = false)
    (hmode : config.portMode = .iolink) {phy : PhyApi} (hsend : phy.send = true)
    (hrecv : phy.recvByte = true) (m : μ) :
  Found K config ((System.tick K A config)^[2] (System.powerOn phy config m)) m
  := by
  obtain ⟨hstart, hrx⟩ := starting_started hvalid hmode hsend hrecv
  obtain ⟨hwoken, hrx₁, hshort⟩ := hstart.tick_wake (K := K) []
  have htick₁ : (System.powerOn phy config m).tick K A config
      = ⟨(tickEvent K (.quiet []) (started (.quiet []) phy config) .cycleDue).1, Device.fresh m,
          []⟩ := by
    rw [System.tick, System.powerOn]
    dsimp only
    rw [Device.ignores _ hshort]
  rw [Function.iterate_succ_apply, htick₁]
  generalize (tickEvent K (.quiet []) (started (.quiet []) phy config) .cycleDue).1 = w at *
  obtain ⟨htested, hrx₂, hframes⟩ := hwoken.tick_test hK []
  have htick₂ := System.tick_eq K A config (s := ⟨w, Device.fresh m, []⟩) hframes
    (Device.receive_test hK _)
  rw [Function.iterate_one, htick₂]
  exact ⟨htested, by rw [hrx₂, hrx₁, hrx], rfl, _, _, A.flags_masked m, rfl⟩

/-- A tick that writes DeviceOperate. -/
theorem Prepared.operated (hK : K.Lawful) {s : System μ}
    (h : Prepared K config s.wire isdu info s.world)
    (hnext : isduNext isdu (odLenForType config.mSeqType) = none) {isdu' : IsduState}
    {info' : Option DeviceInfo} (hvalidation : Validates config isdu info isdu' info') :
  Operated K config isdu' info' (s.tick K A config) s.device.memory
  := by
  obtain ⟨hoperates, hdrained, hframes⟩ := h.tick_operates hK hnext hvalidation
  rw [System.tick_eq K A config hframes (Device.receive_deviceOperate hK _)]
  exact ⟨hoperates, hdrained, rfl, _, A.flags_masked _, rfl⟩

/-- The tick after DeviceOperate. -/
theorem Operated.rests (hK : K.Lawful) (hvalid : configRefused config = false)
    (hfits : A.Fits config) {s : System μ} {m : μ} (h : Operated K config isdu info s m)
    (hcleared : Cleared isdu) :
  AtRest K config (s.tick K A config) m ∧ reportedInfo (s.tick K A config).world.port = info
  := by
  obtain ⟨hstarting, hdrained, rfl, flags, hflags, hwire⟩ := h
  exact hstarting.tick_operate hK hvalid hfits hflags hcleared hdrained hwire

/-- Without an inspection the port is in OPERATE after four ticks. -/
theorem powerOn_rests (hK : K.Lawful) (hvalid : configRefused config = false)
    (hmode : config.portMode = .iolink) (hchecks : startupValidationRequired config = false)
    (hfits : A.Fits config) {phy : PhyApi} (hsend : phy.send = true) (hrecv : phy.recvByte = true)
    (m : μ) :
  AtRest K config ((System.tick K A config)^[4] (System.powerOn phy config m)) m ∧
    reportedInfo ((System.tick K A config)^[4] (System.powerOn phy config m)).world.port = none
  := by
  obtain ⟨hstarting, hdrained, hdevice, flags, octet, hflags, hwire⟩ :=
    powerOn_found (A := A) hK hvalid hmode hsend hrecv m
  have hprepared := hstarting.poll_found hK hflags octet hdrained
  rw [← hwire] at hprepared
  have hvalidation : Validates config .zero none .zero none := by
    intro v hv
    have hnone : ¬ startupValidationRequired v.openSlot.port.config = true := by
      rw [v.openSlot_port, hv.configured, hchecks]
      exact Bool.false_ne_true
    exact ⟨v.openSlot, by rw [processValidation, if_neg hnone], hv, rfl⟩
  have hoperated := hprepared.operated (A := A) hK rfl hvalidation
  rw [hdevice] at hoperated
  rw [Function.iterate_succ_apply', Function.iterate_succ_apply']
  exact hoperated.rests hK hvalid hfits ⟨rfl, rfl, rfl, rfl⟩

end

end IolinkMaster
