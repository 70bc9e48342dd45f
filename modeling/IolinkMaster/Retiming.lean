import IolinkMaster.Steps

/-!
# Retiming

The times stored in a port are read by the tick engine only. Everything else a port
does is the same whatever these times are, and whatever has been observed before.
-/

namespace IolinkMaster

/-- The times stored in a port, and which of them are in force: the start of the last cycle, the
response deadline and the end of the send gate. -/
structure Stamps where
  cycleStart : UInt32
  cycleValid : Bool
  deadline : UInt32
  waiting : Bool
  gate : UInt32
  gateValid : Bool

namespace PortState

/-- The times stored in a port. -/
def stamps (p : PortState) : Stamps where
  cycleStart := p.lastCycleStart100us
  cycleValid := p.cycleTimerValid
  deadline := p.responseDeadline100us
  waiting := p.awaitingResponse
  gate := p.sendReadyAt100us
  gateValid := p.sendReadyValid

/-- The port with other times stored in it. It waits for a response if it did and the times say
so. -/
def retime (p : PortState) (t : Stamps) : PortState :=
  { p with
    lastCycleStart100us := t.cycleStart
    cycleTimerValid := t.cycleValid
    responseDeadline100us := t.deadline
    awaitingResponse := p.awaitingResponse && t.waiting
    sendReadyAt100us := t.gate
    sendReadyValid := t.gateValid }

section

variable (p : PortState) (t : Stamps)

@[simp] theorem retime_phy : (p.retime t).phy = p.phy := rfl
@[simp] theorem retime_config : (p.retime t).config = p.config := rfl
@[simp] theorem retime_state : (p.retime t).state = p.state := rfl
@[simp] theorem retime_odLen : (p.retime t).odLen = p.odLen := rfl
@[simp] theorem retime_pdIn : (p.retime t).pdIn = p.pdIn := rfl
@[simp] theorem retime_pdInLen : (p.retime t).pdInLen = p.pdInLen := rfl
@[simp] theorem retime_pdOut : (p.retime t).pdOut = p.pdOut := rfl
@[simp] theorem retime_pdOutLen : (p.retime t).pdOutLen = p.pdOutLen := rfl
@[simp] theorem retime_pdValid : (p.retime t).pdValid = p.pdValid := rfl
@[simp] theorem retime_startup : (p.retime t).startup = p.startup := rfl
@[simp] theorem retime_diagnostics : (p.retime t).diagnostics = p.diagnostics := rfl
@[simp] theorem retime_deviceInfo : (p.retime t).deviceInfo = p.deviceInfo := rfl
@[simp] theorem retime_isdu : (p.retime t).isdu = p.isdu := rfl
@[simp] theorem retime_event : (p.retime t).event = p.event := rfl
@[simp] theorem retime_block : (p.retime t).block = p.block := rfl
@[simp] theorem retime_rx : (p.retime t).rx = p.rx := rfl
@[simp] theorem retime_cycleCount : (p.retime t).cycleCount = p.cycleCount := rfl
@[simp] theorem retime_rxOdExpected : (p.retime t).rxOdExpected = p.rxOdExpected := rfl

end

end PortState

/-- The world after another past: with other times stored in its port and with older
observations. -/
def World.after (t : Stamps) (l : List Obs) (w : World) : World := ⟨w.port.retime t, w.log ++ l⟩

/-- The result of a call after another past. -/
def resultAfter {α : Type} (t : Stamps) (l : List Obs) (r : World × α) : World × α :=
  (r.1.after t l, r.2)

section

variable (t : Stamps) (l : List Obs) (w : World)

@[simp] theorem after_port : (w.after t l).port = w.port.retime t := rfl

/-- A choice between worlds, retimed. -/
@[simp]
theorem after_ite (c : Prop) [Decidable c] (v w : World) :
  (if c then v else w).after t l = if c then v.after t l else w.after t l
  := by
  apply apply_ite

/-- A choice between results, retimed. -/
@[simp]
theorem resultAfter_ite {α : Type} (c : Prop) [Decidable c] (r s : World × α) :
  resultAfter t l (if c then r else s) = if c then resultAfter t l r else resultAfter t l s
  := by
  apply apply_ite

/-- A pair of world and result, retimed. -/
@[simp]
theorem resultAfter_mk {α : Type} (a : α) :
  resultAfter t l (w, a) = (w.after t l, a)
  := rfl

/-! ### Services -/

/-- Latching a result does not look at the clock. -/
@[simp]
theorem serviceResult_retime (p : PortState) (ret : Int) :
  serviceResult (p.retime t) ret = (serviceResult p ret).retime t
  := by
  simp only [serviceResult]
  split
  · rfl
  · rfl

/-- Latching a result into the port. -/
theorem latch_after (ret : Int) :
  (w.after t l).put (serviceResult (w.after t l).port ret)
    = (w.put (serviceResult w.port ret)).after t l
  := by
  rw [after_port, serviceResult_retime]
  rfl

/-- Giving up a failed service does not look at the clock. -/
@[simp]
theorem isduFinishError_retime (p : PortState) :
  isduFinishError (p.retime t) = (isduFinishError p).retime t
  := by
  simp only [isduFinishError, ← serviceResult_retime]
  rfl

/-- Finalizing a read does not look at the clock. -/
@[simp]
theorem isduFinishRead_retime (p : PortState) (cap : UInt8) :
  isduFinishRead (p.retime t) cap = ((isduFinishRead p cap).1.retime t, (isduFinishRead p cap).2)
  := by
  simp only [isduFinishRead, isduFinishError_retime, serviceResult_retime, PortState.retime_isdu]
  split
  · rfl
  · split
    · rfl
    · simp only [← serviceResult_retime]
      rfl

/-- Finalizing a write does not look at the clock. -/
@[simp]
theorem isduFinishWrite_retime (p : PortState) :
  isduFinishWrite (p.retime t) = ((isduFinishWrite p).1.retime t, (isduFinishWrite p).2)
  := by
  simp only [isduFinishWrite, isduFinishError_retime, PortState.retime_isdu]
  split
  · rfl
  · simp only [← serviceResult_retime]
    rfl

/-- Collecting a service does not look at the clock. -/
@[simp]
theorem collect_after (p : PortState) :
  (w.after t l).collect (p.retime t) = (w.collect p).after t l
  := by
  simp only [World.collect, after_ite]
  rfl

/-- A call of `read_isdu` does the same at any time. -/
@[simp]
theorem readIsdu_after (index : UInt16) (subindex cap : UInt8) :
  readIsdu (w.after t l) index subindex cap = resultAfter t l (readIsdu w index subindex cap)
  := by
  simp only [readIsdu, after_port, isduFinishRead_retime, collect_after, resultAfter_ite]
  rfl

/-- A call of `write_isdu` does the same at any time. -/
@[simp]
theorem writeIsdu_after (index : UInt16) (subindex : UInt8) (data : List UInt8) :
  writeIsdu (w.after t l) index subindex data = resultAfter t l (writeIsdu w index subindex data)
  := by
  have hbody : writeIsduBody (w.after t l) index subindex data
      = resultAfter t l (writeIsduBody w index subindex data) := by
    simp only [writeIsduBody, after_port, isduFinishWrite_retime, collect_after, resultAfter_ite]
    rfl
  rw [writeIsdu, hbody]
  rfl

/-- Decoding the parameter page does not look at the clock. -/
@[simp]
theorem applyDirectParameterPage1_retime (p : PortState) (page : List UInt8) :
  applyDirectParameterPage1 (p.retime t) page
    = ((applyDirectParameterPage1 p page).1.retime t, (applyDirectParameterPage1 p page).2)
  := by
  simp only [applyDirectParameterPage1]
  split
  · rfl
  · rfl

/-- Reading the device information does the same at any time. -/
@[simp]
theorem readDeviceInfo_after :
  readDeviceInfo (w.after t l) = resultAfter t l (readDeviceInfo w)
  := by
  rw [readDeviceInfo, readDeviceInfo, readIsdu_after]
  obtain ⟨v, r⟩ := readIsdu w IDX_DIRECT_PARAMETERS_1 0 (UInt8.ofNat DPP1_LEN)
  have happly : applyDirectParameterPage1 ((v.after t l).emit (.page r.data)).port r.data
      = ((applyDirectParameterPage1 v.port r.data).1.retime t,
          (applyDirectParameterPage1 v.port r.data).2) :=
    applyDirectParameterPage1_retime t v.port r.data
  rw [resultAfter_ite, resultAfter_mk]
  dsimp only
  rw [happly, v.emit_port]
  obtain ⟨p, ret⟩ := applyDirectParameterPage1 v.port r.data
  rw [resultAfter_ite]
  rfl

/-- A comparison latches the same outcome at any time. -/
@[simp]
theorem verifyOutcome_after (ok : Bool) :
  verifyOutcome (w.after t l) ok = resultAfter t l (verifyOutcome w ok)
  := by
  simp only [verifyOutcome, after_port, serviceResult_retime]
  rfl

/-- Reading an index back does the same at any time. -/
@[simp]
theorem verifyIsdu_after (index : UInt16) (subindex : UInt8) (expected : List UInt8) :
  verifyIsdu (w.after t l) index subindex expected
    = resultAfter t l (verifyIsdu w index subindex expected)
  := by
  simp only [verifyIsdu, readIsdu_after]
  obtain ⟨v, r⟩ := readIsdu w index subindex 255
  simp only [resultAfter_mk, resultAfter_ite, verifyOutcome_after]

/-- Reading the Data Storage back does the same at any time. -/
@[simp]
theorem verifyDataStorage_after (expected : List UInt8) :
  verifyDataStorage (w.after t l) expected = resultAfter t l (verifyDataStorage w expected)
  := by
  simp only [verifyDataStorage, readIsdu_after]
  obtain ⟨v, r⟩ := readIsdu w IDX_DATA_STORAGE 0 255
  simp only [resultAfter_mk, resultAfter_ite, verifyOutcome_after]

/-- A step of the parameter block does the same at any time if its call and the rest do. -/
@[simp]
theorem blockStep_after {call rest : World → World × Int} (step next : BlockStep)
    (hcall : ∀ w, call (w.after t l) = resultAfter t l (call w))
    (hrest : ∀ w, rest (w.after t l) = resultAfter t l (rest w)) :
  blockStep (w.after t l) step next call rest = resultAfter t l (blockStep w step next call rest)
  := by
  simp only [blockStep, hcall, hrest, resultAfter_ite]
  obtain ⟨v, ret⟩ := call w
  have hset : blockSetStep (v.after t l) next = (blockSetStep v next).after t l := rfl
  simp only [resultAfter_mk, hset, hrest]
  rfl

/-- The readback of a parameter block. -/
theorem blockReadback_after (b : BlockState) :
  (if b.index = IDX_DATA_STORAGE ∧ b.subindex = 0 then verifyDataStorage (w.after t l) b.data
    else verifyIsdu (w.after t l) b.index b.subindex b.data)
    = resultAfter t l
        (if b.index = IDX_DATA_STORAGE ∧ b.subindex = 0 then verifyDataStorage w b.data
        else verifyIsdu w b.index b.subindex b.data)
  := by
  simp only [resultAfter_ite, verifyDataStorage_after, verifyIsdu_after]

/-- Verifying the parameter block does the same at any time. -/
@[simp]
theorem blockVerify_after :
  blockVerify (w.after t l) = resultAfter t l (blockVerify w)
  := by
  have hreadback := blockReadback_after t l w w.port.block
  rw [blockVerify, blockVerify]
  rw [show (w.after t l).port.block = w.port.block from rfl, hreadback]
  obtain ⟨v, ret⟩ := if w.port.block.index = IDX_DATA_STORAGE ∧ w.port.block.subindex = 0 then
      verifyDataStorage w w.port.block.data
    else verifyIsdu w w.port.block.index w.port.block.subindex w.port.block.data
  rw [resultAfter_mk]
  dsimp only
  split_ifs
  · exact congrArg (·, ret) (latch_after t l (v.put { v.port with block := .zero }) ret)
  · exact congrArg (·, ret) (latch_after t l v ret)

/-- Writing a parameter block does the same at any time. -/
@[simp]
theorem writeParameterBlock_after (index : UInt16) (subindex : UInt8) (data : List UInt8) :
  writeParameterBlock (w.after t l) index subindex data
    = resultAfter t l (writeParameterBlock w index subindex data)
  := by
  rw [writeParameterBlock, writeParameterBlock, resultAfter_ite, resultAfter_ite]
  rw [resultAfter_mk, resultAfter_mk, ← latch_after]
  rw [← blockStep_after, after_ite]
  · rfl
  · intro v
    apply writeIsdu_after
  · intro v
    apply blockStep_after
    · intro v
      apply writeIsdu_after
    · intro v
      apply blockStep_after
      · intro v
        apply writeIsdu_after
      · apply blockVerify_after

/-! ### Events -/

/-- A readout is started and consumed alike at any time if its consumer does not look at the
clock. -/
theorem eventService_after {consume : World → World} (request : EventReq)
    (hconsume : consume (w.after t l) = (consume w).after t l) :
  eventService (w.after t l) request consume = resultAfter t l (eventService w request consume)
  := by
  simp only [eventService, hconsume, resultAfter_ite]
  rfl

/-- What does not look at the clock can be repeated at any time. -/
theorem foldl_after {α : Type} {f : World → α → World}
    (hf : ∀ w a, f (w.after t l) a = (f w a).after t l) (as : List α) :
  as.foldl f (w.after t l) = (as.foldl f w).after t l
  := by
  induction as generalizing w with
  | nil => rfl
  | cons a as ih => rw [List.foldl_cons, List.foldl_cons, hf, ih]

/-- Reporting the first event does the same at any time. -/
theorem readEventCode_after :
  readEventCode (w.after t l) = resultAfter t l (readEventCode w)
  := by
  apply eventService_after
  rfl

/-- Confirming the events does the same at any time. -/
theorem ackEvent_after :
  ackEvent (w.after t l) = resultAfter t l (ackEvent w)
  := by
  apply eventService_after
  rfl

/-- Delivering the details of the events does the same at any time. -/
theorem readEventDetails_after (maxEvents : Nat) :
  readEventDetails (w.after t l) maxEvents = resultAfter t l (readEventDetails w maxEvents)
  := by
  apply eventService_after
  dsimp only
  rw [after_ite, ← foldl_after]
  · rfl
  · intro v e
    rfl

/-- Staging output process data does not look at the clock. -/
@[simp]
theorem setPdOut_retime (p : PortState) (data : List UInt8) :
  setPdOut (p.retime t) data = ((setPdOut p data).1.retime t, (setPdOut p data).2)
  := by
  rw [setPdOut, setPdOut]
  by_cases h : data.length > PD_OUT_MAX_SIZE ∨ data.length ≠ p.config.pdOutLen
  · rw [if_pos h]
    exact if_pos h
  · rw [if_neg h]
    exact if_neg h

/-- Every service call does the same at any time. -/
theorem serviceBody_after (call : Service) :
  serviceBody (w.after t l) call = resultAfter t l (serviceBody w call)
  := by
  cases call with
  | readIsdu | readDataStorage | readDetailedDeviceStatus =>
      simp only [serviceBody, readIsdu_after]
      rfl
  | readEventCode => apply readEventCode_after
  | ackEvent => apply ackEvent_after
  | setPdOut data =>
      simp only [serviceBody, after_port, setPdOut_retime]
      rfl
  | readDeviceInfo => apply readDeviceInfo_after
  | restoreDataStorage | writeParameterBlock => apply writeParameterBlock_after
  | verifyDataStorage => apply verifyDataStorage_after
  | verifyIsdu => apply verifyIsdu_after
  | readEventDetails => apply readEventDetails_after
  | _ => apply writeIsdu_after

/-- A service call and the record of its result are the same at any time. -/
@[simp]
theorem runService_after (call : Service) :
  runService (w.after t l) call = (runService w call).after t l
  := by
  simp only [runService, serviceBody_after]
  rfl

/-! ### Frames -/

variable (env : Env)

/-- Flushing the receive path does the same at any time. -/
@[simp]
theorem flushRx_after :
  flushRx env (w.after t l) = resultAfter t l (flushRx env w)
  := by
  simp only [flushRx, resultAfter_ite]
  rfl

/-- Sending a frame does the same at any time. -/
@[simp]
theorem sendFull_after (frame : List UInt8) :
  sendFull env (w.after t l) frame = resultAfter t l (sendFull env w frame)
  := by
  simp only [sendFull, resultAfter_ite]
  rfl

/-- A wake-up request does the same at any time. -/
@[simp]
theorem wakeUp_after :
  wakeUp env (w.after t l) = resultAfter t l (wakeUp env w)
  := by
  simp only [wakeUp, sendFull_after, resultAfter_ite]
  rfl

/-- Sending a frame of an encoder does the same at any time. -/
@[simp]
theorem sendFrame_after (frame : List UInt8) :
  sendFrame env (w.after t l) frame = resultAfter t l (sendFrame env w frame)
  := by
  simp only [sendFrame, sendFull_after, resultAfter_ite]
  rfl

variable (K : Iolinki)

/-- The same frame of the ISDU channel goes out at any time. -/
@[simp]
theorem sendIsdu_after :
  sendIsdu K env (w.after t l) = resultAfter t l (sendIsdu K env w)
  := by
  rw [sendIsdu_eq, sendIsdu_eq]
  dsimp only [after_port]
  rw [PortState.retime_isdu, PortState.retime_odLen]
  cases isduNext w.port.isdu w.port.odLen with
  | none => rfl
  | some next => exact sendFrame_after t l (w.putIsdu next.2) env (next.1.octets K w.port)

/-- The same frame of the diagnosis channel goes out at any time. -/
@[simp]
theorem sendEvent_after :
  sendEvent K env (w.after t l) = resultAfter t l (sendEvent K env w)
  := by
  rw [sendEvent, sendEvent]
  dsimp only [after_port]
  rw [PortState.retime_event]
  cases eventChannelAccess w.port.event with
  | none => rfl
  | some access =>
      obtain ⟨read, addr⟩ := access
      have hsent : (if eventFrame K (w.port.retime t) read addr = [] then (w.after t l, false)
          else sendFull env (w.after t l) (eventFrame K (w.port.retime t) read addr))
          = resultAfter t l (if eventFrame K w.port read addr = [] then (w, false)
            else sendFull env w (eventFrame K w.port read addr)) := by
        rw [resultAfter_ite, ← sendFull_after]
        rfl
      dsimp only
      rw [hsent]
      obtain ⟨v, onWire⟩ := if eventFrame K w.port read addr = [] then (w, false)
        else sendFull env w (eventFrame K w.port read addr)
      cases onWire with
      | false =>
          cases read with
          | false => rfl
          | true => rfl
      | true =>
          cases read with
          | false => rfl
          | true => rfl

/-- Writing DeviceOperate does the same at any time. -/
@[simp]
theorem processDeviceOperate_after :
  processDeviceOperate K env (w.after t l) = (processDeviceOperate K env w).after t l
  := by
  rw [processDeviceOperate, processDeviceOperate]
  dsimp only
  rw [after_ite, sendFull_after]
  obtain ⟨v, onWire⟩ := sendFull env w (deviceOperateMessage K)
  cases onWire with
  | false => rfl
  | true => rfl

/-- Checking the device information does the same at any time. -/
@[simp]
theorem processValidation_after :
  processValidation (w.after t l) = resultAfter t l (processValidation w)
  := by
  have hread : (if (w.after t l).port.deviceInfo.valid then (w.after t l, STATUS_OK)
      else readDeviceInfo (w.after t l))
      = resultAfter t l (if w.port.deviceInfo.valid then (w, STATUS_OK) else readDeviceInfo w) := by
    rw [resultAfter_ite, ← readDeviceInfo_after]
    rfl
  rw [processValidation, processValidation, resultAfter_ite, hread]
  obtain ⟨v, ret⟩ := if w.port.deviceInfo.valid then (w, STATUS_OK) else readDeviceInfo w
  rw [resultAfter_mk]
  dsimp only
  rw [resultAfter_ite, resultAfter_ite, resultAfter_ite]
  rfl

/-- A slot in PREOPERATE does the same at any time. -/
@[simp]
theorem processPreoperate_after :
  processPreoperate K env (w.after t l) = (processPreoperate K env w).after t l
  := by
  rw [processPreoperate, processPreoperate, sendEvent_after]
  obtain ⟨v, sent⟩ := sendEvent K env w
  cases sent with
  | true => rfl
  | false =>
      rw [resultAfter_mk]
      dsimp only
      rw [sendIsdu_after]
      obtain ⟨v, sent⟩ := sendIsdu K env v
      cases sent with
      | true => rfl
      | false =>
          rw [resultAfter_mk]
          dsimp only
          rw [processValidation_after]
          obtain ⟨v, goOn⟩ := processValidation v
          cases goOn with
          | true => apply processDeviceOperate_after
          | false => rfl

/-- The frame of a cycle goes out, and the cycle is counted. -/
theorem sendCycle_after (frame : List UInt8) :
  (if frame = [] then w.after t l
    else if (sendFull env (w.after t l) frame).2 then
      (sendFull env (w.after t l) frame).1.put
        (countCycle (sendFull env (w.after t l) frame).1.port)
    else (sendFull env (w.after t l) frame).1)
    = (if frame = [] then w
      else if (sendFull env w frame).2 then
        (sendFull env w frame).1.put (countCycle (sendFull env w frame).1.port)
      else (sendFull env w frame).1).after t l
  := by
  rw [sendFull_after, after_ite, after_ite]
  rfl

/-- The same cyclic frame goes out at any time. -/
@[simp]
theorem processCyclic_after :
  processCyclic K env (w.after t l) = (processCyclic K env w).after t l
  := by
  let fill := isduFillOd w.port.isdu (if type0Operate w.port then 1 else w.port.odLen)
  exact sendCycle_after t l (w.putIsdu fill.2) env
    (if type0Operate w.port then type0CyclicFrame K fill.1 else cyclicFrame K w.port fill.1)

/-- A slot in OPERATE does the same at any time. -/
@[simp]
theorem processOperate_after :
  processOperate K env (w.after t l) = (processOperate K env w).after t l
  := by
  rw [processOperate, processOperate, sendEvent_after]
  obtain ⟨v, sent⟩ := sendEvent K env w
  cases sent with
  | true => rfl
  | false =>
      rw [resultAfter_mk]
      dsimp only
      rw [sendIsdu_after]
      obtain ⟨v, sent⟩ := sendIsdu K env v
      cases sent with
      | true => rfl
      | false => apply processCyclic_after

/-! ### Replies -/

/-- On-request data are routed alike at any time. -/
@[simp]
theorem routeOd_after (od : List UInt8) :
  routeOd (w.after t l) od = (routeOd w od).after t l
  := by
  rw [routeOd, routeOd]
  rw [show (w.after t l).port.event = w.port.event from rfl]
  cases eventChannelAccess w.port.event with
  | none =>
      simp only [World.after, List.append_assoc]
      rfl
  | some access =>
      dsimp only
      rw [after_ite]
      rfl

/-- Resetting the rate scan does the same at any time. -/
@[simp]
theorem resetRateScan_after :
  resetRateScan env (w.after t l) = resultAfter t l (resetRateScan env w)
  := by
  rw [resetRateScan, resetRateScan, resultAfter_ite]
  rfl

/-- The world after communication has been given up, before the rate scan starts again. -/
def World.lost (w : World) : World :=
  ⟨comlostPort w.port, .enter .startup :: comlostObs w.port :: w.log⟩

/-- Restarting communication, by the rate scan and the startup gate it ends with. -/
theorem restartEstablish_lost (now : UInt32) (timed : Bool) :
  restartEstablish env w now timed
    = initStep (resetRateScan env w.lost) fun w =>
        (w.put (armSendGate w.port now (tDwu100us w.port) timed), STATUS_PENDING)
  := rfl

/-- A step of the initialization does the same at any time if the rest does. -/
@[simp]
theorem initStep_after (r : World × Int) {rest : World → World × Int}
    (hrest : ∀ w, rest (w.after t l) = resultAfter t l (rest w)) :
  initStep (resultAfter t l r) rest = resultAfter t l (initStep r rest)
  := by
  rw [initStep, initStep, resultAfter_ite, ← hrest]
  rfl

/-- Communication that is given up for want of retries opens no send gate. -/
theorem restartEstablish_after (now : UInt32) :
  restartEstablish env (w.after t l) now false
    = resultAfter t l (restartEstablish env w now false)
  := by
  have hscan : resetRateScan env (w.after t l).lost
      = resultAfter t l (resetRateScan env w.lost) := resetRateScan_after t l w.lost env
  rw [restartEstablish_lost, restartEstablish_lost, hscan, initStep_after]
  intro v
  rfl

/-- Rejecting a reply without a clock does the same at any time. -/
@[simp]
theorem replyRejected_after (data : List UInt8) :
  replyRejected env (w.after t l) data = resultAfter t l (replyRejected env w data)
  := by
  have hrestart :
      restartEstablish env
        (countChecksumError ((w.after t l).emit (.reject (w.after t l).port.state data))) 0 false
      = resultAfter t l
          (restartEstablish env (countChecksumError (w.emit (.reject w.port.state data))) 0 false) :=
    restartEstablish_after t l (countChecksumError (w.emit (.reject w.port.state data))) env 0
  rw [replyRejected, replyRejected]
  dsimp only
  rw [hrestart, resultAfter_ite]
  rfl

/-- The answer to a test message is judged alike at any time. -/
theorem onRxStartup_after (data : List UInt8) :
  onRxStartup K (w.after t l) data = resultAfter t l (onRxStartup K w data)
  := by
  simp only [onRxStartup, resultAfter_ite]
  rfl

/-- The acknowledge of DeviceOperate is judged alike at any time. -/
theorem onRxOperateAck_after (data : List UInt8) :
  onRxOperateAck K env (w.after t l) data = resultAfter t l (onRxOperateAck K env w data)
  := by
  simp only [onRxOperateAck, resultAfter_ite, replyRejected_after]
  rfl

/-- A TYPE_0 reply is judged alike at any time. -/
theorem onRxType0_after (data : List UInt8) :
  onRxType0 K env (w.after t l) data = resultAfter t l (onRxType0 K env w data)
  := by
  simp only [onRxType0, resultAfter_ite, replyRejected_after, resultAfter_mk, ← routeOd_after]
  rfl

/-- The handler of the Event flag is called alike at any time. -/
@[simp]
theorem notifyEventPending_after (raised : Bool) (handler : List Service) :
  notifyEventPending (w.after t l) raised handler
    = (notifyEventPending w raised handler).after t l
  := by
  have hcalls : (if raised && !(w.after t l).port.diagnostics.eventPending &&
        (w.after t l).port.config.eventPendingHandler then
        handler.foldl runService ((w.after t l).emit .eventPending)
      else w.after t l)
      = (if raised && !w.port.diagnostics.eventPending && w.port.config.eventPendingHandler then
          handler.foldl runService (w.emit .eventPending)
        else w).after t l := by
    rw [after_ite, ← foldl_after]
    · rfl
    · apply runService_after
  rw [notifyEventPending, notifyEventPending, hcalls]
  rfl

/-- Process data is taken over, and on-request data is handed on. -/
theorem deliver_after (r : OperateResponse) :
  routeOd ((w.after t l).put (takePdIn (w.after t l).port r)) r.od
    = (routeOd (w.put (takePdIn w.port r)) r.od).after t l
  := by
  have htake : takePdIn (w.port.retime t) r = (takePdIn w.port r).retime t := by
    rw [takePdIn, takePdIn]
    split
    · rfl
    · rfl
  rw [← routeOd_after, after_port, htake]
  rfl

/-- A reply of OPERATE is judged alike at any time. -/
theorem onRxOperate_after (data : List UInt8) (handler : List Service) :
  onRxOperate K env (w.after t l) data handler
    = resultAfter t l (onRxOperate K env w data handler)
  := by
  have hdecode : K.decodeOperateResponse data (w.after t l).port.config.pdInLen
        (if (w.after t l).port.rxOdExpected then (w.after t l).port.odLen else 0)
      = K.decodeOperateResponse data w.port.config.pdInLen
          (if w.port.rxOdExpected then w.port.odLen else 0) := rfl
  rw [onRxOperate, onRxOperate, hdecode]
  cases K.decodeOperateResponse data w.port.config.pdInLen
      (if w.port.rxOdExpected then w.port.odLen else 0) with
  | none => rfl
  | some r =>
      let v := replyAccepted w data (some r.od)
      let u := v.put
        { v.port with diagnostics := { v.port.diagnostics with odStatus := r.status } }
      have hdeliver := congrArg (fun u => routeOd (u.put (takePdIn u.port r)) r.od)
        (notifyEventPending_after t l u r.eventPending handler)
      dsimp only
      rw [resultAfter_ite, ← replyRejected_after]
      refine ite_congr rfl (fun _ => rfl) fun _ => ?_
      exact congrArg (·, STATUS_OK) (hdeliver.trans (deliver_after t l _ r))

/-- Every reply is judged alike at any time. -/
@[simp]
theorem onRx_after (data : List UInt8) (handler : List Service) :
  onRx K env (w.after t l) data handler = resultAfter t l (onRx K env w data handler)
  := by
  simp only [onRx, resultAfter_ite, ← onRxStartup_after, ← onRxOperateAck_after,
    ← onRxType0_after, ← onRxOperate_after]
  rfl

/-- The octets received are assembled alike at any time. -/
@[simp]
theorem pollLoop_after (expected frames : Nat) (octets : List (UInt8 × List Service)) :
  pollLoop K env expected (w.after t l) frames octets
    = resultAfter t l (pollLoop K env expected w frames octets)
  := by
  induction octets generalizing w frames with
  | nil =>
      rw [pollLoop, pollLoop, resultAfter_ite]
      rfl
  | cons octet octets ih =>
      obtain ⟨byte, handler⟩ := octet
      let v := (w.emit (.recv byte)).put { w.port with rx := w.port.rx ++ [byte] }
      have hjudge : onRx K env (v.after t l) v.port.rx handler
          = resultAfter t l (onRx K env v v.port.rx handler) := onRx_after t l v env K _ handler
      let next := fun r : World × Int =>
        let u := r.1.put { r.1.port with rx := [] }
        if r.2 ≠ 0 then (u, r.2) else pollLoop K env expected u (frames + 1) octets
      have hnext : ∀ r, next (resultAfter t l r) = resultAfter t l (next r) := by
        intro r
        dsimp only [next]
        rw [resultAfter_ite, ← ih]
        rfl
      rw [pollLoop, pollLoop]
      dsimp only
      rw [resultAfter_ite, resultAfter_ite]
      refine ite_congr rfl (fun _ => rfl) fun _ => ?_
      refine ite_congr rfl (fun _ => ?_) fun _ => ih v frames
      exact (congrArg next hjudge).trans (hnext _)

/-- Polling the PHY does the same at any time. -/
@[simp]
theorem pollRx_after :
  pollRx K env (w.after t l) = resultAfter t l (pollRx K env w)
  := by
  rw [pollRx, pollRx, resultAfter_ite]
  rw [show expectedLen (w.after t l).port = expectedLen w.port from rfl]
  cases expectedLen w.port with
  | none => rfl
  | some expected =>
      dsimp only
      rw [← pollLoop_after]
      rfl

end

/-! ### The send gate -/

/-- The send gate is armed `delay` after `now`, if there is a delay. -/
def Stamps.gateAt (t : Stamps) (now : UInt32) : Option UInt32 → Stamps
  | none => t
  | some delay => { t with gate := now + delay, gateValid := true }

/-- What the timed call does is what the untimed call does, but for the send gate. -/
def ArmsGate (f : UInt32 → Bool → World → World × Int) (w : World) : Prop :=
  ∃ delay, ∀ t l now, f now true (w.after t l) = resultAfter (t.gateAt now delay) l (f 0 false w)

section

variable {f g : UInt32 → Bool → World → World × Int} {w : World}

/-- Arming the startup gate by a delay that does not look at the clock. -/
theorem ArmsGate.arm {d : PortState → UInt32} (hd : ∀ t p, d (PortState.retime p t) = d p)
    (ret : Int) (w : World) :
  ArmsGate (fun now timed w => (w.put (armSendGate w.port now (d w.port) timed), ret)) w
  := by
  use some (d w.port)
  intro t l now
  dsimp only
  rw [after_port, hd]
  rfl

/-- What arms the gate after a step that does not look at the clock. -/
theorem ArmsGate.after {h : World → World} (hh : ∀ t l w, h (w.after t l) = (h w).after t l)
    (hf : ArmsGate f (h w)) :
  ArmsGate (fun now timed w => f now timed (h w)) w
  := by
  obtain ⟨delay, hf⟩ := hf
  use delay
  intro t l now
  dsimp only
  rw [hh, hf]

/-- Entering a step of the startup sequence before the gate is armed. -/
theorem ArmsGate.armStep {d : PortState → UInt32} (hd : ∀ t p, d (PortState.retime p t) = d p)
    (step : StartupStep) (ret : Int) (w : World) :
  ArmsGate (fun now timed w => ((w.setStep step).put
    (armSendGate (w.setStep step).port now (d (w.setStep step).port) timed), ret)) w
  := by
  apply ArmsGate.after (h := fun w => w.setStep step)
    (f := fun now timed w => (w.put (armSendGate w.port now (d w.port) timed), ret))
  · intro t l w
    rfl
  · apply ArmsGate.arm hd

/-- A choice that does not look at the clock between two ways to arm the gate. -/
theorem ArmsGate.ite {c : World → Prop} [DecidablePred c] (hc : ∀ t l w, c (w.after t l) ↔ c w)
    (hf : ArmsGate f w) (hg : ArmsGate g w) :
  ArmsGate (fun now timed w => if c w then f now timed w else g now timed w) w
  := by
  by_cases h : c w
  · obtain ⟨delay, hf⟩ := hf
    use delay
    intro t l now
    dsimp only
    rw [if_pos h, if_pos ((hc t l w).mpr h), hf]
  · obtain ⟨delay, hg⟩ := hg
    use delay
    intro t l now
    dsimp only
    rw [if_neg h, if_neg (mt (hc t l w).mp h), hg]

/-- A step of the initialization before the gate is armed. -/
theorem ArmsGate.step {h : World → World × Int}
    (hh : ∀ t l w, h (w.after t l) = resultAfter t l (h w)) (hf : ∀ w, ArmsGate f w) (w : World) :
  ArmsGate (fun now timed w => initStep (h w) (f now timed)) w
  := by
  rcases hr : h w with ⟨v, ret⟩
  by_cases hret : ret ≠ STATUS_OK
  · use none
    intro t l now
    dsimp only
    rw [hh, hr, initStep, initStep, resultAfter_mk, if_pos hret, if_pos hret]
    rfl
  · obtain ⟨delay, hf⟩ := hf v
    use delay
    intro t l now
    dsimp only
    rw [hh, hr, initStep, initStep, resultAfter_mk, if_neg hret, if_neg hret, hf]

variable (env : Env)

/-- A restart of communication depends on the time in the send gate only. -/
theorem restartEstablish_gate (w : World) :
  ArmsGate (fun now timed w => restartEstablish env w now timed) w
  := by
  apply ArmsGate.step (h := fun w => resetRateScan env w.lost)
    (f := fun now timed w =>
      (w.put (armSendGate w.port now (tDwu100us w.port) timed), STATUS_PENDING))
  · intro t l w
    exact resetRateScan_after t l w.lost env
  · intro w
    apply ArmsGate.arm
    intro t p
    rfl

/-- Go on with the next rate. -/
def nextRate (now : UInt32) (timed : Bool) (w : World) : World × Int :=
  initStep (setBaudrate env w (startupBaudrate w.port)) fun w =>
    let w := w.setStep .sendType0
    (w.put (armSendGate w.port now (tDmt100us w.port (startupBaudrate w.port)) timed),
      STATUS_PENDING)

/-- Go on with the next sequence of wake-ups. -/
def nextSequence (now : UInt32) (timed : Bool) (w : World) : World × Int :=
  initStep (setMode env w .inactive) fun w =>
    let w := w.setStep .inactive
    (w.put (armSendGate w.port now (tSd100us w.port) timed), ERR_RETRY_LIMIT)

/-- Go on with the next wake-up. -/
def nextWake (now : UInt32) (timed : Bool) (w : World) : World × Int :=
  initStep (resetRateScan env w) fun w =>
    if w.port.startup.wakeAttempts ≤ wakeRetryLimit w.port then
      let w := w.setStep .wake
      (w.put (armSendGate w.port now (tDwu100us w.port) timed), STATUS_PENDING)
    else
      nextSequence env now timed
        (w.put { w.port with
          startup := { w.port.startup with wakeAttempts := 0 }
          diagnostics :=
            { w.port.diagnostics with
              establishFailures := w.port.diagnostics.establishFailures + 1 } })

/-- The exchange is over, and the scan goes on. -/
def World.scanOn (w : World) : World :=
  w.put { w.port with
    awaitingResponse := false
    startup := { w.port.startup with baudrateIndex := w.port.startup.baudrateIndex + 1 } }

/-- The exchange is over, and the wake-up has failed. -/
def World.countWake (w : World) : World :=
  w.put { w.port with
    awaitingResponse := false
    startup := { w.port.startup with wakeAttempts := w.port.startup.wakeAttempts + 1 } }

/-- A failed attempt goes on with the next rate or with the next wake-up. -/
theorem establishAttemptFailed_branches :
  (fun now timed w => establishAttemptFailed env w now timed)
    = fun now timed w =>
        if w.port.config.autoBaudrate && decide (w.port.startup.baudrateIndex < 2) then
          nextRate env now timed w.scanOn
        else nextWake env now timed w.countWake
  := rfl

/-- Going on with the next rate arms the gate. -/
theorem nextRate_gate (w : World) :
  ArmsGate (nextRate env) w
  := by
  apply ArmsGate.step (h := fun w => setBaudrate env w (startupBaudrate w.port))
  · intro t l w
    rfl
  · intro w
    exact ArmsGate.armStep (d := fun p => tDmt100us p (startupBaudrate p)) (fun _ _ => rfl)
      .sendType0 STATUS_PENDING w

/-- Going on with the next sequence arms the gate. -/
theorem nextSequence_gate (w : World) :
  ArmsGate (nextSequence env) w
  := by
  apply ArmsGate.step (h := fun w => setMode env w .inactive)
  · intro t l w
    rfl
  · intro w
    exact ArmsGate.armStep (fun _ _ => rfl) .inactive ERR_RETRY_LIMIT w

/-- Going on with the next wake-up arms the gate. -/
theorem nextWake_gate (w : World) :
  ArmsGate (nextWake env) w
  := by
  apply ArmsGate.step (h := fun w => resetRateScan env w)
  · intro t l w
    apply resetRateScan_after
  · intro w
    apply ArmsGate.ite (c := fun w => w.port.startup.wakeAttempts ≤ wakeRetryLimit w.port)
    · intro t l w
      rfl
    · exact ArmsGate.armStep (fun _ _ => rfl) .wake STATUS_PENDING w
    · apply ArmsGate.after (h := fun w => w.put { w.port with
        startup := { w.port.startup with wakeAttempts := 0 }
        diagnostics :=
          { w.port.diagnostics with
            establishFailures := w.port.diagnostics.establishFailures + 1 } })
      · intro t l w
        rfl
      · apply nextSequence_gate

/-- A failed test message depends on the time in the send gate only. -/
theorem establishAttemptFailed_gate (w : World) :
  ArmsGate (fun now timed w => establishAttemptFailed env w now timed) w
  := by
  rw [establishAttemptFailed_branches]
  apply ArmsGate.ite
  · intro t l w
    rfl
  · apply ArmsGate.after (h := World.scanOn)
    · intro t l w
      rfl
    · apply nextRate_gate
  · apply ArmsGate.after (h := World.countWake)
    · intro t l w
      rfl
    · apply nextWake_gate

/-- Count a failed M-sequence. -/
def World.countTimeout (w : World) : World :=
  w.put { w.port with diagnostics :=
    { w.port.diagnostics with responseTimeouts := w.port.diagnostics.responseTimeouts + 1 } }

/-- Count a failed M-sequence that is repeated. -/
def World.retry (w : World) : World :=
  w.countTimeout.put { w.countTimeout.port with diagnostics :=
    { w.countTimeout.port.diagnostics with
      rxRetryCount := w.port.diagnostics.rxRetryCount + 1 } }

/-- A failed M-sequence is repeated, or communication is given up. -/
theorem operateTimeout_retry :
  (fun now timed w => operateTimeout env w now timed)
    = fun now timed w =>
        if w.port.diagnostics.rxRetryCount < RX_RETRY_LIMIT then (w.retry, STATUS_PENDING)
        else restartEstablish env w.countTimeout now timed
  := rfl

/-- A response timeout of OPERATE depends on the time in the send gate only. -/
theorem operateTimeout_gate (w : World) :
  ArmsGate (fun now timed w => operateTimeout env w now timed) w
  := by
  rw [operateTimeout_retry]
  apply ArmsGate.ite
  · intro t l w
    rfl
  · use none
    intro t l now
    rfl
  · apply ArmsGate.after (h := World.countTimeout)
      (f := fun now timed w => restartEstablish env w now timed)
    · intro t l w
      rfl
    · apply restartEstablish_gate

/-- The wake-up request depends on the time in the send gate only. -/
theorem processWake_gate (w : World) :
  ArmsGate (fun now timed w => (processWake env w now timed, STATUS_OK)) w
  := by
  rcases hr : wakeUp env w with ⟨v, woken⟩
  cases woken with
  | false =>
      use none
      intro t l now
      dsimp only
      rw [processWake, processWake, wakeUp_after, hr]
      rfl
  | true =>
      obtain ⟨delay, harm⟩ := ArmsGate.armStep
        (d := fun p => 5 + tDmt100us p (startupBaudrate p)) (fun _ _ => rfl) .sendType0 STATUS_OK v
      use delay
      intro t l now
      dsimp only
      rw [processWake, processWake, wakeUp_after, hr]
      exact harm t l now

end

end IolinkMaster
