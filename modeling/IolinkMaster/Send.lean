import IolinkMaster.Services

/-!
# Sending

The timing of the port, the frames it puts on the wire and the state machine that
chooses among them.
-/

namespace IolinkMaster

/-! ### Timing -/

/-- The number of times a 32-bit clock can show. -/
def CLOCK_RANGE : Nat := 4294967296

/-- The test message rates, in the order they are tried. -/
def baudrateScan : List Baudrate := [.com3, .com2, .com1]

/-- The rate of the current test message. -/
def startupBaudrate (p : PortState) : Baudrate :=
  if p.config.autoBaudrate then baudrateScan.getD p.startup.baudrateIndex .com3
  else p.config.baudrate

/-- Bit time in nanoseconds. -/
def tBitNs : Baudrate → Nat
  | .com1 => 208330
  | .com2 => 26040
  | .com3 => 4340

/-- Bit times to units of 100 µs, rounded up. -/
def tbitTo100us (rate : Baudrate) (tBit : Nat) : UInt32 :=
  UInt32.ofNat ((tBitNs rate * tBit + 100000 - 1) / 100000)

/-- The configured response timeout, at least one UART frame and the response delay. -/
def responseTimeout100us (p : PortState) : UInt32 :=
  let frame := tbitTo100us (startupBaudrate p) (11 + 10)
  let configured := p.config.responseTimeout100us.toUInt32
  let configured := if configured < frame then frame else configured
  if configured = 0 then 1 else configured

/-- The master message delay in units of 100 µs. -/
def tDmt100us (p : PortState) (rate : Baudrate) : UInt32 :=
  tbitTo100us rate (if p.config.tDmtTbit = 0 then 32 else p.config.tDmtTbit.toNat)

/-- The answer window of a startup test message. -/
def testMessageTimeout100us (p : PortState) : UInt32 :=
  let window := tbitTo100us (startupBaudrate p) 58
  let configured := p.config.responseTimeout100us.toUInt32
  let window := if configured > window then configured else window
  if window = 0 then 1 else window

/-- Effective number of wake-up retries. -/
def wakeRetryLimit (p : PortState) : UInt8 :=
  if p.config.wakeRetryLimit = 0 then 2 else p.config.wakeRetryLimit

/-- Effective wake-up retry delay. -/
def tDwu100us (p : PortState) : UInt32 :=
  if p.config.tDwu100us = 0 then 400 else p.config.tDwu100us

/-- Effective spacing of wake-up sequences. -/
def tSd100us (p : PortState) : UInt32 :=
  if p.config.tSd100us = 0 then 5000 else p.config.tSd100us

/-- Hold the next startup transmission until `delay` after `now`. -/
def armSendGate (p : PortState) (now delay : UInt32) (timed : Bool) : PortState :=
  if timed then { p with sendReadyAt100us := now + delay, sendReadyValid := true } else p

/-- The cycle timer paces the port. -/
def cyclePaced (p : PortState) : Bool :=
  p.state == .operate && p.config.minCycleTime != 0 && p.cycleTimerValid

/-- A new cycle is due. -/
def cycleDueAt (p : PortState) (now : UInt32) : Bool :=
  !cyclePaced p || decide (now - p.lastCycleStart100us ≥ p.config.minCycleTime.toUInt32)

/-- The current cycle overran the minimum cycle time. -/
def cycleSlippedAt (p : PortState) (now : UInt32) : Bool :=
  cyclePaced p && decide (now - p.lastCycleStart100us > p.config.minCycleTime.toUInt32)

/-- The time elapsed beyond the minimum cycle time. -/
def cycleJitterAt (p : PortState) (now : UInt32) : UInt32 :=
  let elapsed := now - p.lastCycleStart100us
  if !cyclePaced p then 0
  else if elapsed ≤ p.config.minCycleTime.toUInt32 then 0
  else elapsed - p.config.minCycleTime.toUInt32

/-- The response deadline has elapsed. -/
def responseDueAt (p : PortState) (now : UInt32) : Bool :=
  p.awaitingResponse && decide (now ≥ p.responseDeadline100us)

/-! ### The physical layer -/

/-- Set the line mode through the checked callback, if there is one. -/
def setMode (env : Env) (w : World) (mode : PhyMode) : World × Int :=
  (w.emit (.setMode mode), if w.port.config.setModeChecked then env.setMode else STATUS_OK)

/-- Set the rate through the checked callback, if there is one. -/
def setBaudrate (env : Env) (w : World) (rate : Baudrate) : World × Int :=
  (w.emit (.setBaudrate rate),
    if w.port.config.setBaudrateChecked then env.setBaudrate else STATUS_OK)

/-- Drop the buffered octets and flush the receive path. -/
def flushRx (env : Env) (w : World) : World × Int :=
  let w := w.put { w.port with rx := [] }
  if w.port.config.flushRx then (w.emit .flushRx, env.flushRx) else (w, STATUS_OK)

/-- A transmission failed: count it and latch the error state. -/
def sendFailed (w : World) : World :=
  (w.put { w.port with
    diagnostics :=
      { w.port.diagnostics with sendErrors := w.port.diagnostics.sendErrors + 1 } }).enter .error

/-- Send a full frame with the prepare hooks.  The direction of a frame that went out
is recorded for the framing of its reply. -/
def sendFull (env : Env) (w : World) (frame : List UInt8) : World × Bool :=
  if w.port.config.prepareTx && env.prepareTx != STATUS_OK then (sendFailed w, false)
  else
    let w := w.emit (.sent w.port.state frame)
    if w.port.config.prepareRx && env.prepareRx != STATUS_OK then (sendFailed w, false)
    else if env.send frame = frame.length then
      (w.put { w.port with rxOdExpected := mcIsRead (frame.getD 0 0) }, true)
    else (sendFailed w, false)

def WAKEUP_BYTE : UInt8 := 0x55

/-- Issue the wake-up request. -/
def wakeUp (env : Env) (w : World) : World × Bool :=
  if !w.port.config.wakeUp then sendFull env w [WAKEUP_BYTE]
  else
    let w := w.emit .wakeUp
    if env.wakeUp = STATUS_OK then (w, true) else (sendFailed w, false)

/-! ### Frames -/

variable (K : Iolinki)

/-- A master message: the checksum is taken with the type bits of the CKT octet in
place and its checksum bits zero. -/
def message (mc ckt : UInt8) (body : List UInt8) : List UInt8 :=
  mc :: (ckt ||| K.checksum6 (mc :: ckt :: body)) :: body

/-- The process data of an outgoing message. -/
def pdOutOctets (p : PortState) : List UInt8 := p.pdOut.take p.pdOutLen

/-- Build one ISDU request frame; `od` is absent in a read. -/
def buildIsduFrame (p : PortState) (mc : UInt8) (od : Option (List UInt8)) (multi : Bool) :
    List UInt8 :=
  if !multi then
    match od with
    | none => K.encodeType0 mc
    | some od => message K mc 0x00 od
  else message K mc (cktTypeBits p.config.mSeqType) (pdOutOctets p ++ od.getD [])

/-- Send a frame unless its encoder failed; report whether there was one. -/
def sendFrame (env : Env) (w : World) (frame : List UInt8) : World × Bool :=
  if frame = [] then (w, false) else ((sendFull env w frame).1, true)

/-- Replace the ISDU state. -/
def World.putIsdu (w : World) (s : IsduState) : World := w.put { w.port with isdu := s }

/-- Replace the event state. -/
def World.putEvent (w : World) (e : EventState) : World := w.put { w.port with event := e }

/-- ISDU frames use the configured M-sequence type. -/
def isduMulti (p : PortState) : Bool := p.state == .operate && p.config.mSeqType != .type0

/-- Send a read on the ISDU channel with the given FlowCTRL. -/
def sendIsduRead (env : Env) (w : World) (flowctrl : UInt8) : World × Bool :=
  sendFrame env w
    (buildIsduFrame K w.port (encodeMasterCommand true .isdu flowctrl) none (isduMulti w.port))

/-- Send one M-sequence on the ISDU channel if a service needs one. -/
def sendIsdu (env : Env) (w : World) : World × Bool :=
  let (abort, s) := isduTakeAbort w.port.isdu
  if abort then sendIsduRead K env (w.putIsdu s) FLOWCTRL_ABORT
  else
    let (idle, s) := isduTakeIdle w.port.isdu
    if idle then sendIsduRead K env (w.putIsdu s) FLOWCTRL_IDLE
    else
      match isduChannelAccess w.port.isdu with
      | none => (w, false)
      | some (read, flowctrl) =>
        let (od, s) := isduFillOd w.port.isdu w.port.odLen
        let w := w.putIsdu s
        if read then sendIsduRead K env w flowctrl
        else
          sendFrame env w
            (buildIsduFrame K w.port (encodeMasterCommand false .isdu flowctrl) (some od)
              (isduMulti w.port))

/-- The frame of one diagnosis M-sequence. -/
def eventFrame (p : PortState) (read : Bool) (addr : Nat) : List UInt8 :=
  let mc := encodeMasterCommand read .diagnosis (UInt8.ofNat addr)
  if p.config.mSeqType = .type0 then
    if read then K.encodeType0 mc else K.encodeType0Write mc 0x00
  else
    message K mc (cktTypeBits p.config.mSeqType)
      (pdOutOctets p ++ if read then [] else List.replicate p.odLen 0)

/-- Send one M-sequence on the diagnosis channel if a readout is active. -/
def sendEvent (env : Env) (w : World) : World × Bool :=
  match eventChannelAccess w.port.event with
  | none => (w, false)
  | some (read, addr) =>
    let frame := eventFrame K w.port read addr
    let (w, onWire) := if frame = [] then (w, false) else sendFull env w frame
    let w := if onWire && read then w.putEvent { w.port.event with odExpected := true } else w
    let w := if !read then w.putEvent (eventOnWritten w.port.event) else w
    (w, decide (frame ≠ []))

/-! ### The state machine -/

/-- The TYPE_0 read of MinCycleTime that tests for a device. -/
def testMessage : List UInt8 :=
  K.encodeType0 (encodeMasterCommand true .page (UInt8.ofNat DPP1_OFF_MIN_CYCLE_TIME))

/-- The TYPE_0 write of the MasterCommand DeviceOperate. -/
def deviceOperateMessage : List UInt8 :=
  K.encodeType0Write (encodeMasterCommand false .page (UInt8.ofNat DPP1_OFF_MASTER_COMMAND))
    CMD_DEVICE_OPERATE

/-- Enter a step of the startup micro-sequence. -/
def World.setStep (w : World) (step : StartupStep) : World :=
  w.put { w.port with startup := { w.port.startup with step := step } }

/-- Issue the wake-up request and open the gate for the first test message. -/
def processWake (env : Env) (w : World) (now : UInt32) (timed : Bool) : World :=
  let (w, woken) := wakeUp env w
  if woken then
    let w := w.setStep .sendType0
    w.put (armSendGate w.port now (5 + tDmt100us w.port (startupBaudrate w.port)) timed)
  else w

/-- Send the test message and arm its deadline. -/
def processTest (env : Env) (w : World) (now : UInt32) (timed : Bool) : World :=
  let frame := testMessage K
  if frame = [] then w
  else
    let (w, onWire) := sendFull env w frame
    if onWire then
      let w := w.setStep .awaitResponse
      if timed then
        w.put { w.port with
          responseDeadline100us := now + testMessageTimeout100us w.port
          awaitingResponse := true }
      else w
    else w

/-- One slot in STARTUP. -/
def processStartup (env : Env) (w : World) (now : UInt32) (timed : Bool) : World :=
  match w.port.startup.step with
  | .inactive =>
    let (w, ret) := setMode env w .sdci
    if ret ≠ STATUS_OK then w.enter .error
    else processWake env (w.setStep .wake) now timed
  | .wake => processWake env w now timed
  | .sendType0 => processTest K env w now timed
  | .awaitResponse | .awaitOperateAck => w

/-- Write DeviceOperate and wait for its acknowledge. -/
def processDeviceOperate (env : Env) (w : World) : World :=
  let frame := deviceOperateMessage K
  if frame = [] then w
  else
    let (w, onWire) := sendFull env w frame
    if onWire then w.setStep .awaitOperateAck else w

/-- Read and check the device information if it is required and not there yet.  The
flag says that PREOPERATE goes on to the DeviceOperate write. -/
def processValidation (w : World) : World × Bool :=
  if startupValidationRequired w.port.config then
    let (w, ret) := if w.port.deviceInfo.valid then (w, STATUS_OK) else readDeviceInfo w
    if ret = STATUS_PENDING then (w, false)
    else if ret < 0 then (w.enter .error, false)
    else if validateDeviceInfo w.port ≠ 0 then (w.enter .error, false)
    else (w, true)
  else (w, true)

/-- One slot in PREOPERATE. -/
def processPreoperate (env : Env) (w : World) : World :=
  let (w, sent) := sendEvent K env w
  if sent then w
  else
    let (w, sent) := sendIsdu K env w
    if sent then w
    else
      let (w, goOn) := processValidation w
      if goOn then processDeviceOperate K env w else w

/-- A port that exchanges no process data in TYPE_0. -/
def type0Operate (p : PortState) : Bool :=
  p.config.mSeqType == .type0 && p.config.pdInLen == 0 && p.pdOutLen == 0

/-- The cyclic frame of a TYPE_0 port: its Master Command is the on-request data. -/
def type0CyclicFrame (od : List UInt8) : List UInt8 := K.encodeType0 (od.getD 0 0)

/-- The cyclic frame of a TYPE_1 or TYPE_2 port. -/
def cyclicFrame (p : PortState) (od : List UInt8) : List UInt8 :=
  message K (encodeMasterCommand false .process 0) (cktTypeBits p.config.mSeqType)
    (pdOutOctets p ++ od)

/-- Count an executed cycle. -/
def countCycle (p : PortState) : PortState := { p with cycleCount := p.cycleCount + 1 }

/-- The cyclic exchange of OPERATE. -/
def processCyclic (env : Env) (w : World) : World :=
  let type0 := type0Operate w.port
  let (od, s) := isduFillOd w.port.isdu (if type0 then 1 else w.port.odLen)
  let w := w.putIsdu s
  let frame := if type0 then type0CyclicFrame K od else cyclicFrame K w.port od
  if frame = [] then w
  else
    let (w, onWire) := sendFull env w frame
    if onWire then w.put (countCycle w.port) else w

/-- One slot in OPERATE. -/
def processOperate (env : Env) (w : World) : World :=
  let (w, sent) := sendEvent K env w
  if sent then w
  else
    let (w, sent) := sendIsdu K env w
    if sent then w else processCyclic K env w

/-- The startup gate holds off the port. -/
def sendGated (p : PortState) (now : UInt32) (timed : Bool) : Bool :=
  timed && p.sendReadyValid && decide (now < p.sendReadyAt100us)

/-- Open a transmission slot. -/
def World.openSlot (w : World) : World := (w.emit (.view w.port)).emit .slot

@[simp] theorem World.openSlot_port (w : World) : w.openSlot.port = w.port := rfl

/-- Run the port state machine for one slot. -/
def processAt (env : Env) (w : World) (now : UInt32) (timed : Bool) : World :=
  if !w.port.phy.send || sendGated w.port now timed then w
  else
    match w.port.state with
    | .startup => processStartup K env w now timed
    | .preoperate => processPreoperate K env w.openSlot
    | .operate => processOperate K env w.openSlot
    | .inactive | .error => w

end IolinkMaster
