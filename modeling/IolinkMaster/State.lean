import IolinkMaster.Wire

/-!
# The state of a port

The configuration and the private state of a port, the answers its environment
gives during one call, and the observations a run leaves behind: frames put on the
wire, octets received, replies judged, deadlines processed, services started and
results handed to the application.

The transmit scratch buffer and the octets of a buffer beyond its fill level are
not part of the state: no function reads them before writing them.
-/

namespace IolinkMaster

/-! ### Constants -/

def ISDU_BUFFER_SIZE : Nat := 256
def FRAME_BUF_SIZE : Nat := 64
def RX_RETRY_LIMIT : Nat := 2
def PD_IN_MAX_SIZE : Nat := 32
def PD_OUT_MAX_SIZE : Nat := 32
def EVENT_MEMORY_LEN : Nat := 19

def FLOWCTRL_COUNT_MASK : UInt8 := 0x0F
def FLOWCTRL_START : UInt8 := 0x10
def FLOWCTRL_IDLE : UInt8 := 0x11
def FLOWCTRL_ABORT : UInt8 := 0x1F

def ISDU_ERROR_NONE : UInt16 := 0x0000
def ISDU_ERROR_SEGMENTATION : UInt16 := 0x0081

def IDX_DIRECT_PARAMETERS_1 : UInt16 := 0x0000
def IDX_SYSTEM_COMMAND : UInt16 := 0x0002
def IDX_DATA_STORAGE : UInt16 := 0x0003
def IDX_DETAILED_DEVICE_STATUS : UInt16 := 0x0025

def CMD_DEVICE_OPERATE : UInt8 := 0x99
def CMD_PARAM_UPLOAD_START : UInt8 := 0x01
def CMD_PARAM_UPLOAD_END : UInt8 := 0x02
def CMD_PARAM_DOWNLOAD_START : UInt8 := 0x03
def CMD_PARAM_DOWNLOAD_END : UInt8 := 0x04
def CMD_PARAM_DOWNLOAD_STORE : UInt8 := 0x05

/-! ### Configuration -/

/-- The operations the PHY provides; the others are null pointers. -/
structure PhyApi where
  init : Bool
  send : Bool
  recvByte : Bool
  deriving DecidableEq, Repr

/-- A PHY that provides every operation. -/
def PhyApi.full : PhyApi := ⟨true, true, true⟩

/-- Port configuration.  The hooks are represented by whether they are set. -/
structure Config where
  portMode : PortMode
  mSeqType : MSeqType
  baudrate : Baudrate
  minCycleTime : UInt8
  pdInLen : Nat
  pdOutLen : Nat
  autoBaudrate : Bool
  validateDeviceInfo : Bool
  inspectionLevel : InspectionLevel
  expectedVendorId : UInt16
  expectedDeviceId : UInt32
  responseTimeout100us : UInt8
  isduTimeout100us : UInt32
  tDmtTbit : UInt8
  tDwu100us : UInt32
  wakeRetryLimit : UInt8
  tSd100us : UInt32
  eventPendingHandler : Bool
  eventHandler : Bool
  setModeChecked : Bool
  setBaudrateChecked : Bool
  flushRx : Bool
  prepareTx : Bool
  prepareRx : Bool
  wakeUp : Bool
  deriving DecidableEq, Repr

/-- A configuration at COM3 without checks, delays and hooks. -/
def Config.bare (mSeqType : MSeqType) (pdInLen pdOutLen : Nat) : Config where
  portMode := .iolink
  mSeqType := mSeqType
  baudrate := .com3
  minCycleTime := 0
  pdInLen := pdInLen
  pdOutLen := pdOutLen
  autoBaudrate := false
  validateDeviceInfo := false
  inspectionLevel := .noCheck
  expectedVendorId := 0
  expectedDeviceId := 0
  responseTimeout100us := 0
  isduTimeout100us := 0
  tDmtTbit := 0
  tDwu100us := 0
  wakeRetryLimit := 0
  tSd100us := 0
  eventPendingHandler := false
  eventHandler := false
  setModeChecked := false
  setBaudrateChecked := false
  flushRx := false
  prepareTx := false
  prepareRx := false
  wakeUp := false

/-! ### Private state -/

/-- Step of the startup micro-sequence. -/
inductive StartupStep where
  | wake | sendType0 | awaitResponse | awaitOperateAck | inactive
  deriving DecidableEq, Repr

/-- Startup micro-sequence progress. -/
structure StartupState where
  step : StartupStep
  baudrateIndex : Nat
  wakeAttempts : UInt8
  deriving DecidableEq, Repr

/-- Kind of ISDU operation in flight. -/
inductive IsduOp where
  | none | read | write
  deriving DecidableEq, Repr

/-- Transport phase of the ISDU handler. -/
inductive IsduPhase where
  | none | request | wait | response
  deriving DecidableEq, Repr

/-- In-flight ISDU request and response.  `response` holds the `response_len`
octets collected so far. -/
structure IsduState where
  op : IsduOp
  phase : IsduPhase
  index : UInt16
  subindex : UInt8
  request : List UInt8
  requestLen : Nat
  requestPos : Nat
  flowctrl : UInt8
  expectedLen : Nat
  response : List UInt8
  done : Bool
  idlePending : Bool
  abortPending : Bool
  error : UInt16
  deriving DecidableEq, Repr

/-- Transport phase of the event handler. -/
inductive EventPhase where
  | none | read | write
  deriving DecidableEq, Repr

/-- Kind of event service requested through the diagnosis channel. -/
inductive EventReq where
  | none | code | details | ack
  deriving DecidableEq, Repr

/-- Event memory readout. -/
structure EventState where
  phase : EventPhase
  request : EventReq
  addr : Nat
  needed : Nat
  memory : List UInt8
  len : Nat
  lastSlot : Nat
  statusSeen : Bool
  odExpected : Bool
  result : Int
  deriving DecidableEq, Repr

/-- Step of a parameter block operation. -/
inductive BlockStep where
  | none | beginDownload | write | endDownload | verify
  deriving DecidableEq, Repr

/-- Multi-step parameter block write. -/
structure BlockState where
  step : BlockStep
  index : UInt16
  subindex : UInt8
  data : List UInt8
  deriving DecidableEq, Repr

/-- Runtime diagnostics of a port. -/
structure Diagnostics where
  odStatus : UInt8
  eventPending : Bool
  rxRetryCount : Nat
  checksumErrors : UInt32
  sendErrors : UInt32
  responseTimeouts : UInt32
  cycleSlips : UInt32
  lastCycleJitter100us : UInt32
  maxCycleJitter100us : UInt32
  lastServiceResult : Int
  lastEventCount : Nat
  lastEventCode : UInt16
  lastIsduError : UInt16
  establishFailures : UInt32
  deriving DecidableEq, Repr

/-- Decoded Direct Parameter Page 1. -/
structure DeviceInfo where
  valid : Bool
  minCycleTime : UInt8
  minCycleTime100us : UInt16
  mseqCapability : UInt8
  isduSupported : Bool
  operateMseqCode : UInt8
  preoperateMseqCode : UInt8
  revisionId : UInt8
  pdInDescriptor : UInt8
  pdOutDescriptor : UInt8
  pdInLen : Nat
  pdOutLen : Nat
  vendorId : UInt16
  deviceId : UInt32
  deriving DecidableEq, Repr

/-- Private state of a port.  `rx` holds the `rx.len` octets buffered so far. -/
structure PortState where
  phy : PhyApi
  config : Config
  state : MasterState
  odLen : Nat
  pdIn : List UInt8
  pdInLen : Nat
  pdOut : List UInt8
  pdOutLen : Nat
  pdValid : Bool
  startup : StartupState
  diagnostics : Diagnostics
  deviceInfo : DeviceInfo
  isdu : IsduState
  event : EventState
  block : BlockState
  rx : List UInt8
  cycleCount : UInt32
  lastCycleStart100us : UInt32
  responseDeadline100us : UInt32
  sendReadyAt100us : UInt32
  sendReadyValid : Bool
  cycleTimerValid : Bool
  awaitingResponse : Bool
  rxOdExpected : Bool
  deriving DecidableEq, Repr

/-- Startup validation is required when the device-info check or an inspection level
is configured. -/
def startupValidationRequired (config : Config) : Bool :=
  config.validateDeviceInfo || config.inspectionLevel != .noCheck

/-! ### Zeroed states -/

def StartupState.zero : StartupState := ⟨.wake, 0, 0⟩

/-- The idle ISDU state of a zeroed port. -/
def IsduState.zero : IsduState :=
  ⟨.none, .none, 0, 0, [], 0, 0, 0, 0, [], false, false, false, 0⟩

def EventState.zero : EventState :=
  ⟨.none, .none, 0, 0, List.replicate EVENT_MEMORY_LEN 0, 0, 0, false, false, 0⟩

def BlockState.zero : BlockState := ⟨.none, 0, 0, []⟩

def Diagnostics.zero : Diagnostics := ⟨0, false, 0, 0, 0, 0, 0, 0, 0, 0, 0, 0, 0, 0⟩

def DeviceInfo.zero : DeviceInfo := ⟨false, 0, 0, 0, false, 0, 0, 0, 0, 0, 0, 0, 0, 0⟩

/-- The port state `iolink_master_init` sets up before it touches the PHY. -/
def zeroPort (phy : PhyApi) (config : Config) : PortState where
  phy := phy
  config := config
  state := if config.portMode = .iolink then .startup else .inactive
  odLen := odLenForType config.mSeqType
  pdIn := []
  pdInLen := config.pdInLen
  pdOut := List.replicate config.pdOutLen 0
  pdOutLen := config.pdOutLen
  pdValid := false
  startup := StartupState.zero
  diagnostics := Diagnostics.zero
  deviceInfo := DeviceInfo.zero
  isdu := IsduState.zero
  event := EventState.zero
  block := BlockState.zero
  rx := []
  cycleCount := 0
  lastCycleStart100us := 0
  responseDeadline100us := 0
  sendReadyAt100us := 0
  sendReadyValid := false
  cycleTimerValid := false
  awaitingResponse := false
  rxOdExpected := false

/-! ### Services -/

/-- A call of the application into the acyclic services of the port. -/
inductive Service where
  | readIsdu (index : UInt16) (subindex : UInt8) (cap : UInt8)
  | writeIsdu (index : UInt16) (subindex : UInt8) (data : List UInt8)
  | readDeviceInfo
  | readDataStorage (cap : UInt8)
  | writeDataStorage (data : List UInt8)
  | restoreDataStorage (data : List UInt8)
  | verifyDataStorage (expected : List UInt8)
  | verifyIsdu (index : UInt16) (subindex : UInt8) (expected : List UInt8)
  | readDetailedDeviceStatus (cap : UInt8)
  | readEventCode
  | ackEvent
  | readEventDetails (maxEvents : Nat)
  | beginParameterDownload
  | endParameterDownload
  | beginParameterUpload
  | endParameterUpload
  | storeParameterDownload
  | writeParameterBlock (index : UInt16) (subindex : UInt8) (data : List UInt8)
  | setPdOut (data : List UInt8)
  deriving DecidableEq, Repr

/-- The event service a call asks for. -/
def Service.eventRequest : Service → Option EventReq
  | .readEventCode => some .code
  | .ackEvent => some .ack
  | .readEventDetails _ => some .details
  | _ => none

/-- Severity of a decoded device event. -/
inductive EventType where
  | unknown | notification | warning | error
  deriving DecidableEq, Repr

/-- A single decoded device event. -/
structure Event where
  qualifier : UInt8
  type : EventType
  code : UInt16
  deriving DecidableEq, Repr

/-! ### The environment of one call -/

/-- What the environment answers during one call of the master: the return value of
each hook, and the octets the PHY delivers, each with the service calls that
`event_pending_handler` would make if that octet completed a reply raising the Event
flag.  `recvFails` says that `recv_byte` reports an error once the octets are used up. -/
structure Env where
  phyInit : Int
  setMode : Int
  setBaudrate : Int
  flushRx : Int
  prepareTx : Int
  prepareRx : Int
  wakeUp : Int
  send : List UInt8 → Int
  recv : List (UInt8 × List Service)
  recvFails : Bool

/-- An environment whose hooks all succeed and which delivers the octets `octets`. -/
def Env.quiet (octets : List UInt8) : Env where
  phyInit := 0
  setMode := 0
  setBaudrate := 0
  flushRx := 0
  prepareTx := 0
  prepareRx := 0
  wakeUp := 0
  send := fun data => data.length
  recv := octets.map fun b => (b, [])
  recvFails := false

/-! ### Observations -/

/-- What can be observed of a run. -/
inductive Obs where
  /-- The port enters a communication state. -/
  | enter (st : MasterState)
  /-- The port in whose state a transmission slot opens. -/
  | view (p : PortState)
  /-- A transmission slot of PREOPERATE or OPERATE opens. -/
  | slot
  /-- A frame is put on the wire in state `st`, between the calls of the prepare hooks. -/
  | sent (st : MasterState) (frame : List UInt8)
  /-- The `wake_up` hook is called. -/
  | wakeUp
  /-- The `flush_rx` hook is called. -/
  | flushRx
  | setMode (mode : PhyMode)
  | setBaudrate (rate : Baudrate)
  /-- `recv_byte` delivers an octet. -/
  | recv (octet : UInt8)
  /-- A reply is accepted in state `st`; `od` is the on-request data it hands on, if its
  kind carries any. -/
  | accept (st : MasterState) (data : List UInt8) (od : Option (List UInt8))
  /-- A reply is rejected in state `st` because of its checksum. -/
  | reject (st : MasterState) (data : List UInt8)
  /-- A reply is refused because of its length, or because none is expected. -/
  | badFrame (data : List UInt8)
  /-- A response timeout is processed in state `st`; `due` unless a timed caller
  processes it before the deadline. -/
  | timeout (st : MasterState) (due : Bool)
  /-- Communication is given up and restarts from the wake-up, in a state with the given
  validity of the device information and the given ISDU service. -/
  | comlost (infoValid : Bool) (op : IsduOp) (index : UInt16) (subindex : UInt8) (done : Bool)
  /-- A timed tick starts. -/
  | tick (now : UInt32)
  /-- The response deadline of the frame last sent is armed. -/
  | armed (deadline : UInt32)
  /-- On-request data is handed to the ISDU transport. -/
  | isduOd (od : List UInt8)
  /-- The on-request data `od` completes the ISDU service in the state `s`. -/
  | isduDone (s : IsduState) (od : List UInt8)
  /-- On-request data is handed to the event memory. -/
  | eventOd (od : List UInt8)
  /-- On-request data is handed to nobody. -/
  | dropOd (od : List UInt8)
  /-- `event_pending_handler` is called. -/
  | eventPending
  /-- An event readout starts. -/
  | eventStart
  /-- The event readout that starts is for the service `request`. -/
  | eventFor (request : EventReq)
  /-- The completed event readout of the service `request` is consumed. -/
  | eventTaken (request : EventReq)
  /-- `event_handler` is called. -/
  | event (e : Event)
  /-- The ISDU state `s` is left, for a new service or for none. -/
  | isduLeft (s : IsduState)
  /-- An ISDU service starts with the request octets `request`. -/
  | isduStart (op : IsduOp) (index : UInt16) (subindex : UInt8) (data : List UInt8)
      (request : List UInt8)
  /-- A call of `write_isdu` returns `ret`. -/
  | wrote (index : UInt16) (subindex : UInt8) (data : List UInt8) (ret : Int)
  /-- A read of Direct Parameter Page 1 is collected. -/
  | page (octets : List UInt8)
  /-- A service call returns `ret`. -/
  | returned (call : Service) (ret : Int)
  deriving DecidableEq, Repr

/-- A port together with the observations made so far, latest first. -/
structure World where
  port : PortState
  log : List Obs
  deriving DecidableEq, Repr

namespace World

/-- Record an observation. -/
def emit (w : World) (o : Obs) : World := { w with log := o :: w.log }

/-- Replace the private state. -/
def put (w : World) (p : PortState) : World := { w with port := p }

/-- Enter a communication state. -/
def enter (w : World) (st : MasterState) : World :=
  { port := { w.port with state := st }, log := .enter st :: w.log }

@[simp] theorem emit_port (w : World) (o : Obs) : (w.emit o).port = w.port := rfl
@[simp] theorem emit_log (w : World) (o : Obs) : (w.emit o).log = o :: w.log := rfl
@[simp] theorem put_port (w : World) (p : PortState) : (w.put p).port = p := rfl
@[simp] theorem put_log (w : World) (p : PortState) : (w.put p).log = w.log := rfl
@[simp] theorem enter_port (w : World) (st : MasterState) :
  (w.enter st).port = { w.port with state := st } := rfl
@[simp] theorem enter_log (w : World) (st : MasterState) :
  (w.enter st).log = .enter st :: w.log := rfl

end World

end IolinkMaster
