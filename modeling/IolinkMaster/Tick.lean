import IolinkMaster.Receive

/-!
# Ticks and runs

The tick engine, the initialization of a port, the calls an application makes and the
worlds a run of such calls reaches.
-/

namespace IolinkMaster

variable (K : Iolinki)

/-! ### The tick engine -/

/-- Account for an executed cycle: jitter, cycle start and the response deadline. -/
def armCycle (p : PortState) (now : UInt32) : PortState :=
  let jitter := cycleJitterAt p now
  let d := p.diagnostics
  let d := if cycleSlippedAt p now then { d with cycleSlips := d.cycleSlips + 1 } else d
  let d := { d with lastCycleJitter100us := jitter }
  let d := if jitter > d.maxCycleJitter100us then { d with maxCycleJitter100us := jitter } else d
  let p := { p with diagnostics := d }
  { p with
    lastCycleStart100us := now
    responseDeadline100us := now + responseTimeout100us p
    cycleTimerValid := true
    awaitingResponse := true }

/-- Run a slot and, in the timed path, arm the deadline of the cycle it executed. -/
def processSlot (env : Env) (w : World) (now : UInt32) (pace : Bool) : World :=
  let before := w.port.cycleCount
  let w := processAt K env w now pace
  if pace && w.port.cycleCount != before then
    let w := w.put (armCycle w.port now)
    w.emit (.armed w.port.responseDeadline100us)
  else w

/-- Process a response timeout event. -/
def tickTimeout (env : Env) (w : World) (now : UInt32) (pace : Bool) : World × Int :=
  let w := if w.port.awaitingResponse then (flushRx env w).1 else w
  onTimeoutAt env (w.put { w.port with awaitingResponse := false }) now pace

/-- The tick engine: poll the PHY, process a timeout, run a slot. -/
def tickCommon (env : Env) (w : World) (event : TickEvent) (pace : Bool) (now : UInt32) :
    World × Int :=
  let (w, rxRet) := pollRx K env w
  if rxRet < 0 then (w, rxRet)
  else
    match event with
    | .none => (w, rxRet)
    | .responseTimeout =>
      if pace && !w.port.awaitingResponse then (w, rxRet)
      else
        let (w, ret) := tickTimeout env w now pace
        (w, if ret ≠ STATUS_OK then ret else rxRet)
    | .cycleDue =>
      if w.port.awaitingResponse then (w, rxRet)
      else if pace && !cycleDueAt w.port now then (w, rxRet)
      else (processSlot K env w now pace, rxRet)

/-- The timed tick. -/
def tickAt (env : Env) (w : World) (event : TickEvent) (now : UInt32) : World × Int :=
  tickCommon K env (w.emit (.tick now)) event true now

/-- The untimed tick. -/
def tickEvent (env : Env) (w : World) (event : TickEvent) : World × Int :=
  tickCommon K env w event false 0

/-- The tick the controller gives to each of its ports. -/
def controllerTickAt (env : Env) (w : World) (now : UInt32) : World × Int :=
  tickAt K env w (if responseDueAt w.port now then .responseTimeout else .cycleDue) now

/-- The time of the next useful tick. -/
def getNextTickTime (p : PortState) (now : UInt32) : UInt32 :=
  if p.state = .inactive ∨ p.state = .error then now
  else if p.awaitingResponse then
    if now ≥ p.responseDeadline100us then now else p.responseDeadline100us
  else if p.state = .startup ∧ p.sendReadyValid ∧ now < p.sendReadyAt100us then
    p.sendReadyAt100us
  else if !cyclePaced p then now
  else
    let cycleDue := p.lastCycleStart100us + p.config.minCycleTime.toUInt32
    if now ≥ cycleDue then now else cycleDue

/-! ### Initialization -/

/-- The configuration is refused by `iolink_master_init`. -/
def configRefused (config : Config) : Bool :=
  decide (config.pdInLen > PD_IN_MAX_SIZE) || decide (config.pdOutLen > PD_OUT_MAX_SIZE) ||
    (config.mSeqType == .type0 && (decide (config.pdInLen > 0) || decide (config.pdOutLen > 0)))

/-- Continue an initialization unless its last step failed. -/
def initStep (r : World × Int) (rest : World → World × Int) : World × Int :=
  if r.2 ≠ STATUS_OK then (r.1.enter .error, r.2) else rest r.1

/-- Bring the PHY into the mode of the port. -/
def initPhy (env : Env) (w : World) : World × Int :=
  match w.port.config.portMode with
  | .deactivated => initStep (setMode env w .inactive) fun w => (w, STATUS_OK)
  | .di | .dq => initStep (setMode env w .sio) fun w => (w, STATUS_OK)
  | .iolink =>
    initStep (flushRx env w) fun w =>
    initStep (setBaudrate env w (startupBaudrate w.port)) fun w =>
    initStep (setMode env w .sdci) fun w => (w, STATUS_OK)

/-- Initialize the port of a world. -/
def initPort (env : Env) (w : World) (phy : PhyApi) (config : Config) : World × Int :=
  if configRefused config then (w, ERR_INVALID_ARG)
  else
    let p := zeroPort phy config
    let w : World := { port := p, log := .enter p.state :: w.log }
    if phy.init && env.phyInit != 0 then (w.enter .error, env.phyInit) else initPhy env w

/-- Initialize the port again with its own configuration. -/
def restart (env : Env) (w : World) : World × Int := initPort env w w.port.phy w.port.config

/-- Initialize the port again in another mode. -/
def setPortMode (env : Env) (w : World) (mode : PortMode) : World × Int :=
  initPort env w w.port.phy { w.port.config with portMode := mode }

/-! ### Calls -/

/-- The calls an application makes on a port. -/
inductive Call where
  | tickAt (event : TickEvent) (now : UInt32)
  | tickEvent (event : TickEvent)
  | controllerTickAt (now : UInt32)
  | process
  | pollRx
  | onRx (data : List UInt8) (handler : List Service)
  | onTimeout
  | service (call : Service)
  | restart
  | setPortMode (mode : PortMode)
  deriving DecidableEq, Repr

/-- The effect of a call. -/
def runCall (env : Env) (w : World) : Call → World
  | .tickAt event now => (tickAt K env w event now).1
  | .tickEvent event => (tickEvent K env w event).1
  | .controllerTickAt now => (controllerTickAt K env w now).1
  | .process => processAt K env w 0 false
  | .pollRx => (pollRx K env w).1
  | .onRx data handler => (onRx K env w data handler).1
  | .onTimeout => (onTimeoutAt env w 0 false).1
  | .service call => runService w call
  | .restart => (restart env w).1
  | .setPortMode mode => (setPortMode env w mode).1

/-- Make calls one after the other. -/
@[irreducible]
def run (w : World) (calls : List (Env × Call)) : World :=
  calls.foldl (fun w c => runCall K c.1 w c.2) w

@[simp]
theorem run_nil (w : World) :
  run K w [] = w
  := by
  rw [run, List.foldl_nil]

@[simp]
theorem run_cons (w : World) (c : Env × Call) (calls : List (Env × Call)) :
  run K w (c :: calls) = run K (runCall K c.1 w c.2) calls
  := by
  rw [run, run, List.foldl_cons]

theorem run_append (w : World) (calls calls' : List (Env × Call)) :
  run K w (calls ++ calls') = run K (run K w calls) calls'
  := by
  rw [run, run, run, List.foldl_append]

/-- The world in which a port is before its initialization. -/
def powerOn (phy : PhyApi) (config : Config) : World := ⟨zeroPort phy config, []⟩

/-- A port after its initialization. -/
def started (env : Env) (phy : PhyApi) (config : Config) : World :=
  (initPort env (powerOn phy config) phy config).1

/-- The worlds that calls satisfying `allowed` reach from a port accepted by
`iolink_master_init`.  Whether a call is allowed may depend on the world in which it is
made. -/
inductive Reach (allowed : Env → World → Call → Prop) (phy : PhyApi) (config : Config) :
    World → Prop where
  | start (env : Env) (h : configRefused config = false) :
      Reach allowed phy config (started env phy config)
  | call {w : World} (env : Env) (c : Call) (hw : Reach allowed phy config w)
      (hc : allowed env w c) : Reach allowed phy config (runCall K env w c)

end IolinkMaster
