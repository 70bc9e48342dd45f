import IolinkMaster.Send

/-!
# Receiving

The judgement of replies, the recovery from lost communication, and the assembly of
received octets into replies.
-/

namespace IolinkMaster

/-! ### Lost communication -/

/-- Point the rate scan back at its first rate. -/
def resetRateScan (env : Env) (w : World) : World × Int :=
  if !w.port.config.autoBaudrate || w.port.startup.baudrateIndex == 0 then (w, STATUS_OK)
  else
    let w := w.put { w.port with startup := { w.port.startup with baudrateIndex := 0 } }
    setBaudrate env w (startupBaudrate w.port)

/-- Restart communication from the wake-up after a communication loss. -/
def restartEstablish (env : Env) (w : World) (now : UInt32) (timed : Bool) : World × Int :=
  let s := w.port.isdu
  let w := (w.emit (.comlost w.port.deviceInfo.valid s.op s.index s.subindex s.done)).enter .startup
  let w := w.put { w.port with
    startup := { w.port.startup with step := .wake, wakeAttempts := 0 }
    diagnostics := { w.port.diagnostics with rxRetryCount := 0 }
    awaitingResponse := false }
  let (w, ret) := resetRateScan env w
  if ret ≠ STATUS_OK then (w.enter .error, ret)
  else (w.put (armSendGate w.port now (tDwu100us w.port) timed), STATUS_PENDING)

/-- Advance the establish submachine after a test message failed. -/
def establishAttemptFailed (env : Env) (w : World) (now : UInt32) (timed : Bool) :
    World × Int :=
  let w := w.put { w.port with awaitingResponse := false }
  if w.port.config.autoBaudrate && decide (w.port.startup.baudrateIndex < 2) then
    let w := w.put { w.port with
      startup := { w.port.startup with baudrateIndex := w.port.startup.baudrateIndex + 1 } }
    let (w, ret) := setBaudrate env w (startupBaudrate w.port)
    if ret ≠ STATUS_OK then (w.enter .error, ret)
    else
      let w := w.setStep .sendType0
      (w.put (armSendGate w.port now (tDmt100us w.port (startupBaudrate w.port)) timed),
        STATUS_PENDING)
  else
    let w := w.put { w.port with
      startup := { w.port.startup with wakeAttempts := w.port.startup.wakeAttempts + 1 } }
    let (w, ret) := resetRateScan env w
    if ret ≠ STATUS_OK then (w.enter .error, ret)
    else if w.port.startup.wakeAttempts ≤ wakeRetryLimit w.port then
      let w := w.setStep .wake
      (w.put (armSendGate w.port now (tDwu100us w.port) timed), STATUS_PENDING)
    else
      let w := w.put { w.port with
        startup := { w.port.startup with wakeAttempts := 0 }
        diagnostics :=
          { w.port.diagnostics with
            establishFailures := w.port.diagnostics.establishFailures + 1 } }
      let (w, ret) := setMode env w .inactive
      if ret ≠ STATUS_OK then (w.enter .error, ret)
      else
        let w := w.setStep .inactive
        (w.put (armSendGate w.port now (tSd100us w.port) timed), ERR_RETRY_LIMIT)

/-- Count a failed M-sequence of OPERATE whose deadline passed. -/
def operateTimeout (env : Env) (w : World) (now : UInt32) (timed : Bool) : World × Int :=
  let d := w.port.diagnostics
  let d := { d with responseTimeouts := d.responseTimeouts + 1 }
  if d.rxRetryCount < RX_RETRY_LIMIT then
    (w.put { w.port with diagnostics := { d with rxRetryCount := d.rxRetryCount + 1 } },
      STATUS_PENDING)
  else restartEstablish env (w.put { w.port with diagnostics := d }) now timed

/-- Apply a response timeout. -/
def onTimeoutAt (env : Env) (w : World) (now : UInt32) (timed : Bool) : World × Int :=
  let due := !timed || decide (now ≥ w.port.responseDeadline100us)
  let (w, ret) := flushRx env w
  let w := w.emit (.timeout w.port.state due)
  if ret ≠ STATUS_OK then (w.enter .error, ret)
  else
    match w.port.state with
    | .startup =>
      if w.port.startup.step = .inactive then (w, STATUS_PENDING)
      else establishAttemptFailed env w now timed
    | .operate => operateTimeout env w now timed
    | .preoperate | .inactive | .error => (w, STATUS_OK)

/-! ### Replies -/

variable (K : Iolinki)

/-- The observations when the on-request data `od` is handed to the ISDU transport. -/
def isduObserved (s : IsduState) (od : List UInt8) : List Obs :=
  (if !s.done && (isduOnOd s od).done then [.isduDone s od] else []) ++ [.isduOd od]

/-- Route received on-request data to the active acyclic service. -/
def routeOd (w : World) (od : List UInt8) : World :=
  match eventChannelAccess w.port.event with
  | some (read, _) =>
    if read && w.port.event.odExpected then
      let w := w.emit (.eventOd od)
      w.putEvent (eventOnOd { w.port.event with odExpected := false } od)
    else w.emit (.dropOd od)
  | none =>
    ⟨{ w.port with isdu := isduOnOd w.port.isdu od }, isduObserved w.port.isdu od ++ w.log⟩

/-- Count a checksum error. -/
def countChecksumError (w : World) : World :=
  w.put { w.port with
    diagnostics :=
      { w.port.diagnostics with checksumErrors := w.port.diagnostics.checksumErrors + 1 } }

/-- Refuse a reply because of its length, or because none is expected. -/
def replyUnframed (w : World) (data : List UInt8) : World × Int :=
  (w.emit (.badFrame data), ERR_FRAME)

/-- Reject a reply of PREOPERATE or OPERATE because of its checksum. -/
def replyRejected (env : Env) (w : World) (data : List UInt8) : World × Int :=
  let w := countChecksumError (w.emit (.reject w.port.state data))
  let d := w.port.diagnostics
  if d.rxRetryCount < RX_RETRY_LIMIT then
    (w.put { w.port with diagnostics := { d with rxRetryCount := d.rxRetryCount + 1 } },
      ERR_CHECKSUM)
  else ((restartEstablish env w 0 false).1, ERR_CHECKSUM)

/-- Accept a reply: the exchange is over and the retry count starts again. -/
def replyAccepted (w : World) (data : List UInt8) (od : Option (List UInt8)) : World :=
  let w := w.emit (.accept w.port.state data od)
  w.put { w.port with
    diagnostics := { w.port.diagnostics with rxRetryCount := 0 }
    awaitingResponse := false }

/-- Judge the answer to a test message. -/
def onRxStartup (w : World) (data : List UInt8) : World × Int :=
  if w.port.startup.step ≠ .awaitResponse then replyUnframed w data
  else if data.length ≠ M_SEQ_TYPE0_LEN then replyUnframed w data
  else if !type0ReplyOk K data then
    (countChecksumError (w.emit (.reject w.port.state data)), ERR_CHECKSUM)
  else
    let w := replyAccepted w data none
    let w := w.put { w.port with
      startup := { w.port.startup with wakeAttempts := 0 }
      deviceInfo := { w.port.deviceInfo with minCycleTime := data.getD 0 0 } }
    (w.enter .preoperate, STATUS_OK)

/-- Judge the acknowledge of DeviceOperate. -/
def onRxOperateAck (env : Env) (w : World) (data : List UInt8) : World × Int :=
  let cks := data.getD 0 0
  if data.length ≠ 1 then replyUnframed w data
  else if K.checksum6 [cks &&& 0xC0] ≠ cks &&& 0x3F then replyRejected env w data
  else
    let w := replyAccepted w data none
    let w := w.put { w.port with
      diagnostics := { w.port.diagnostics with eventPending := cks &&& 0x80 != 0 } }
    (w.enter .operate, STATUS_OK)

/-- Judge a TYPE_0 reply of PREOPERATE or of a TYPE_0 OPERATE port. -/
def onRxType0 (env : Env) (w : World) (data : List UInt8) : World × Int :=
  if data.length ≠ M_SEQ_TYPE0_LEN then replyUnframed w data
  else if !type0ReplyOk K data then replyRejected env w data
  else (routeOd (replyAccepted w data (some (data.take 1))) (data.take 1), STATUS_OK)

/-- Call `event_pending_handler` on the rising edge of the Event flag. -/
def notifyEventPending (w : World) (raised : Bool) (handler : List Service) : World :=
  let w :=
    if raised && !w.port.diagnostics.eventPending && w.port.config.eventPendingHandler then
      handler.foldl runService (w.emit .eventPending)
    else w
  w.put { w.port with diagnostics := { w.port.diagnostics with eventPending := raised } }

/-- Take over valid input process data. -/
def takePdIn (p : PortState) (r : OperateResponse) : PortState :=
  if r.pdValid then { p with pdIn := r.pd, pdInLen := r.pd.length, pdValid := true } else p

/-- Judge a reply of OPERATE. -/
def onRxOperate (env : Env) (w : World) (data : List UInt8) (handler : List Service) :
    World × Int :=
  match K.decodeOperateResponse data w.port.config.pdInLen
      (if w.port.rxOdExpected then w.port.odLen else 0) with
  | none => replyUnframed w data
  | some r =>
    if !r.checksumOk then replyRejected env w data
    else
      let w := replyAccepted w data (some r.od)
      let w := w.put { w.port with diagnostics := { w.port.diagnostics with odStatus := r.status } }
      let w := notifyEventPending w r.eventPending handler
      let w := w.put (takePdIn w.port r)
      (routeOd w r.od, STATUS_OK)

/-- Judge a received reply.  `handler` are the service calls `event_pending_handler`
makes if it is called. -/
def onRx (env : Env) (w : World) (data : List UInt8) (handler : List Service) : World × Int :=
  if data = [] then (w, ERR_INVALID_ARG)
  else if w.port.state = .startup then onRxStartup K w data
  else if w.port.state = .preoperate then
    if w.port.startup.step = .awaitOperateAck then onRxOperateAck K env w data
    else onRxType0 K env w data
  else if w.port.state = .operate ∧ type0Operate w.port then onRxType0 K env w data
  else onRxOperate K env w data handler

/-! ### Assembly of received octets -/

/-- The length of the reply `poll_rx` waits for, if the port waits for one. -/
def expectedLen (p : PortState) : Option Nat :=
  match p.state with
  | .startup => if p.startup.step = .awaitResponse then some M_SEQ_TYPE0_LEN else none
  | .preoperate => some (if p.startup.step = .awaitOperateAck then 1 else M_SEQ_TYPE0_LEN)
  | .operate =>
    let odOctets := if type0Operate p || p.rxOdExpected then p.odLen else 0
    some ((p.config.pdInLen + odOctets + 1) % 256)
  | .inactive | .error => none

/-- Drop the buffered octets and latch the error state. -/
def rxFailed (w : World) : World := (w.put { w.port with rx := [] }).enter .error

/-- Take octets from the PHY and judge each reply of `expected` octets.  `frames`
counts the replies accepted so far. -/
def pollLoop (env : Env) (expected : Nat) (w : World) (frames : Nat) :
    List (UInt8 × List Service) → World × Int
  | [] => if env.recvFails then (rxFailed w, ERR_FRAME) else (w, frames)
  | (byte, handler) :: octets =>
    let w := w.emit (.recv byte)
    if w.port.rx.length ≥ FRAME_BUF_SIZE then (rxFailed w, ERR_CHECKSUM)
    else
      let w := w.put { w.port with rx := w.port.rx ++ [byte] }
      if w.port.rx.length ≥ expected then
        let (w, ret) := onRx K env w w.port.rx handler
        let w := w.put { w.port with rx := [] }
        if ret ≠ 0 then (w, ret) else pollLoop env expected w (frames + 1) octets
      else pollLoop env expected w frames octets

/-- Poll the PHY for received octets. -/
def pollRx (env : Env) (w : World) : World × Int :=
  if !w.port.phy.recvByte then (w, STATUS_OK)
  else
    match expectedLen w.port with
    | none => (w, STATUS_OK)
    | some expected => pollLoop K env expected w 0 env.recv

end IolinkMaster
