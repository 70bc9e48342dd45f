import IolinkMaster.Library.Scan
import IolinkMaster.State

/-!
# The ISDU service engine

The segmented request/response transport over the on-request data of the ISDU
channel, and the read and write services on top of it.
-/

namespace IolinkMaster

/-! ### Service state -/

/-- An ISDU operation is in progress and not yet completed. -/
def isduBusy (s : IsduState) : Bool := s.op != .none && !s.done

/-- The active ISDU operation has the given identity. -/
def isduMatches (s : IsduState) (op : IsduOp) (index : UInt16) (subindex : UInt8) : Bool :=
  s.op == op && s.index == index && s.subindex == subindex

/-- Reset the ISDU state to idle. -/
def isduClear (s : IsduState) : IsduState :=
  { s with
    op := .none
    phase := .none
    index := 0
    subindex := 0
    requestLen := 0
    requestPos := 0
    flowctrl := FLOWCTRL_IDLE
    expectedLen := 0
    response := []
    done := false
    idlePending := false
    abortPending := false
    error := ISDU_ERROR_NONE }

/-- Begin a new ISDU operation. -/
def isduStart (s : IsduState) (op : IsduOp) (index : UInt16) (subindex : UInt8) : IsduState :=
  { s with
    op := op
    phase := .request
    index := index
    subindex := subindex
    requestPos := 0
    flowctrl := FLOWCTRL_START
    expectedLen := 0
    response := []
    done := false
    idlePending := false
    abortPending := false
    error := ISDU_ERROR_NONE }

/-- Latch a non-pending service result into the diagnostics. -/
def serviceResult (p : PortState) (ret : Int) : PortState :=
  if ret ≠ STATUS_PENDING then
    { p with diagnostics := { p.diagnostics with lastServiceResult := ret } }
  else p

/-! ### Request encoding -/

def ISDU_SERVICE_SHIFT : UInt8 := 4
def ISDU_LENGTH_NIBBLE_MAX : Nat := 15
def ISDU_LENGTH_EXTENDED : UInt8 := 0x01
def ISDU_EXT_MAX : Nat := 238
def ISDU_WRITE_HEADER_MAX : Nat := 7
def ISDU_CHKPDU_LEN : Nat := 1

/-- XOR over an ISDU octet stream. -/
def isduChkpdu (data : List UInt8) : UInt8 := data.foldl (· ^^^ ·) 0

/-- Number of Index/Subindex octets of the index format. -/
def isduIndexLen (index : UInt16) (subindex : UInt8) : Nat :=
  if index ≤ 0xFF then if subindex = 0 then 1 else 2 else 3

/-- The I-Service nibble of a request with the given index format. -/
def isduService (read : Bool) (indexLen : Nat) : UInt8 :=
  if read then 0x08 + UInt8.ofNat indexLen else UInt8.ofNat indexLen

/-- The first octet of a request: I-Service and Length. -/
def isduHead (read : Bool) (indexLen : Nat) (length : UInt8) : UInt8 :=
  (isduService read indexLen <<< ISDU_SERVICE_SHIFT) ||| length

/-- The Index and Subindex octets of a request. -/
def isduIndexOctets (index : UInt16) (subindex : UInt8) : List UInt8 :=
  let idxLen := isduIndexLen index subindex
  if idxLen = 3 then [(index >>> 8).toUInt8, (index &&& 0xFF).toUInt8, subindex]
  else if idxLen = 2 then [(index &&& 0xFF).toUInt8, subindex]
  else [(index &&& 0xFF).toUInt8]

/-- The total length `read_isdu` computes for its request. -/
def isduReadTotal (index : UInt16) (subindex : UInt8) : Nat :=
  (1 + isduIndexLen index subindex + ISDU_CHKPDU_LEN) % 256

/-- The request octets of `read_isdu`. -/
def isduReadRequest (index : UInt16) (subindex : UInt8) : List UInt8 :=
  let total := isduReadTotal index subindex
  let body := isduHead true (isduIndexLen index subindex)
      (UInt8.ofNat total &&& UInt8.ofNat ISDU_LENGTH_NIBBLE_MAX)
    :: isduIndexOctets index subindex
  body ++ [isduChkpdu (body.take (total - 1))]

/-- The total length `write_isdu` computes for its request, without ExtLength. -/
def isduWriteTotal (index : UInt16) (subindex : UInt8) (len : Nat) : Nat :=
  (1 + isduIndexLen index subindex + len + ISDU_CHKPDU_LEN) % 65536

/-- `write_isdu` refuses a payload of this length. -/
def isduWriteTooLong (index : UInt16) (subindex : UInt8) (len : Nat) : Bool :=
  let total := isduWriteTotal index subindex len
  decide (len > ISDU_BUFFER_SIZE - ISDU_WRITE_HEADER_MAX) ||
    decide ((if total > 15 then total + 1 else total) > ISDU_EXT_MAX) ||
    decide (total = 16)

/-- The octets `write_isdu` puts before the payload. -/
def isduWriteHeader (index : UInt16) (subindex : UInt8) (len : Nat) : List UInt8 :=
  let idxLen := isduIndexLen index subindex
  let total := isduWriteTotal index subindex len
  (if total ≤ ISDU_LENGTH_NIBBLE_MAX then
      [isduHead false idxLen (UInt8.ofNat total &&& UInt8.ofNat ISDU_LENGTH_NIBBLE_MAX)]
    else [isduHead false idxLen ISDU_LENGTH_EXTENDED, UInt8.ofNat (total + 1)])
    ++ isduIndexOctets index subindex

/-- The request octets of `write_isdu`. -/
def isduWriteRequest (index : UInt16) (subindex : UInt8) (data : List UInt8) : List UInt8 :=
  let body := isduWriteHeader index subindex data.length ++ data
  body ++ [isduChkpdu body]

/-- The 8-bit write cursor of `write_isdu` once the request is assembled. -/
def isduWritePos (index : UInt16) (subindex : UInt8) (data : List UInt8) : Nat :=
  ((isduWriteHeader index subindex data.length ++ data).length % 256 + ISDU_CHKPDU_LEN) % 256

/-! ### Transport -/

/-- Extend a segment with zero octets to the on-request-data width. -/
def padOd (odLen : Nat) (segment : List UInt8) : List UInt8 :=
  segment ++ List.replicate (odLen - segment.length) 0

/-- Fill the on-request data of an outgoing frame and advance the transport. -/
def isduFillOd (s : IsduState) (odLen : Nat) : List UInt8 × IsduState :=
  if s.op = .none then (padOd odLen [], s)
  else
    match s.phase with
    | .request =>
      let remaining := (s.requestLen + 65536 - s.requestPos) % 65536
      let n := if remaining < odLen then remaining else odLen
      let od := padOd odLen ((s.request.drop s.requestPos).take n)
      let s := { s with requestPos := (s.requestPos + n) % 65536 }
      if s.requestPos ≥ s.requestLen then
        (od, { s with phase := .wait, flowctrl := FLOWCTRL_START })
      else if s.flowctrl = FLOWCTRL_START then (od, { s with flowctrl := 1 })
      else (od, { s with flowctrl := (s.flowctrl + 1) &&& FLOWCTRL_COUNT_MASK })
    | .wait => (padOd odLen [], { s with flowctrl := FLOWCTRL_START })
    | .response =>
      if s.flowctrl = FLOWCTRL_START ∨ s.flowctrl = FLOWCTRL_IDLE then
        (padOd odLen [], { s with flowctrl := 1 })
      else
        (padOd odLen [], { s with flowctrl := (s.flowctrl + 1) &&& FLOWCTRL_COUNT_MASK })
    | .none => (padOd odLen [], s)

/-- The first octet collected, 0 before any. -/
def IsduState.firstOctet (s : IsduState) : UInt8 := s.response.getD 0 0

/-- Validate and decode a complete response stream. -/
def isduDecodeResponse (s : IsduState) : IsduState :=
  if isduChkpdu s.response ≠ 0 then
    { s with
      error := ISDU_ERROR_SEGMENTATION
      done := true
      abortPending := true
      phase := .none }
  else
    let service := s.firstOctet >>> ISDU_SERVICE_SHIFT
    if service = 0x4 ∨ service = 0xC then
      { s with
        error :=
          if s.response.length ≥ 4 then
            ((s.response.getD 1 0).toUInt16 <<< 8) ||| (s.response.getD 2 0).toUInt16
          else ISDU_ERROR_SEGMENTATION
        done := true
        idlePending := true
        phase := .none }
    else
      let payloadStart := if s.firstOctet &&& 0x0F = 0x01 then 2 else 1
      let payloadLen := (s.response.length + 65536 - payloadStart - ISDU_CHKPDU_LEN) % 65536
      { s with
        response := (s.response.drop payloadStart).take payloadLen
        done := true
        idlePending := true
        phase := .none }

/-- A transport error found while collecting the response. -/
def isduSegmentationError (s : IsduState) : IsduState :=
  { s with error := ISDU_ERROR_SEGMENTATION, done := true, phase := .none }

/-- Enter the response phase with the first octet that is not "no service" or "busy". -/
def isduBeginResponse (s : IsduState) : IsduState :=
  { s with phase := .response, response := [], expectedLen := 0, flowctrl := 1 }

/-- Compare the collected octets with the declared length. -/
def isduCheckComplete (s : IsduState) : IsduState × Bool :=
  if s.response.length ≥ s.expectedLen then (isduDecodeResponse s, true) else (s, false)

/-- Collect one response octet.  The flag says that `isdu_on_od` returns, dropping the
rest of the on-request data. -/
def isduCollect (s : IsduState) (byte : UInt8) : IsduState × Bool :=
  if s.response.length ≥ ISDU_BUFFER_SIZE then (isduSegmentationError s, true)
  else
    let s := { s with response := s.response ++ [byte] }
    if s.expectedLen = 0 then
      let lenNibble := s.firstOctet &&& 0x0F
      if lenNibble ≥ 2 then isduCheckComplete { s with expectedLen := lenNibble.toNat }
      else if lenNibble = 1 then
        if s.response.length < 2 then (s, false)
        else isduCheckComplete { s with expectedLen := (s.response.getD 1 0).toNat }
      else (isduSegmentationError s, true)
    else isduCheckComplete s

/-- Consume one octet of on-request data. -/
def isduOnOctet (s : IsduState) (byte : UInt8) : IsduState × Bool :=
  if s.phase = .wait then
    if byte = 0x00 ∨ byte = 0x01 then (s, false) else isduCollect (isduBeginResponse s) byte
  else isduCollect s byte

/-- The transport is collecting a response. -/
def isduReceiving (s : IsduState) : Bool :=
  !(s.op == .none || s.done || s.phase == .request || s.phase == .none)

/-- Consume the on-request data of a received frame. -/
def isduOnOd (s : IsduState) (od : List UInt8) : IsduState :=
  Scan.guarded isduOnOctet isduReceiving s od

/-- Direction and FlowCTRL of the next M-sequence on the ISDU channel, if one is due. -/
def isduChannelAccess (s : IsduState) : Option (Bool × UInt8) :=
  if s.op = .none then none
  else if s.done && !s.idlePending then none
  else if s.done then some (true, FLOWCTRL_IDLE)
  else some (s.phase != .request, s.flowctrl)

/-- Consume a pending concluding IDLE request. -/
def isduTakeIdle (s : IsduState) : Bool × IsduState :=
  if s.idlePending then (true, { s with idlePending := false }) else (false, s)

/-- Consume a pending ABORT request. -/
def isduTakeAbort (s : IsduState) : Bool × IsduState :=
  if s.abortPending then (true, { s with abortPending := false }) else (false, s)

/-! ### Read and write services -/

/-- What `read_isdu` hands to its caller: result code, `*len` and the octets copied. -/
structure ReadResult where
  ret : Int
  len : Nat
  data : List UInt8
  deriving DecidableEq, Repr

/-- Give up a completed service that carries an error, keeping a pending ABORT. -/
def isduFinishError (p : PortState) : PortState :=
  serviceResult
    { p with
      diagnostics := { p.diagnostics with lastIsduError := p.isdu.error }
      isdu := { isduClear p.isdu with abortPending := p.isdu.abortPending } }
    ISDU_ERR_DEVICE

/-- Finalize a completed read. -/
def isduFinishRead (p : PortState) (cap : UInt8) : PortState × ReadResult :=
  let resultLen := p.isdu.response.length
  if p.isdu.error ≠ ISDU_ERROR_NONE then
    (isduFinishError p, ⟨ISDU_ERR_DEVICE, cap.toNat, []⟩)
  else if cap.toNat < resultLen then
    (serviceResult p ISDU_ERR_BUFFER_TOO_SMALL,
      ⟨ISDU_ERR_BUFFER_TOO_SMALL, if resultLen > 255 then 255 else resultLen, []⟩)
  else
    (serviceResult { p with isdu := isduClear p.isdu } STATUS_OK,
      ⟨STATUS_OK, resultLen, p.isdu.response⟩)

/-- Finalize a completed write. -/
def isduFinishWrite (p : PortState) : PortState × Int :=
  if p.isdu.error ≠ ISDU_ERROR_NONE then (isduFinishError p, ISDU_ERR_DEVICE)
  else (serviceResult { p with isdu := isduClear p.isdu } STATUS_OK, STATUS_OK)

/-- Acyclic services are available. -/
def acyclicAvailable (st : MasterState) : Bool := st == .operate || st == .preoperate

/-- The transport is free for a service. -/
structure Free (p : PortState) : Prop where
  available : acyclicAvailable p.state = true
  busy : isduBusy p.isdu = false
  done : p.isdu.done = false

/-- The ISDU state in which `read_isdu` leaves a newly accepted service. -/
def isduStartRead (s : IsduState) (index : UInt16) (subindex : UInt8) : IsduState :=
  { isduStart s .read index subindex with
    request := isduReadRequest index subindex
    requestLen := isduReadTotal index subindex }

/-- The ISDU state in which `write_isdu` leaves a newly accepted service. -/
def isduStartWrite (s : IsduState) (index : UInt16) (subindex : UInt8) (data : List UInt8) :
    IsduState :=
  { isduStart s .write index subindex with
    request := isduWriteRequest index subindex data
    requestLen := isduWritePos index subindex data }

/-- Leave the ISDU state for the one in `p`. -/
def World.leaveIsdu (w : World) (p : PortState) : World := (w.emit (.isduLeft w.port.isdu)).put p

/-- Replace the port by one in which a completed ISDU service may have been given up. -/
def World.collect (w : World) (p : PortState) : World :=
  if p.isdu.done then w.put p else w.leaveIsdu p

@[simp] theorem World.leaveIsdu_port (w : World) (p : PortState) : (w.leaveIsdu p).port = p := rfl

@[simp]
theorem World.collect_port (w : World) (p : PortState) :
  (w.collect p).port = p
  := by
  rw [World.collect]
  split <;> rfl

/-- Start, poll or collect an ISDU read. -/
def readIsdu (w : World) (index : UInt16) (subindex : UInt8) (cap : UInt8) :
    World × ReadResult :=
  let pass (ret : Int) : World × ReadResult := (w, ⟨ret, cap.toNat, []⟩)
  if !acyclicAvailable w.port.state then pass ISDU_ERR_INVALID_STATE
  else if isduBusy w.port.isdu then
    if isduMatches w.port.isdu .read index subindex then pass STATUS_PENDING
    else pass ISDU_ERR_BUSY
  else if w.port.isdu.done then
    if !isduMatches w.port.isdu .read index subindex then pass ISDU_ERR_BUSY
    else
      let (p, r) := isduFinishRead w.port cap
      (w.collect p, r)
  else
    let w := w.leaveIsdu { w.port with isdu := isduStartRead w.port.isdu index subindex }
    (w.emit (.isduStart .read index subindex [] w.port.isdu.request),
      ⟨STATUS_PENDING, cap.toNat, []⟩)

/-- The body of `write_isdu`. -/
def writeIsduBody (w : World) (index : UInt16) (subindex : UInt8) (data : List UInt8) :
    World × Int :=
  if !acyclicAvailable w.port.state then (w, ISDU_ERR_INVALID_STATE)
  else if isduBusy w.port.isdu then
    if isduMatches w.port.isdu .write index subindex then (w, STATUS_PENDING)
    else (w, ISDU_ERR_BUSY)
  else if w.port.isdu.done then
    if !isduMatches w.port.isdu .write index subindex then (w, ISDU_ERR_BUSY)
    else
      let (p, ret) := isduFinishWrite w.port
      (w.collect p, ret)
  else if isduWriteTooLong index subindex data.length then (w, ISDU_ERR_BUFFER_TOO_SMALL)
  else
    let w := w.leaveIsdu { w.port with isdu := isduStartWrite w.port.isdu index subindex data }
    (w.emit (.isduStart .write index subindex data w.port.isdu.request), STATUS_PENDING)

/-- Start, poll or collect an ISDU write. -/
def writeIsdu (w : World) (index : UInt16) (subindex : UInt8) (data : List UInt8) :
    World × Int :=
  let (w, ret) := writeIsduBody w index subindex data
  (w.emit (.wrote index subindex data ret), ret)

/-! ### What a service call can do -/

/-- The ways a call of `read_isdu` ends. -/
inductive ReadOutcome (w : World) (index : UInt16) (subindex cap : UInt8) :
    World × ReadResult → Prop where
  /-- The call is refused, or the service is still in progress. -/
  | pass (ret : Int) (hret : ret ≠ STATUS_OK) (hwait : ret = STATUS_PENDING ∨ ret < 0) :
      ReadOutcome w index subindex cap (w, ⟨ret, cap.toNat, []⟩)
  /-- The completed service carries an error. -/
  | failed (hdone : w.port.isdu.done = true) :
      ReadOutcome w index subindex cap
        (w.leaveIsdu (isduFinishError w.port), ⟨ISDU_ERR_DEVICE, cap.toNat, []⟩)
  /-- The buffer of the caller is too small. -/
  | small (len : Nat) (hdone : w.port.isdu.done = true) :
      ReadOutcome w index subindex cap
        (w.put (serviceResult w.port ISDU_ERR_BUFFER_TOO_SMALL),
          ⟨ISDU_ERR_BUFFER_TOO_SMALL, len, []⟩)
  /-- The result is handed out. -/
  | collected (hdone : w.port.isdu.done = true)
      (hmatches : isduMatches w.port.isdu .read index subindex = true)
      (herror : w.port.isdu.error = ISDU_ERROR_NONE) :
      ReadOutcome w index subindex cap
        (w.leaveIsdu (serviceResult { w.port with isdu := isduClear w.port.isdu } STATUS_OK),
          ⟨STATUS_OK, w.port.isdu.response.length, w.port.isdu.response⟩)
  /-- A new service starts. -/
  | started (hstate : acyclicAvailable w.port.state = true)
      (hbusy : isduBusy w.port.isdu = false) (hdone : w.port.isdu.done = false) :
      ReadOutcome w index subindex cap
        (⟨{ w.port with isdu := isduStartRead w.port.isdu index subindex },
            .isduStart .read index subindex [] (isduReadRequest index subindex) ::
              .isduLeft w.port.isdu :: w.log⟩,
          ⟨STATUS_PENDING, cap.toNat, []⟩)

/-- Latching a result leaves the ISDU state alone. -/
@[simp]
theorem serviceResult_isdu (p : PortState) (ret : Int) :
  (serviceResult p ret).isdu = p.isdu
  := by
  simp only [serviceResult]
  split <;> rfl

/-- A service that is given up is left. -/
theorem collect_cleared (w : World) {p : PortState} (h : p.isdu.done = false) :
  w.collect p = w.leaveIsdu p
  := by
  rw [World.collect, h]
  rfl

/-- A call of `read_isdu` ends in one of these ways. -/
theorem readIsdu_cases (w : World) (index : UInt16) (subindex cap : UInt8) :
  ReadOutcome w index subindex cap (readIsdu w index subindex cap)
  := by
  simp only [readIsdu]
  by_cases hstate : acyclicAvailable w.port.state = true
  · by_cases hbusy : isduBusy w.port.isdu = true
    · simp only [hstate, hbusy, Bool.not_true, Bool.false_eq_true, if_false, if_true]
      split
      · apply ReadOutcome.pass _ (by decide) (by decide)
      · apply ReadOutcome.pass _ (by decide) (by decide)
    · simp only [hstate, hbusy, Bool.not_true, Bool.false_eq_true, if_false]
      by_cases hdone : w.port.isdu.done = true
      · by_cases hmatches : isduMatches w.port.isdu .read index subindex = true
        · simp only [hdone, hmatches, Bool.not_true, Bool.false_eq_true, if_true, if_false,
            isduFinishRead]
          split
          · rw [collect_cleared w (by simp [isduFinishError, isduClear])]
            apply ReadOutcome.failed hdone
          · next herror =>
            split
            · rw [World.collect, serviceResult_isdu, hdone]
              apply ReadOutcome.small _ hdone
            · rw [collect_cleared w (by simp [isduClear])]
              apply ReadOutcome.collected hdone hmatches (not_not.mp herror)
        · simp only [hdone, hmatches, Bool.not_false, if_true]
          apply ReadOutcome.pass _ (by decide) (by decide)
      · rw [if_neg hdone]
        apply ReadOutcome.started hstate (Bool.eq_false_iff.mpr hbusy)
          (Bool.eq_false_iff.mpr hdone)
  · simp only [hstate, Bool.not_false, if_true]
    apply ReadOutcome.pass _ (by decide) (by decide)

/-- A call of `read_isdu` that succeeds has collected the service. -/
theorem readIsdu_ok {w : World} {index : UInt16} {subindex cap : UInt8}
    (h : (readIsdu w index subindex cap).2.ret = STATUS_OK) :
  (readIsdu w index subindex cap).1.port
    = serviceResult { w.port with isdu := isduClear w.port.isdu } STATUS_OK
  := by
  have hcases := readIsdu_cases w index subindex cap
  revert h hcases
  generalize readIsdu w index subindex cap = r
  rintro h (⟨_, hret⟩ | _ | _ | _ | _)
  · contradiction
  · contradiction
  · contradiction
  · rfl
  · exact absurd (show STATUS_PENDING = STATUS_OK from h) (by decide)

/-- A call of `read_isdu` that does not succeed is pending or refused. -/
theorem readIsdu_ret (w : World) (index : UInt16) (subindex cap : UInt8) :
  (readIsdu w index subindex cap).2.ret = STATUS_OK ∨
    (readIsdu w index subindex cap).2.ret = STATUS_PENDING ∨
    (readIsdu w index subindex cap).2.ret < 0
  := by
  have hcases := readIsdu_cases w index subindex cap
  revert hcases
  generalize readIsdu w index subindex cap = r
  rintro (⟨_, hret, hwait⟩ | _ | _ | _ | _)
  · exact .inr hwait
  · exact .inr (.inr (by decide : ISDU_ERR_DEVICE < 0))
  · exact .inr (.inr (by decide : ISDU_ERR_BUFFER_TOO_SMALL < 0))
  · exact .inl rfl
  · exact .inr (.inl rfl)

/-- The ways a call of `write_isdu` ends, before its result is recorded. -/
inductive WriteOutcome (w : World) (index : UInt16) (subindex : UInt8) (data : List UInt8) :
    World × Int → Prop where
  /-- The call is refused. -/
  | refused (ret : Int) (hret : ret < 0) : WriteOutcome w index subindex data (w, ret)
  /-- The service is still in progress. -/
  | pending (hstate : acyclicAvailable w.port.state = true)
      (hbusy : isduBusy w.port.isdu = true)
      (hmatches : isduMatches w.port.isdu .write index subindex = true) :
      WriteOutcome w index subindex data (w, STATUS_PENDING)
  /-- The completed service carries an error. -/
  | failed (hdone : w.port.isdu.done = true)
      (hmatches : isduMatches w.port.isdu .write index subindex = true) :
      WriteOutcome w index subindex data
        (w.leaveIsdu (isduFinishError w.port), ISDU_ERR_DEVICE)
  /-- Success is reported. -/
  | collected (hstate : acyclicAvailable w.port.state = true) (hdone : w.port.isdu.done = true)
      (hmatches : isduMatches w.port.isdu .write index subindex = true)
      (herror : w.port.isdu.error = ISDU_ERROR_NONE) :
      WriteOutcome w index subindex data
        (w.leaveIsdu (serviceResult { w.port with isdu := isduClear w.port.isdu } STATUS_OK),
          STATUS_OK)
  /-- A new service starts. -/
  | started (hstate : acyclicAvailable w.port.state = true)
      (hbusy : isduBusy w.port.isdu = false) (hdone : w.port.isdu.done = false)
      (hlen : isduWriteTooLong index subindex data.length = false) :
      WriteOutcome w index subindex data
        (⟨{ w.port with isdu := isduStartWrite w.port.isdu index subindex data },
            .isduStart .write index subindex data (isduWriteRequest index subindex data) ::
              .isduLeft w.port.isdu :: w.log⟩, STATUS_PENDING)

/-- A call of `write_isdu` ends in one of these ways. -/
theorem writeIsduBody_cases (w : World) (index : UInt16) (subindex : UInt8)
    (data : List UInt8) :
  WriteOutcome w index subindex data (writeIsduBody w index subindex data)
  := by
  simp only [writeIsduBody]
  by_cases hstate : acyclicAvailable w.port.state = true
  · by_cases hbusy : isduBusy w.port.isdu = true
    · simp only [hstate, hbusy, Bool.not_true, Bool.false_eq_true, if_false, if_true]
      split
      · next hmatches => apply WriteOutcome.pending hstate hbusy hmatches
      · apply WriteOutcome.refused _ (by decide)
    · simp only [hstate, hbusy, Bool.not_true, Bool.false_eq_true, if_false]
      by_cases hdone : w.port.isdu.done = true
      · by_cases hmatches : isduMatches w.port.isdu .write index subindex = true
        · simp only [hdone, hmatches, Bool.not_true, Bool.false_eq_true, if_true, if_false,
            isduFinishWrite]
          split
          · rw [collect_cleared w (by simp [isduFinishError, isduClear])]
            apply WriteOutcome.failed hdone hmatches
          · next herror =>
            rw [collect_cleared w (by simp [isduClear])]
            apply WriteOutcome.collected hstate hdone hmatches (not_not.mp herror)
        · simp only [hdone, hmatches, Bool.not_false, if_true]
          apply WriteOutcome.refused _ (by decide)
      · rw [if_neg hdone]
        split
        · apply WriteOutcome.refused _ (by decide)
        · next hlen =>
          apply WriteOutcome.started hstate (Bool.eq_false_iff.mpr hbusy)
            (Bool.eq_false_iff.mpr hdone) (Bool.eq_false_iff.mpr hlen)
  · simp only [hstate, Bool.not_false, if_true]
    apply WriteOutcome.refused _ (by decide)

end IolinkMaster
