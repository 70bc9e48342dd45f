import IolinkMaster.Event
import IolinkMaster.Parameters

/-!
# Services on top of the ISDU engine

Device information, Data Storage, readback verification, SystemCommands and the
multi-step parameter block write.
-/

namespace IolinkMaster

/-! ### Device information -/

/-- Read Direct Parameter Page 1, decode and validate it. -/
def readDeviceInfo (w : World) : World × Int :=
  let (w, r) := readIsdu w IDX_DIRECT_PARAMETERS_1 0 (UInt8.ofNat DPP1_LEN)
  if r.ret ≠ 0 then (w, r.ret)
  else
    let w := w.emit (.page r.data)
    let (p, ret) := applyDirectParameterPage1 w.port r.data
    let w := w.put p
    if ret ≠ 0 then (w, ret) else (w, validateDeviceInfo w.port)

/-! ### Readback verification -/

/-- Latch the outcome of a comparison. -/
def verifyOutcome (w : World) (ok : Bool) : World × Int :=
  let ret := if ok then STATUS_OK else ISDU_ERR_VERIFY_FAILED
  (w.put (serviceResult w.port ret), ret)

/-- Read an index back and compare it with the expected octets. -/
def verifyIsdu (w : World) (index : UInt16) (subindex : UInt8) (expected : List UInt8) :
    World × Int :=
  let (w, r) := readIsdu w index subindex 255
  if r.ret ≠ STATUS_OK then (w, r.ret) else verifyOutcome w (r.data == expected)

def DS_RECORD_HEADER_LEN : Nat := 4

/-- Split off the next Data Storage record. -/
def dsNextRecord (data : List UInt8) : Option (List UInt8 × List UInt8) :=
  if data.length < DS_RECORD_HEADER_LEN then none
  else
    let valueLen := (data.getD (DS_RECORD_HEADER_LEN - 1) 0).toNat
    if valueLen > data.length - DS_RECORD_HEADER_LEN then none
    else some (data.splitAt (DS_RECORD_HEADER_LEN + valueLen))

/-- A record split off leaves a shorter image. -/
theorem dsNextRecord_length {data record rest : List UInt8}
    (h : dsNextRecord data = some (record, rest)) :
  rest.length < data.length
  := by
  simp only [dsNextRecord] at h
  split at h
  · contradiction
  · split at h
    · contradiction
    · simp only [List.splitAt_eq, Option.some.injEq, Prod.mk.injEq] at h
      obtain ⟨-, rfl⟩ := h
      simp only [DS_RECORD_HEADER_LEN] at *
      rw [List.length_drop]
      omega

/-- Some record of the image `actual` equals `record`; the search fails on an octet
that starts no record. -/
def dsImageFindsRecord (record : List UInt8) (actual : List UInt8) : Bool :=
  if actual = [] then false
  else
    match _h : dsNextRecord actual with
    | none => false
    | some (r, rest) => r == record || dsImageFindsRecord record rest
termination_by actual.length
decreasing_by exact dsNextRecord_length _h

/-- Every record of `expected` is present in `actual`. -/
def dsImageContainsRecords (actual expected : List UInt8) : Bool :=
  if expected = [] then true
  else
    match _h : dsNextRecord expected with
    | none => false
    | some (r, rest) => dsImageFindsRecord r actual && dsImageContainsRecords actual rest
termination_by expected.length
decreasing_by exact dsNextRecord_length _h

/-- The image is a sequence of well-formed Data Storage records. -/
def dsImageIsValid (data : List UInt8) : Bool :=
  if data = [] then true
  else
    match _h : dsNextRecord data with
    | none => false
    | some (_, rest) => dsImageIsValid rest
termination_by data.length
decreasing_by exact dsNextRecord_length _h

/-- Read the Data Storage back and compare it with the expected image. -/
def verifyDataStorage (w : World) (expected : List UInt8) : World × Int :=
  let (w, r) := readIsdu w IDX_DATA_STORAGE 0 255
  if r.ret ≠ STATUS_OK then (w, r.ret)
  else if dsImageIsValid expected && dsImageIsValid r.data then
    verifyOutcome w (dsImageContainsRecords r.data expected)
  else verifyOutcome w (r.data == expected)

/-! ### SystemCommands and parameter blocks -/

/-- Write a single-octet SystemCommand. -/
def writeSystemCommand (w : World) (command : UInt8) : World × Int :=
  writeIsdu w IDX_SYSTEM_COMMAND 0 [command]

/-- The latched parameter block is the given one. -/
def blockMatches (b : BlockState) (index : UInt16) (subindex : UInt8) (data : List UInt8) :
    Bool :=
  b.index == index && b.subindex == subindex && b.data == data

/-- Enter a step of the parameter block operation. -/
def blockSetStep (w : World) (step : BlockStep) : World :=
  w.put { w.port with block := { w.port.block with step := step } }

/-- Run one step of the parameter block operation and the rest after it. -/
def blockStep (w : World) (step next : BlockStep) (call : World → World × Int)
    (rest : World → World × Int) : World × Int :=
  if w.port.block.step = step then
    let (w, ret) := call w
    if ret ≠ STATUS_OK then (w, ret) else rest (blockSetStep w next)
  else rest w

/-- Verify the parameter block and give it up unless the readback is pending. -/
def blockVerify (w : World) : World × Int :=
  let b := w.port.block
  let (w, ret) :=
    if b.index = IDX_DATA_STORAGE ∧ b.subindex = 0 then verifyDataStorage w b.data
    else verifyIsdu w b.index b.subindex b.data
  let w := if ret = STATUS_OK ∨ ret < 0 then w.put { w.port with block := BlockState.zero }
    else w
  (w.put (serviceResult w.port ret), ret)

/-- Write a parameter block: begin download, write, end download, verify. -/
def writeParameterBlock (w : World) (index : UInt16) (subindex : UInt8) (data : List UInt8) :
    World × Int :=
  if data.length > ISDU_BUFFER_SIZE - ISDU_WRITE_HEADER_MAX then
    (w, ISDU_ERR_BUFFER_TOO_SMALL)
  else if w.port.block.step ≠ .none && !blockMatches w.port.block index subindex data then
    (w.put (serviceResult w.port ISDU_ERR_BUSY), ISDU_ERR_BUSY)
  else
    let w := if w.port.block.step = .none then
        w.put { w.port with block := ⟨.beginDownload, index, subindex, data⟩ }
      else w
    blockStep w .beginDownload .write
      (fun w => writeSystemCommand w CMD_PARAM_DOWNLOAD_START) fun w =>
    blockStep w .write .endDownload
      (fun w => writeIsdu w w.port.block.index w.port.block.subindex w.port.block.data) fun w =>
    blockStep w .endDownload .verify
      (fun w => writeSystemCommand w CMD_PARAM_DOWNLOAD_END)
    blockVerify

/-- Stage output process data. -/
def setPdOut (p : PortState) (data : List UInt8) : PortState × Int :=
  if data.length > PD_OUT_MAX_SIZE ∨ data.length ≠ p.config.pdOutLen then
    (p, ERR_BUFFER_TOO_SMALL)
  else ({ p with pdOut := data, pdOutLen := data.length }, STATUS_OK)

/-! ### The calls of the application -/

/-- The effect and result of a service call. -/
def serviceBody (w : World) : Service → World × Int
  | .readIsdu index subindex cap =>
    let (w, r) := readIsdu w index subindex cap
    (w, r.ret)
  | .writeIsdu index subindex data => writeIsdu w index subindex data
  | .readDeviceInfo => readDeviceInfo w
  | .readDataStorage cap =>
    let (w, r) := readIsdu w IDX_DATA_STORAGE 0 cap
    (w, r.ret)
  | .writeDataStorage data => writeIsdu w IDX_DATA_STORAGE 0 data
  | .restoreDataStorage data => writeParameterBlock w IDX_DATA_STORAGE 0 data
  | .verifyDataStorage expected => verifyDataStorage w expected
  | .verifyIsdu index subindex expected => verifyIsdu w index subindex expected
  | .readDetailedDeviceStatus cap =>
    let (w, r) := readIsdu w IDX_DETAILED_DEVICE_STATUS 0 cap
    (w, r.ret)
  | .readEventCode => readEventCode w
  | .ackEvent => ackEvent w
  | .readEventDetails maxEvents => readEventDetails w maxEvents
  | .beginParameterDownload => writeSystemCommand w CMD_PARAM_DOWNLOAD_START
  | .endParameterDownload => writeSystemCommand w CMD_PARAM_DOWNLOAD_END
  | .beginParameterUpload => writeSystemCommand w CMD_PARAM_UPLOAD_START
  | .endParameterUpload => writeSystemCommand w CMD_PARAM_UPLOAD_END
  | .storeParameterDownload => writeSystemCommand w CMD_PARAM_DOWNLOAD_STORE
  | .writeParameterBlock index subindex data => writeParameterBlock w index subindex data
  | .setPdOut data =>
    let (p, ret) := setPdOut w.port data
    (w.put p, ret)

/-- Make a service call and record its result. -/
def runService (w : World) (call : Service) : World :=
  let (w, ret) := serviceBody w call
  w.emit (.returned call ret)

end IolinkMaster
