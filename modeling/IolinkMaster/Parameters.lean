import IolinkMaster.State

/-!
# Direct Parameter Page 1

Decoding of Direct Parameter Page 1 and its validation against the port
configuration.
-/

namespace IolinkMaster

def DPP1_LEN : Nat := 16
def DPP1_OFF_MASTER_COMMAND : Nat := 0x00
def DPP1_OFF_MIN_CYCLE_TIME : Nat := 0x02
def DPP1_OFF_MSEQ_CAPABILITY : Nat := 0x03
def DPP1_OFF_REVISION_ID : Nat := 0x04
def DPP1_OFF_PD_IN_DESC : Nat := 0x05
def DPP1_OFF_PD_OUT_DESC : Nat := 0x06
def DPP1_OFF_VENDOR_ID_HI : Nat := 0x07
def DPP1_OFF_VENDOR_ID_LO : Nat := 0x08
def DPP1_OFF_DEVICE_ID_HI : Nat := 0x09
def DPP1_OFF_DEVICE_ID_MID : Nat := 0x0A
def DPP1_OFF_DEVICE_ID_LO : Nat := 0x0B
def REVISION_1_0 : UInt8 := 0x10
def REVISION_1_1 : UInt8 := 0x11

/-- Decode a MinCycleTime octet into units of 100 µs. -/
def decodeMinCycleTime100us (octet : UInt8) : UInt16 :=
  let timeBase := (octet >>> 6) &&& 0x03
  let multiplier := (octet &&& 0x3F).toUInt16
  if timeBase = 0 then multiplier
  else if timeBase = 1 then 64 + multiplier * 4
  else if timeBase = 2 then 320 + multiplier * 16
  else octet.toUInt16

/-- Decode a ProcessData descriptor into whole octets. -/
def decodePdDescriptor (descriptor : UInt8) : Nat :=
  let length := (descriptor &&& 0x1F).toNat
  if descriptor &&& 0x80 ≠ 0 then length + 1 else (length + 7) / 8

/-- A ProcessData descriptor with a reserved BYTE/Length combination. -/
def pdDescriptorIsReserved (descriptor : UInt8) : Bool :=
  let length := descriptor &&& 0x1F
  if descriptor &&& 0x80 ≠ 0 then length < 2 else length ≥ 17

/-- The OPERATE capability codes that suit a configured M-sequence type. -/
def mseqCodeCompatible (type : MSeqType) (code : UInt8) : Bool :=
  match type with
  | .type1_1 | .type1_2 => code == 0 || code == 1
  | .type0 | .type2_1 | .type2_2 => code == 0
  | .type1V => code == 6 || code == 7
  | .type2V => decide (4 ≤ code) && decide (code ≤ 7)

/-- The OPERATE capability code of a configured M-sequence type and width of the on-request
data. -/
def mseqCapabilityCode (type : MSeqType) (odLen : Nat) : UInt8 :=
  match type with
  | .type1_2 => 1
  | .type1V => if odLen = 32 then 7 else 6
  | .type2V =>
    if odLen = 1 then 4
    else if odLen = 2 then 5
    else if odLen = 8 then 6
    else if odLen = 32 then 7
    else 0
  | .type0 | .type1_1 | .type2_1 | .type2_2 => 0

/-- The M-sequence type for a capability code, the ISDU support and the lengths of the process
data, if there is one. -/
def mseqTypeFromCapabilityCode (code : UInt8) (isduSupported : Bool)
    (pdInLen pdOutLen : Nat) : Option MSeqType :=
  if code = 0 then
    if pdInLen = 0 ∧ pdOutLen = 0 then some .type0
    else if isduSupported then some .type2_2
    else some .type2_1
  else if code = 1 then some (if isduSupported then .type1_2 else .type1_1)
  else if code = 4 ∨ code = 6 ∨ code = 7 then some .type2V
  else if code = 5 then some .type2V
  else none

/-- Decode Direct Parameter Page 1; the error is the result code. -/
def parseDirectParameterPage1 (page : List UInt8) : Except Int DeviceInfo :=
  let octet (off : Nat) : UInt8 := page.getD off 0
  if page.length < DPP1_LEN then .error PARAM_ERR_TOO_SHORT
  else if pdDescriptorIsReserved (octet DPP1_OFF_PD_IN_DESC) ||
      pdDescriptorIsReserved (octet DPP1_OFF_PD_OUT_DESC) then
    .error PARAM_ERR_PD_DESCRIPTOR
  else .ok
    { valid := true
      minCycleTime := octet DPP1_OFF_MIN_CYCLE_TIME
      minCycleTime100us := decodeMinCycleTime100us (octet DPP1_OFF_MIN_CYCLE_TIME)
      mseqCapability := octet DPP1_OFF_MSEQ_CAPABILITY
      isduSupported := octet DPP1_OFF_MSEQ_CAPABILITY &&& 0x01 != 0
      operateMseqCode := (octet DPP1_OFF_MSEQ_CAPABILITY >>> 1) &&& 0x07
      preoperateMseqCode := (octet DPP1_OFF_MSEQ_CAPABILITY >>> 4) &&& 0x03
      revisionId := octet DPP1_OFF_REVISION_ID
      pdInDescriptor := octet DPP1_OFF_PD_IN_DESC
      pdOutDescriptor := octet DPP1_OFF_PD_OUT_DESC
      pdInLen := decodePdDescriptor (octet DPP1_OFF_PD_IN_DESC)
      pdOutLen := decodePdDescriptor (octet DPP1_OFF_PD_OUT_DESC)
      vendorId := ((octet DPP1_OFF_VENDOR_ID_HI).toUInt16 <<< 8) |||
        (octet DPP1_OFF_VENDOR_ID_LO).toUInt16
      deviceId := ((octet DPP1_OFF_DEVICE_ID_HI).toUInt32 <<< 16) |||
        ((octet DPP1_OFF_DEVICE_ID_MID).toUInt32 <<< 8) |||
        (octet DPP1_OFF_DEVICE_ID_LO).toUInt32 }

/-- Compare a decoded page with the port configuration. -/
def validateConfigAgainstDeviceInfo (info : DeviceInfo) (config : Config) : Int :=
  if !info.valid then STATUS_PENDING
  else if info.revisionId ≠ REVISION_1_0 ∧ info.revisionId ≠ REVISION_1_1 then
    PARAM_ERR_REVISION
  else if config.minCycleTime.toUInt16 < info.minCycleTime100us then PARAM_ERR_CYCLE_TIME
  else if config.pdInLen ≠ info.pdInLen ∨ config.pdOutLen ≠ info.pdOutLen then
    PARAM_ERR_PD_SIZE
  else if !mseqCodeCompatible config.mSeqType info.operateMseqCode then PARAM_ERR_M_SEQUENCE
  else if config.inspectionLevel ≠ .noCheck ∧ info.vendorId ≠ config.expectedVendorId then
    PARAM_ERR_VENDOR_ID
  else if config.inspectionLevel ≠ .noCheck ∧ info.deviceId ≠ config.expectedDeviceId then
    PARAM_ERR_DEVICE_ID
  else STATUS_OK

/-- Fill a configuration from a decoded page; it is left alone when no M-sequence type suits
the page.  A cycle time beyond the field is clamped. -/
def selectConfigFromDeviceInfo (info : DeviceInfo) (config : Config) : Config × Int :=
  if !info.valid then (config, STATUS_PENDING)
  else
    match mseqTypeFromCapabilityCode info.operateMseqCode info.isduSupported info.pdInLen
        info.pdOutLen with
    | none => (config, PARAM_ERR_M_SEQUENCE)
    | some type =>
      ({ config with
          mSeqType := type
          minCycleTime :=
            if info.minCycleTime100us > 255 then 255 else info.minCycleTime100us.toUInt8
          pdInLen := info.pdInLen
          pdOutLen := info.pdOutLen },
        STATUS_OK)

/-- Validate the device information held by the port. -/
def validateDeviceInfo (p : PortState) : Int :=
  validateConfigAgainstDeviceInfo p.deviceInfo p.config

/-- Decode a page into the device information of the port, which is left alone when
the page is refused. -/
def applyDirectParameterPage1 (p : PortState) (page : List UInt8) : PortState × Int :=
  match parseDirectParameterPage1 page with
  | .ok info => ({ p with deviceInfo := info }, STATUS_OK)
  | .error e => (p, e)

/-- Hand out the device information of the port. -/
def getDeviceInfo (p : PortState) : Int × DeviceInfo :=
  (if !p.deviceInfo.valid then STATUS_PENDING else STATUS_OK, p.deviceInfo)

/-- A page passes the check of a configuration. -/
def PagePasses (page : List UInt8) (config : Config) : Prop :=
  ∃ info, parseDirectParameterPage1 page = .ok info ∧
    validateConfigAgainstDeviceInfo info config = STATUS_OK

/-- A decoded page is marked as valid. -/
theorem parseDirectParameterPage1_valid {page : List UInt8} {info : DeviceInfo}
    (h : parseDirectParameterPage1 page = .ok info) :
  info.valid = true
  := by
  simp only [parseDirectParameterPage1] at h
  split at h
  · contradiction
  · split at h
    · contradiction
    · cases h
      rfl

/-- Every refusal of a page is a negative result code. -/
theorem parseDirectParameterPage1_error_neg {page : List UInt8} {e : Int}
    (h : parseDirectParameterPage1 page = .error e) :
  e < 0
  := by
  simp only [parseDirectParameterPage1] at h
  split at h
  · cases h
    decide
  · split at h
    · cases h
      decide
    · contradiction

/-- A valid page is accepted or refused, never left pending. -/
theorem validateConfigAgainstDeviceInfo_le {info : DeviceInfo} (config : Config)
    (h : info.valid = true) :
  validateConfigAgainstDeviceInfo info config ≤ 0
  := by
  simp only [validateConfigAgainstDeviceInfo, h, Bool.not_true, Bool.false_eq_true, if_false]
  repeat' split
  all_goals decide

/-- Device information passes the check only when it is valid. -/
theorem valid_of_validate {info : DeviceInfo} {config : Config}
    (h : validateConfigAgainstDeviceInfo info config = STATUS_OK) :
  info.valid = true
  := by
  by_contra hv
  rw [Bool.not_eq_true] at hv
  simp [validateConfigAgainstDeviceInfo, hv, STATUS_PENDING, STATUS_OK] at h

end IolinkMaster
