import IolinkMaster.Selection

/-!
# Selecting, initialising and validating

The rules by which a device's page and a port's configuration suit each other are written three
times: where a configuration is filled from the page, where a port is initialised with it, and
where it is checked against the page.  The three agree, up to a cycle time the configuration
cannot hold.
-/

namespace IolinkMaster

/-! ### What a page can declare -/

/-- A ProcessData descriptor declares at most 32 octets. -/
theorem decodePdDescriptor_le (descriptor : UInt8) :
  decodePdDescriptor descriptor ≤ 32
  := by
  revert descriptor
  apply forall_octet
  decide +kernel

/-- The process data of a decoded page fits the port. -/
theorem pdLen_of_parse {page : List UInt8} {info : DeviceInfo}
    (h : parseDirectParameterPage1 page = .ok info) :
  info.pdInLen ≤ PD_IN_MAX_SIZE ∧ info.pdOutLen ≤ PD_OUT_MAX_SIZE
  := by
  simp only [parseDirectParameterPage1] at h
  split at h
  · contradiction
  · split at h
    · contradiction
    · cases h
      exact ⟨decodePdDescriptor_le _, decodePdDescriptor_le _⟩

/-! ### What a filled configuration has of the page -/

section

variable {code : UInt8} {isduSupported : Bool} {pdInLen pdOutLen : Nat} {type : MSeqType}

/-- The M-sequence type chosen for a capability code passes the check of that code. -/
theorem compatible_of_selected
    (h : mseqTypeFromCapabilityCode code isduSupported pdInLen pdOutLen = some type) :
  mseqCodeCompatible type code = true
  := by
  simp only [mseqTypeFromCapabilityCode] at h
  split at h
  · next hcode =>
    rw [hcode]
    split at h
    · cases h
      rfl
    · split at h <;> (cases h; rfl)
  · split at h
    · next hcode =>
      rw [hcode]
      split at h <;> (cases h; rfl)
    · split at h
      · next hcode =>
        cases h
        obtain hcode | hcode | hcode := hcode
        all_goals
          rw [hcode]
          rfl
      · split at h
        · next hcode =>
          cases h
          rw [hcode]
          rfl
        · contradiction

/-- TYPE_0 is chosen only for a device without process data. -/
theorem pdLen_of_selected
    (h : mseqTypeFromCapabilityCode code isduSupported pdInLen pdOutLen = some .type0) :
  pdInLen = 0 ∧ pdOutLen = 0
  := by
  simp only [mseqTypeFromCapabilityCode] at h
  split at h
  · split at h
    · next hzero => apply hzero
    · split at h <;> contradiction
  · split at h
    · split at h <;> contradiction
    · split at h
      · contradiction
      · split at h <;> contradiction

end

/-- The cycle time of a configuration filled from a page with the decoded MinCycleTime `time`. -/
def clampCycleTime (time : UInt16) : UInt8 := if time > 255 then 255 else time.toUInt8

/-- A cycle time the configuration can hold is not changed. -/
theorem clampCycleTime_exact {time : UInt16} (h : time ≤ 255) :
  (clampCycleTime time).toUInt16 = time
  := by
  rw [clampCycleTime, if_neg (UInt16.not_lt.mpr h)]
  rw [UInt16.le_iff_toNat_le] at h
  apply UInt16.toNat_inj.mp
  rw [UInt8.toNat_toUInt16, UInt16.toNat_toUInt8]
  apply Nat.mod_eq_of_lt
  apply Nat.lt_succ_of_le h

/-- A longer cycle time is clamped to a shorter one. -/
theorem clampCycleTime_lt {time : UInt16} (h : 255 < time) :
  (clampCycleTime time).toUInt16 < time
  := by
  rw [clampCycleTime, if_pos h]
  apply h

/-- A configuration filled from a page is the base configuration with the M-sequence type, the
process data and the cycle time of the page. -/
theorem selectConfig_eq {info : DeviceInfo} {config : Config} (hvalid : info.valid = true)
    (h : (selectConfigFromDeviceInfo info config).2 = STATUS_OK) :
  ∃ type, mseqTypeFromCapabilityCode info.operateMseqCode info.isduSupported info.pdInLen
      info.pdOutLen = some type ∧
    (selectConfigFromDeviceInfo info config).1 = { config with
      mSeqType := type
      minCycleTime := clampCycleTime info.minCycleTime100us
      pdInLen := info.pdInLen
      pdOutLen := info.pdOutLen }
  := by
  have hselected := selected_of_ok h
  generalize (selectConfigFromDeviceInfo info config).1.mSeqType = type at hselected
  refine ⟨type, hselected, ?_⟩
  simp only [selectConfigFromDeviceInfo, hvalid, hselected]
  rfl

/-! ### Initialization -/

/-- The hooks an initialization calls succeed. -/
structure Env.BringsUp (env : Env) : Prop where
  phyInit : env.phyInit = 0
  flushRx : env.flushRx = STATUS_OK
  setBaudrate : env.setBaudrate = STATUS_OK
  setMode : env.setMode = STATUS_OK

/-- An initialization goes on after a step that succeeds. -/
theorem initStep_ok {r : World × Int} {rest : World → World × Int} (hr : r.2 = STATUS_OK) :
  initStep r rest = rest r.1
  := by
  rw [initStep, if_neg (not_not.mpr hr)]

/-- A port of IO-Link mode whose configuration is not refused starts up, on a PHY whose hooks
succeed. -/
theorem initPort_accepts {env : Env} (henv : env.BringsUp) (w : World) (phy : PhyApi)
    {config : Config} (hconfig : configRefused config = false) (hmode : config.portMode = .iolink) :
  (initPort env w phy config).2 = STATUS_OK ∧
    (initPort env w phy config).1.port.state = .startup
  := by
  have hset : ∀ v mode, setMode env v mode = (v.emit (.setMode mode), STATUS_OK) := by
    intro v mode
    simp only [setMode, henv.setMode, ite_self]
  have hrate : ∀ v rate, setBaudrate env v rate = (v.emit (.setBaudrate rate), STATUS_OK) := by
    intro v rate
    simp only [setBaudrate, henv.setBaudrate, ite_self]
  have hflush : ∀ v, (flushRx env v).2 = STATUS_OK ∧ (flushRx env v).1.port.state = v.port.state := by
    intro v
    simp only [flushRx, henv.flushRx]
    split <;> exact ⟨rfl, rfl⟩
  have hphy : ∀ v : World, v.port.config.portMode = .iolink →
      (initPhy env v).2 = STATUS_OK ∧ (initPhy env v).1.port.state = v.port.state := by
    intro v hv
    simp only [initPhy, hv]
    rw [initStep_ok (hflush v).1, hrate, initStep_ok rfl, hset, initStep_ok rfl]
    exact ⟨rfl, (hflush v).2⟩
  have hstarted : (zeroPort phy config).state = .startup := if_pos hmode
  simp only [initPort, hconfig, henv.phyInit, bne_self_eq_false, Bool.and_false,
    Bool.false_eq_true, if_false]
  rw [← hstarted]
  exact hphy ⟨zeroPort phy config, .enter (zeroPort phy config).state :: w.log⟩ hmode

/-! ### Agreement -/

section

variable {info : DeviceInfo} {config : Config}
  (hvalid : info.valid = true)
  (hselect : (selectConfigFromDeviceInfo info config).2 = STATUS_OK)
include hvalid hselect

/-- `iolink_master_init` does not refuse a configuration filled from a page. -/
theorem not_refused_of_selected
    (hlen : info.pdInLen ≤ PD_IN_MAX_SIZE ∧ info.pdOutLen ≤ PD_OUT_MAX_SIZE) :
  configRefused (selectConfigFromDeviceInfo info config).1 = false
  := by
  obtain ⟨type, htype, heq⟩ := selectConfig_eq hvalid hselect
  rw [heq, configRefused]
  by_cases hzero : type = .type0
  · subst hzero
    obtain ⟨hin, hout⟩ := pdLen_of_selected htype
    simp [hin, hout]
  · simp [hzero, hlen]

/-- What the check of a page says of a configuration filled from it. -/
theorem validate_of_selected
    (hrevision : info.revisionId = REVISION_1_0 ∨ info.revisionId = REVISION_1_1)
    (hidentity : config.inspectionLevel = .noCheck ∨
      config.expectedVendorId = info.vendorId ∧ config.expectedDeviceId = info.deviceId) :
  validateConfigAgainstDeviceInfo info (selectConfigFromDeviceInfo info config).1
    = if info.minCycleTime100us ≤ 255 then STATUS_OK else PARAM_ERR_CYCLE_TIME
  := by
  obtain ⟨type, htype, heq⟩ := selectConfig_eq hvalid hselect
  have hknown : ¬ (info.revisionId ≠ REVISION_1_0 ∧ info.revisionId ≠ REVISION_1_1) := by
    rw [not_and_or, not_not, not_not]
    apply hrevision
  rw [heq]
  simp only [validateConfigAgainstDeviceInfo, hvalid, Bool.not_true, Bool.false_eq_true, if_false,
    hknown]
  by_cases hheld : info.minCycleTime100us ≤ 255
  · -- The page passes every check: the remaining ones compare the page with itself.
    have hvendor : ¬ (config.inspectionLevel ≠ .noCheck ∧
        info.vendorId ≠ config.expectedVendorId) := by
      rintro ⟨hchecked, hne⟩
      rcases hidentity with hnone | ⟨hsame, -⟩
      · exact hchecked hnone
      · exact hne hsame.symm
    have hdevice : ¬ (config.inspectionLevel ≠ .noCheck ∧
        info.deviceId ≠ config.expectedDeviceId) := by
      rintro ⟨hchecked, hne⟩
      rcases hidentity with hnone | ⟨-, hsame⟩
      · exact hchecked hnone
      · exact hne hsame.symm
    rw [if_pos hheld, clampCycleTime_exact hheld, if_neg (UInt16.lt_irrefl _)]
    simp [compatible_of_selected htype, hvendor, hdevice]
  · rw [if_neg hheld, if_pos (clampCycleTime_lt (UInt16.not_le.mp hheld))]

end

/-- A configuration filled from a page in a base configuration of IO-Link mode, whose identity
check suits the page, is accepted by `iolink_master_init`; it passes the check of the page if the
decoded MinCycleTime fits its field, and fails with the cycle-time error otherwise. -/
theorem selection_agrees {page : List UInt8} {info : DeviceInfo}
    (hpage : parseDirectParameterPage1 page = .ok info) {config : Config}
    (hselect : (selectConfigFromDeviceInfo info config).2 = STATUS_OK)
    (hrevision : info.revisionId = REVISION_1_0 ∨ info.revisionId = REVISION_1_1)
    (hmode : config.portMode = .iolink)
    (hidentity : config.inspectionLevel = .noCheck ∨
      config.expectedVendorId = info.vendorId ∧ config.expectedDeviceId = info.deviceId) :
  (∀ env : Env, env.BringsUp → ∀ w phy,
    (initPort env w phy (selectConfigFromDeviceInfo info config).1).2 = STATUS_OK ∧
      (initPort env w phy (selectConfigFromDeviceInfo info config).1).1.port.state = .startup) ∧
  (info.minCycleTime100us ≤ 255 →
    validateConfigAgainstDeviceInfo info (selectConfigFromDeviceInfo info config).1
      = STATUS_OK) ∧
  (255 < info.minCycleTime100us →
    validateConfigAgainstDeviceInfo info (selectConfigFromDeviceInfo info config).1
      = PARAM_ERR_CYCLE_TIME)
  := by
  have hvalid := parseDirectParameterPage1_valid hpage
  have hrefused := not_refused_of_selected hvalid hselect (pdLen_of_parse hpage)
  have hvalidate := validate_of_selected hvalid hselect hrevision hidentity
  refine ⟨?_, ?_, ?_⟩
  · intro env henv w phy
    apply initPort_accepts henv w phy hrefused
    obtain ⟨type, -, heq⟩ := selectConfig_eq hvalid hselect
    rw [heq]
    apply hmode
  · intro hheld
    rw [hvalidate, if_pos hheld]
  · intro hlong
    rw [hvalidate, if_neg (UInt16.not_le.mpr hlong)]

/-- A page with the given MinCycleTime octet: capability code 0 with ISDU support, an octet of
process data either way. -/
def pageOfCycleTime (octet : UInt8) : List UInt8 :=
  [0x00, 0x00, octet, 0x01, 0x11, 0x08, 0x08, 0x01, 0x23, 0x00, 0x00, 0x01, 0x00, 0x00, 0x00, 0x00]

/-- A base configuration that demands the device of these pages. -/
def demanding : Config :=
  { Config.bare .type0 0 0 with
    inspectionLevel := .identical
    expectedVendorId := 0x0123
    expectedDeviceId := 1 }

/-- A device with a minimum cycle time of 6.3 ms is accepted; one of 132.8 ms fails the check with
the cycle-time error. -/
theorem selection_agrees_cycleTime :
  (initPort (.quiet []) (powerOn .full demanding) .full
      (selectConfigFromDeviceInfo (decoded (pageOfCycleTime 0x3F)) demanding).1).2 = STATUS_OK ∧
    validateConfigAgainstDeviceInfo (decoded (pageOfCycleTime 0x3F))
      (selectConfigFromDeviceInfo (decoded (pageOfCycleTime 0x3F)) demanding).1 = STATUS_OK ∧
    validateConfigAgainstDeviceInfo (decoded (pageOfCycleTime 0xBF))
      (selectConfigFromDeviceInfo (decoded (pageOfCycleTime 0xBF)) demanding).1
        = PARAM_ERR_CYCLE_TIME
  := by
  obtain ⟨haccepts, hheld, -⟩ := @selection_agrees (pageOfCycleTime 0x3F)
    (decoded (pageOfCycleTime 0x3F)) rfl demanding (by decide) (.inr (by decide)) rfl
    (.inr ⟨by decide, by decide⟩)
  obtain ⟨-, -, hlong⟩ := @selection_agrees (pageOfCycleTime 0xBF)
    (decoded (pageOfCycleTime 0xBF)) rfl demanding (by decide) (.inr (by decide)) rfl
    (.inr ⟨by decide, by decide⟩)
  exact ⟨(haccepts _ ⟨rfl, rfl, rfl, rfl⟩ _ _).1, hheld (by decide), hlong (by decide)⟩

end IolinkMaster
