import IolinkMaster.Identity
import IolinkMaster.PowerOn

/-!
# Startup with an inspection

A port that is to check its device reads Direct Parameter Page 1 on the ISDU channel of PREOPERATE,
in M-sequences of TYPE_0, decodes it and compares it with its configuration.  Over a device that
answers, the port gets to OPERATE exactly if the page passes, and hands out the decoded page from
then on; otherwise it gives up for good.
-/

namespace IolinkMaster

/-! ### What the port makes of a page -/

/-- The read of Direct Parameter Page 1. -/
def IsduCall.inspection : IsduCall := .read IDX_DIRECT_PARAMETERS_1 0

/-- The device information in the outcome of the read, if it passes the check of the
configuration. -/
def inspect (config : Config) : Outcome → Option DeviceInfo
  | .positive page =>
    if DPP1_LEN < page.length then none
    else
      match parseDirectParameterPage1 page with
      | .ok info =>
        if validateConfigAgainstDeviceInfo info config = STATUS_OK then some info else none
      | .error _ => none
  | .negative _ | .perturbed | .malformed => none

/-- What passes is a decoded page. -/
theorem inspect_some {config : Config} {o : Outcome} {info : DeviceInfo}
    (h : inspect config o = some info) :
  ∃ page, o = .positive page ∧ page.length ≤ DPP1_LEN ∧
    parseDirectParameterPage1 page = .ok info ∧
    validateConfigAgainstDeviceInfo info config = STATUS_OK
  := by
  cases o with
  | positive page =>
      simp only [inspect] at h
      split at h
      · contradiction
      · next hfit =>
        split at h
        · next hparse =>
          split at h
          · next hpass =>
            obtain rfl := Option.some.inj h
            exact ⟨page, rfl, Nat.le_of_not_lt hfit, hparse, hpass⟩
          · contradiction
        · contradiction
  | negative errorType => contradiction
  | perturbed => contradiction
  | malformed => contradiction

/-- An application answers with octets or with an error. -/
theorem Answer.outcome_cases (a : Answer) :
  (∃ octets, a.outcome = .positive octets) ∨
    ∃ errorType, a.outcome = .negative errorType ∧ errorType ≠ ISDU_ERROR_NONE
  := by
  cases a with
  | data octets h => exact .inl ⟨octets, rfl⟩
  | done => exact .inl ⟨[], rfl⟩
  | error errorType h => exact .inr ⟨errorType, rfl, h⟩

section

variable {w : World} {a : Answer}

/-- The read of the page has its answer: the port collects it. -/
theorem readIsdu_inspection (hstate : w.port.state = .preoperate)
    (howns : IsduCall.inspection.Owns w.port.isdu) (h : HasAnswer a w.port.isdu) :
  readIsdu w IDX_DIRECT_PARAMETERS_1 0 (UInt8.ofNat DPP1_LEN)
    = (w.collect (isduFinishRead w.port (UInt8.ofNat DPP1_LEN)).1,
        (isduFinishRead w.port (UInt8.ofNat DPP1_LEN)).2)
  := by
  apply readIsdu_done _ h.done howns.matches
  rw [hstate]
  rfl

/-- A page that fits the buffer is decoded and checked. -/
theorem readDeviceInfo_page (hstate : w.port.state = .preoperate)
    (howns : IsduCall.inspection.Owns w.port.isdu) (h : HasAnswer a w.port.isdu)
    {page : List UInt8} (hpage : a.outcome = .positive page) (hfit : page.length ≤ DPP1_LEN) :
  ∃ v : World, (∃ d, v.port = { w.port with isdu := isduClear w.port.isdu, diagnostics := d }) ∧
    readDeviceInfo w
      = (if (applyDirectParameterPage1 v.port page).2 ≠ 0 then
          (v.put (applyDirectParameterPage1 v.port page).1,
            (applyDirectParameterPage1 v.port page).2)
        else
          (v.put (applyDirectParameterPage1 v.port page).1,
            validateDeviceInfo (applyDirectParameterPage1 v.port page).1))
  := by
  have hnone : w.port.isdu.error = ISDU_ERROR_NONE := by
    rw [h.error, hpage]
    rfl
  have hresponse : w.port.isdu.response = page := h.response page hpage
  have hlen : ¬ (UInt8.ofNat DPP1_LEN).toNat < w.port.isdu.response.length := by
    rw [hresponse]
    exact Nat.not_lt.mpr hfit
  have hfinish : isduFinishRead w.port (UInt8.ofNat DPP1_LEN)
      = (serviceResult { w.port with isdu := isduClear w.port.isdu } STATUS_OK,
          ⟨STATUS_OK, w.port.isdu.response.length, w.port.isdu.response⟩) := by
    simp only [isduFinishRead, hnone, ne_eq, not_true_eq_false, if_false, hlen]
  rw [readDeviceInfo, readIsdu_inspection hstate howns h, hfinish, hresponse]
  exact ⟨(w.collect (serviceResult { w.port with isdu := isduClear w.port.isdu } STATUS_OK)).emit
    (.page page), ⟨_, World.collect_port _ _⟩, rfl⟩

/-- The page passes: the port keeps it as its device information. -/
theorem readDeviceInfo_passes (hstate : w.port.state = .preoperate)
    (howns : IsduCall.inspection.Owns w.port.isdu) (h : HasAnswer a w.port.isdu)
    {info : DeviceInfo} (hinspect : inspect w.port.config a.outcome = some info) :
  ∃ v d, readDeviceInfo w = (v, STATUS_OK) ∧
    v.port = { w.port with
      isdu := isduClear w.port.isdu, diagnostics := d, deviceInfo := info }
  := by
  obtain ⟨page, hpage, hfit, hparse, hpass⟩ := inspect_some hinspect
  obtain ⟨v, ⟨d, hv⟩, hread⟩ := readDeviceInfo_page hstate howns h hpage hfit
  have happly : applyDirectParameterPage1 v.port page
      = ({ v.port with deviceInfo := info }, STATUS_OK) := by
    rw [applyDirectParameterPage1, hparse]
  have hvalidate : validateDeviceInfo { v.port with deviceInfo := info } = STATUS_OK := by
    rw [validateDeviceInfo, hv]
    exact hpass
  rw [hread, happly]
  dsimp only
  rw [if_neg (show ¬ STATUS_OK ≠ 0 by decide), hvalidate]
  exact ⟨_, d, rfl, by rw [World.put_port, hv]⟩

/-- The page does not pass, or there is none: an error is returned. -/
theorem readDeviceInfo_fails (hstate : w.port.state = .preoperate)
    (howns : IsduCall.inspection.Owns w.port.isdu) (h : HasAnswer a w.port.isdu)
    (hinspect : inspect w.port.config a.outcome = none) :
  (readDeviceInfo w).2 < 0
  := by
  have hpassed : ∀ ret : Int, ret < 0 →
      (isduFinishRead w.port (UInt8.ofNat DPP1_LEN)).2.ret = ret → (readDeviceInfo w).2 < 0 := by
    intro ret hret hfinish
    rw [readDeviceInfo, readIsdu_inspection hstate howns h]
    dsimp only
    rw [hfinish, if_pos (by omega)]
    exact hret
  obtain ⟨page, hpage⟩ | ⟨errorType, hnegative, hne⟩ := a.outcome_cases
  · rw [hpage] at hinspect
    by_cases hfit : page.length ≤ DPP1_LEN
    · obtain ⟨v, ⟨d, hv⟩, hread⟩ := readDeviceInfo_page hstate howns h hpage hfit
      rw [hread, applyDirectParameterPage1]
      cases hparse : parseDirectParameterPage1 page with
      | error e =>
          have hneg := parseDirectParameterPage1_error_neg hparse
          dsimp only
          rw [if_pos (by omega)]
          exact hneg
      | ok info =>
          have hvalidate : validateDeviceInfo { v.port with deviceInfo := info }
              = validateConfigAgainstDeviceInfo info w.port.config := by
            rw [validateDeviceInfo, hv]
          have hle := validateConfigAgainstDeviceInfo_le w.port.config
            (parseDirectParameterPage1_valid hparse)
          have hne : validateConfigAgainstDeviceInfo info w.port.config ≠ 0 := by
            intro hok
            have hpass : validateConfigAgainstDeviceInfo info w.port.config = STATUS_OK := hok
            simp only [inspect, if_neg (Nat.not_lt.mpr hfit), hparse, if_pos hpass] at hinspect
            contradiction
          dsimp only
          rw [if_neg (show ¬ STATUS_OK ≠ 0 by decide)]
          dsimp only
          rw [hvalidate]
          exact lt_of_le_of_ne hle hne
    · apply hpassed ISDU_ERR_BUFFER_TOO_SMALL (by decide)
      have hnone : w.port.isdu.error = ISDU_ERROR_NONE := by
        rw [h.error, hpage]
        rfl
      have hlen : (UInt8.ofNat DPP1_LEN).toNat < w.port.isdu.response.length := by
        rw [h.response page hpage]
        exact Nat.lt_of_not_le hfit
      simp only [isduFinishRead, hnone, ne_eq, not_true_eq_false, if_false, hlen, if_true]
  · apply hpassed ISDU_ERR_DEVICE (by decide)
    have herror : w.port.isdu.error = errorType := by
      rw [h.error, hnegative]
      rfl
    simp only [isduFinishRead, herror, hne, ne_eq, not_false_eq_true, if_true]

/-- An inspection goes by the result of `read_device_info`. -/
theorem processValidation_reads (hrequired : startupValidationRequired w.port.config = true)
    (hinvalid : w.port.deviceInfo.valid = false) :
  processValidation w
    = if (readDeviceInfo w).2 = STATUS_PENDING then ((readDeviceInfo w).1, false)
      else if (readDeviceInfo w).2 < 0 then ((readDeviceInfo w).1.enter .error, false)
      else if validateDeviceInfo (readDeviceInfo w).1.port ≠ 0 then
        ((readDeviceInfo w).1.enter .error, false)
      else ((readDeviceInfo w).1, true)
  := by
  rw [processValidation, hrequired, hinvalid]
  rfl

end

section

variable {μ : Type} {K : Iolinki} {A : Application μ} {config : Config} {isdu : IsduState}

/-- The inspection passes: the port goes on with the decoded page. -/
theorem validates_passes {a : Answer} (hrequired : startupValidationRequired config = true)
    (howns : IsduCall.inspection.Owns isdu) (h : HasAnswer a isdu) {info : DeviceInfo}
    (hinspect : inspect config a.outcome = some info) :
  Validates config isdu none (isduClear isdu) (some info)
  := by
  intro v hv
  obtain ⟨configured, send, recvByte, state, step, rfl, hinfo, event, odLen, pdOutLen, pdOutLen',
    answered⟩ := hv
  obtain ⟨page, -, -, hparse, hpass⟩ := inspect_some hinspect
  rw [← configured] at hinspect hpass hrequired
  obtain ⟨u, d, hread, hu⟩ := readDeviceInfo_passes (w := v.openSlot) state howns h hinspect
  have hvalidate : validateDeviceInfo u.port = STATUS_OK := by
    rw [validateDeviceInfo, hu]
    exact hpass
  refine ⟨u, ?_, ?_, by rw [hu]; rfl⟩
  · rw [processValidation_reads (w := v.openSlot) hrequired (reportedInfo_none.mp hinfo), hread]
    dsimp only
    rw [if_neg (by decide), if_neg (by decide), hvalidate, if_neg (by decide)]
  · rw [hu]
    refine ⟨configured, send, recvByte, state, step, rfl, ?_, event, odLen, pdOutLen, pdOutLen',
      answered⟩
    rw [reportedInfo_eq]
    exact if_pos (parseDirectParameterPage1_valid hparse)

/-- The inspection fails: the port gives up. -/
theorem processValidation_fails {a : Answer} (hrequired : startupValidationRequired config = true)
    (howns : IsduCall.inspection.Owns isdu) (h : HasAnswer a isdu)
    (hinspect : inspect config a.outcome = none) {v : World} {step : StartupStep}
    (hv : Starting config .preoperate step isdu none v.port) :
  ∃ u : World, processValidation v.openSlot = (u.enter .error, false) ∧
    u.port.awaitingResponse = false
  := by
  obtain ⟨configured, send, recvByte, state, step, rfl, hinfo, event, odLen, pdOutLen, pdOutLen',
    answered⟩ := hv
  rw [← configured] at hinspect hrequired
  have hfails := readDeviceInfo_fails (w := v.openSlot) state howns h hinspect
  have huntouched := untouched_of_path (readDeviceInfo_path v.openSlot)
  refine ⟨(readDeviceInfo v.openSlot).1, ?_, ?_⟩
  · have hpending : ¬ (readDeviceInfo v.openSlot).2 = STATUS_PENDING := by
      intro hpending
      rw [hpending] at hfails
      contradiction
    rw [processValidation_reads (w := v.openSlot) hrequired (reportedInfo_none.mp hinfo),
      if_neg hpending, if_pos hfails]
  · rw [huntouched.awaiting]
    exact answered

/-- The inspection starts with the read of the page. -/
theorem processValidation_starts (hrequired : startupValidationRequired config = true) {v : World}
    (hv : Starting config .preoperate .awaitResponse .zero none v.port) :
  ∃ u, processValidation v.openSlot = (u, false) ∧
    u.port = { v.port with isdu := isduStartRead .zero IDX_DIRECT_PARAMETERS_1 0 }
  := by
  obtain ⟨configured, send, recvByte, state, step, hisdu, hinfo, event, odLen, pdOutLen, pdOutLen',
    answered⟩ := hv
  rw [← configured] at hrequired
  have hfree : Free v.openSlot.port := by
    constructor
    · rw [v.openSlot_port, state]
      rfl
    · rw [v.openSlot_port, hisdu]
      rfl
    · rw [v.openSlot_port, hisdu]
      rfl
  have hread := readIsdu_free hfree IDX_DIRECT_PARAMETERS_1 0 (UInt8.ofNat DPP1_LEN)
  have hdevice : readDeviceInfo v.openSlot
      = ((readIsdu v.openSlot IDX_DIRECT_PARAMETERS_1 0 (UInt8.ofNat DPP1_LEN)).1,
          STATUS_PENDING) := by
    rw [readDeviceInfo, hread]
    rfl
  rw [processValidation_reads (w := v.openSlot) hrequired (reportedInfo_none.mp hinfo), hdevice,
    hread, ← hisdu]
  exact ⟨_, rfl, rfl⟩

/-! ### Ticks of the inspection -/

/-- A frame of PREOPERATE on the ISDU channel is of TYPE_0, and its on-request data follows its
header. -/
theorem IsduFrame.octets_preoperate (hK : K.Lawful) {p : PortState} (hstate : p.state = .preoperate)
    (f : IsduFrame) :
  (f.octets K p).getD 0 0 = encodeMasterCommand f.read .isdu f.flowctrl ∧
    isType0Frame (f.octets K p) = true ∧
    ∀ od, f.od = some od → (f.octets K p).drop M_SEQ_HEADER_LEN = od
  := by
  have hmulti : isduMulti p = false := by simp [isduMulti, hstate]
  refine ⟨?_, ?_, ?_⟩
  · obtain ⟨rest, hhead⟩ := IsduFrame.octets_head hK p f
    rw [hhead, List.getD_cons_zero]
  · simp only [IsduFrame.octets, buildIsduFrame, hmulti, Bool.not_false, if_true]
    cases f.od with
    | none => exact isType0Frame_encodeType0 hK _
    | some od => exact isType0Frame_message hK _ .type0 od
  · intro od hod
    simp only [IsduFrame.octets, buildIsduFrame, hmulti, hod, Bool.not_false, if_true]
    rfl

/-- The port reads the page, with the on-request data `od` waiting on the wire. -/
structure Inspecting (K : Iolinki) (config : Config) (s : System μ) (od : List UInt8) : Prop where
  starting : Starting config .preoperate .awaitResponse s.world.port.isdu none s.world.port
  drained : s.world.port.rx = []
  wire : s.wire = [] ∧ od = [] ∨ ∃ flags octet, flags &&& CKS_CHECKSUM_MASK = 0 ∧
    s.wire = deviceReply K flags [octet] [] ∧ od = [octet]

/-- The next poll hands the on-request data to the transport. -/
theorem Inspecting.prepared (hK : K.Lawful) {s : System μ} {od : List UInt8}
    (h : Inspecting K config s od) :
  Prepared K config s.wire (isduOnOd s.world.port.isdu od) none s.world
  := by
  obtain ⟨hstarting, hdrained, ⟨hwire, rfl⟩ | ⟨flags, octet, hflags, hwire, rfl⟩⟩ := h
  · rw [hwire, isduOnOd_nil]
    exact ⟨_, _, pollRx_quiet _, by decide, (Slotless.refl _).unsent, hstarting, hdrained⟩
  · have hexpected : expectedLen s.world.port = some M_SEQ_TYPE0_LEN := by
      simp only [expectedLen, hstarting.state, hstarting.step]
      rfl
    rw [hwire]
    apply hstarting.poll_type0 hK octet hexpected hdrained
    intro u hu
    obtain ⟨configured, send, recvByte, state, step, isdu, info, event, odLen, pdOutLen, pdOutLen',
      answered⟩ := hu
    have hne : deviceReply K flags [octet] [] ≠ [] := List.cons_ne_nil _ _
    have hlen : (deviceReply K flags [octet] []).length = M_SEQ_TYPE0_LEN := rfl
    have hstate : u.port.state ≠ .startup := by
      rw [state]
      decide
    have hstep : u.port.startup.step ≠ .awaitOperateAck := by
      rw [step]
      decide
    have haccess : eventChannelAccess
        (replyAccepted u (deviceReply K flags [octet] []) (some [octet])).port.event = none := by
      have hevent : (replyAccepted u (deviceReply K flags [octet] []) (some [octet])).port.event
          = .zero := event
      rw [hevent]
      rfl
    rw [onRx, if_neg hne, if_neg hstate, if_pos state, if_neg hstep, onRxType0,
      if_neg (not_not.mpr hlen), type0ReplyOk_deviceReply hK hflags]
    simp only [Bool.not_true, Bool.false_eq_true, if_false]
    refine ⟨_, rfl, ?_⟩
    have htake : (deviceReply K flags [octet] []).take 1 = [octet] := rfl
    rw [htake, routeOd, haccess]
    exact ⟨configured, send, recvByte, state, step, congrArg (isduOnOd · [octet]) isdu, info, event,
      odLen, pdOutLen, pdOutLen', rfl⟩

/-- A tick in which the transport asks for a frame: the device answers it. -/
theorem Inspecting.tick_sends (hK : K.Lawful) {s : System μ} {od : List UInt8}
    (h : Inspecting K config s od) {f : IsduFrame} {t : IsduState}
    (hnext : isduNext (isduOnOd s.world.port.isdu od) (odLenForType config.mSeqType) = some (f, t))
    {d : Device μ} {octet : UInt8}
    (hrespond : ∀ frame : List UInt8,
      frame.getD 0 0 = encodeMasterCommand f.read .isdu f.flowctrl →
      (∀ od, f.od = some od → frame.drop M_SEQ_HEADER_LEN = od) →
      s.device.respond A K config.asType0 frame
        = (d, A.reply K config.asType0 d.memory [octet])) :
  Inspecting K config (s.tick K A config) [octet] ∧ (s.tick K A config).device = d ∧
    (s.tick K A config).world.port.isdu = t
  := by
  obtain ⟨v, ret, hpoll, hret, hunsent, hv, hrx⟩ := h.prepared hK
  have henv := Env.transmits_quiet s.wire
  have hsome : isduNext v.openSlot.port.isdu v.openSlot.port.odLen = some (f, t) := by
    rw [v.openSlot_port, hv.isdu, hv.odLen]
    exact hnext
  have hslot : (tickEvent K (.quiet s.wire) s.world .cycleDue).1
      = ⟨{ v.port with isdu := t, rxOdExpected := f.read },
          .sent v.port.state (f.octets K v.port) :: v.openSlot.log⟩ := by
    rw [tickEvent_slot hpoll hret hv.answered, hv.processAt_preoperate, processPreoperate,
      hv.sendEvent_none]
    dsimp only
    rw [if_neg Bool.false_ne_true, sendIsdu_transmits hK henv, hsome]
    rfl
  obtain ⟨hmc, htype, hod⟩ := IsduFrame.octets_preoperate hK hv.state f
  have hframes : framesSince s.world (tickEvent K (.quiet s.wire) s.world .cycleDue).1
      = [f.octets K v.port] := by
    rw [hslot]
    exact framesSince_only (hunsent.trans ⟨[.slot, .view v.port], by simp [Obs.isSent], rfl⟩) rfl
  have hreceive : s.device.receive A K config (f.octets K v.port)
      = (d, A.reply K config.asType0 d.memory [octet]) := by
    rw [Device.receive_type0 _ (IsduFrame.length_octets hK f v.port) htype]
    exact hrespond _ hmc hod
  rw [System.tick_eq K A config hframes hreceive, hslot]
  obtain ⟨configured, send, recvByte, state, step, isdu, info, event, odLen, pdOutLen, pdOutLen',
    answered⟩ := hv
  refine ⟨⟨⟨configured, send, recvByte, state, step, rfl, info, event, odLen, pdOutLen, pdOutLen',
    answered⟩, hrx, .inr ⟨A.flags d.memory, octet, A.flags_masked _, rfl, rfl⟩⟩, rfl, rfl⟩

/-- In PREOPERATE a tick conveys what the transport asks for; a read fetches one octet. -/
theorem conveys_preoperate (hK : K.Lawful) :
  Conveys A config 1 (Inspecting K config) (System.tick K A config)
  := by
  constructor
  · intro s od flowctrl isdu hs hflow hnext
    obtain ⟨octet, hoctet⟩ := List.length_eq_one_iff.mp
      (s.device.length_onRead flowctrl (Nat.le_refl 1))
    rw [hoctet]
    apply hs.tick_sends hK hnext
    intro frame hmc _
    rw [Device.respond_read s.device hflow hmc]
    exact congrArg _ (congrArg _ hoctet)
  · intro s od flowctrl segment isdu hs hflow hnext
    have hrespond : ∀ frame : List UInt8, frame.getD 0 0 = encodeMasterCommand false .isdu flowctrl →
        (∀ od, some segment = some od → frame.drop M_SEQ_HEADER_LEN = od) →
        s.device.respond A K config.asType0 frame = (s.device.onWrite A flowctrl segment,
          A.reply K config.asType0 (s.device.onWrite A flowctrl segment).memory [0]) := by
      intro frame hmc hod
      have hdrop : frame.drop (M_SEQ_HEADER_LEN + config.asType0.pdOutLen) = segment :=
        hod segment rfl
      rw [Device.respond_write s.device hflow hmc hdrop]
      rfl
    obtain ⟨hinspecting, hdevice, hisdu⟩ := hs.tick_sends hK hnext hrespond
    exact ⟨⟨_, by decide, hinspecting⟩, hdevice, hisdu⟩

/-! ### The course of the inspection -/

/-- A service that has its answer takes no on-request data. -/
theorem HasAnswer.onOd {a : Answer} (h : HasAnswer a isdu) (od : List UInt8) :
  isduOnOd isdu od = isdu
  := by
  apply isduOnOd_of_not_receiving
  simp [isduReceiving, h.done]

/-- A service that has its answer asks for no frame. -/
theorem HasAnswer.next {a : Answer} (h : HasAnswer a isdu) (k : Nat) :
  isduNext isdu k = none
  := by simp [isduNext, h.done, h.noIdle, h.noAbort]

/-- A service that is conveyed gets its answer. -/
theorem During.finishes {k : Nat} {B : System μ → List UInt8 → Prop} {step : System μ → System μ}
    (hB : Conveys A config k B step) (hk : 1 ≤ k) {c : IsduCall} {m : μ} {n : Nat} {s : System μ}
    (h : During A config k B c m n s) :
  ∃ j ≤ n, ∃ od, B (step^[j] s) od ∧ c.Owns (step^[j] s).world.port.isdu ∧
    HasAnswer (A.perform m c.request).2 (step^[j] s).world.port.isdu ∧
    (step^[j] s).device.memory = (A.perform m c.request).1
  := by
  induction n using Nat.strong_induction_on generalizing s with
  | _ n ih =>
      cases h with
      | running linked owns busy serving =>
          obtain ⟨n', hn', hduring⟩ := During.tick hB hk linked owns serving
          obtain ⟨j, hj, hanswered⟩ := ih n' hn' hduring
          exact ⟨j + 1, by omega, hanswered⟩
      | answered linked owns answered memory =>
          exact ⟨0, Nat.le_refl 0, _, linked, owns, answered, memory⟩

/-- A tick whose inspection holds the port off sends nothing. -/
theorem Prepared.tick_holds (hK : K.Lawful) {s : System μ} {info : Option DeviceInfo}
    (h : Prepared K config s.wire isdu info s.world)
    (hnext : isduNext isdu (odLenForType config.mSeqType) = none) :
  ∃ v : World, Starting config .preoperate .awaitResponse isdu info v.port ∧ v.port.rx = [] ∧
    ∀ u, processValidation v.openSlot = (u, false) → s.tick K A config = ⟨u, s.device, []⟩
  := by
  obtain ⟨v, ret, hpoll, hret, hunsent, hv, hrx⟩ := h
  refine ⟨v, hv, hrx, ?_⟩
  intro u hvalidated
  have hlater := processValidation_unsent v
  rw [hvalidated] at hlater
  have hslot : (tickEvent K (.quiet s.wire) s.world .cycleDue).1 = u := by
    rw [tickEvent_slot hpoll hret hv.answered,
      hv.slot_validates hK (Env.transmits_quiet s.wire) hnext hvalidated]
    rfl
  rw [System.tick, hslot, framesSince_unsent (hunsent.trans hlater), List.foldl_nil]

/-- The third tick starts the read of the page. -/
theorem Found.tick_starts (hK : K.Lawful) (hrequired : startupValidationRequired config = true)
    {s : System μ} {m : μ} (h : Found K config s m) :
  Inspecting K config (s.tick K A config) [] ∧ (s.tick K A config).device = Device.fresh m ∧
    (s.tick K A config).world.port.isdu = isduStartRead .zero IDX_DIRECT_PARAMETERS_1 0
  := by
  obtain ⟨hstarting, hdrained, hdevice, flags, octet, hflags, hwire⟩ := h
  have hprepared := hstarting.poll_found hK hflags octet hdrained
  rw [← hwire] at hprepared
  obtain ⟨v, hv, hrx, htick⟩ := hprepared.tick_holds (A := A) hK rfl
  obtain ⟨u, hvalidated, hu⟩ := processValidation_starts hrequired hv
  rw [htick u hvalidated, hdevice]
  obtain ⟨configured, send, recvByte, state, step, isdu, info, event, odLen, pdOutLen, pdOutLen',
    answered⟩ := hv
  dsimp only
  refine ⟨⟨?_, ?_, .inl ⟨rfl, rfl⟩⟩, rfl, ?_⟩
  · dsimp only
    rw [hu]
    exact ⟨configured, send, recvByte, state, step, rfl, info, event, odLen, pdOutLen, pdOutLen',
      answered⟩
  · dsimp only
    rw [hu]
    exact hrx
  · rw [hu]

/-- The service that reads the page. -/
theorem Found.tick_during (hK : K.Lawful) (hrequired : startupValidationRequired config = true)
    {s : System μ} {m : μ} (h : Found K config s m) :
  ∃ n ≤ A.patience,
    During A config 1 (Inspecting K config) IsduCall.inspection m n (s.tick K A config)
  := by
  obtain ⟨hinspecting, hdevice, hisdu⟩ := h.tick_starts (A := A) hK hrequired
  have haccepted : AcceptedRequest IsduCall.inspection.request
      (isduStartRead .zero IDX_DIRECT_PARAMETERS_1 0) := by
    have hfree : Free { zeroPort .full config with state := .preoperate } := ⟨rfl, rfl, rfl⟩
    have hread := readIsdu_free (w := ⟨_, []⟩) hfree IDX_DIRECT_PARAMETERS_1 0 255
    have hstarted := AcceptedRequest.read ⟨_, []⟩ IDX_DIRECT_PARAMETERS_1 0 255 hfree.busy (by
      rw [hread]
      rfl)
    rw [hread] at hstarted
    exact hstarted
  obtain ⟨hsending, hbounded⟩ :=
    sendingRequest_of_accepted (odLenForType config.mSeqType) haccepted
  obtain ⟨hdecodes, ⟨rest, hdeclared⟩, hcomplete, -, -⟩ := encodes_of_accepted haccepted
  have hlength : (requestOctets (isduStartRead .zero IDX_DIRECT_PARAMETERS_1 0)).length
      = (isduStartRead .zero IDX_DIRECT_PARAMETERS_1 0).requestLen := by
    rw [requestOctets, List.length_take, hcomplete, Nat.min_self]
  rw [← hlength] at hdeclared
  generalize requestOctets (isduStartRead .zero IDX_DIRECT_PARAMETERS_1 0) = octets at *
  have hle : octets.length ≤ ISDU_EXT_MAX := hbounded
  rw [← hisdu] at hsending
  refine ⟨_, ?_, .running hinspecting ?_ ?_ (.requesting hsending hle hdecodes ⟨rest, hdeclared⟩
    (fun h => absurd rfl h) ?_)⟩
  · rw [Application.patience]
    omega
  · rw [hisdu]
    exact ⟨rfl, rfl, rfl⟩
  · rw [hisdu]
    rfl
  · rw [hdevice]
    rfl

/-- The port has given up; nothing is on the wire. -/
structure Stopped (s : System μ) : Prop where
  state : s.world.port.state = .error
  answered : s.world.port.awaitingResponse = false
  wire : s.wire = []

/-- A port that has given up does nothing any more. -/
theorem Stopped.tick {s : System μ} (h : Stopped s) :
  s.tick K A config = s
  := by
  have hexpected : expectedLen s.world.port = none := by
    simp only [expectedLen, h.state]
  have hslot : (tickEvent K (.quiet s.wire) s.world .cycleDue).1 = s.world := by
    rw [tickEvent_slot (pollRx_deaf hexpected) (by decide) h.answered]
    simp only [processAt, h.state, ite_self]
  rw [System.tick, hslot, framesSince_unsent (Slotless.refl _).unsent, List.foldl_nil, ← h.wire]

/-- The page does not pass: the port gives up. -/
theorem Inspecting.tick_stops (hK : K.Lawful) (hrequired : startupValidationRequired config = true)
    {s : System μ} {od : List UInt8} (h : Inspecting K config s od) {a : Answer}
    (howns : IsduCall.inspection.Owns s.world.port.isdu) (hanswer : HasAnswer a s.world.port.isdu)
    (hinspect : inspect config a.outcome = none) :
  Stopped (s.tick K A config)
  := by
  have hprepared := h.prepared hK
  rw [hanswer.onOd] at hprepared
  obtain ⟨v, hv, -, htick⟩ := hprepared.tick_holds (A := A) hK (hanswer.next _)
  obtain ⟨u, hvalidated, hanswered⟩ := processValidation_fails hrequired howns hanswer hinspect hv
  rw [htick _ hvalidated]
  exact ⟨rfl, hanswered, rfl⟩

/-- The page passes: the port writes DeviceOperate. -/
theorem Inspecting.tick_passes (hK : K.Lawful) (hrequired : startupValidationRequired config = true)
    {s : System μ} {od : List UInt8} (h : Inspecting K config s od) {a : Answer}
    (howns : IsduCall.inspection.Owns s.world.port.isdu) (hanswer : HasAnswer a s.world.port.isdu)
    {info : DeviceInfo} (hinspect : inspect config a.outcome = some info) :
  Operated K config (isduClear s.world.port.isdu) (some info) (s.tick K A config) s.device.memory
  := by
  have hprepared := h.prepared hK
  rw [hanswer.onOd] at hprepared
  exact hprepared.operated hK (hanswer.next _) (validates_passes hrequired howns hanswer hinspect)

/-! ### Power-on -/

/-- What the startup leads to for an application with the memory `m`: the memory it then has and the
device information the port then hands out, or nothing if the port gives up. -/
def Application.startup (A : Application μ) (config : Config) (m : μ) :
    Option (μ × Option DeviceInfo) :=
  if startupValidationRequired config then
    (inspect config (A.perform m IsduCall.inspection.request).2.outcome).map fun info =>
      ((A.perform m IsduCall.inspection.request).1, some info)
  else some (m, none)

/-- The ticks the startup may take. -/
def Application.startupTicks (A : Application μ) (config : Config) : Nat :=
  if startupValidationRequired config then A.patience + 5 else 4

/-- The startup is over with the given result. -/
def StartedUp (K : Iolinki) (config : Config) (s : System μ) : Option (μ × Option DeviceInfo) → Prop
  | some (m, info) => AtRest K config s m ∧ reportedInfo s.world.port = info
  | none => Stopped s

/-- A tick after the startup. -/
theorem StartedUp.tick (hK : K.Lawful) (hvalid : configRefused config = false)
    (hfits : A.Fits config) {s : System μ} {r : Option (μ × Option DeviceInfo)}
    (h : StartedUp K config s r) :
  StartedUp K config (s.tick K A config) r
  := by
  cases r with
  | none =>
      have hstopped : Stopped s := h
      rw [hstopped.tick]
      exact h
  | some r =>
      obtain ⟨hrest, hinfo⟩ := h
      obtain ⟨od, hbetween⟩ := hrest.between
      obtain ⟨u, -, -, -, hpasses⟩ := hbetween.passes (A := A) hK hvalid
      refine ⟨hrest.tick hK hvalid hfits, ?_⟩
      rw [reportedInfo_eq, hpasses.ticked.deviceInfo, ← reportedInfo_eq]
      exact hinfo

/-- The inspection ends with the result of the application. -/
theorem Found.starts (hK : K.Lawful) (hvalid : configRefused config = false)
    (hrequired : startupValidationRequired config = true) (hfits : A.Fits config) {s : System μ}
    {m : μ} (h : Found K config s m) :
  ∃ j ≤ A.patience + 3, StartedUp K config ((System.tick K A config)^[j] s) (A.startup config m)
  := by
  obtain ⟨n, hn, hduring⟩ := h.tick_during (A := A) hK hrequired
  obtain ⟨j, hj, od, hinspecting, howns, hanswer, hmemory⟩ :=
    hduring.finishes (conveys_preoperate hK) (Nat.le_refl 1)
  rw [← Function.iterate_succ_apply] at hinspecting howns hanswer hmemory
  rw [Application.startup, if_pos hrequired]
  cases hinspect : inspect config (A.perform m IsduCall.inspection.request).2.outcome with
  | none =>
      refine ⟨j + 2, by omega, ?_⟩
      rw [Function.iterate_succ_apply']
      exact hinspecting.tick_stops hK hrequired howns hanswer hinspect
  | some info =>
      have hoperated := hinspecting.tick_passes (A := A) hK hrequired howns hanswer hinspect
      rw [hmemory, ← Function.iterate_succ_apply' (System.tick K A config)] at hoperated
      refine ⟨j + 3, by omega, ?_⟩
      rw [Function.iterate_succ_apply']
      exact hoperated.rests hK hvalid hfits ⟨rfl, rfl, rfl, rfl⟩

/-- From power-on the port gets to OPERATE exactly if it need not inspect the device or the page
that the application hands out passes.  Then the calls of the application are served, and the
device information is that page; otherwise the port has given up.  Either way it stays so. -/
theorem powerOn_startedUp (hK : K.Lawful) (hvalid : configRefused config = false)
    (hmode : config.portMode = .iolink) (hfits : A.Fits config) {phy : PhyApi}
    (hsend : phy.send = true) (hrecv : phy.recvByte = true) (m : μ) {n : Nat}
    (hn : A.startupTicks config ≤ n) :
  StartedUp K config ((System.tick K A config)^[n] (System.powerOn phy config m))
    (A.startup config m)
  := by
  have hstays : ∀ {s : System μ} (i : Nat), StartedUp K config s (A.startup config m) →
      StartedUp K config ((System.tick K A config)^[i] s) (A.startup config m) := by
    intro s i hs
    induction i with
    | zero => exact hs
    | succ i ih =>
        rw [Function.iterate_succ_apply']
        exact ih.tick hK hvalid hfits
  have hstarted : ∃ j ≤ A.startupTicks config,
      StartedUp K config ((System.tick K A config)^[j] (System.powerOn phy config m))
        (A.startup config m) := by
    rw [Application.startupTicks]
    cases hrequired : startupValidationRequired config with
    | true =>
        have hfound := powerOn_found (A := A) hK hvalid hmode hsend hrecv m
        obtain ⟨j, hj, hstarts⟩ := hfound.starts hK hvalid hrequired hfits
        rw [← Function.iterate_add_apply] at hstarts
        refine ⟨j + 2, ?_, hstarts⟩
        rw [if_pos rfl]
        omega
    | false =>
        refine ⟨4, Nat.le_refl 4, ?_⟩
        rw [Application.startup, hrequired]
        exact powerOn_rests hK hvalid hmode hrequired hfits hsend hrecv m
  obtain ⟨j, hj, hs⟩ := hstarted
  obtain ⟨i, rfl⟩ := Nat.exists_eq_add_of_le' (hj.trans hn)
  rw [Function.iterate_add_apply]
  exact hstays i hs

end

/-- The port 500 ticks after power-on, over a device with the given page. -/
def portOver (page : List UInt8) : PortState :=
  ((System.tick .reference parameterMemory checkingConfig)^[500]
    (System.powerOn .full checkingConfig fun _ _ => page)).world.port

/-- A device with the page that the port expects, and one with none. -/
theorem powerOn_startedUp_checked :
  (portOver devicePage).state = .operate ∧
    (reportedInfo (portOver devicePage)).map (·.vendorId) = some 0x1234 ∧
    (portOver []).state = .error
  := by
  have hticks : parameterMemory.startupTicks checkingConfig ≤ 500 := by
    have hrequired : startupValidationRequired checkingConfig = true := by decide
    rw [Application.startupTicks, if_pos hrequired, patience_parameterMemory]
    omega
  have hvalid : configRefused checkingConfig = false := by decide
  have hsend : PhyApi.full.send = true := rfl
  have hstarted := powerOn_startedUp (A := parameterMemory) Iolinki.lawful_reference hvalid rfl
    (fun _ => rfl) hsend rfl (fun _ _ => devicePage) hticks
  have hstopped := powerOn_startedUp (A := parameterMemory) Iolinki.lawful_reference hvalid rfl
    (fun _ => rfl) hsend rfl (fun _ _ => []) hticks
  have hpasses : ∃ m info, parameterMemory.startup checkingConfig (fun _ _ => devicePage)
      = some (m, some info) ∧ info.vendorId = 0x1234 := ⟨_, _, rfl, by decide⟩
  have hfails : parameterMemory.startup checkingConfig (fun _ _ => []) = none := by
    decide +kernel
  obtain ⟨m, info, hstartup, hvendor⟩ := hpasses
  rw [hstartup] at hstarted
  rw [hfails] at hstopped
  obtain ⟨hrest, hinfo⟩ := hstarted
  obtain ⟨od, hbetween⟩ := hrest.between
  rw [portOver, portOver]
  refine ⟨hbetween.operating.state, ?_, hstopped.state⟩
  rw [hinfo, Option.map_some, hvendor]

end IolinkMaster
