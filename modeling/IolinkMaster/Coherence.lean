import IolinkMaster.Identity

/-!
# Where the device information comes from

The device information of a port is the decoded Direct Parameter Page 1, except for the
MinCycleTime octet, which every answer to a test message replaces.
-/

namespace IolinkMaster

/-! ### Coherent device information -/

/-- What `get_device_info` hands out as available is one decoded page. -/
def Coherent (p : PortState) : Prop :=
  (getDeviceInfo p).1 = STATUS_OK →
    (∃ page, page.length = DPP1_LEN ∧ parseDirectParameterPage1 page = .ok (getDeviceInfo p).2) ∧
      (getDeviceInfo p).2.minCycleTime100us
        = decodeMinCycleTime100us (getDeviceInfo p).2.minCycleTime

/-- The application hands a page to `apply_direct_parameter_page1`; it is recorded like a page
that was read. -/
def applyPage (w : World) (page : List UInt8) : World :=
  (w.emit (.page page)).put (applyDirectParameterPage1 w.port page).1

/-- The worlds that calls and pages handed in reach from a port accepted by
`iolink_master_init`. -/
inductive ReachPaged (K : Iolinki) (phy : PhyApi) (config : Config) : World → Prop where
  | start (env : Env) (h : configRefused config = false) :
      ReachPaged K phy config (started env phy config)
  | call {w : World} (env : Env) (c : Call) (hw : ReachPaged K phy config w) :
      ReachPaged K phy config (runCall K env w c)
  | apply {w : World} (page : List UInt8) (hw : ReachPaged K phy config w) :
      ReachPaged K phy config (applyPage w page)

/-- A page that can be decoded. -/
def decodable (page : List UInt8) : Bool := (parseDirectParameterPage1 page).isOk

/-- The page decoded last since the initialization of the port, and the MinCycleTime octet
received last since: that of the page or of a later answer to a test message. -/
def remembered : List Obs → Option (List UInt8 × UInt8)
  | .page octets :: l =>
    if decodable octets then some (octets, octets.getD DPP1_OFF_MIN_CYCLE_TIME 0)
    else remembered l
  | .accept .startup data _ :: l => (remembered l).map fun r => (r.1, data.getD 0 0)
  | .enter .startup :: .comlost _ _ _ _ _ :: l => remembered l
  | .enter .startup :: _ => none
  | .enter .inactive :: _ => none
  | _ :: l => remembered l
  | [] => none

/-- No answer to a test message since the page was decoded declares another cycle time. -/
def PageUndisturbed (log : List Obs) : Prop :=
  ∀ r ∈ remembered log, decodeMinCycleTime100us r.2
    = decodeMinCycleTime100us (r.1.getD DPP1_OFF_MIN_CYCLE_TIME 0)

instance (log : List Obs) : Decidable (PageUndisturbed log) :=
  inferInstanceAs (Decidable (∀ _ ∈ _, _))

/-- Communication was given up last. -/
def lostLast : List Obs → Bool
  | .comlost _ _ _ _ _ :: _ => true
  | _ => false

/-! ### Pages that differ in one octet -/

/-- A page decodes like another one that has the same octets, up to the MinCycleTime octet. -/
theorem parse_congr {page page' : List UInt8} {info : DeviceInfo}
    (h : parseDirectParameterPage1 page = .ok info) (hlen : page'.length = DPP1_LEN)
    (hsame : ∀ off, DPP1_OFF_MIN_CYCLE_TIME < off → off < DPP1_LEN →
      page'.getD off 0 = page.getD off 0) :
  parseDirectParameterPage1 page' = .ok { info with
    minCycleTime := page'.getD DPP1_OFF_MIN_CYCLE_TIME 0
    minCycleTime100us := decodeMinCycleTime100us (page'.getD DPP1_OFF_MIN_CYCLE_TIME 0) }
  := by
  have hshort : ¬ page'.length < DPP1_LEN := by omega
  simp only [parseDirectParameterPage1] at h ⊢
  rw [if_neg hshort, hsame DPP1_OFF_PD_IN_DESC (by decide) (by decide),
    hsame DPP1_OFF_PD_OUT_DESC (by decide) (by decide),
    hsame DPP1_OFF_MSEQ_CAPABILITY (by decide) (by decide),
    hsame DPP1_OFF_REVISION_ID (by decide) (by decide),
    hsame DPP1_OFF_VENDOR_ID_HI (by decide) (by decide),
    hsame DPP1_OFF_VENDOR_ID_LO (by decide) (by decide),
    hsame DPP1_OFF_DEVICE_ID_HI (by decide) (by decide),
    hsame DPP1_OFF_DEVICE_ID_MID (by decide) (by decide),
    hsame DPP1_OFF_DEVICE_ID_LO (by decide) (by decide)]
  split at h
  · contradiction
  · split at h
    · contradiction
    · next hreserved =>
      cases h
      rw [if_neg hreserved]

/-- The cycle time of a decoded page. -/
theorem parse_cycleTime {page : List UInt8} {info : DeviceInfo}
    (h : parseDirectParameterPage1 page = .ok info) :
  DPP1_LEN ≤ page.length ∧
    info.minCycleTime100us = decodeMinCycleTime100us (page.getD DPP1_OFF_MIN_CYCLE_TIME 0) ∧
    info.minCycleTime = page.getD DPP1_OFF_MIN_CYCLE_TIME 0
  := by
  simp only [parseDirectParameterPage1] at h
  split at h
  · contradiction
  · next hlen =>
    split at h
    · contradiction
    · cases h
      exact ⟨not_lt.mp hlen, rfl, rfl⟩

/-- A decoded page with another MinCycleTime octet is coherent if and only if the two octets
declare the same time. -/
theorem coherent_iff {p : PortState} {page : List UInt8} {octet : UInt8} {info : DeviceInfo}
    (h : parseDirectParameterPage1 page = .ok info)
    (hinfo : p.deviceInfo = { info with minCycleTime := octet }) :
  Coherent p ↔ decodeMinCycleTime100us octet
    = decodeMinCycleTime100us (page.getD DPP1_OFF_MIN_CYCLE_TIME 0)
  := by
  obtain ⟨hlen, htime, -⟩ := parse_cycleTime h
  have hvalid : (getDeviceInfo p).1 = STATUS_OK := by
    simp [getDeviceInfo, hinfo, parseDirectParameterPage1_valid h]
  have hgot : (getDeviceInfo p).2 = { info with minCycleTime := octet } := hinfo
  constructor
  · intro hcoherent
    obtain ⟨-, heq⟩ := hcoherent hvalid
    rw [hgot] at heq
    rw [← htime, heq]
  · intro heq _
    rw [hgot]
    refine ⟨⟨(page.set DPP1_OFF_MIN_CYCLE_TIME octet).take DPP1_LEN, ?_, ?_⟩, ?_⟩
    · rw [List.length_take_of_le]
      rwa [List.length_set]
    · have hget : ∀ off, off < DPP1_LEN →
          ((page.set DPP1_OFF_MIN_CYCLE_TIME octet).take DPP1_LEN).getD off 0
            = (page.set DPP1_OFF_MIN_CYCLE_TIME octet).getD off 0 := by
        intro off hoff
        rw [List.getD_eq_getElem?_getD, List.getD_eq_getElem?_getD, List.getElem?_take,
          if_pos hoff]
      have hset : (page.set DPP1_OFF_MIN_CYCLE_TIME octet).getD DPP1_OFF_MIN_CYCLE_TIME 0
          = octet := by
        rw [List.getD_eq_getElem?_getD, List.getElem?_set_self, Option.getD_some]
        simp only [DPP1_OFF_MIN_CYCLE_TIME, DPP1_LEN] at hlen ⊢
        omega
      rw [parse_congr h]
      · rw [hget _ (by decide), hset, heq, ← htime]
      · rw [List.length_take_of_le]
        rwa [List.length_set]
      · intro off hpos hoff
        rw [hget off hoff, List.getD_eq_getElem?_getD, List.getElem?_set_ne (by omega),
          List.getD_eq_getElem?_getD]
    · show info.minCycleTime100us = _
      rw [htime, heq]

/-! ### The invariant -/

/-- The device information of the port is what is remembered of the page and the test
messages. -/
structure Remembers (w : World) : Prop where
  info : match remembered w.log with
    | none => w.port.deviceInfo.valid = false
    | some (page, octet) => ∃ info, parseDirectParameterPage1 page = .ok info ∧
        w.port.deviceInfo = { info with minCycleTime := octet }
  settled : lostLast w.log = false

/-- A port that remembers its page is coherent if and only if the page was not disturbed. -/
theorem Remembers.coherent {w : World} (h : Remembers w) :
  Coherent w.port ↔ PageUndisturbed w.log
  := by
  have hinfo := h.info
  simp only [PageUndisturbed]
  rcases hr : remembered w.log with _ | ⟨page, octet⟩
  · rw [hr] at hinfo
    simp only [Option.not_mem_none, false_imp_iff, implies_true, iff_true]
    intro hvalid
    simp [getDeviceInfo, hinfo, STATUS_PENDING, STATUS_OK] at hvalid
  · rw [hr] at hinfo
    obtain ⟨info, hparse, heq⟩ := hinfo
    simp only [Option.mem_some_iff, forall_eq']
    apply coherent_iff hparse heq

/-- A step that leaves the device information alone and adds nothing about it. -/
theorem Remembers.quiet {w v : World} (h : Remembers w)
    (hinfo : v.port.deviceInfo = w.port.deviceInfo) (hlog : remembered v.log = remembered w.log)
    (hsettled : lostLast v.log = false) :
  Remembers v
  := by
  constructor
  · rw [hlog, hinfo]
    apply h.info
  · apply hsettled

/-- A page that is recorded is decoded into the device information, or leaves it alone. -/
theorem Remembers.page {w v : World} (h : Remembers w) (page : List UInt8)
    (hlog : ∃ l, v.log = .page page :: l ∧ remembered l = remembered w.log)
    (hinfo : v.port.deviceInfo = (applyDirectParameterPage1 w.port page).1.deviceInfo) :
  Remembers v
  := by
  obtain ⟨l, hlog, hl⟩ := hlog
  constructor
  · rw [hlog, remembered, hinfo]
    cases hparse : parseDirectParameterPage1 page with
    | ok info =>
        have hdecodable : decodable page = true := by
          rw [decodable, hparse]
          rfl
        rw [if_pos hdecodable]
        refine ⟨info, hparse, ?_⟩
        rw [← (parse_cycleTime hparse).2.2]
        simp [applyDirectParameterPage1, hparse]
    | error e =>
        have hdecodable : ¬ decodable page = true := by
          rw [decodable, hparse]
          exact Bool.false_ne_true
        rw [if_neg hdecodable, hl]
        simpa [applyDirectParameterPage1, hparse] using h.info
  · rw [hlog]
    rfl

theorem remembers_service {w v : World} (hstep : ServiceStep w v) (h : Remembers w) :
  Remembers v
  := by
  cases hstep with
  | tune hp => exact h.quiet hp.deviceInfo rfl h.settled
  | @note o ho =>
      have hneutral : remembered (o :: w.log) = remembered w.log ∧ lostLast (o :: w.log) = false := by
        cases o <;> first | contradiction | exact ⟨rfl, rfl⟩
      exact h.quiet rfl hneutral.1 hneutral.2
  | collectPage =>
      apply h.page w.port.isdu.response
      · exact ⟨_, rfl, rfl⟩
      · rfl
  | _ => exact h.quiet rfl rfl rfl

theorem remembers_control {w v : World} (hstep : ControlStep w v) (h : Remembers w) :
  Remembers v
  := by
  cases hstep with
  | service hstep => apply remembers_service hstep h
  | fail => exact h.quiet rfl rfl rfl

/-- After a communication loss the device information is still there. -/
theorem Remembers.comlost {w v : World} (h : Remembers w) {o : Obs}
    (ho : remembered (o :: w.log) = remembered w.log)
    (hlog : v.log = .enter .startup :: comlostObs w.port :: o :: w.log)
    (hinfo : v.port.deviceInfo = w.port.deviceInfo) :
  Remembers v
  := by
  apply h.quiet hinfo
  · rw [hlog]
    apply ho
  · rw [hlog]
    rfl

theorem remembers_routeOd {w : World} (od : List UInt8) (h : Remembers w) :
  Remembers (routeOd w od)
  := by
  obtain ⟨s, e, hport⟩ := routeOd_port w od
  apply h.quiet
  · rw [hport]
  · apply unaffected_by_routeOd
    intro o l ho
    cases o <;> first | contradiction | rfl
  · obtain ⟨os, hos, hlog⟩ := log_of_routeOd w od
    rw [hlog]
    rcases os with _ | ⟨o, os⟩
    · apply h.settled
    · have ho := hos o List.mem_cons_self
      cases o <;> first | contradiction | rfl

theorem remembers_judge {K : Iolinki} {data : List UInt8} {w v : World}
    (hstep : JudgeStep K data w v) (h : Remembers w) :
  Remembers v
  := by
  cases hstep with
  | unframed | rejectTest | rejectRetry => exact h.quiet rfl rfl rfl
  | rejectLost => exact h.comlost rfl rfl rfl
  | acceptTest =>
      have hinfo := h.info
      refine ⟨?_, rfl⟩
      simp only [remembered]
      rcases hr : remembered w.log with _ | ⟨page, octet⟩
      · rw [hr] at hinfo
        apply hinfo
      · rw [hr] at hinfo
        obtain ⟨info, hparse, heq⟩ := hinfo
        exact ⟨info, hparse, by rw [heq]⟩
  | acceptAck => exact h.quiet rfl rfl rfl
  | @accept u pdIn pdInLen pdValid hstate hack hwidth hcks hhandler hpd =>
      have haccepted : Remembers (accepted w data) := by
        refine h.quiet (v := accepted w data) rfl ?_ rfl
        simp only [accepted]
        cases hs : w.port.state with
        | startup => contradiction
        | _ => rfl
      have hu : Remembers u := hhandler.keeps (fun _ _ => remembers_service) haccepted
      have hrouted := remembers_routeOd (data.take (odWidth w.port)) hu
      exact ⟨hrouted.info, hrouted.settled⟩

theorem remembers_receive {K : Iolinki} {judged : World → List UInt8 → Prop} {w v : World}
    (hstep : ReceiveStep K judged w v) (h : Remembers w) :
  Remembers v
  := by
  cases hstep with
  | control hstep => apply remembers_control hstep h
  | clearRx => exact h.quiet rfl rfl h.settled
  | recv => exact h.quiet rfl rfl rfl
  | judge data hjudged hstep => apply remembers_judge hstep h

theorem remembers_slot {K : Iolinki} {ready : World → Prop} {w v : World}
    (hstep : SlotStep K ready w v) (h : Remembers w) :
  Remembers v
  := by
  cases hstep with
  | control hstep => apply remembers_control hstep h
  | restep | count => exact h.quiet rfl rfl h.settled
  | sendFailed sent => cases sent <;> exact h.quiet rfl rfl rfl
  | _ => exact h.quiet rfl rfl rfl

theorem remembers_timeout {due : World → Bool → Bool → Prop} {w v : World}
    (hstep : TimeoutStep due w v) (h : Remembers w) :
  Remembers v
  := by
  cases hstep with
  | control hstep => apply remembers_control hstep h
  | clearRx | restep => exact h.quiet rfl rfl h.settled
  | lost => exact h.comlost rfl rfl rfl
  | _ => exact h.quiet rfl rfl rfl

/-- Every step keeps what is remembered. -/
theorem kept_remembers {K : Iolinki} :
  Kept K (fun _ _ => True) (fun _ => True) (fun _ _ _ => True) (fun _ => True) Remembers
  := by
  constructor
  · intro _ _ _ _
    trivial
  · intro w v hstep h _
    apply remembers_control hstep h
  · intro w v hstep h _
    apply remembers_receive hstep h
  · intro w v hstep h _
    apply remembers_slot hstep h
  · intro w v hstep h _
    apply remembers_timeout hstep h

/-- An initialized port remembers nothing. -/
theorem remembers_zeroPort (phy : PhyApi) (config : Config) {log : List Obs}
    (h : lostLast log = false) :
  Remembers ⟨zeroPort phy config, .enter (zeroPort phy config).state :: log⟩
  := by
  refine ⟨?_, rfl⟩
  have hnone : remembered (.enter (zeroPort phy config).state :: log) = none := by
    by_cases hmode : config.portMode = .iolink
    · rw [show (zeroPort phy config).state = .startup from if_pos hmode]
      rcases log with _ | ⟨o, log⟩
      · rfl
      · cases o <;> first | contradiction | rfl
    · rw [show (zeroPort phy config).state = .inactive from if_neg hmode]
      rfl
  simp only [hnone]
  rfl

/-! ### Device information over runs -/

/-- Every reachable port remembers its page. -/
theorem remembers_reach {K : Iolinki} (hK : K.Lawful) {phy : PhyApi} {config : Config}
    {w : World} (hw : ReachPaged K phy config w) :
  Remembers w
  := by
  induction hw with
  | start env hconfig =>
      apply kept_remembers.started (K := K) _ env hconfig trivial
      intro _
      exact remembers_zeroPort phy config rfl
  | call env c _ ih =>
      apply kept_remembers.runCall hK _ _ env c (fun _ => ih) trivial
      · intro w now h
        exact h.quiet rfl rfl rfl
      · intro w mode h
        exact remembers_zeroPort _ _ h.settled
  | apply page _ ih =>
      apply ih.page page
      · exact ⟨_, rfl, rfl⟩
      · rfl

/-- In every reachable state, after any connections, device swaps, test messages, page reads and
pages handed in, the device information is one decoded page if and only if no answer to a test
message since that page declares another cycle time. -/
theorem device_info_coherent {K : Iolinki} (hK : K.Lawful) {phy : PhyApi} {config : Config}
    {w : World} (hw : ReachPaged K phy config w) :
  Coherent w.port ↔ PageUndisturbed w.log
  := (remembers_reach hK hw).coherent

/-- Calls made one after the other reach their final world. -/
theorem ReachPaged.run {K : Iolinki} {phy : PhyApi} {config : Config} {w : World}
    (hw : ReachPaged K phy config w) (calls : List (Env × Call)) :
  ReachPaged K phy config (run K w calls)
  := by
  induction calls generalizing w with
  | nil =>
      rw [run_nil]
      apply hw
  | cons c calls ih =>
      rw [run_cons]
      apply ih (hw.call c.1 c.2)

/-- A port that reads the page of its device holds coherent device information. -/
theorem device_info_coherent_read :
  Coherent (run .reference (started (.quiet []) .full checkingConfig) identifying).port
  := by
  apply (device_info_coherent Iolinki.lawful_reference
    ((ReachPaged.start (.quiet []) (by decide)).run identifying)).mpr
  decide +kernel

/-- The answer of another device to the test message leaves the cycle time of the page beside
the MinCycleTime octet of the answer. -/
theorem device_info_coherent_swapped :
  ReachPaged .reference .full checkingConfig
      (run .reference (started (.quiet []) .full checkingConfig) replacing) ∧
    ¬ Coherent (run .reference (started (.quiet []) .full checkingConfig) replacing).port
  := by
  refine ⟨(ReachPaged.start _ (by decide)).run _, fun h => ?_⟩
  have htime := (h (by decide +kernel)).2
  revert htime
  decide +kernel

end IolinkMaster
