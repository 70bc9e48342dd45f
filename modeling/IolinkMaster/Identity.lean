import IolinkMaster.Runs

/-!
# Checking the identity of a device

A port that checks device information enters OPERATE only after it has read and accepted
Direct Parameter Page 1 of the device it is connected to, provided that the connection did
not begin with a communication loss that left device information behind.
-/

namespace IolinkMaster

/-! ### What the observations say -/

instance (page : List UInt8) (config : Config) : Decidable (PagePasses page config) :=
  match h : parseDirectParameterPage1 page with
  | .ok info =>
    decidable_of_iff (validateConfigAgainstDeviceInfo info config = STATUS_OK) (by
      constructor
      · intro hpass
        exact ⟨info, h, hpass⟩
      · rintro ⟨info', hinfo, hpass⟩
        rw [h, Except.ok.injEq] at hinfo
        rw [hinfo]
        apply hpass)
  | .error _ => isFalse (by
      rintro ⟨info, hinfo, -⟩
      rw [h] at hinfo
      contradiction)

/-- The service reads Direct Parameter Page 1. -/
def readsPage (op : IsduOp) (index : UInt16) (subindex : UInt8) : Bool :=
  op == .read && index == IDX_DIRECT_PARAMETERS_1 && subindex == 0

/-- A read of Direct Parameter Page 1 has started since the last entry into STARTUP. -/
def pageRequested : List Obs → Bool
  | .enter .startup :: _ => false
  | .isduStart op index subindex _ _ :: l => readsPage op index subindex || pageRequested l
  | _ :: l => pageRequested l
  | [] => false

/-- A page requested and collected since the last entry into STARTUP passes the check of the
configuration. -/
def pageAccepted (config : Config) : List Obs → Bool
  | .enter .startup :: _ => false
  | .page octets :: l =>
    pageRequested l && decide (PagePasses octets config) || pageAccepted config l
  | _ :: l => pageAccepted config l
  | [] => false

/-- The last entry into STARTUP was no communication loss with valid device information or
with a read of Direct Parameter Page 1 in service. -/
def cleanStart : List Obs → Bool
  | .enter .startup :: .comlost valid op index subindex _ :: _ =>
    !valid && !readsPage op index subindex
  | .enter .startup :: _ => true
  | _ :: l => cleanStart l
  | [] => true

/-- OPERATE is entered only with an accepted page. -/
def Identified (config : Config) (log : List Obs) (o : Obs) : Prop :=
  o = .enter .operate → pageAccepted config log = true

/-- OPERATE is entered only in a connection with a clean start. -/
def Clean (log : List Obs) (o : Obs) : Prop := o = .enter .operate → cleanStart log = true

instance (config : Config) (log : List Obs) (o : Obs) : Decidable (Identified config log o) :=
  inferInstanceAs (Decidable (_ → _))

instance (log : List Obs) (o : Obs) : Decidable (Clean log o) :=
  inferInstanceAs (Decidable (_ → _))

/-! ### The invariant -/

/-- The device information of a port comes from an accepted page of this connection. -/
structure Known (config : Config) (w : World) : Prop where
  configured : ∃ mode, w.port.config = { config with portMode := mode }
  always : Trace.Always (Identified config) w.log
  requested : cleanStart w.log = true →
    readsPage w.port.isdu.op w.port.isdu.index w.port.isdu.subindex = true →
    pageRequested w.log = true
  accepted : cleanStart w.log = true →
    validateConfigAgainstDeviceInfo w.port.deviceInfo config = STATUS_OK →
    pageAccepted config w.log = true
  acknowledged : cleanStart w.log = true → awaitsAck w.port → pageAccepted config w.log = true

/-- An observation that is no entry into OPERATE. -/
theorem always_identified {config : Config} {log : List Obs} {o : Obs} (ho : o ≠ .enter .operate)
    (h : Trace.Always (Identified config) log) :
  Trace.Always (Identified config) (o :: log)
  := ⟨h, fun hc => absurd hc ho⟩

/-- A step that observes nothing about identities and leaves the service and the device
information alone. -/
theorem Known.quiet {config : Config} {w v : World} (h : Known config w)
    (hconfig : v.port.config = w.port.config)
    (halways : Trace.Always (Identified config) w.log → Trace.Always (Identified config) v.log)
    (hclean : cleanStart v.log = cleanStart w.log)
    (hrequested : pageRequested v.log = pageRequested w.log)
    (haccepted : pageAccepted config v.log = pageAccepted config w.log)
    (hservice : readsPage v.port.isdu.op v.port.isdu.index v.port.isdu.subindex = true →
      readsPage w.port.isdu.op w.port.isdu.index w.port.isdu.subindex = true)
    (hinfo : v.port.deviceInfo = w.port.deviceInfo)
    (hack : awaitsAck v.port → awaitsAck w.port) :
  Known config v
  := by
  constructor
  · rw [hconfig]
    apply h.configured
  · apply halways h.always
  · rw [hclean, hrequested]
    intro hstart hreads
    apply h.requested hstart (hservice hreads)
  · rw [hclean, haccepted, hinfo]
    apply h.accepted
  · rw [hclean, haccepted]
    intro hstart hv
    apply h.acknowledged hstart (hack hv)

/-- A step into STARTUP: what is known of the device is forgotten. -/
theorem Known.restart {config : Config} {v : World} (hconfig : ∃ mode, v.port.config
      = { config with portMode := mode })
    (halways : Trace.Always (Identified config) v.log) (hstate : v.port.state ≠ .preoperate)
    (hservice : cleanStart v.log = true →
      readsPage v.port.isdu.op v.port.isdu.index v.port.isdu.subindex = false)
    (hinfo : cleanStart v.log = true → v.port.deviceInfo.valid = false) :
  Known config v
  := by
  constructor
  · apply hconfig
  · apply halways
  · intro hstart hreads
    rw [hservice hstart] at hreads
    contradiction
  · intro hstart hvalidate
    have hvalid := valid_of_validate hvalidate
    rw [hinfo hstart] at hvalid
    contradiction
  · intro _ hack
    exact absurd hack.1 hstate

variable {config : Config}

theorem known_service {w v : World} (hstep : ServiceStep w v) (h : Known config w) :
  Known config v
  := by
  have hobserved : ∀ o : Obs, o.ofService = true → (∀ op i j d r, o ≠ .isduStart op i j d r) →
      (∀ octets, o ≠ .page octets) → Known config (w.emit o) := by
    intro o ho hstart hpage
    cases o with
    | isduStart op i j d r => exact absurd rfl (hstart op i j d r)
    | page octets => exact absurd rfl (hpage octets)
    | _ =>
        first
        | contradiction
        | exact h.quiet rfl (always_identified (by simp)) rfl rfl rfl id rfl id
  have hleft := hobserved (.isduLeft w.port.isdu) rfl (by simp) (by simp)
  cases hstep with
  | tune hp =>
      refine h.quiet hp.config id rfl rfl rfl ?_ hp.deviceInfo ?_
      · rw [World.put_port, hp.isdu]
        apply id
      · rw [World.put_port, awaitsAck, hp.state, hp.step]
        apply id
  | @note o ho =>
      cases o with
      | flushRx | setMode _ | setBaudrate _ | eventPending | event _ | returned _ _ =>
          exact h.quiet rfl (always_identified (by simp)) rfl rfl rfl id rfl id
      | _ => contradiction
  | startRead index subindex =>
      constructor
      · apply h.configured
      · apply always_identified (by simp) hleft.always
      · intro _ hreads
        simp only [pageRequested, Bool.or_eq_true]
        left
        apply hreads
      · apply h.accepted
      · apply h.acknowledged
  | startWrite index subindex data =>
      constructor
      · apply h.configured
      · apply always_identified (by simp) (always_identified (by simp) hleft.always)
      · intro _ hreads
        contradiction
      · apply h.accepted
      · apply h.acknowledged
  | giveUpRead | collectRead =>
      exact hleft.quiet rfl id rfl rfl rfl (fun hreads => by contradiction) rfl id
  | giveUpWrite | collectWrite =>
      exact hleft.quiet rfl (always_identified (by simp)) rfl rfl rfl
        (fun hreads => by contradiction) rfl id
  | collectPage hdone hmatches herror =>
      constructor
      · apply h.configured
      · apply always_identified (by simp) hleft.always
      · intro _ hreads
        contradiction
      · intro hstart hvalidate
        simp only [pageAccepted, Bool.or_eq_true, Bool.and_eq_true, decide_eq_true_iff]
        simp only [applyDirectParameterPage1] at hvalidate
        split at hvalidate
        · next info hinfo =>
          left
          exact ⟨h.requested hstart hmatches, info, hinfo, hvalidate⟩
        · right
          apply h.accepted hstart hvalidate
      · intro hstart hack
        simp only [pageAccepted, Bool.or_eq_true]
        right
        apply h.acknowledged hstart hack
  | refuseWrite | pendingWrite | setPdOut =>
      exact h.quiet rfl (always_identified (by simp)) rfl rfl rfl id rfl id
  | startEvent =>
      have hstart := hobserved .eventStart rfl (by simp) (by simp)
      exact hstart.quiet rfl (always_identified (by simp)) rfl rfl rfl id rfl id
  | consumeEvent =>
      have htaken := hobserved (.eventTaken w.port.event.request) rfl (by simp) (by simp)
      exact htaken.quiet rfl (always_identified (by simp)) rfl rfl rfl id rfl id

theorem known_control {w v : World} (hstep : ControlStep w v) (h : Known config w) :
  Known config v
  := by
  cases hstep with
  | service hstep => apply known_service hstep h
  | fail =>
      refine h.quiet rfl (always_identified (by simp)) rfl rfl rfl id rfl ?_
      rintro ⟨hstate, -⟩
      contradiction

/-- After a communication loss nothing is known of the device. -/
theorem known_comlost {w v : World} (h : Known config w) {o : Obs} (ho : o ≠ .enter .operate)
    (hlog : v.log = .enter .startup :: comlostObs w.port :: o :: w.log)
    (hconfig : v.port.config = w.port.config) (hstate : v.port.state = .startup)
    (hisdu : v.port.isdu = w.port.isdu) (hinfo : v.port.deviceInfo = w.port.deviceInfo) :
  Known config v
  := by
  have hclean : cleanStart v.log = true → w.port.deviceInfo.valid = false ∧
      readsPage w.port.isdu.op w.port.isdu.index w.port.isdu.subindex = false := by
    rw [hlog]
    simp only [comlostObs, cleanStart, Bool.and_eq_true, Bool.not_eq_true']
    apply id
  apply Known.restart
  · rw [hconfig]
    apply h.configured
  · rw [hlog]
    apply always_identified (by simp)
    apply always_identified (by simp [comlostObs])
    apply always_identified ho h.always
  · rw [hstate]
    decide
  · rw [hisdu]
    intro hstart
    apply (hclean hstart).2
  · rw [hinfo]
    intro hstart
    apply (hclean hstart).1

/-- Handing on on-request data tells nothing about the device. -/
theorem known_routeOd {w : World} (od : List UInt8) (h : Known config w) :
  Known config (routeOd w od)
  := by
  obtain ⟨s, e, hport, hservice⟩ := routeOd_service w od
  have hlog : ∀ o l, Obs.ofRoute o = true → cleanStart (o :: l) = cleanStart l ∧
      pageRequested (o :: l) = pageRequested l ∧
      pageAccepted config (o :: l) = pageAccepted config l := by
    intro o l ho
    cases o <;> first | exact ⟨rfl, rfl, rfl⟩ | contradiction
  apply h.quiet
  · rw [hport]
  · apply always_of_routeOd
    intro o l ho hc
    rw [hc] at ho
    contradiction
  · apply unaffected_by_routeOd (fun o l ho => (hlog o l ho).1)
  · apply unaffected_by_routeOd (fun o l ho => (hlog o l ho).2.1)
  · apply unaffected_by_routeOd (fun o l ho => (hlog o l ho).2.2)
  · obtain ⟨hop, hindex, hsubindex, -⟩ := hservice
    rw [hport]
    simp only [hop, hindex, hsubindex]
    apply id
  · rw [hport]
  · rw [hport]
    apply id

theorem known_judge {K : Iolinki} {data : List UInt8} {w v : World}
    (hstep : JudgeStep K data w v) (h : Known config w) (hC : Trace.Always Clean v.log) :
  Known config v
  := by
  cases hstep with
  | unframed | rejectTest | rejectRetry =>
      exact h.quiet rfl (always_identified (by simp)) rfl rfl rfl id rfl id
  | rejectLost =>
      exact known_comlost h (by simp) rfl rfl rfl rfl rfl
  | acceptTest hstate hstep =>
      constructor
      · apply h.configured
      · apply always_identified (by simp) (always_identified (by simp) h.always)
      · apply h.requested
      · -- The check does not look at the MinCycleTime octet of the test message.
        apply h.accepted
      · rintro _ ⟨-, hack⟩
        rw [show w.port.startup.step = _ from hack] at hstep
        contradiction
  | acceptAck hack =>
      have hstart := hC.2 rfl
      constructor
      · apply h.configured
      · refine ⟨always_identified (by simp) h.always, ?_⟩
        intro _
        apply h.acknowledged hstart hack
      · apply h.requested
      · apply h.accepted
      · rintro _ ⟨hstate, -⟩
        contradiction
  | @accept u pdIn pdInLen pdValid hstate hack hwidth hcks hhandler hpd =>
      have haccepted : Known config (accepted w data) :=
        h.quiet rfl (always_identified (by simp)) rfl rfl rfl id rfl id
      have hu : Known config u := hhandler.keeps (fun _ _ => known_service) haccepted
      have hrouted := known_routeOd (data.take (odWidth w.port)) hu
      exact ⟨hrouted.configured, hrouted.always, hrouted.requested, hrouted.accepted,
        hrouted.acknowledged⟩

theorem known_receive {K : Iolinki} {judged : World → List UInt8 → Prop} {w v : World}
    (hstep : ReceiveStep K judged w v) (h : Known config w) (hC : Trace.Always Clean v.log) :
  Known config v
  := by
  cases hstep with
  | control hstep => apply known_control hstep h
  | clearRx => exact h.quiet rfl id rfl rfl rfl id rfl id
  | recv => exact h.quiet rfl (always_identified (by simp)) rfl rfl rfl id rfl id
  | judge data hjudged hstep => apply known_judge hstep h hC

/-- STARTUP waits for no acknowledge of DeviceOperate. -/
theorem not_awaitsAck {p q : PortState} (hstate : q.state = .startup)
    (h : p.state = q.state := by rfl) :
  awaitsAck p → awaitsAck q
  := by
  rintro ⟨hpre, -⟩
  rw [h, hstate] at hpre
  contradiction

/-- A port that has checked its device holds information that passes the check. -/
theorem Known.checked {w : World} (h : Known config w)
    (hreq : startupValidationRequired config = true) (hchecked : DeviceChecked w.port) :
  validateConfigAgainstDeviceInfo w.port.deviceInfo config = STATUS_OK
  := by
  obtain ⟨mode, hmode⟩ := h.configured
  simp only [DeviceChecked, validateDeviceInfo, hmode] at hchecked
  apply hchecked hreq

theorem known_slot {K : Iolinki} {ready : World → Prop} {w v : World}
    (hstep : SlotStep K ready w v) (hreq : startupValidationRequired config = true)
    (h : Known config w) :
  Known config v
  := by
  cases hstep with
  | control hstep => apply known_control hstep h
  | slot =>
      have hview : Known config (w.emit (.view w.port)) :=
        h.quiet rfl (always_identified (by simp)) rfl rfl rfl id rfl id
      exact hview.quiet rfl (always_identified (by simp)) rfl rfl rfl id rfl id
  | callWakeUp => exact h.quiet rfl (always_identified (by simp)) rfl rfl rfl id rfl id
  | send hstate hopen hemit =>
      have hmoves := hemit.moves
      constructor
      · apply h.configured
      · apply always_identified (by simp) h.always
      · obtain ⟨pos, phase, flowctrl, abort, idle, -, rfl⟩ := hmoves
        apply h.requested
      · apply h.accepted
      · rintro hstart ⟨hpreoperate, hack⟩
        have hpage : awaitsAck w.port ∨ DeviceChecked w.port := by
          cases hemit with
          | deviceOperate _ _ _ hchecked =>
              right
              apply hchecked
          | _ =>
              left
              exact ⟨hpreoperate, hack⟩
        rcases hpage with hawaits | hchecked
        · apply h.acknowledged hstart hawaits
        · apply h.accepted hstart
          apply h.checked hreq hchecked
  | sendFailed sent e' hstate hopen hemit =>
      obtain ⟨pos, phase, flowctrl, abort, idle, -, rfl⟩ := hemit.moves
      have herror : ∀ p : PortState, p.state = .error → awaitsAck p → awaitsAck w.port := by
        rintro p hp ⟨hpre, -⟩
        rw [hp] at hpre
        contradiction
      cases sent with
      | false =>
          exact h.quiet rfl (always_identified (by simp)) rfl rfl rfl id rfl (herror _ rfl)
      | true =>
          refine h.quiet rfl ?_ rfl rfl rfl id rfl (herror _ rfl)
          intro halways
          apply always_identified (by simp) (always_identified (by simp) halways)
  | restep step hstate =>
      exact h.quiet rfl id rfl rfl rfl id rfl (not_awaitsAck hstate)
  | wake hstate | test deadline awaiting hstate =>
      exact h.quiet rfl (always_identified (by simp)) rfl rfl rfl id rfl (not_awaitsAck hstate)
  | startupFailed frame hstate =>
      refine h.quiet rfl ?_ rfl rfl rfl id rfl ?_
      · intro halways
        apply always_identified (by simp) (always_identified (by simp) halways)
      · rintro ⟨hpre, -⟩
        contradiction
  | count => exact h.quiet rfl id rfl rfl rfl id rfl id
  | arm => exact h.quiet rfl (always_identified (by simp)) rfl rfl rfl id rfl id

theorem known_timeout {due : World → Bool → Bool → Prop} {w v : World}
    (hstep : TimeoutStep due w v) (h : Known config w) :
  Known config v
  := by
  cases hstep with
  | control hstep => apply known_control hstep h
  | clearRx => exact h.quiet rfl id rfl rfl rfl id rfl id
  | ignored | count =>
      exact h.quiet rfl (always_identified (by simp)) rfl rfl rfl id rfl id
  | broken =>
      refine h.quiet rfl ?_ rfl rfl rfl id rfl ?_
      · intro halways
        apply always_identified (by simp) (always_identified (by simp) halways)
      · rintro ⟨hpre, -⟩
        contradiction
  | lost => exact known_comlost h (by simp) rfl rfl rfl rfl rfl
  | restep step hstate => exact h.quiet rfl id rfl rfl rfl id rfl (not_awaitsAck hstate)

/-- Runs keep the device known as long as OPERATE is entered after clean starts only. -/
theorem kept_known {K : Iolinki} (hreq : startupValidationRequired config = true) :
  Kept K (fun _ _ => True) (fun _ => True) (fun _ _ _ => True) (Trace.Always Clean)
    (Known config)
  := by
  constructor
  · apply Trace.closed_always
  · intro w v hstep h _
    apply known_control hstep h
  · intro w v hstep h hC
    apply known_receive hstep h hC
  · intro w v hstep h _
    apply known_slot hstep hreq h
  · intro w v hstep h _
    apply known_timeout hstep h

/-- An initialized port knows nothing of its device. -/
theorem known_zeroPort (phy : PhyApi) (config' : Config) {log : List Obs}
    (hconfig : ∃ mode, config' = { config with portMode := mode })
    (h : Trace.Always (Identified config) log) :
  Known config ⟨zeroPort phy config', .enter (zeroPort phy config').state :: log⟩
  := by
  have hstate := zeroPort_state phy config'
  apply Known.restart
  · apply hconfig
  · apply always_identified _ h
    rcases hstate with hs | hs <;> simp [hs]
  · rcases hstate with hs | hs <;> simp [hs]
  · intro _
    rfl
  · intro _
    rfl

/-! ### Identity checks -/

/-- In every run of a port that checks its device, through communication losses and
renewed initializations, OPERATE is entered only with a page read and accepted in this
connection, provided that the connection had a clean start. -/
theorem identity_checked {K : Iolinki} (hK : K.Lawful) {phy : PhyApi} {config : Config}
    (hreq : startupValidationRequired config = true) {allowed : Env → World → Call → Prop}
    {w : World} (hw : Reach K allowed phy config w) (hC : Trace.Always Clean w.log) :
  Trace.Always (Identified config) w.log
  := by
  apply ((kept_known hreq).reachCalls hK _ _ _ hw hC).always
  · intro _ _
    exact known_zeroPort phy config ⟨config.portMode, rfl⟩ (Trace.always_nil _)
  · intro w now h
    exact h.quiet rfl (always_identified (by simp)) rfl rfl rfl id rfl id
  · intro w mode h
    obtain ⟨mode', hmode⟩ := h.configured
    apply known_zeroPort
    · exact ⟨mode, by rw [hmode]⟩
    · apply h.always

/-- A configuration of type 2.1 that checks the device information. -/
def checkingConfig : Config := { Config.bare .type2_1 1 1 with validateDeviceInfo := true }

/-- The Direct Parameter Page 1 of a device of revision 1.1 with an octet of process data in
each direction. -/
def devicePage : List UInt8 :=
  [0, 0, 0, 0x01, 0x11, 0x08, 0x08, 0x12, 0x34, 0, 0, 1, 0, 0, 0, 0]

/-- Ticks that read the page of the device, an octet a tick, and bring the port into
OPERATE. -/
def identifying : List (Env × Call) :=
  connecting ++ [(.quiet [], .tickAt .cycleDue 14)] ++
    ([0, 0, 0] ++ readResponse devicePage ++ [0]).map
      (fun octet => (.quiet (reply 0 [octet]), .tickAt .cycleDue 16)) ++
    [(.quiet (reply 0 []), .tickAt .cycleDue 18)]

/-- A port that reads the page of its device enters OPERATE with an accepted page. -/
theorem identity_checked_identifying :
  Trace.Always (Identified checkingConfig)
    (run .reference (started (.quiet []) .full checkingConfig) identifying).log
  := by
  have hreach : Reach .reference ticksAndServices .full checkingConfig
      (run .reference (started (.quiet []) .full checkingConfig) identifying) := by
    apply (Reach.start _ (by decide)).run
    decide +kernel
  apply identity_checked Iolinki.lawful_reference (by decide) hreach
  decide +kernel

/-- Ticks in which the device falls silent, and another one answers the next test message
and acknowledges DeviceOperate. -/
def replacing : List (Env × Call) :=
  identifying ++ [(.quiet [], .tickAt .responseTimeout 20), (.quiet [], .tickAt .cycleDue 22),
    (.quiet [], .tickAt .responseTimeout 24), (.quiet [], .tickAt .cycleDue 26),
    (.quiet [], .tickAt .responseTimeout 28), (.quiet [], .tickAt .cycleDue 500),
    (.quiet [], .tickAt .cycleDue 510), (.quiet (reply 0 [0x0A]), .tickAt .cycleDue 512),
    (.quiet (reply 0 []), .tickAt .cycleDue 514)]

/-- The device information survives a communication loss: the device that answers after it
is brought into OPERATE unread. -/
theorem identity_checked_replaced :
  Reach .reference ticksAndServices .full checkingConfig
    (run .reference (started (.quiet []) .full checkingConfig) replacing) ∧
  ¬ Trace.Always (Identified checkingConfig)
    (run .reference (started (.quiet []) .full checkingConfig) replacing).log
  := by
  constructor
  · apply (Reach.start _ (by decide)).run
    decide +kernel
  · decide +kernel

end IolinkMaster
