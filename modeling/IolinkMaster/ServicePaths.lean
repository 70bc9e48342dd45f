import IolinkMaster.Steps

/-!
# Service calls step by step

Every call of the acyclic services is a sequence of service steps, and what no service
step touches no service call touches.
-/

namespace IolinkMaster

open Relation

/-! ### Single steps -/

theorem ServicePath.one {w v : World} (h : ServiceStep w v) :
  ServicePath w v
  := .single h

theorem ServicePath.tune {w : World} {p : PortState} (h : Similar w.port p) :
  ServicePath w (w.put p)
  := .single (.tune h)

theorem ServicePath.note {w : World} {o : Obs} (h : o.neutral = true) :
  ServicePath w (w.emit o)
  := .single (.note h)

/-- What every service step keeps, service calls keep. -/
theorem ServicePath.keeps {I : World → Prop}
    (hstep : ∀ ⦃w v : World⦄, ServiceStep w v → I w → I v) {w v : World} (h : ServicePath w v)
    (hw : I w) :
  I v
  := by
  induction h with
  | refl => apply hw
  | tail _ hlast ih => apply hstep hlast ih

/-- What a service step observes. -/
theorem log_of_service {w v : World} (h : ServiceStep w v) :
  ∃ os : List Obs, (∀ o ∈ os, o.ofService = true) ∧ v.log = os ++ w.log
  := by
  cases h with
  | @note o ho =>
      refine ⟨[o], ?_, rfl⟩
      intro o' ho'
      rw [List.mem_singleton.mp ho']
      cases o <;> first | rfl | contradiction
  | tune => exact ⟨[], by simp, rfl⟩
  | startWrite => exact ⟨[_, _, _], by simp [Obs.ofService], rfl⟩
  | startRead | giveUpWrite | collectPage | collectWrite | startEvent | consumeEvent =>
      exact ⟨[_, _], by simp [Obs.ofService], rfl⟩
  | _ => exact ⟨[_], by simp [Obs.ofService], rfl⟩

/-- A sequence of service steps only adds observations of service calls. -/
theorem log_of_servicePath {w v : World} (h : ServicePath w v) :
  ∃ os : List Obs, (∀ o ∈ os, o.ofService = true) ∧ v.log = os ++ w.log
  := by
  induction h with
  | refl => exact ⟨[], by simp, rfl⟩
  | tail _ hstep ih =>
      obtain ⟨os, hos, hlog⟩ := ih
      obtain ⟨os', hos', hlog'⟩ := log_of_service hstep
      refine ⟨os' ++ os, ?_, ?_⟩
      · intro o ho
        rcases List.mem_append.mp ho with ho | ho
        · apply hos' o ho
        · apply hos o ho
      · rw [hlog', hlog, List.append_assoc]

/-- What no observation of a service call affects, a service step does not affect. -/
theorem unaffected_by_service {α : Type} {f : List Obs → α}
    (hf : ∀ o l, o.ofService = true → f (o :: l) = f l) {w v : World} (h : ServiceStep w v) :
  f v.log = f w.log
  := by
  obtain ⟨os, hos, hlog⟩ := log_of_service h
  rw [hlog]
  apply Trace.unaffected_append hf hos

/-- What holds of every observation of a service call holds after a service step. -/
theorem always_of_service {P : List Obs → Obs → Prop}
    (hP : ∀ o l, o.ofService = true → P l o) {w v : World} (h : ServiceStep w v)
    (hw : Trace.Always P w.log) :
  Trace.Always P v.log
  := by
  obtain ⟨os, hos, hlog⟩ := log_of_service h
  rw [hlog]
  apply Trace.always_append hP hos hw

/-- An observation of the routing of on-request data. -/
def Obs.ofRoute : Obs → Bool
  | .isduOd _ | .isduDone _ _ | .eventOd _ | .dropOd _ => true
  | _ => false

/-- What the routing of on-request data observes. -/
theorem log_of_routeOd (w : World) (od : List UInt8) :
  ∃ os : List Obs, (∀ o ∈ os, o.ofRoute = true) ∧ (routeOd w od).log = os ++ w.log
  := by
  simp only [routeOd]
  split
  · split
    · exact ⟨[_], by simp [Obs.ofRoute], rfl⟩
    · exact ⟨[_], by simp [Obs.ofRoute], rfl⟩
  · refine ⟨isduObserved w.port.isdu od, ?_, rfl⟩
    simp only [isduObserved]
    split
    · simp [Obs.ofRoute]
    · simp [Obs.ofRoute]

/-- On-request data goes to the event memory if a diagnosis read was answered, to nobody if
another frame was answered during a readout, and else to the ISDU transport. -/
theorem routeOd_cases (w : World) (od : List UInt8) :
  w.port.event.phase = .read ∧ w.port.event.odExpected = true ∧
      routeOd w od =
        ⟨{ w.port with event := eventOnOd { w.port.event with odExpected := false } od },
          .eventOd od :: w.log⟩ ∨
    w.port.event.phase ≠ .none ∧ routeOd w od = w.emit (.dropOd od) ∨
    w.port.event.phase = .none ∧
      routeOd w od =
        ⟨{ w.port with isdu := isduOnOd w.port.isdu od },
          isduObserved w.port.isdu od ++ w.log⟩
  := by
  cases hphase : w.port.event.phase with
  | none =>
      right
      right
      have haccess : eventChannelAccess w.port.event = none := by
        simp only [eventChannelAccess, hphase]
      refine ⟨rfl, ?_⟩
      rw [routeOd, haccess]
  | read =>
      have haccess : eventChannelAccess w.port.event = some (true, w.port.event.addr) := by
        simp only [eventChannelAccess, hphase]
      cases hexpected : w.port.event.odExpected with
      | true =>
          left
          refine ⟨rfl, rfl, ?_⟩
          rw [routeOd, haccess]
          apply if_pos hexpected
      | false =>
          right
          left
          refine ⟨by decide, ?_⟩
          rw [routeOd, haccess]
          apply if_neg (by simp [hexpected])
  | write =>
      have haccess : eventChannelAccess w.port.event = some (false, w.port.event.addr) := by
        simp only [eventChannelAccess, hphase]
      right
      left
      refine ⟨by decide, ?_⟩
      rw [routeOd, haccess]
      apply if_neg (by simp)

/-- The routing of on-request data only touches the services, and leaves the request of the
ISDU service alone. -/
theorem routeOd_service (w : World) (od : List UInt8) :
  ∃ s e, (routeOd w od).port = { w.port with isdu := s, event := e } ∧ w.port.isdu.SameRequest s
  := by
  simp only [routeOd]
  split
  · split
    · exact ⟨_, _, rfl, .refl _⟩
    · exact ⟨w.port.isdu, w.port.event, rfl, .refl _⟩
  · exact ⟨_, w.port.event, rfl, sameRequest_onOd _ _⟩

/-- The routing of on-request data only touches the services. -/
theorem routeOd_port (w : World) (od : List UInt8) :
  ∃ s e, (routeOd w od).port = { w.port with isdu := s, event := e }
  := by
  obtain ⟨s, e, hport, -⟩ := routeOd_service w od
  exact ⟨s, e, hport⟩

/-- What no observation of the routing affects, the routing does not affect. -/
theorem unaffected_by_routeOd {α : Type} {f : List Obs → α}
    (hf : ∀ o l, o.ofRoute = true → f (o :: l) = f l) (w : World) (od : List UInt8) :
  f (routeOd w od).log = f w.log
  := by
  obtain ⟨os, hos, hlog⟩ := log_of_routeOd w od
  rw [hlog]
  apply Trace.unaffected_append hf hos

/-- What holds of every observation of the routing holds after it. -/
theorem always_of_routeOd {P : List Obs → Obs → Prop}
    (hP : ∀ o l, o.ofRoute = true → P l o) {w : World} (od : List UInt8)
    (hw : Trace.Always P w.log) :
  Trace.Always P (routeOd w od).log
  := by
  obtain ⟨os, hos, hlog⟩ := log_of_routeOd w od
  rw [hlog]
  apply Trace.always_append hP hos hw

/-- Latching a service result decides nothing. -/
theorem similar_serviceResult (p : PortState) (ret : Int) :
  Similar p (serviceResult p ret)
  := by
  simp only [serviceResult]
  split
  · exact ⟨id, rfl, rfl, rfl, rfl, rfl, rfl, rfl, rfl, rfl, rfl, rfl, rfl, rfl, rfl, rfl, rfl,
    rfl, rfl, rfl⟩
  · apply Similar.refl

/-- A step followed by the latching of its result. -/
theorem ServicePath.latch {w v : World} (h : ServicePath w v) (ret : Int) :
  ServicePath w (v.put (serviceResult v.port ret))
  := h.tail (.tune (similar_serviceResult v.port ret))

/-- Two worlds with similar ports and the same log. -/
theorem ServicePath.retune {w v : World} {p : PortState} (h : ServicePath w v)
    (hp : Similar v.port p) :
  ServicePath w (v.put p)
  := h.tail (.tune hp)

/-- Giving up a service up to what decides nothing. -/
theorem similar_finishError (p : PortState) :
  Similar { p with isdu := { isduClear p.isdu with abortPending := p.isdu.abortPending } }
    (isduFinishError p)
  := by
  simp only [isduFinishError, serviceResult]
  split <;> exact ⟨id, rfl, rfl, rfl, rfl, rfl, rfl, rfl, rfl, rfl, rfl, rfl, rfl, rfl, rfl, rfl, rfl,
    rfl, rfl, rfl⟩

/-! ### Reads and writes -/

/-- A call of `read_isdu` is a sequence of service steps. -/
theorem readIsdu_path (w : World) (index : UInt16) (subindex cap : UInt8) :
  ServicePath w (readIsdu w index subindex cap).1
  := by
  have h := readIsdu_cases w index subindex cap
  revert h
  generalize readIsdu w index subindex cap = r
  rintro (_ | hdone | _ | ⟨hdone, hmatches, herror⟩ | ⟨hstate, hbusy, hdone⟩)
  · apply ReflTransGen.refl
  · apply (ServicePath.one (ServiceStep.giveUpRead hdone)).retune
    apply similar_finishError
  · apply ServicePath.latch .refl
  · apply (ServicePath.one (ServiceStep.collectRead index subindex hdone hmatches herror)).latch
  · apply ReflTransGen.single
    apply ServiceStep.startRead index subindex hstate hbusy hdone

/-- A call of `write_isdu` is a sequence of service steps. -/
theorem writeIsdu_path (w : World) (index : UInt16) (subindex : UInt8) (data : List UInt8) :
  ServicePath w (writeIsdu w index subindex data).1
  := by
  have h := writeIsduBody_cases w index subindex data
  simp only [writeIsdu]
  revert h
  generalize writeIsduBody w index subindex data = r
  rintro (⟨ret, hret⟩ | ⟨hstate, hbusy, hmatches⟩ | ⟨hdone, hmatches⟩ |
    ⟨hstate, hdone, hmatches, herror⟩ | ⟨hstate, hbusy, hdone, hlen⟩)
  · apply ReflTransGen.single
    apply ServiceStep.refuseWrite index subindex data ret hret
  · apply ReflTransGen.single
    apply ServiceStep.pendingWrite index subindex data hstate hbusy hmatches
  · apply (ServicePath.one (ServiceStep.giveUpWrite index subindex data hdone hmatches)).retune
    apply similar_finishError
  · apply (ServicePath.one
      (ServiceStep.collectWrite index subindex data hstate hdone hmatches herror)).latch STATUS_OK
  · apply ReflTransGen.single
    apply ServiceStep.startWrite index subindex data hstate hbusy hdone hlen

/-! ### Device information -/

/-- Decoding a page changes the device information only. -/
theorem applyDirectParameterPage1_eq (p : PortState) (page : List UInt8) :
  (applyDirectParameterPage1 p page).1
    = { p with deviceInfo := (applyDirectParameterPage1 p page).1.deviceInfo }
  := by
  simp only [applyDirectParameterPage1]
  split <;> rfl

/-- Decoding a page looks at the device information only. -/
theorem applyDirectParameterPage1_congr {p q : PortState} (h : q.deviceInfo = p.deviceInfo)
    (page : List UInt8) :
  (applyDirectParameterPage1 q page).1.deviceInfo
    = (applyDirectParameterPage1 p page).1.deviceInfo
  := by
  simp only [applyDirectParameterPage1]
  split
  · rfl
  · apply h

/-- A call of `read_device_info` is a sequence of service steps. -/
theorem readDeviceInfo_path (w : World) :
  ServicePath w (readDeviceInfo w).1
  := by
  have h := readIsdu_cases w IDX_DIRECT_PARAMETERS_1 0 (UInt8.ofNat DPP1_LEN)
  have hpath := readIsdu_path w IDX_DIRECT_PARAMETERS_1 0 (UInt8.ofNat DPP1_LEN)
  simp only [readDeviceInfo]
  by_cases hzero : (readIsdu w IDX_DIRECT_PARAMETERS_1 0 (UInt8.ofNat DPP1_LEN)).2.ret ≠ 0
  · rw [if_pos hzero]
    apply hpath
  · rw [if_neg hzero]
    have hcollect : ∀ q, Similar { w.port with isdu := isduClear w.port.isdu } q →
        w.port.isdu.done = true →
        isduMatches w.port.isdu .read IDX_DIRECT_PARAMETERS_1 0 = true →
        w.port.isdu.error = ISDU_ERROR_NONE →
        ServicePath w (((w.leaveIsdu q).emit (.page w.port.isdu.response)).put
          (applyDirectParameterPage1 q w.port.isdu.response).1) := by
      intro q hq hdone hmatches herror
      apply (ServicePath.one (ServiceStep.collectPage hdone hmatches herror)).retune
      have hinfo : (applyDirectParameterPage1 q w.port.isdu.response).1.deviceInfo
          = (applyDirectParameterPage1 w.port w.port.isdu.response).1.deviceInfo := by
        apply applyDirectParameterPage1_congr (p := w.port) hq.deviceInfo
      rw [applyDirectParameterPage1_eq q]
      exact ⟨hq.block, hq.config, hq.state, hq.odLen, hq.pdOutLen, hq.step, hq.retries, hinfo,
        hq.isdu, hq.event, hq.rx, hq.deadline, hq.awaiting, hq.rxOdExpected, hq.cycleCount,
        hq.phy, hq.pdOut, hq.pdIn⟩
    revert h hzero
    generalize readIsdu w IDX_DIRECT_PARAMETERS_1 0 (UInt8.ofNat DPP1_LEN) = r
    rintro (⟨_, hret⟩ | _ | _ | ⟨hdone, hmatches, herror⟩ | _) hzero
    · contradiction
    · exact absurd (by decide : ISDU_ERR_DEVICE ≠ 0) hzero
    · exact absurd (by decide : ISDU_ERR_BUFFER_TOO_SMALL ≠ 0) hzero
    · split
      · apply hcollect _ (similar_serviceResult _ _) hdone hmatches herror
      · apply hcollect _ (similar_serviceResult _ _) hdone hmatches herror
    · exact absurd (by decide : STATUS_PENDING ≠ 0) hzero

/-! ### Readback verification -/

theorem verifyOutcome_path (w : World) (ok : Bool) :
  ServicePath w (verifyOutcome w ok).1
  := ServicePath.latch .refl _

theorem verifyIsdu_path (w : World) (index : UInt16) (subindex : UInt8)
    (expected : List UInt8) :
  ServicePath w (verifyIsdu w index subindex expected).1
  := by
  have hread := readIsdu_path w index subindex 255
  simp only [verifyIsdu]
  split
  · apply hread
  · apply hread.trans (verifyOutcome_path _ _)

theorem verifyDataStorage_path (w : World) (expected : List UInt8) :
  ServicePath w (verifyDataStorage w expected).1
  := by
  have hread := readIsdu_path w IDX_DATA_STORAGE 0 255
  simp only [verifyDataStorage]
  split
  · apply hread
  · split
    · apply hread.trans (verifyOutcome_path _ _)
    · apply hread.trans (verifyOutcome_path _ _)

/-! ### Parameter blocks -/

/-- The parameter block decides nothing. -/
theorem similar_block (p : PortState) {b : BlockState} (h : p.block.Fits → b.Fits) :
  Similar p { p with block := b }
  := ⟨h, rfl, rfl, rfl, rfl, rfl, rfl, rfl, rfl, rfl, rfl, rfl, rfl, rfl, rfl, rfl, rfl,
    rfl, rfl, rfl⟩

theorem blockStep_path {w : World} {step next : BlockStep} {call rest : World → World × Int}
    (hcall : ∀ w, ServicePath w (call w).1) (hrest : ∀ w, ServicePath w (rest w).1) :
  ServicePath w (blockStep w step next call rest).1
  := by
  simp only [blockStep]
  split
  · split
    · apply hcall
    · have hfits : (call w).1.port.block.Fits →
          { (call w).1.port.block with step := next }.Fits := id
      apply ((hcall w).retune (similar_block _ hfits)).trans (hrest _)
  · apply hrest

theorem blockVerify_path (w : World) :
  ServicePath w (blockVerify w).1
  := by
  have hverify : ∀ r : World × Int, ServicePath w r.1 → ServicePath w
      (let w := if r.2 = STATUS_OK ∨ r.2 < 0 then
          r.1.put { r.1.port with block := BlockState.zero }
        else r.1
      w.put (serviceResult w.port r.2)) := by
    intro r hr
    apply ServicePath.latch
    split
    · apply hr.retune (similar_block _ fun _ => Nat.zero_le _)
    · apply hr
  simp only [blockVerify]
  apply hverify
  split
  · apply verifyDataStorage_path
  · apply verifyIsdu_path

theorem writeParameterBlock_path (w : World) (index : UInt16) (subindex : UInt8)
    (data : List UInt8) :
  ServicePath w (writeParameterBlock w index subindex data).1
  := by
  have hsteps : ∀ w, ServicePath w
      (blockStep w .beginDownload .write
        (fun w => writeSystemCommand w CMD_PARAM_DOWNLOAD_START) fun w =>
      blockStep w .write .endDownload
        (fun w => writeIsdu w w.port.block.index w.port.block.subindex w.port.block.data) fun w =>
      blockStep w .endDownload .verify
        (fun w => writeSystemCommand w CMD_PARAM_DOWNLOAD_END) blockVerify).1 := by
    intro w
    apply blockStep_path
    · intro w
      apply writeIsdu_path
    · intro w
      apply blockStep_path
      · intro w
        apply writeIsdu_path
      · intro w
        apply blockStep_path
        · intro w
          apply writeIsdu_path
        · apply blockVerify_path
  simp only [writeParameterBlock]
  split
  · apply ReflTransGen.refl
  · next hlen =>
    split
    · apply ServicePath.latch .refl
    · split
      · apply (ServicePath.tune (similar_block _ fun _ => not_lt.mp hlen)).trans (hsteps _)
      · apply hsteps

/-! ### Event services -/

/-- A result other than success, and every result of another call, decides nothing. -/
theorem neutral_returned {call : Service} {ret : Int}
    (h : call.eventRequest = none ∧ call.stages = false ∨ ret ≠ STATUS_OK) :
  (Obs.returned call ret).neutral = true
  := by
  simp only [Obs.neutral, Bool.or_eq_true, Bool.and_eq_true, Bool.not_eq_true',
    Option.isNone_iff_eq_none, bne_iff_ne]
  apply h

theorem eventService_path (w : World) (call : Service) {request : EventReq}
    (hrequest : request ≠ .none) (hstages : call.stages = false) {consume : World → World}
    (hpath : ServicePath w (consume w)) (hevent : (consume w).port.event = w.port.event) :
  ServicePath w
    ((eventService w request consume).1.emit
      (.returned call (eventService w request consume).2))
  := by
  simp only [eventService]
  by_cases hstate : acyclicAvailable w.port.state = true
  · by_cases hphase : w.port.event.phase = .none
    · by_cases hcomplete : eventComplete w.port.event = true
      · simp only [hstate, hphase, hcomplete, Bool.not_true, Bool.false_eq_true, if_false,
          ne_eq, not_true_eq_false]
        apply hpath.tail
        rw [← hevent]
        apply ServiceStep.consumeEvent call
        · rw [hevent, hphase]
        · rw [hevent]
          intro hnone
          simp [eventComplete, hnone] at hcomplete
        · apply hstages
      · simp only [hstate, hphase, hcomplete, Bool.not_true, Bool.not_false, Bool.false_eq_true,
          if_false, if_true, ne_eq, not_true_eq_false]
        apply (ServicePath.one (ServiceStep.startEvent request hstate hphase hrequest)).tail
        apply ServiceStep.note (neutral_returned (.inr (by decide)))
    · simp only [hstate, Bool.not_true, Bool.false_eq_true, if_false, if_pos hphase]
      apply ServicePath.note (neutral_returned (.inr (by decide)))
  · simp only [hstate, Bool.not_false, if_true]
    apply ServicePath.note (neutral_returned (.inr (by decide)))

/-- The last reported events decide nothing. -/
theorem similar_lastEvent (p : PortState) (count : Nat) (code : UInt16) :
  Similar p { p with diagnostics := { p.diagnostics with
    lastEventCount := count, lastEventCode := code } }
  := ⟨id, rfl, rfl, rfl, rfl, rfl, rfl, rfl, rfl, rfl, rfl, rfl, rfl, rfl, rfl, rfl, rfl,
    rfl, rfl, rfl⟩

theorem readEventCode_path (w : World) :
  ServicePath w (runService w .readEventCode)
  := by
  simp only [runService, serviceBody, readEventCode]
  apply eventService_path _ _ (by decide) rfl
  · apply ServicePath.tune
    split
    · apply similar_lastEvent
    · apply similar_lastEvent w.port w.port.diagnostics.lastEventCount
  · rfl

theorem ackEvent_path (w : World) :
  ServicePath w (runService w .ackEvent)
  := by
  simp only [runService, serviceBody, ackEvent]
  apply eventService_path _ _ (by decide) rfl
  · apply ServicePath.tune
    apply similar_lastEvent w.port w.port.diagnostics.lastEventCount
  · rfl

/-- Delivering events to the handler only leaves observations. -/
theorem deliver_path (events : List Event) (w : World) :
  ServicePath w (events.foldl (fun w e => w.emit (.event e)) w) ∧
    (events.foldl (fun w e => w.emit (.event e)) w).port = w.port
  := by
  induction events generalizing w with
  | nil => exact ⟨.refl, rfl⟩
  | cons e events ih =>
      obtain ⟨hpath, hport⟩ := ih (w.emit (.event e))
      constructor
      · apply ReflTransGen.head _ hpath
        apply ServiceStep.note rfl
      · apply hport

theorem readEventDetails_path (w : World) (maxEvents : Nat) :
  ServicePath w (runService w (.readEventDetails maxEvents))
  := by
  simp only [runService, serviceBody, readEventDetails]
  apply eventService_path _ _ (by decide) rfl
  · split
    · apply (ServicePath.tune _).trans (deliver_path _ _).1
      apply similar_lastEvent
    · apply ServicePath.tune
      apply similar_lastEvent
  · split
    · rw [(deliver_path _ _).2]
      rfl
    · rfl

/-! ### Every service call -/

theorem setPdOut_path (w : World) (data : List UInt8) :
  ServicePath w (runService w (.setPdOut data))
  := by
  have hsmall : ERR_BUFFER_TOO_SMALL ≠ STATUS_OK := by decide
  simp only [runService, serviceBody, setPdOut]
  split
  · apply ServicePath.note (neutral_returned (.inr hsmall))
  · next h =>
    apply ReflTransGen.single
    apply ServiceStep.setPdOut
    apply not_not.mp
    intro hlen
    apply h (.inr hlen)

/-- The body of a call that asks for no event service and stages nothing is a sequence of
service steps. -/
theorem serviceBody_path (w : World) (call : Service) (h : call.eventRequest = none)
    (hstages : call.stages = false) :
  ServicePath w (serviceBody w call).1
  := by
  cases call with
  | readIsdu index subindex cap => apply readIsdu_path
  | writeIsdu index subindex data => apply writeIsdu_path
  | readDeviceInfo => apply readDeviceInfo_path
  | readDataStorage cap => apply readIsdu_path
  | writeDataStorage data => apply writeIsdu_path
  | restoreDataStorage data => apply writeParameterBlock_path
  | verifyDataStorage expected => apply verifyDataStorage_path
  | verifyIsdu index subindex expected => apply verifyIsdu_path
  | readDetailedDeviceStatus cap => apply readIsdu_path
  | readEventCode | ackEvent | readEventDetails maxEvents => contradiction
  | beginParameterDownload => apply writeIsdu_path
  | endParameterDownload => apply writeIsdu_path
  | beginParameterUpload => apply writeIsdu_path
  | endParameterUpload => apply writeIsdu_path
  | storeParameterDownload => apply writeIsdu_path
  | writeParameterBlock index subindex data => apply writeParameterBlock_path
  | setPdOut data => contradiction

/-- A service call is a sequence of service steps. -/
theorem runService_path (w : World) (call : Service) :
  ServicePath w (runService w call)
  := by
  cases h : call.eventRequest with
  | none =>
      cases hstages : call.stages with
      | false =>
          apply (serviceBody_path w call h hstages).tail
          apply ServiceStep.note (neutral_returned (.inl ⟨h, hstages⟩))
      | true =>
          cases call with
          | setPdOut data => apply setPdOut_path
          | _ => contradiction
  | some request =>
      cases call with
      | readEventCode => apply readEventCode_path
      | ackEvent => apply ackEvent_path
      | readEventDetails maxEvents => apply readEventDetails_path
      | _ => contradiction

/-- The service calls of `event_pending_handler` are a sequence of service steps. -/
theorem runServices_path (w : World) (calls : List Service) :
  ServicePath w (calls.foldl runService w)
  := by
  induction calls generalizing w with
  | nil => apply ReflTransGen.refl
  | cons call calls ih => apply (runService_path w call).trans (ih _)

/-! ### What services leave alone -/

/-- The fields and observations no service touches. -/
structure Untouched (w v : World) : Prop where
  config : v.port.config = w.port.config
  state : v.port.state = w.port.state
  odLen : v.port.odLen = w.port.odLen
  step : v.port.startup.step = w.port.startup.step
  retries : v.port.diagnostics.rxRetryCount = w.port.diagnostics.rxRetryCount
  rx : v.port.rx = w.port.rx
  deadline : v.port.responseDeadline100us = w.port.responseDeadline100us
  awaiting : v.port.awaitingResponse = w.port.awaitingResponse
  rxOdExpected : v.port.rxOdExpected = w.port.rxOdExpected
  cycleCount : v.port.cycleCount = w.port.cycleCount
  phy : v.port.phy = w.port.phy
  pdIn : v.port.pdIn = w.port.pdIn ∧ v.port.pdInLen = w.port.pdInLen ∧
    v.port.pdValid = w.port.pdValid
  slotOpen : slotOpen v.log = slotOpen w.log
  viewed : viewed v.log = viewed w.log

theorem untouched_of_step {w v : World} (h : ServiceStep w v) :
  Untouched w v
  := by
  have hopen : slotOpen v.log = slotOpen w.log := by
    apply unaffected_by_service _ h
    intro o l ho
    cases o <;> first | rfl | contradiction
  have hviewed : viewed v.log = viewed w.log := by
    apply unaffected_by_service _ h
    intro o l ho
    cases o <;> first | rfl | contradiction
  cases h with
  | tune h =>
      exact ⟨h.config, h.state, h.odLen, h.step, h.retries, h.rx, h.deadline, h.awaiting,
        h.rxOdExpected, h.cycleCount, h.phy, h.pdIn, hopen, hviewed⟩
  | _ =>
      exact ⟨rfl, rfl, rfl, rfl, rfl, rfl, rfl, rfl, rfl, rfl, rfl, ⟨rfl, rfl, rfl⟩, hopen, hviewed⟩

/-- No service call touches these fields and observations. -/
theorem untouched_of_path {w v : World} (h : ServicePath w v) :
  Untouched w v
  := by
  induction h with
  | refl =>
      exact ⟨rfl, rfl, rfl, rfl, rfl, rfl, rfl, rfl, rfl, rfl, rfl, ⟨rfl, rfl, rfl⟩, rfl, rfl⟩
  | tail _ hstep ih =>
      have hlast := untouched_of_step hstep
      exact ⟨hlast.config.trans ih.config, hlast.state.trans ih.state,
        hlast.odLen.trans ih.odLen, hlast.step.trans ih.step, hlast.retries.trans ih.retries,
        hlast.rx.trans ih.rx, hlast.deadline.trans ih.deadline, hlast.awaiting.trans ih.awaiting,
        hlast.rxOdExpected.trans ih.rxOdExpected, hlast.cycleCount.trans ih.cycleCount,
        hlast.phy.trans ih.phy, ⟨hlast.pdIn.1.trans ih.pdIn.1, hlast.pdIn.2.1.trans ih.pdIn.2.1,
          hlast.pdIn.2.2.trans ih.pdIn.2.2⟩,
        hlast.slotOpen.trans ih.slotOpen, hlast.viewed.trans ih.viewed⟩

end IolinkMaster
