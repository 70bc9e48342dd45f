import IolinkMaster.Comlost
import IolinkMaster.Conclusion

/-!
# Services across a communication loss

A restart of communication touches no acyclic service.  Whatever was in progress goes on in
the next connection where it stopped in the last one, and the call that polls it first is
told to wait.
-/

namespace IolinkMaster

/-! ### A clean restart -/

/-- The address of a read of the diagnosis channel. -/
def diagnosisRead (frame : List UInt8) : Option UInt8 :=
  let mc := frame.getD 0 0
  if mcChannel mc = .diagnosis ∧ mcIsRead mc = true then some (mcAddress mc) else none

/-- A frame that starts an acyclic service: the first request octets of an ISDU service, or
the read of the StatusCode. -/
def startsService (frame : List UInt8) : Bool :=
  isRequestStart frame || diagnosisRead frame == some 0

/-- A frame that goes on with an acyclic service: one with a COUNT, or a read further up in
the event memory. -/
def continuesService (frame : List UInt8) : Bool :=
  (isduAccess frame).any (fun access => decide (access.2 ≤ FLOWCTRL_COUNT_MASK)) ||
    (diagnosisRead frame).any (fun addr => addr != 0)

/-- A frame that goes on with a service goes out after one that starts a service. -/
def StartedBefore (log : List Obs) (o : Obs) : Prop :=
  o.frame.any continuesService = true → log.any (fun o => o.frame.any startsService) = true

/-- The octets of a response are handed out. -/
def Obs.handsOut : Obs → Bool
  | .isduLeft s => s.done && s.error == ISDU_ERROR_NONE
  | _ => false

/-- An ISDU service starts. -/
def Obs.startsIsdu : Obs → Bool
  | .isduStart _ _ _ _ _ => true
  | _ => false

/-- A response handed out is that of a service started before. -/
def RespondedAfresh (log : List Obs) (o : Obs) : Prop :=
  o.handsOut = true → log.any Obs.startsIsdu = true

/-- The event memory is evaluated. -/
def Obs.takesEvents : Obs → Bool
  | .eventTaken _ => true
  | _ => false

/-- An event memory evaluated is that of a readout started before. -/
def ReadOutAfresh (log : List Obs) (o : Obs) : Prop :=
  o.takesEvents = true → .eventStart ∈ log

instance (log : List Obs) : DecidablePred (StartedBefore log) := fun _ =>
  inferInstanceAs (Decidable (_ → _))

instance (log : List Obs) : DecidablePred (RespondedAfresh log) := fun _ =>
  inferInstanceAs (Decidable (_ → _))

/-- A transfer of a parameter block is in progress.  One whose write is refused for its
length has failed, although its step stays latched. -/
def BlockState.InProgress (b : BlockState) : Prop :=
  b.step ≠ .none ∧
    ¬ (b.step = .write ∧ isduWriteTooLong b.index b.subindex b.data.length = true)

/-- An acyclic service is in progress: an ISDU service, an event readout or the transfer of a
parameter block. -/
def InProgress (p : PortState) : Prop :=
  isduBusy p.isdu = true ∨ p.event.phase ≠ .none ∨ p.block.InProgress

/-- The ISDU service a call asks for. -/
def Service.isduRequest : Service → Option (IsduOp × UInt16 × UInt8)
  | .readIsdu index subindex _ | .verifyIsdu index subindex _ => some (.read, index, subindex)
  | .writeIsdu index subindex _ => some (.write, index, subindex)
  | .readDeviceInfo => some (.read, IDX_DIRECT_PARAMETERS_1, 0)
  | .readDataStorage _ | .verifyDataStorage _ => some (.read, IDX_DATA_STORAGE, 0)
  | .writeDataStorage _ => some (.write, IDX_DATA_STORAGE, 0)
  | .readDetailedDeviceStatus _ => some (.read, IDX_DETAILED_DEVICE_STATUS, 0)
  | .beginParameterDownload | .endParameterDownload | .beginParameterUpload
  | .endParameterUpload | .storeParameterDownload => some (.write, IDX_SYSTEM_COMMAND, 0)
  | _ => none

/-- The transfer of a parameter block a call asks for. -/
def Service.blockRequest : Service → Option (UInt16 × UInt8 × List UInt8)
  | .writeParameterBlock index subindex data => some (index, subindex, data)
  | .restoreDataStorage data => some (IDX_DATA_STORAGE, 0, data)
  | _ => none

/-- A call polls a service that is in progress on the port `p`. -/
def Polls (p : PortState) (call : Service) : Prop :=
  isduBusy p.isdu = true ∧
      call.isduRequest = some (p.isdu.op, p.isdu.index, p.isdu.subindex) ∨
    p.event.phase ≠ .none ∧ call.eventRequest = some p.event.request ∨
    p.block.InProgress ∧ call.blockRequest = some (p.block.index, p.block.subindex, p.block.data)

/-- The service calls that a call, or the event handler during it, can make. -/
def Call.services (env : Env) : Call → List Service
  | .service call => [call]
  | .onRx _ handler => handler
  | _ => env.recv.flatMap Prod.snd

/-- The calls `calls` lead from `v` to further observations `since` of the same connection. -/
structure Continues (K : Iolinki) (v : World) (calls : List (Env × Call)) (since : List Obs) :
    Prop where
  uninitialized : ∀ c ∈ calls, c.2.initializes = false
  log : (run K v calls).log = since ++ v.log
  connected : .enter .startup ∉ since

/-- No acyclic service leaks into the connection that starts in the world `v`: its frames start
services before they go on with one, it hands out no octet collected before, and whoever polls
an interrupted service first is told that it has failed. -/
structure CleanRestart (K : Iolinki) (v : World) : Prop where
  started : ∀ {calls since}, Continues K v calls since → Trace.Always StartedBefore since
  response : ∀ {calls since}, Continues K v calls since → isduBusy v.port.isdu = true →
    v.port.isdu.response ≠ [] → Trace.Always RespondedAfresh since
  memory : ∀ {calls since}, Continues K v calls since → v.port.event.phase ≠ .none →
    v.port.event.len ≠ 0 → Trace.Always ReadOutAfresh since
  failed : ∀ {calls since call}, Continues K v calls since →
    (∀ c ∈ calls, ∀ earlier ∈ c.2.services c.1, ¬ Polls v.port earlier) →
    acyclicAvailable (run K v calls).port.state = true → Polls v.port call →
    (serviceBody (run K v calls) call).2 < 0

/-! ### Ports that can resume a service -/

/-- What a port keeps that makes the interrupted services resume. -/
structure Resumable (phy : PhyApi) (p : PortState) : Prop where
  phy : p.phy = phy
  step : p.state = .startup → p.startup.step ≠ .awaitOperateAck
  request : p.event.phase ≠ .none → p.event.request ≠ .none
  fits : p.block.Fits

section

variable {K : Iolinki} {phy : PhyApi} {w v : World}

theorem resumable_service (hstep : ServiceStep w v) (h : Resumable phy w.port) :
  Resumable phy v.port
  := by
  have hsame := untouched_of_step hstep
  have hstartup : v.port.state = .startup → v.port.startup.step ≠ .awaitOperateAck := by
    rw [hsame.state, hsame.step]
    apply h.step
  have hphy := hsame.phy.trans h.phy
  cases hstep with
  | tune hp =>
      refine ⟨hphy, hstartup, ?_, hp.block h.fits⟩
      rw [World.put_port, hp.event]
      apply h.request
  | startEvent request hstate hphase hrequest => exact ⟨hphy, hstartup, fun _ => hrequest, h.fits⟩
  | consumeEvent call hphase =>
      exact ⟨hphy, hstartup, fun hne => absurd hphase hne, h.fits⟩
  | _ => exact ⟨hphy, hstartup, h.request, h.fits⟩

theorem resumable_control (hstep : ControlStep w v) (h : Resumable phy w.port) :
  Resumable phy v.port
  := by
  cases hstep with
  | service hstep => apply resumable_service hstep h
  | fail =>
      refine ⟨h.phy, ?_, h.request, h.fits⟩
      intro hstate
      contradiction

/-- The on-request data of a readout does not change what it is for. -/
theorem eventOnOd_request (e : EventState) (od : List UInt8) :
  (eventOnOd e od).request = e.request
  := by
  have hfold : ∀ e : EventState, (od.foldl eventOnOctet e).request = e.request := by
    induction od with
    | nil =>
        intro e
        rfl
    | cons byte od ih =>
        intro e
        rw [List.foldl_cons, ih]
        simp only [eventOnOctet]
        split <;> split <;> rfl
  simp only [eventOnOd]
  split
  · rfl
  · split
    · split
      · apply hfold
      · apply hfold
    · apply hfold

theorem resumable_routeOd (od : List UInt8) (h : Resumable phy w.port) :
  Resumable phy (routeOd w od).port
  := by
  rcases routeOd_cases w od with ⟨hphase, -, heq⟩ | ⟨-, heq⟩ | ⟨-, heq⟩
  · rw [heq]
    refine ⟨h.phy, h.step, fun _ => ?_, h.fits⟩
    change (eventOnOd _ od).request ≠ .none
    rw [eventOnOd_request]
    apply h.request
    simp [hphase]
  · rw [heq]
    apply h
  · rw [heq]
    exact ⟨h.phy, h.step, h.request, h.fits⟩

theorem resumable_judge {data : List UInt8} (hstep : JudgeStep K data w v)
    (h : Resumable phy w.port) :
  Resumable phy v.port
  := by
  cases hstep with
  | unframed | rejectTest => apply h
  | rejectRetry => exact ⟨h.phy, h.step, h.request, h.fits⟩
  | rejectLost => exact ⟨h.phy, fun _ h => by contradiction, h.request, h.fits⟩
  | acceptTest | acceptAck => exact ⟨h.phy, fun h => by contradiction, h.request, h.fits⟩
  | @accept u pdIn pdInLen pdValid hstate hack hwidth hcks hhandler hpd =>
      have haccepted : Resumable phy (accepted w data).port :=
        ⟨h.phy, h.step, h.request, h.fits⟩
      have hu : Resumable phy u.port :=
        hhandler.keeps (I := fun u => Resumable phy u.port) (fun _ _ => resumable_service)
          haccepted
      have hrouted := resumable_routeOd (data.take (odWidth w.port)) hu
      exact ⟨hrouted.phy, hrouted.step, hrouted.request, hrouted.fits⟩

theorem resumable_receive {judged : World → List UInt8 → Prop}
    (hstep : ReceiveStep K judged w v) (h : Resumable phy w.port) :
  Resumable phy v.port
  := by
  cases hstep with
  | control hstep => apply resumable_control hstep h
  | recv | clearRx => exact ⟨h.phy, h.step, h.request, h.fits⟩
  | judge data hjudged hstep => apply resumable_judge hstep h

/-- A frame does not change what a readout is for, and does not start one. -/
theorem Emission.request {p : PortState} {frame : List UInt8} {s : IsduState} {e : EventState}
    {step : StartupStep} (hemit : Emission K p frame s e step)
    (h : p.event.phase ≠ .none → p.event.request ≠ .none) :
  e.phase ≠ .none → e.request ≠ .none
  := by
  cases hemit with
  | writeEvent addr haccess =>
      intro hphase
      rw [eventOnWritten] at hphase ⊢
      split at hphase
      · contradiction
      · next hne =>
        rw [if_neg hne]
        apply h hphase
  | _ => apply h

theorem resumable_slot {ready : World → Prop} (hstep : SlotStep K ready w v)
    (h : Resumable phy w.port) :
  Resumable phy v.port
  := by
  cases hstep with
  | control hstep => apply resumable_control hstep h
  | @send frame s e step hstate hopen hemit =>
      refine ⟨h.phy, fun hs => ?_, hemit.request h.request, h.fits⟩
      change w.port.state = .startup at hs
      rw [hs] at hstate
      contradiction
  | sendFailed sent e' hstate hopen hemit hview hevent =>
      refine ⟨h.phy, fun hs => by contradiction, ?_, h.fits⟩
      change e'.phase ≠ .none → e'.request ≠ .none
      intro hphase
      rw [hevent, eventOnWritten] at hphase ⊢
      split at hphase
      · contradiction
      · next hne =>
        rw [if_neg hne]
        apply h.request hphase
  | restep step hstate hstep => exact ⟨h.phy, fun _ => hstep.2, h.request, h.fits⟩
  | wake | test => exact ⟨h.phy, fun _ h => by contradiction, h.request, h.fits⟩
  | startupFailed => exact ⟨h.phy, fun h => by contradiction, h.request, h.fits⟩
  | slot | callWakeUp | count | arm => exact ⟨h.phy, h.step, h.request, h.fits⟩

theorem resumable_timeout {due : World → Bool → Bool → Prop} (hstep : TimeoutStep due w v)
    (h : Resumable phy w.port) :
  Resumable phy v.port
  := by
  cases hstep with
  | control hstep => apply resumable_control hstep h
  | broken => exact ⟨h.phy, fun h => by contradiction, h.request, h.fits⟩
  | lost => exact ⟨h.phy, fun _ h => by contradiction, h.request, h.fits⟩
  | restep step hstate hstep => exact ⟨h.phy, fun _ => hstep.2, h.request, h.fits⟩
  | clearRx | ignored | count => exact ⟨h.phy, h.step, h.request, h.fits⟩

end

theorem resumable_zeroPort (phy : PhyApi) (config : Config) :
  Resumable phy (zeroPort phy config)
  := by
  refine ⟨rfl, fun _ h => by contradiction, fun h => absurd rfl h, ?_⟩
  apply Nat.zero_le

/-- Every reachable port can resume its services. -/
theorem reachable_resumable {K : Iolinki} (hK : K.Lawful) {phy : PhyApi} {config : Config}
    {allowed : Env → World → Call → Prop} {w : World} (hw : Reach K allowed phy config w) :
  Resumable phy w.port
  := by
  have hkept : Kept K (fun _ _ => True) (fun _ => True) (fun _ _ _ => True) (fun _ => True)
      (fun w => Resumable phy w.port) := by
    constructor
    · intro _ _ _ _
      trivial
    · intro w v hstep h _
      apply resumable_control hstep h
    · intro w v hstep h _
      apply resumable_receive hstep h
    · intro w v hstep h _
      apply resumable_slot hstep h
    · intro w v hstep h _
      apply resumable_timeout hstep h
  apply hkept.reachCalls hK _ _ _ hw trivial
  · intro _ _
    apply resumable_zeroPort
  · intro w now h
    apply h
  · intro w mode h
    rw [renewed, h.phy]
    apply resumable_zeroPort

/-! ### The next connection -/

/-- The world `u` is reached from `v` in the same connection, and the services are what they
were. -/
structure Carried (v u : World) : Prop where
  isdu : u.port.isdu = v.port.isdu
  event : u.port.event = v.port.event
  block : u.port.block = v.port.block
  phy : u.port.phy = v.port.phy
  since : ∃ os, u.log = os ++ v.log ∧ .enter .startup ∉ os

section

variable {K : Iolinki} {u v w : World}

theorem Carried.trans (h : Carried u w) (h' : Carried w v) :
  Carried u v
  := by
  obtain ⟨os, hlog, hos⟩ := h.since
  obtain ⟨os', hlog', hos'⟩ := h'.since
  refine ⟨h'.isdu.trans h.isdu, h'.event.trans h.event, h'.block.trans h.block,
    h'.phy.trans h.phy, os' ++ os, ?_, ?_⟩
  · rw [hlog', hlog, List.append_assoc]
  · rw [List.mem_append]
    rintro (hmem | hmem)
    · apply hos' hmem
    · apply hos hmem

/-- The step of the startup micro-sequence that follows a slot. -/
def nextStep : StartupStep → StartupStep
  | .wake | .inactive => .sendType0
  | .sendType0 => .awaitResponse
  | step => step

/-- A wake-up leads to the test message. -/
theorem processWake_carried (hstate : v.port.state = .startup) :
  Carried v (processWake (.quiet []) v 0 false) ∧
    (processWake (.quiet []) v 0 false).port.state = .startup ∧
    (processWake (.quiet []) v 0 false).port.startup.step = .sendType0
  := by
  simp only [processWake, wakeUp, sendFull_transmits (Env.transmits_quiet [])]
  cases v.port.config.wakeUp with
  | true => exact ⟨⟨rfl, rfl, rfl, rfl, [_], rfl, by simp⟩, hstate, rfl⟩
  | false => exact ⟨⟨rfl, rfl, rfl, rfl, [_], rfl, by simp⟩, hstate, rfl⟩

/-- A slot of STARTUP goes on to the next step of the micro-sequence. -/
theorem process_carried (hK : K.Lawful) (hstate : v.port.state = .startup)
    (hsend : v.port.phy.send = true) :
  Carried v (runCall K (.quiet []) v .process) ∧
    (runCall K (.quiet []) v .process).port.state = .startup ∧
    (runCall K (.quiet []) v .process).port.startup.step = nextStep v.port.startup.step
  := by
  have hprocess : runCall K (.quiet []) v .process = processStartup K (.quiet []) v 0 false := by
    simp [runCall, processAt, sendGated, hstate, hsend]
  rw [hprocess]
  cases hstep : v.port.startup.step with
  | wake =>
      simp only [processStartup, hstep]
      apply processWake_carried hstate
  | inactive =>
      have hmode : (setMode (.quiet []) v .sdci).2 = STATUS_OK := by
        simp only [setMode]
        split <;> rfl
      have hwoken := processWake_carried
        (v := ((setMode (.quiet []) v .sdci).1.setStep .wake)) hstate
      simp only [processStartup, hstep, hmode, ne_eq, not_true_eq_false, if_false]
      refine ⟨Carried.trans ?_ hwoken.1, hwoken.2⟩
      exact ⟨rfl, rfl, rfl, rfl, [_], rfl, by simp⟩
  | sendType0 =>
      have hframe : testMessage K ≠ [] := by
        rw [testMessage, hK.encodeType0_eq]
        apply List.cons_ne_nil
      simp only [processStartup, hstep, processTest, hframe, if_false,
        sendFull_transmits (Env.transmits_quiet [])]
      exact ⟨⟨rfl, rfl, rfl, rfl, [_], rfl, by simp⟩, hstate, rfl⟩
  | awaitResponse | awaitOperateAck =>
      simp only [processStartup, hstep]
      exact ⟨⟨rfl, rfl, rfl, rfl, [], rfl, by simp⟩, hstate, rfl⟩

/-- The answer of a device to the test message. -/
def answer (K : Iolinki) : List UInt8 := [0, K.checksum6 [0, 0]]

/-- The answer to the test message opens the connection. -/
theorem answer_carried (hK : K.Lawful) (hstate : v.port.state = .startup)
    (hstep : v.port.startup.step = .awaitResponse) :
  Carried v (runCall K (.quiet []) v (.onRx (answer K) [])) ∧
    (runCall K (.quiet []) v (.onRx (answer K) [])).port.state = .preoperate
  := by
  have hok : type0ReplyOk K (answer K) = true := by
    have hmask := hK.checksum6_mask [0, 0]
    simp only [type0ReplyOk, answer, hmask, beq_iff_eq]
    revert hmask
    generalize K.checksum6 [0, 0] = c
    revert c
    apply forall_octet
    decide +kernel
  have hlen : (answer K).length = M_SEQ_TYPE0_LEN := rfl
  have hne : answer K ≠ [] := List.cons_ne_nil _ _
  simp only [runCall, onRx, hne, if_false, hstate, if_true, onRxStartup, hstep, ne_eq,
    not_true_eq_false, hlen, hok, Bool.not_true, Bool.false_eq_true]
  exact ⟨⟨rfl, rfl, rfl, rfl, [_, _], rfl, by simp⟩, rfl⟩

/-- The calls that lead a restarted port into the next connection. -/
def reconnecting (K : Iolinki) : List (Env × Call) :=
  [(.quiet [], .process), (.quiet [], .process), (.quiet [], .onRx (answer K) [])]

/-- A restarted port connects again, with all services as they were. -/
theorem reconnecting_carried (hK : K.Lawful) (hstate : v.port.state = .startup)
    (hsend : v.port.phy.send = true) (hstep : v.port.startup.step ≠ .awaitOperateAck) :
  Carried v (run K v (reconnecting K)) ∧ (run K v (reconnecting K)).port.state = .preoperate
  := by
  obtain ⟨hfirst, hstate₁, hstep₁⟩ := process_carried hK hstate hsend
  obtain ⟨hsecond, hstate₂, hstep₂⟩ :=
    process_carried hK hstate₁ (by rw [hfirst.phy, hsend])
  have hawait : (runCall K (.quiet []) (runCall K (.quiet []) v .process) .process).port.startup.step
      = .awaitResponse := by
    rw [hstep₂, hstep₁]
    cases hs : v.port.startup.step with
    | awaitOperateAck => exact absurd hs hstep
    | _ => rfl
  obtain ⟨hthird, hstate₃⟩ := answer_carried hK hstate₂ hawait
  rw [reconnecting, run_cons, run_cons, run_cons, run_nil]
  exact ⟨(hfirst.trans hsecond).trans hthird, hstate₃⟩

/-! ### The first poll -/

/-- A write that can start is told to wait. -/
theorem writeIsdu_starts (havail : acyclicAvailable w.port.state = true)
    (hbusy : isduBusy w.port.isdu = false) (hdone : w.port.isdu.done = false) {index : UInt16}
    {subindex : UInt8} {data : List UInt8}
    (hlen : isduWriteTooLong index subindex data.length = false) :
  (writeIsdu w index subindex data).2 = STATUS_PENDING
  := by
  simp only [writeIsdu, writeIsduBody, havail, hbusy, hdone, hlen, Bool.not_true,
    Bool.false_eq_true, if_false]

/-- A read that can start is told to wait. -/
theorem readIsdu_starts (havail : acyclicAvailable w.port.state = true)
    (hbusy : isduBusy w.port.isdu = false) (hdone : w.port.isdu.done = false) (index : UInt16)
    (subindex cap : UInt8) :
  (readIsdu w index subindex cap).2.ret = STATUS_PENDING
  := by
  simp only [readIsdu, havail, hbusy, hdone, Bool.not_true, Bool.false_eq_true, if_false]

/-- A readback that can start is told to wait. -/
theorem blockVerify_starts (havail : acyclicAvailable w.port.state = true)
    (hbusy : isduBusy w.port.isdu = false) (hdone : w.port.isdu.done = false) :
  (blockVerify w).2 = STATUS_PENDING
  := by
  have hread := readIsdu_starts havail hbusy hdone
  have hwait : STATUS_PENDING ≠ STATUS_OK := by decide
  simp only [blockVerify, verifyDataStorage, verifyIsdu, hread, if_pos hwait]
  split <;> rfl

/-- The transfer of a parameter block goes on with its next ISDU service. -/
theorem writeParameterBlock_continues (havail : acyclicAvailable w.port.state = true)
    (hbusy : isduBusy w.port.isdu = false) (hdone : w.port.isdu.done = false)
    (hblock : w.port.block.InProgress) (hfits : w.port.block.Fits) :
  (writeParameterBlock w w.port.block.index w.port.block.subindex w.port.block.data).2
    = STATUS_PENDING
  := by
  obtain ⟨hstep, hshort⟩ := hblock
  have hmatches : blockMatches w.port.block w.port.block.index w.port.block.subindex
      w.port.block.data = true := by
    simp [blockMatches]
  have hcommand : ∀ command, (writeSystemCommand w command).2 = STATUS_PENDING := by
    intro command
    exact writeIsdu_starts havail hbusy hdone rfl
  have hwait : STATUS_PENDING ≠ STATUS_OK := by decide
  simp only [writeParameterBlock, hmatches, hstep, Bool.not_true, Bool.and_false,
    Bool.false_eq_true, if_false]
  rw [if_neg (by rw [BlockState.Fits] at hfits; omega)]
  cases hs : w.port.block.step with
  | none => contradiction
  | beginDownload =>
      simp only [blockStep, hs, if_true, hcommand, if_pos hwait]
  | write =>
      have hlen : isduWriteTooLong w.port.block.index w.port.block.subindex
          w.port.block.data.length = false := by
        rw [Bool.eq_false_iff]
        intro hlong
        apply hshort ⟨hs, hlong⟩
      simp [blockStep, hs, writeIsdu_starts havail hbusy hdone hlen, hwait]
  | endDownload =>
      simp [blockStep, hs, hcommand, hwait]
  | verify =>
      simp [blockStep, hs, blockVerify_starts havail hbusy hdone]

/-- The readout goes on, too. -/
theorem eventService_continues (havail : acyclicAvailable w.port.state = true)
    (hphase : w.port.event.phase ≠ .none) (request : EventReq) (consume : World → World) :
  (eventService w request consume).2 = STATUS_PENDING
  := by
  simp only [eventService, havail, Bool.not_true, Bool.false_eq_true, if_false, if_pos hphase]

/-- A call for the result of the ISDU service of a port. -/
def collecting (s : IsduState) : Service :=
  if s.op = .read then .readIsdu s.index s.subindex 255 else .writeIsdu s.index s.subindex []

theorem collecting_request (h : w.port.isdu.op ≠ .none) :
  (collecting w.port.isdu).isduRequest
    = some (w.port.isdu.op, w.port.isdu.index, w.port.isdu.subindex)
  := by
  rw [collecting]
  cases hop : w.port.isdu.op with
  | none => contradiction
  | read | write => rfl

/-- A service in progress goes on. -/
theorem collecting_continues (havail : acyclicAvailable w.port.state = true)
    (hbusy : isduBusy w.port.isdu = true) :
  (serviceBody w (collecting w.port.isdu)).2 = STATUS_PENDING
  := by
  rw [collecting]
  cases hop : w.port.isdu.op with
  | none => simp [isduBusy, hop] at hbusy
  | read =>
      simp [serviceBody, readIsdu, havail, hbusy, isduMatches, hop]
  | write =>
      simp [serviceBody, writeIsdu, writeIsduBody, havail, hbusy, isduMatches, hop]

/-- The port `q` is the port `p` without its completed ISDU service. -/
structure Freed (p q : PortState) : Prop where
  op : q.isdu.op = .none
  done : q.isdu.done = false
  state : q.state = p.state
  block : q.block = p.block

/-- Giving up a completed service frees the port, whatever its outcome. -/
theorem freed_finish (p : PortState) (ret : Int) :
  Freed p (isduFinishError p) ∧
    Freed p (serviceResult { p with isdu := isduClear p.isdu } ret)
  := by
  have hresult : ∀ (q : PortState) (ret : Int),
      (serviceResult q ret).state = q.state ∧ (serviceResult q ret).block = q.block := by
    intro q ret
    simp only [serviceResult]
    split <;> exact ⟨rfl, rfl⟩
  constructor
  · constructor <;> simp [isduFinishError, isduClear, hresult]
  · constructor <;> simp [isduClear, hresult]

/-- A completed read is collected. -/
theorem readIsdu_frees (havail : acyclicAvailable w.port.state = true)
    (hdone : w.port.isdu.done = true) (hop : w.port.isdu.op = .read)
    (hshort : w.port.isdu.response.length ≤ 255) :
  ∃ p, Freed w.port p ∧
    (readIsdu w w.port.isdu.index w.port.isdu.subindex 255).1 = w.leaveIsdu p
  := by
  have hbusy : isduBusy w.port.isdu = false := by
    simp [isduBusy, hdone]
  have hmatches : isduMatches w.port.isdu .read w.port.isdu.index w.port.isdu.subindex = true := by
    simp [isduMatches, hop]
  have hcap : ¬ (255 : UInt8).toNat < w.port.isdu.response.length := by
    change ¬ 255 < w.port.isdu.response.length
    omega
  simp only [readIsdu, havail, hbusy, hdone, hmatches, isduFinishRead, hcap, Bool.not_true,
    Bool.false_eq_true, if_true, if_false]
  split
  · have hfreed := (freed_finish w.port 0).1
    exact ⟨_, hfreed, collect_cleared w hfreed.done⟩
  · have hfreed := (freed_finish w.port STATUS_OK).2
    exact ⟨_, hfreed, collect_cleared w hfreed.done⟩

/-- A completed write is collected. -/
theorem writeIsdu_frees (havail : acyclicAvailable w.port.state = true)
    (hdone : w.port.isdu.done = true) (hop : w.port.isdu.op = .write) :
  ∃ p ret, Freed w.port p ∧
    (writeIsdu w w.port.isdu.index w.port.isdu.subindex []).1
      = (w.leaveIsdu p).emit (.wrote w.port.isdu.index w.port.isdu.subindex [] ret)
  := by
  have hbusy : isduBusy w.port.isdu = false := by
    simp [isduBusy, hdone]
  have hmatches : isduMatches w.port.isdu .write w.port.isdu.index w.port.isdu.subindex = true := by
    simp [isduMatches, hop]
  simp only [writeIsdu, writeIsduBody, havail, hbusy, hdone, hmatches, isduFinishWrite,
    Bool.not_true, Bool.false_eq_true, if_true, if_false]
  split
  · have hfreed := (freed_finish w.port 0).1
    rw [collect_cleared w hfreed.done]
    exact ⟨_, _, hfreed, rfl⟩
  · have hfreed := (freed_finish w.port STATUS_OK).2
    rw [collect_cleared w hfreed.done]
    exact ⟨_, _, hfreed, rfl⟩

/-- A completed service is collected, and the port is free for the next one. -/
theorem collecting_frees (havail : acyclicAvailable w.port.state = true)
    (hdone : w.port.isdu.done = true) (hop : w.port.isdu.op ≠ .none)
    (hshort : w.port.isdu.response.length ≤ 255) :
  Freed w.port (runService w (collecting w.port.isdu)).port ∧
    ∃ os, (runService w (collecting w.port.isdu)).log = os ++ w.log ∧ .enter .startup ∉ os
  := by
  rw [collecting]
  cases hcase : w.port.isdu.op with
  | none => contradiction
  | read =>
      obtain ⟨p, hfreed, heq⟩ := readIsdu_frees havail hdone hcase hshort
      simp only [if_true, runService, serviceBody, heq]
      exact ⟨hfreed, [_, _], rfl, by simp⟩
  | write =>
      obtain ⟨p, ret, hfreed, heq⟩ := writeIsdu_frees havail hdone hcase
      simp only [reduceCtorEq, if_false, runService, serviceBody, heq]
      exact ⟨hfreed, [_, _, _], rfl, by simp⟩

/-- The readout of each kind can be polled. -/
theorem eventPoll_continues (havail : acyclicAvailable w.port.state = true)
    (hphase : w.port.event.phase ≠ .none) (hrequest : w.port.event.request ≠ .none) :
  ∃ call : Service, call.eventRequest = some w.port.event.request ∧
    (serviceBody w call).2 = STATUS_PENDING
  := by
  cases hcase : w.port.event.request with
  | none => contradiction
  | code => exact ⟨.readEventCode, rfl, eventService_continues havail hphase _ _⟩
  | details => exact ⟨.readEventDetails 0, rfl, eventService_continues havail hphase _ _⟩
  | ack => exact ⟨.ackEvent, rfl, eventService_continues havail hphase _ _⟩

end

/-! ### Services after a clean restart -/

section

variable {K : Iolinki} {v : World}

/-- A call that is told to wait is not told that the service failed. -/
theorem CleanRestart.not_waiting (h : CleanRestart K v) {calls : List (Env × Call)}
    {since : List Obs} {call : Service} (hcont : Continues K v calls since)
    (hfirst : ∀ c ∈ calls, ∀ earlier ∈ c.2.services c.1, ¬ Polls v.port earlier)
    (havail : acyclicAvailable (run K v calls).port.state = true) (hpolls : Polls v.port call) :
  (serviceBody (run K v calls) call).2 ≠ STATUS_PENDING
  := by
  intro hwait
  have hneg := h.failed hcont hfirst havail hpolls
  rw [hwait] at hneg
  contradiction

/-- No call made while reconnecting is a service call. -/
theorem reconnecting_services :
  ∀ c ∈ reconnecting K, c.2.services c.1 = [] ∧ c.2.initializes = false
  := by
  simp [reconnecting, Call.services, Env.quiet, Call.initializes]

/-- A restarted port whose ISDU service is not in progress connects again, and a completed
service is collected. -/
theorem freed_after (hK : K.Lawful) (hsound : v.port.isdu.Sound)
    (hstate : v.port.state = .startup) (hsend : v.port.phy.send = true)
    (hstep : v.port.startup.step ≠ .awaitOperateAck) (hbusy : isduBusy v.port.isdu = false) :
  ∃ calls since, Continues K v calls since ∧
    (v.port.event.phase = .none →
      ∀ c ∈ calls, ∀ earlier ∈ c.2.services c.1, ¬ Polls v.port earlier) ∧
    acyclicAvailable (run K v calls).port.state = true ∧
    (run K v calls).port.isdu.op = .none ∧ (run K v calls).port.isdu.done = false ∧
    (run K v calls).port.block = v.port.block
  := by
  obtain ⟨hcarried, hpreoperate⟩ := reconnecting_carried hK hstate hsend hstep
  obtain ⟨os, hlog, hos⟩ := hcarried.since
  have hagain : acyclicAvailable (run K v (reconnecting K)).port.state = true := by
    rw [hpreoperate]
    rfl
  cases hdone : v.port.isdu.done with
  | false =>
      refine ⟨reconnecting K, os, ⟨fun c hc => (reconnecting_services c hc).2, hlog, hos⟩,
        fun _ c hc earlier hmem => ?_, hagain, ?_, ?_, hcarried.block⟩
      · rw [(reconnecting_services c hc).1] at hmem
        contradiction
      · rw [hcarried.isdu]
        cases hop : v.port.isdu.op with
        | none => rfl
        | read | write => simp [isduBusy, hop, hdone] at hbusy
      · rw [hcarried.isdu, hdone]
  | true =>
      have hop := hsound.active hdone
      obtain ⟨hfreed, os', hlog', hos'⟩ := collecting_frees hagain (by rw [hcarried.isdu, hdone])
        (by rw [hcarried.isdu]; apply hop) (by rw [hcarried.isdu]; apply hsound.short)
      rw [hcarried.isdu] at hfreed hlog'
      refine ⟨reconnecting K ++ [(.quiet [], .service (collecting v.port.isdu))], os' ++ os,
        ⟨?_, ?_, ?_⟩, ?_, ?_⟩
      · intro c hc
        rcases List.mem_append.mp hc with hc | hc
        · apply (reconnecting_services c hc).2
        · rw [List.mem_singleton.mp hc]
          rfl
      · rw [run_append, run_cons, run_nil]
        exact hlog'.trans (by rw [hlog, List.append_assoc])
      · rw [List.mem_append]
        rintro (hmem | hmem)
        · apply hos' hmem
        · apply hos hmem
      · intro hphase c hc earlier hmem
        rcases List.mem_append.mp hc with hc | hc
        · rw [(reconnecting_services c hc).1] at hmem
          contradiction
        · rw [List.mem_singleton.mp hc] at hmem
          obtain rfl : earlier = collecting v.port.isdu := List.mem_singleton.mp hmem
          rintro (⟨h, -⟩ | ⟨h, -⟩ | ⟨-, h⟩)
          · rw [hbusy] at h
            contradiction
          · contradiction
          · rw [collecting] at h
            split at h <;> contradiction
      · rw [run_append, run_cons, run_nil]
        refine ⟨?_, hfreed.op, hfreed.done, hfreed.block.trans hcarried.block⟩
        exact (congrArg acyclicAvailable hfreed.state).trans hagain

end

/-- Whenever communication is lost with an acyclic service in progress, the service leaks into
the next connection. -/
theorem restart_leaks {K : Iolinki} (hK : K.Lawful) {phy : PhyApi} {config : Config} {w : World}
    (hw : Reach K (fun _ _ _ => True) phy config w) (env : Env) (c : Call)
    (havail : acyclicAvailable w.port.state = true)
    (hlost : (runCall K env w c).port.state = .startup)
    (hprogress : InProgress (runCall K env w c).port) :
  ¬ CleanRestart K (runCall K env w c)
  := by
  have hv := Reach.call env c hw trivial
  have hsend : (runCall K env w c).port.phy.send = true := by
    rw [(reachable_resumable hK hv).phy, ← (reachable_resumable hK hw).phy]
    apply (reachable_port hK hw).2 (.inl havail)
  have hresumable := reachable_resumable hK hv
  have hsound := (reachable_concluded hK hv).2.sound
  generalize runCall K env w c = v at *
  intro hclean
  obtain ⟨hcarried, hstate⟩ := reconnecting_carried hK hlost hsend (hresumable.step hlost)
  obtain ⟨os, hlog, hos⟩ := hcarried.since
  have hcont : Continues K v (reconnecting K) os :=
    ⟨fun c hc => (reconnecting_services c hc).2, hlog, hos⟩
  have hquiet : ∀ c ∈ reconnecting K, ∀ earlier ∈ c.2.services c.1, ¬ Polls v.port earlier := by
    intro c hc earlier hmem
    rw [(reconnecting_services c hc).1] at hmem
    contradiction
  have hagain : acyclicAvailable (run K v (reconnecting K)).port.state = true := by
    rw [hstate]
    rfl
  by_cases hbusy : isduBusy v.port.isdu = true
  · -- The poll of the ISDU service is told to wait.
    have hop : v.port.isdu.op ≠ .none := by
      intro hop
      simp [isduBusy, hop] at hbusy
    apply hclean.not_waiting hcont hquiet hagain (.inl ⟨hbusy, collecting_request hop⟩)
    rw [← hcarried.isdu]
    apply collecting_continues hagain
    rw [hcarried.isdu]
    apply hbusy
  · rw [Bool.not_eq_true] at hbusy
    by_cases hevent : v.port.event.phase = .none
    · have hblock : v.port.block.InProgress := by
        rcases hprogress with h | h | h
        · rw [h] at hbusy
          contradiction
        · contradiction
        · apply h
      -- The transfer finds the transport free and starts its next service.
      obtain ⟨calls, since, hcont, hquiet, havail, hfreed, hdone, hsame⟩ :=
        freed_after hK hsound hlost hsend (hresumable.step hlost) hbusy
      have hidle : isduBusy (run K v calls).port.isdu = false := by
        simp [isduBusy, hfreed]
      have hpolls : Polls v.port (.writeParameterBlock v.port.block.index v.port.block.subindex
          v.port.block.data) := .inr (.inr ⟨hblock, rfl⟩)
      apply hclean.not_waiting hcont (hquiet hevent) havail hpolls
      rw [← hsame]
      apply writeParameterBlock_continues havail hidle hdone
      · rw [hsame]
        apply hblock
      · rw [hsame]
        apply hresumable.fits
    · -- The poll of the readout is told to wait.
      rw [← hcarried.event] at hevent
      obtain ⟨call, hcall, hwait⟩ := eventPoll_continues hagain hevent (by
        rw [hcarried.event] at hevent ⊢
        apply hresumable.request hevent)
      rw [hcarried.event] at hcall hevent
      apply hclean.not_waiting hcont hquiet hagain (.inr (.inl ⟨hevent, hcall⟩)) hwait

/-- A port of type 2.1 connects and reads the index 0x10; the device answers with a response
of one octet, of which the last octet is missing. -/
def readingOctet : List (Env × Call) :=
  connecting ++ [(.quiet [], .service (.readIsdu 0x10 0 16)),
    (.quiet (reply 0 []), .tickAt .cycleDue 14),
    (.quiet (reply 0 [0x00]), .tickAt .cycleDue 16),
    (.quiet (reply 0 [0x00]), .tickAt .cycleDue 18),
    (.quiet (reply 0 [0x00]), .tickAt .cycleDue 20),
    (.quiet (reply 0 [0xD3, 0x00]), .tickAt .cycleDue 22),
    (.quiet (reply 0 [0xAA, 0x00]), .tickAt .cycleDue 24)]

/-- The replies to the next two frames are corrupted, and the frame after them goes out. -/
def corrupting : List (Env × Call) :=
  [(.quiet [0, 0, 0], .tickAt .cycleDue 26), (.quiet [], .tickAt .cycleDue 27),
    (.quiet [0, 0, 0], .tickAt .cycleDue 28), (.quiet [], .tickAt .cycleDue 29)]

/-- The port with a read in progress and exhausted retries. -/
def interrupted : World :=
  run .reference (started (.quiet []) .full (.bare .type2_1 1 1)) (readingOctet ++ corrupting)

/-- A third corrupted reply ends the connection. -/
def lost : World := runCall .reference (.quiet [0, 0, 0]) interrupted (.tickAt .cycleDue 30)

/-- The port connects again, and the device answers the first frame of the new connection. -/
def splicing : List (Env × Call) :=
  [(.quiet [], .tickAt .cycleDue 32), (.quiet [], .tickAt .cycleDue 42),
    (.quiet (reply 0 [0x0A]), .tickAt .cycleDue 44), (.quiet (reply 0 [0x79]), .tickAt .cycleDue 46)]

/-- What is observed until the read is collected. -/
def spliced : List Obs :=
  let log := (run .reference lost (splicing ++ [(.quiet [], .service (.readIsdu 0x10 0 16))])).log
  log.take (log.length - lost.log.length)

theorem interrupted_reach :
  Reach .reference (fun _ _ _ => True) .full (.bare .type2_1 1 1) interrupted
  := by
  apply (Reach.start _ (by decide)).run
  decide +kernel

/-- A read that is interrupted leaks into the next connection. -/
theorem restart_leaks_reading :
  ¬ CleanRestart .reference
    (runCall .reference (.quiet [0, 0, 0]) interrupted (.tickAt .cycleDue 30))
  := by
  apply restart_leaks Iolinki.lawful_reference interrupted_reach
  · decide +kernel
  · decide +kernel
  · left
    decide +kernel

/-- The first frame of the new connection carries a COUNT; its reply completes the read, which
hands out the octet collected before the loss. -/
theorem restart_leaks_spliced :
  Reach .reference (fun _ _ _ => True) .full (.bare .type2_1 1 1) interrupted ∧
    interrupted.port.state = .operate ∧ lost.port.state = .startup ∧
    isduBusy lost.port.isdu = true ∧ lost.port.isdu.response = [0xD3, 0xAA] ∧
    ¬ Trace.Always StartedBefore spliced ∧ ¬ Trace.Always RespondedAfresh spliced ∧
    (readIsdu (run .reference lost splicing) 0x10 0 16).2 = ⟨STATUS_OK, 1, [0xAA]⟩ ∧
    ¬ CleanRestart .reference lost
  := by
  have hframe : ¬ Trace.Always StartedBefore spliced := by decide +kernel
  refine ⟨interrupted_reach, ?_, ?_, ?_, ?_, hframe, ?_, ?_, ?_⟩
  · decide +kernel
  · decide +kernel
  · decide +kernel
  · decide +kernel
  · decide +kernel
  · decide +kernel
  · intro hclean
    apply hframe
    have hcont : Continues .reference lost
        (splicing ++ [(.quiet [], .service (.readIsdu 0x10 0 16))]) spliced := by
      constructor
      · decide
      · decide +kernel
      · decide +kernel
    apply hclean.started hcont

end IolinkMaster
