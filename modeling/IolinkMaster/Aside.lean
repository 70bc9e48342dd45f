import IolinkMaster.Runs

/-!
# What leaves the Event flag and the parameter block alone

Only the judgement of an accepted reply touches the stored Event flag, and only
`write_parameter_block` touches the parameter block.  Everything else is a sequence of
steps aside of both; those steps are ordinary that do not end a cycle either.
-/

namespace IolinkMaster

open Relation

/-! ### Steps aside -/

/-- An observation that neither accepts a reply, nor calls `event_pending_handler`, nor changes
the state of the port. -/
def Obs.aside : Obs → Bool
  | .accept _ _ _ | .eventPending | .enter _ | .comlost _ _ _ _ _ => false
  | _ => true

/-- The steps that leave the stored Event flag alone and, if `fixed`, the parameter block. -/
inductive AsideStep (fixed : Prop) (w : World) : World → Prop where
  | put {p : PortState} (hconfig : p.config = w.port.config)
      (hpdOut : w.port.pdOutLen = w.port.config.pdOutLen → p.pdOutLen = w.port.config.pdOutLen)
      (hflag : p.diagnostics.eventPending = w.port.diagnostics.eventPending)
      (hblock : fixed → p.block = w.port.block) : AsideStep fixed w (w.put p)
  | emit {o : Obs} (ho : o.aside = true) : AsideStep fixed w (w.emit o)
  /-- The error state is latched. -/
  | fail : AsideStep fixed w (w.enter .error)
  /-- Communication is given up. -/
  | lost (p : PortState) : AsideStep fixed w ((w.emit (comlostObs p)).enter .startup)

/-- The statistics of the cycles. -/
structure JitterStats where
  slips : UInt32
  last : UInt32
  max : UInt32
  deriving DecidableEq, Repr

/-- The statistics of the cycles in the diagnostics. -/
def Diagnostics.jitterStats (d : Diagnostics) : JitterStats :=
  ⟨d.cycleSlips, d.lastCycleJitter100us, d.maxCycleJitter100us⟩

/-- The start of the last cycle, while the cycle timer runs. -/
def PortState.cycleStart (p : PortState) : Option UInt32 :=
  if p.cycleTimerValid then some p.lastCycleStart100us else none

/-- An observation aside that neither tells the time nor ends a cycle. -/
def Obs.ordinary : Obs → Bool
  | .tick _ | .armed _ => false
  | o => o.aside

/-- The steps aside that also leave the cycle timer and its statistics alone. -/
inductive OrdinaryStep (fixed : Prop) (w : World) : World → Prop where
  | put {p : PortState} (hconfig : p.config = w.port.config)
      (hpdOut : w.port.pdOutLen = w.port.config.pdOutLen → p.pdOutLen = w.port.config.pdOutLen)
      (hflag : p.diagnostics.eventPending = w.port.diagnostics.eventPending)
      (hblock : fixed → p.block = w.port.block)
      (hjitter : p.diagnostics.jitterStats = w.port.diagnostics.jitterStats)
      (hstart : p.cycleStart = w.port.cycleStart) : OrdinaryStep fixed w (w.put p)
  | emit {o : Obs} (ho : o.ordinary = true) : OrdinaryStep fixed w (w.emit o)
  /-- The error state is latched. -/
  | fail : OrdinaryStep fixed w (w.enter .error)
  /-- Communication is given up. -/
  | lost (p : PortState) : OrdinaryStep fixed w ((w.emit (comlostObs p)).enter .startup)

/-- An ordinary observation is one aside. -/
theorem aside_of_ordinary {o : Obs} (ho : o.ordinary = true) :
  o.aside = true
  := by
  cases o <;> first | contradiction | apply ho

/-- An ordinary step is a step aside. -/
theorem OrdinaryStep.aside {fixed : Prop} {w v : World} (h : OrdinaryStep fixed w v) :
  AsideStep fixed w v
  := by
  cases h with
  | put hconfig hpdOut hflag hblock => exact .put hconfig hpdOut hflag hblock
  | emit ho => exact .emit (aside_of_ordinary ho)
  | fail => exact .fail
  | lost p => exact .lost p

/-- The statistics of a cycle leave the Event flag alone. -/
theorem cycled_eventPending (d : Diagnostics) (slipped : Bool) (jitter : UInt32) :
  (d.cycled slipped jitter).eventPending = d.eventPending
  := by
  simp only [Diagnostics.cycled]
  split <;> split <;> rfl

/-- A sequence of steps aside. -/
abbrev AsidePath (fixed : Prop) : World → World → Prop := ReflTransGen (AsideStep fixed)

/-- A sequence of ordinary steps. -/
abbrev OrdinaryPath (fixed : Prop) : World → World → Prop := ReflTransGen (OrdinaryStep fixed)

section

variable {fixed : Prop} {K : Iolinki} {env : Env} {u w v : World}

namespace AsidePath

/-- A change of the port that touches none of what is left alone. -/
theorem put (h : AsidePath fixed u w) {p : PortState} (hconfig : p.config = w.port.config)
    (hpdOut : p.pdOutLen = w.port.pdOutLen)
    (hflag : p.diagnostics.eventPending = w.port.diagnostics.eventPending)
    (hblock : p.block = w.port.block) :
  AsidePath fixed u (w.put p)
  := h.tail (.put hconfig hpdOut.trans hflag fun _ => hblock)

/-- An observation that tells nothing of what is left alone. -/
theorem emit (h : AsidePath fixed u w) {o : Obs} (ho : o.aside = true) :
  AsidePath fixed u (w.emit o)
  := h.tail (.emit ho)

/-- What every step aside keeps, a sequence of them keeps. -/
theorem keeps {I : World → Prop} (hstep : ∀ ⦃w v : World⦄, AsideStep fixed w v → I w → I v)
    (h : AsidePath fixed w v) (hw : I w) :
  I v
  := by
  induction h with
  | refl => apply hw
  | tail _ hlast ih => apply hstep hlast ih

/-- The observations made before stay. -/
theorem suffix (h : AsidePath fixed w v) :
  w.log <:+ v.log
  := by
  apply h.keeps (I := fun u => w.log <:+ u.log) _ (List.suffix_refl _)
  intro a b hstep ha
  apply ha.trans
  cases hstep with
  | put => apply List.suffix_refl
  | emit | fail => apply List.suffix_cons
  | lost => exact (List.suffix_cons _ _).trans (List.suffix_cons _ _)

/-- The stored Event flag stays as it is. -/
theorem flag (h : AsidePath fixed w v) :
  v.port.diagnostics.eventPending = w.port.diagnostics.eventPending
  := by
  apply h.keeps (I := fun u => u.port.diagnostics.eventPending
    = w.port.diagnostics.eventPending) _ rfl
  intro a b hstep ha
  cases hstep with
  | put _ _ hflag => apply hflag.trans ha
  | emit | fail | lost => apply ha

/-- The parameter block stays as it is. -/
theorem block (h : AsidePath True w v) :
  v.port.block = w.port.block
  := by
  apply h.keeps (I := fun u => u.port.block = w.port.block) _ rfl
  intro a b hstep ha
  cases hstep with
  | put _ _ _ hblock => apply (hblock trivial).trans ha
  | emit | fail | lost => apply ha

end AsidePath

namespace OrdinaryPath

/-- A change of the port that touches none of what is left alone. -/
theorem put (h : OrdinaryPath fixed u w) {p : PortState} (hconfig : p.config = w.port.config)
    (hpdOut : p.pdOutLen = w.port.pdOutLen)
    (hflag : p.diagnostics.eventPending = w.port.diagnostics.eventPending)
    (hblock : p.block = w.port.block)
    (hjitter : p.diagnostics.jitterStats = w.port.diagnostics.jitterStats)
    (hstart : p.cycleStart = w.port.cycleStart) :
  OrdinaryPath fixed u (w.put p)
  := h.tail (.put hconfig hpdOut.trans hflag (fun _ => hblock) hjitter hstart)

/-- An observation that tells nothing of what is left alone. -/
theorem emit (h : OrdinaryPath fixed u w) {o : Obs} (ho : o.ordinary = true) :
  OrdinaryPath fixed u (w.emit o)
  := h.tail (.emit ho)

/-- The error state is latched. -/
theorem fail (h : OrdinaryPath fixed u w) :
  OrdinaryPath fixed u (w.enter .error)
  := h.tail .fail

/-- A sequence of ordinary steps is one of steps aside. -/
theorem aside (h : OrdinaryPath fixed u w) :
  AsidePath fixed u w
  := ReflTransGen.mono (fun _ _ hstep => hstep.aside) _ _ h

/-! ### The services -/

/-- Latching a result is ordinary. -/
theorem serviceResult (h : OrdinaryPath fixed u w) (ret : Int) :
  OrdinaryPath fixed u (w.put (IolinkMaster.serviceResult w.port ret))
  := by
  simp only [IolinkMaster.serviceResult]
  split
  · apply h.put <;> rfl
  · apply h

/-- Leaving an ISDU state for another one is ordinary. -/
theorem leaveIsdu (h : OrdinaryPath fixed u w) {p : PortState} (hconfig : p.config = w.port.config)
    (hpdOut : p.pdOutLen = w.port.pdOutLen)
    (hflag : p.diagnostics.eventPending = w.port.diagnostics.eventPending)
    (hblock : p.block = w.port.block)
    (hjitter : p.diagnostics.jitterStats = w.port.diagnostics.jitterStats)
    (hstart : p.cycleStart = w.port.cycleStart) :
  OrdinaryPath fixed u (w.leaveIsdu p)
  := by
  have hleft : OrdinaryPath fixed u (w.emit (.isduLeft w.port.isdu)) := h.emit rfl
  apply hleft.put hconfig hpdOut hflag hblock hjitter hstart

/-- Giving up a failed service is ordinary. -/
theorem finishError (h : OrdinaryPath fixed u w) :
  OrdinaryPath fixed u (w.leaveIsdu (isduFinishError w.port))
  := by
  simp only [isduFinishError, IolinkMaster.serviceResult]
  split <;> apply h.leaveIsdu <;> rfl

/-- A read service is ordinary, however the call ends. -/
theorem readIsdu (h : OrdinaryPath fixed u w) (index : UInt16) (subindex cap : UInt8) :
  OrdinaryPath fixed u (IolinkMaster.readIsdu w index subindex cap).1
  := by
  have hcases := readIsdu_cases w index subindex cap
  revert hcases
  generalize IolinkMaster.readIsdu w index subindex cap = r
  rintro (_ | _ | _ | _ | _)
  · apply h
  · apply h.finishError
  · apply h.serviceResult
  · simp only [IolinkMaster.serviceResult]
    split <;> apply h.leaveIsdu <;> rfl
  · have hstarted : OrdinaryPath fixed u
        (w.leaveIsdu { w.port with isdu := isduStartRead w.port.isdu index subindex }) := by
      apply h.leaveIsdu <;> rfl
    apply hstarted.emit rfl

/-- A write service is ordinary, however the call ends. -/
theorem writeIsdu (h : OrdinaryPath fixed u w) (index : UInt16) (subindex : UInt8)
    (data : List UInt8) :
  OrdinaryPath fixed u (IolinkMaster.writeIsdu w index subindex data).1
  := by
  have hcases := writeIsduBody_cases w index subindex data
  simp only [IolinkMaster.writeIsdu]
  revert hcases
  generalize writeIsduBody w index subindex data = r
  rintro (_ | _ | _ | _ | _)
  · apply h.emit rfl
  · apply h.emit rfl
  · apply h.finishError.emit rfl
  · apply OrdinaryPath.emit _ rfl
    simp only [IolinkMaster.serviceResult]
    split <;> apply h.leaveIsdu <;> rfl
  · have hstarted : OrdinaryPath fixed u
        (w.leaveIsdu { w.port with isdu := isduStartWrite w.port.isdu index subindex data }) := by
      apply h.leaveIsdu <;> rfl
    apply (hstarted.emit rfl).emit rfl

/-- Reading the device information is ordinary. -/
theorem readDeviceInfo (h : OrdinaryPath fixed u w) :
  OrdinaryPath fixed u (IolinkMaster.readDeviceInfo w).1
  := by
  have hread := h.readIsdu IDX_DIRECT_PARAMETERS_1 0 (UInt8.ofNat DPP1_LEN)
  simp only [IolinkMaster.readDeviceInfo]
  split
  · apply hread
  · have happlied : ∀ v : World, OrdinaryPath fixed u v → ∀ page,
        OrdinaryPath fixed u (v.put (applyDirectParameterPage1 v.port page).1) := by
      intro v hv page
      rw [applyDirectParameterPage1_eq]
      apply hv.put <;> rfl
    split
    · apply happlied _ (hread.emit rfl)
    · apply happlied _ (hread.emit rfl)

/-- Latching the outcome of a comparison is ordinary. -/
theorem verifyOutcome (h : OrdinaryPath fixed u w) (ok : Bool) :
  OrdinaryPath fixed u (IolinkMaster.verifyOutcome w ok).1
  := h.serviceResult _

/-- Reading an index back is ordinary. -/
theorem verifyIsdu (h : OrdinaryPath fixed u w) (index : UInt16) (subindex : UInt8)
    (expected : List UInt8) :
  OrdinaryPath fixed u (IolinkMaster.verifyIsdu w index subindex expected).1
  := by
  simp only [IolinkMaster.verifyIsdu]
  split
  · apply h.readIsdu
  · apply (h.readIsdu _ _ _).verifyOutcome

/-- Reading the Data Storage back is ordinary. -/
theorem verifyDataStorage (h : OrdinaryPath fixed u w) (expected : List UInt8) :
  OrdinaryPath fixed u (IolinkMaster.verifyDataStorage w expected).1
  := by
  simp only [IolinkMaster.verifyDataStorage]
  split
  · apply h.readIsdu
  · split
    · apply (h.readIsdu _ _ _).verifyOutcome
    · apply (h.readIsdu _ _ _).verifyOutcome

/-- Starting or consuming a readout is ordinary if its consumer is. -/
theorem eventService (h : OrdinaryPath fixed u w) (request : EventReq) {consume : World → World}
    (hconsume : OrdinaryPath fixed u (consume w)) :
  OrdinaryPath fixed u (IolinkMaster.eventService w request consume).1
  := by
  simp only [IolinkMaster.eventService]
  split
  · apply h
  · split
    · apply h
    · split
      · have hstarted : OrdinaryPath fixed u (w.put { w.port with event := eventStart request }) := by
          apply h.put <;> rfl
        apply (hstarted.emit rfl).emit rfl
      · apply (hconsume.emit rfl).put <;> rfl

/-- Delivering events is ordinary. -/
theorem events (h : OrdinaryPath fixed u w) (events : List Event) :
  OrdinaryPath fixed u (events.foldl (fun w e => w.emit (.event e)) w)
  := by
  induction events generalizing w with
  | nil => apply h
  | cons e events ih => apply ih (h.emit rfl)

/-- Reporting the first event is ordinary. -/
theorem readEventCode (h : OrdinaryPath fixed u w) :
  OrdinaryPath fixed u (IolinkMaster.readEventCode w).1
  := by
  apply h.eventService
  split
  · apply h.put <;> rfl
  · apply h.put <;> rfl

/-- Confirming the events is ordinary. -/
theorem ackEvent (h : OrdinaryPath fixed u w) :
  OrdinaryPath fixed u (IolinkMaster.ackEvent w).1
  := by
  apply h.eventService
  apply h.put <;> rfl

/-- Delivering the details of the events is ordinary. -/
theorem readEventDetails (h : OrdinaryPath fixed u w) (maxEvents : Nat) :
  OrdinaryPath fixed u (IolinkMaster.readEventDetails w maxEvents).1
  := by
  apply h.eventService
  dsimp only
  split
  · apply OrdinaryPath.events
    apply h.put <;> rfl
  · apply h.put <;> rfl

/-- The parameter block changes. -/
theorem latch (h : OrdinaryPath False u w) (b : BlockState) :
  OrdinaryPath False u (w.put { w.port with block := b })
  := h.tail (.put rfl id rfl False.elim rfl rfl)

/-- A step of the parameter block is ordinary if its call and the rest are. -/
theorem blockStep (h : OrdinaryPath False u w) {step next : BlockStep}
    {call rest : World → World × Int}
    (hcall : ∀ v, OrdinaryPath False u v → OrdinaryPath False u (call v).1)
    (hrest : ∀ v, OrdinaryPath False u v → OrdinaryPath False u (rest v).1) :
  OrdinaryPath False u (IolinkMaster.blockStep w step next call rest).1
  := by
  simp only [IolinkMaster.blockStep]
  split
  · split
    · apply hcall w h
    · apply hrest _ ((hcall w h).latch _)
  · apply hrest w h

/-- Verifying the parameter block is ordinary. -/
theorem blockVerify (h : OrdinaryPath False u w) :
  OrdinaryPath False u (IolinkMaster.blockVerify w).1
  := by
  have hended : ∀ r : World × Int, OrdinaryPath False u r.1 → OrdinaryPath False u
      (if r.2 = STATUS_OK ∨ r.2 < 0 then
        r.1.put { r.1.port with block := BlockState.zero } else r.1) := by
    intro r hr
    split
    · apply hr.latch
    · apply hr
  simp only [IolinkMaster.blockVerify]
  apply (hended _ _).serviceResult
  split
  · apply h.verifyDataStorage
  · apply h.verifyIsdu

/-- Writing a parameter block is ordinary, but for the block itself. -/
theorem writeParameterBlock (h : OrdinaryPath False u w) (index : UInt16) (subindex : UInt8)
    (data : List UInt8) :
  OrdinaryPath False u (IolinkMaster.writeParameterBlock w index subindex data).1
  := by
  have hsteps : ∀ v, OrdinaryPath False u v → OrdinaryPath False u
      (IolinkMaster.blockStep v .beginDownload .write
        (fun w => writeSystemCommand w CMD_PARAM_DOWNLOAD_START) fun w =>
      IolinkMaster.blockStep w .write .endDownload
        (fun w => IolinkMaster.writeIsdu w w.port.block.index w.port.block.subindex
          w.port.block.data) fun w =>
      IolinkMaster.blockStep w .endDownload .verify
        (fun w => writeSystemCommand w CMD_PARAM_DOWNLOAD_END) IolinkMaster.blockVerify).1 := by
    intro v hv
    apply hv.blockStep
    · intro v hv
      apply hv.writeIsdu
    · intro v hv
      apply hv.blockStep
      · intro v hv
        apply hv.writeIsdu
      · intro v hv
        apply hv.blockStep
        · intro v hv
          apply hv.writeIsdu
        · intro v hv
          apply hv.blockVerify
  simp only [IolinkMaster.writeParameterBlock]
  split
  · apply h
  · split
    · apply h.serviceResult
    · split
      · apply hsteps _ (h.latch _)
      · apply hsteps _ h

/-- No service call touches the stored Event flag. -/
theorem runService (h : OrdinaryPath False u w) (call : Service) :
  OrdinaryPath False u (IolinkMaster.runService w call)
  := by
  apply OrdinaryPath.emit _ rfl
  cases call with
  | readIsdu | readDataStorage | readDetailedDeviceStatus => apply h.readIsdu
  | writeIsdu | writeDataStorage | beginParameterDownload | endParameterDownload
  | beginParameterUpload | endParameterUpload | storeParameterDownload => apply h.writeIsdu
  | readDeviceInfo => apply h.readDeviceInfo
  | restoreDataStorage | writeParameterBlock => apply h.writeParameterBlock
  | verifyDataStorage => apply h.verifyDataStorage
  | verifyIsdu => apply h.verifyIsdu
  | readEventCode => apply h.readEventCode
  | ackEvent => apply h.ackEvent
  | readEventDetails => apply h.readEventDetails
  | setPdOut data =>
      simp only [IolinkMaster.setPdOut]
      split
      · apply h
      · next hlen =>
        rw [not_or, not_not] at hlen
        apply h.tail
        exact .put rfl (fun _ => hlen.2) rfl False.elim rfl rfl

/-- No sequence of service calls touches the stored Event flag. -/
theorem runServices (h : OrdinaryPath False u w) (calls : List Service) :
  OrdinaryPath False u (calls.foldl IolinkMaster.runService w)
  := by
  induction calls generalizing w with
  | nil => apply h
  | cons call calls ih => apply ih (h.runService call)

/-! ### The physical layer -/

/-- Setting the line mode is ordinary. -/
theorem setMode (h : OrdinaryPath fixed u w) (mode : PhyMode) :
  OrdinaryPath fixed u (IolinkMaster.setMode env w mode).1
  := h.emit rfl

/-- Setting the rate is ordinary. -/
theorem setBaudrate (h : OrdinaryPath fixed u w) (rate : Baudrate) :
  OrdinaryPath fixed u (IolinkMaster.setBaudrate env w rate).1
  := h.emit rfl

/-- Flushing the receive path is ordinary. -/
theorem flushRx (h : OrdinaryPath fixed u w) :
  OrdinaryPath fixed u (IolinkMaster.flushRx env w).1
  := by
  have hdropped : OrdinaryPath fixed u (w.put { w.port with rx := [] }) := by
    apply h.put <;> rfl
  simp only [IolinkMaster.flushRx]
  split
  · apply hdropped.emit rfl
  · apply hdropped

/-- A failed transmission is ordinary. -/
theorem sendFailed (h : OrdinaryPath fixed u w) :
  OrdinaryPath fixed u (IolinkMaster.sendFailed w)
  := by
  apply OrdinaryPath.fail
  apply h.put <;> rfl

/-- Sending a frame is ordinary, whether it goes out or not. -/
theorem sendFull (h : OrdinaryPath fixed u w) (frame : List UInt8) :
  OrdinaryPath fixed u (IolinkMaster.sendFull env w frame).1
  := by
  have hsent : OrdinaryPath fixed u (w.emit (.sent w.port.state frame)) := h.emit rfl
  simp only [IolinkMaster.sendFull]
  split
  · apply h.sendFailed
  · split
    · apply hsent.sendFailed
    · split
      · apply hsent.put <;> rfl
      · apply hsent.sendFailed

/-- A wake-up request is ordinary. -/
theorem wakeUp (h : OrdinaryPath fixed u w) :
  OrdinaryPath fixed u (IolinkMaster.wakeUp env w).1
  := by
  have hwoken : OrdinaryPath fixed u (w.emit .wakeUp) := h.emit rfl
  simp only [IolinkMaster.wakeUp]
  split
  · apply h.sendFull
  · split
    · apply hwoken
    · apply hwoken.sendFailed

/-- Arming the startup gate is ordinary. -/
theorem armSendGate (h : OrdinaryPath fixed u w) (now delay : UInt32) (timed : Bool) :
  OrdinaryPath fixed u (w.put (IolinkMaster.armSendGate w.port now delay timed))
  := by
  simp only [IolinkMaster.armSendGate]
  split
  · apply h.put <;> rfl
  · apply h

/-- A step of the startup sequence is ordinary. -/
theorem setStep (h : OrdinaryPath fixed u w) (step : StartupStep) :
  OrdinaryPath fixed u (w.setStep step)
  := by
  apply h.put <;> rfl

/-! ### Slots -/

/-- Sending a frame of an encoder is ordinary. -/
theorem sendFrame (h : OrdinaryPath fixed u w) (frame : List UInt8) :
  OrdinaryPath fixed u (IolinkMaster.sendFrame env w frame).1
  := by
  simp only [IolinkMaster.sendFrame]
  split
  · apply h
  · apply h.sendFull

/-- Replacing the ISDU state is ordinary. -/
theorem putIsdu (h : OrdinaryPath fixed u w) (s : IsduState) :
  OrdinaryPath fixed u (w.putIsdu s)
  := by
  apply h.put <;> rfl

/-- Replacing the event state is ordinary. -/
theorem putEvent (h : OrdinaryPath fixed u w) (e : EventState) :
  OrdinaryPath fixed u (w.putEvent e)
  := by
  apply h.put <;> rfl

/-- A frame of the ISDU channel is ordinary. -/
theorem sendIsdu (h : OrdinaryPath fixed u w) :
  OrdinaryPath fixed u (IolinkMaster.sendIsdu K env w).1
  := by
  rw [sendIsdu_eq]
  split
  · apply h
  · apply (h.putIsdu _).sendFrame

/-- A frame of the diagnosis channel is ordinary. -/
theorem sendEvent (h : OrdinaryPath fixed u w) :
  OrdinaryPath fixed u (IolinkMaster.sendEvent K env w).1
  := by
  have hread : ∀ (v : World) (c : Prop) [Decidable c] (e : EventState), OrdinaryPath fixed u v →
      OrdinaryPath fixed u (if c then v.putEvent e else v) := by
    intro v c _ e hv
    split
    · apply hv.putEvent
    · apply hv
  simp only [IolinkMaster.sendEvent]
  split
  · apply h
  · apply hread
    apply hread
    split
    · apply h
    · apply h.sendFull

/-- The wake-up of a slot in STARTUP is ordinary. -/
theorem processWake (h : OrdinaryPath fixed u w) (now : UInt32) (timed : Bool) :
  OrdinaryPath fixed u (IolinkMaster.processWake env w now timed)
  := by
  simp only [IolinkMaster.processWake]
  split
  · apply (h.wakeUp.setStep _).armSendGate
  · apply h.wakeUp

/-- The test message of a slot in STARTUP is ordinary. -/
theorem processTest (h : OrdinaryPath fixed u w) (now : UInt32) (timed : Bool) :
  OrdinaryPath fixed u (IolinkMaster.processTest K env w now timed)
  := by
  have hsent : OrdinaryPath fixed u (IolinkMaster.sendFull env w (testMessage K)).1 := h.sendFull _
  have harmed : ∀ (v : World) (deadline : UInt32), OrdinaryPath fixed u v → OrdinaryPath fixed u
      (v.put { v.port with responseDeadline100us := deadline, awaitingResponse := true }) := by
    intro v deadline hv
    apply hv.put <;> rfl
  simp only [IolinkMaster.processTest]
  split
  · apply h
  · split
    · split
      · apply harmed _ _ (hsent.setStep _)
      · apply hsent.setStep
    · apply hsent

/-- A slot in STARTUP is ordinary. -/
theorem processStartup (h : OrdinaryPath fixed u w) (now : UInt32) (timed : Bool) :
  OrdinaryPath fixed u (IolinkMaster.processStartup K env w now timed)
  := by
  simp only [IolinkMaster.processStartup]
  split
  · split
    · apply (h.setMode _).fail
    · apply ((h.setMode _).setStep _).processWake
  · apply h.processWake
  · apply h.processTest
  · apply h
  · apply h

/-- Writing DeviceOperate is ordinary. -/
theorem processDeviceOperate (h : OrdinaryPath fixed u w) :
  OrdinaryPath fixed u (IolinkMaster.processDeviceOperate K env w)
  := by
  simp only [IolinkMaster.processDeviceOperate]
  split
  · apply h
  · split
    · apply (h.sendFull _).setStep
    · apply h.sendFull

/-- Checking the device information is ordinary. -/
theorem processValidation (h : OrdinaryPath fixed u w) :
  OrdinaryPath fixed u (IolinkMaster.processValidation w).1
  := by
  have hjudged : ∀ r : World × Int, OrdinaryPath fixed u r.1 → OrdinaryPath fixed u
      (if r.2 = STATUS_PENDING then (r.1, false)
        else if r.2 < 0 then (r.1.enter .error, false)
        else if validateDeviceInfo r.1.port ≠ 0 then (r.1.enter .error, false)
        else (r.1, true)).1 := by
    intro r hr
    split
    · apply hr
    · split
      · apply hr.fail
      · split
        · apply hr.fail
        · apply hr
  simp only [IolinkMaster.processValidation]
  split
  · apply hjudged
    split
    · apply h
    · apply h.readDeviceInfo
  · apply h

/-- A slot in PREOPERATE is ordinary. -/
theorem processPreoperate (h : OrdinaryPath fixed u w) :
  OrdinaryPath fixed u (IolinkMaster.processPreoperate K env w)
  := by
  have hisdu : OrdinaryPath fixed u
      (IolinkMaster.sendIsdu K env (IolinkMaster.sendEvent K env w).1).1 := h.sendEvent.sendIsdu
  simp only [IolinkMaster.processPreoperate]
  split
  · apply h.sendEvent
  · split
    · apply hisdu
    · split
      · apply hisdu.processValidation.processDeviceOperate
      · apply hisdu.processValidation

/-- A cyclic frame is ordinary as long as its deadline is not armed. -/
theorem processCyclic (h : OrdinaryPath fixed u w) :
  OrdinaryPath fixed u (IolinkMaster.processCyclic K env w)
  := by
  have hsent : ∀ (s : IsduState) (frame : List UInt8), OrdinaryPath fixed u
      (if frame = [] then w.putIsdu s
        else
          let r := IolinkMaster.sendFull env (w.putIsdu s) frame
          if r.2 then r.1.put (countCycle r.1.port) else r.1) := by
    intro s frame
    have hfull : OrdinaryPath fixed u (IolinkMaster.sendFull env (w.putIsdu s) frame).1 :=
      (h.putIsdu s).sendFull frame
    split
    · apply h.putIsdu
    · dsimp only
      split
      · apply hfull.put <;> rfl
      · apply hfull
  simp only [IolinkMaster.processCyclic]
  split
  · apply hsent
  · apply hsent

/-- A slot in OPERATE is ordinary. -/
theorem processOperate (h : OrdinaryPath fixed u w) :
  OrdinaryPath fixed u (IolinkMaster.processOperate K env w)
  := by
  have hisdu : OrdinaryPath fixed u
      (IolinkMaster.sendIsdu K env (IolinkMaster.sendEvent K env w).1).1 := h.sendEvent.sendIsdu
  simp only [IolinkMaster.processOperate]
  split
  · apply h.sendEvent
  · split
    · apply hisdu
    · apply hisdu.processCyclic

/-- Opening a slot is ordinary. -/
theorem openSlot (h : OrdinaryPath fixed u w) :
  OrdinaryPath fixed u w.openSlot
  := by
  have hview : OrdinaryPath fixed u (w.emit (.view w.port)) := h.emit rfl
  apply hview.emit rfl

/-- Processing a slot is ordinary, in every state. -/
theorem processAt (h : OrdinaryPath fixed u w) (now : UInt32) (timed : Bool) :
  OrdinaryPath fixed u (IolinkMaster.processAt K env w now timed)
  := by
  simp only [IolinkMaster.processAt]
  split
  · apply h
  · split
    · apply h.processStartup
    · apply h.openSlot.processPreoperate
    · apply h.openSlot.processOperate
    · apply h
    · apply h

/-! ### Timeouts and lost communication -/

/-- Resetting the rate scan is ordinary. -/
theorem resetRateScan (h : OrdinaryPath fixed u w) :
  OrdinaryPath fixed u (IolinkMaster.resetRateScan env w).1
  := by
  simp only [IolinkMaster.resetRateScan]
  split
  · apply h
  · apply OrdinaryPath.setBaudrate
    apply h.put <;> rfl

/-- Restarting communication is ordinary. -/
theorem restartEstablish (h : OrdinaryPath fixed u w) (now : UInt32) (timed : Bool) :
  OrdinaryPath fixed u (IolinkMaster.restartEstablish env w now timed).1
  := by
  have hlost : OrdinaryPath fixed u ((w.emit (comlostObs w.port)).enter .startup) :=
    h.tail (.lost w.port)
  have hwake : OrdinaryPath fixed u (((w.emit (comlostObs w.port)).enter .startup).put
      { ((w.emit (comlostObs w.port)).enter .startup).port with
        startup := { w.port.startup with step := .wake, wakeAttempts := 0 }
        diagnostics := { w.port.diagnostics with rxRetryCount := 0 }
        awaitingResponse := false }) := by
    apply hlost.put <;> rfl
  have hscan : ∀ v : World, OrdinaryPath fixed u v →
      OrdinaryPath fixed u (IolinkMaster.resetRateScan env v).1 := fun v hv => hv.resetRateScan
  simp only [IolinkMaster.restartEstablish]
  split
  · apply (hscan _ hwake).fail
  · apply (hscan _ hwake).armSendGate

/-- Going on with the startup sequence is ordinary. -/
theorem establishAttemptFailed (h : OrdinaryPath fixed u w) (now : UInt32) (timed : Bool) :
  OrdinaryPath fixed u (IolinkMaster.establishAttemptFailed env w now timed).1
  := by
  have hover : OrdinaryPath fixed u (w.put { w.port with awaitingResponse := false }) := by
    apply h.put <;> rfl
  have hexhausted : ∀ v : World, OrdinaryPath fixed u v → OrdinaryPath fixed u (v.put { v.port with
      startup := { v.port.startup with wakeAttempts := 0 }
      diagnostics :=
        { v.port.diagnostics with
          establishFailures := v.port.diagnostics.establishFailures + 1 } }) := by
    intro v hv
    apply hv.put <;> rfl
  simp only [IolinkMaster.establishAttemptFailed]
  split
  · split
    · apply OrdinaryPath.fail
      apply OrdinaryPath.setBaudrate
      apply hover.put <;> rfl
    · apply OrdinaryPath.armSendGate
      apply OrdinaryPath.setStep
      apply OrdinaryPath.setBaudrate
      apply hover.put <;> rfl
  · split
    · apply OrdinaryPath.fail
      apply OrdinaryPath.resetRateScan
      apply hover.put <;> rfl
    · split
      · apply OrdinaryPath.armSendGate
        apply OrdinaryPath.setStep
        apply OrdinaryPath.resetRateScan
        apply hover.put <;> rfl
      · split
        · apply OrdinaryPath.fail
          apply OrdinaryPath.setMode
          apply hexhausted
          apply OrdinaryPath.resetRateScan
          apply hover.put <;> rfl
        · apply OrdinaryPath.armSendGate
          apply OrdinaryPath.setStep
          apply OrdinaryPath.setMode
          apply hexhausted
          apply OrdinaryPath.resetRateScan
          apply hover.put <;> rfl

/-- Counting a failed M-sequence is ordinary. -/
theorem operateTimeout (h : OrdinaryPath fixed u w) (now : UInt32) (timed : Bool) :
  OrdinaryPath fixed u (IolinkMaster.operateTimeout env w now timed).1
  := by
  simp only [IolinkMaster.operateTimeout]
  split
  · apply h.put <;> rfl
  · apply OrdinaryPath.restartEstablish
    apply h.put <;> rfl

/-- A response timeout is ordinary. -/
theorem onTimeoutAt (h : OrdinaryPath fixed u w) (now : UInt32) (timed : Bool) :
  OrdinaryPath fixed u (IolinkMaster.onTimeoutAt env w now timed).1
  := by
  have hnoted : ∀ due, OrdinaryPath fixed u ((IolinkMaster.flushRx env w).1.emit
      (.timeout (IolinkMaster.flushRx env w).1.port.state due)) := fun _ => h.flushRx.emit rfl
  simp only [IolinkMaster.onTimeoutAt]
  split
  · apply (hnoted _).fail
  · split
    · split
      · apply hnoted
      · apply (hnoted _).establishAttemptFailed
    · apply (hnoted _).operateTimeout
    · apply hnoted
    · apply hnoted
    · apply hnoted

/-- The response timeout of a tick is ordinary. -/
theorem tickTimeout (h : OrdinaryPath fixed u w) (now : UInt32) (pace : Bool) :
  OrdinaryPath fixed u (IolinkMaster.tickTimeout env w now pace).1
  := by
  simp only [IolinkMaster.tickTimeout]
  apply OrdinaryPath.onTimeoutAt
  split
  · apply h.flushRx.put <;> rfl
  · apply h.put <;> rfl

/-! ### Replies -/

/-- Routing on-request data is ordinary. -/
theorem routeOd (h : OrdinaryPath fixed u w) (od : List UInt8) :
  OrdinaryPath fixed u (IolinkMaster.routeOd w od)
  := by
  rcases routeOd_cases w od with ⟨-, -, heq⟩ | ⟨-, heq⟩ | ⟨-, heq⟩
  · rw [heq]
    have hheard : OrdinaryPath fixed u (w.emit (.eventOd od)) := h.emit rfl
    apply hheard.putEvent
  · rw [heq]
    apply h.emit rfl
  · rw [heq]
    have hheard : OrdinaryPath fixed u (w.emit (.isduOd od)) := h.emit rfl
    simp only [isduObserved]
    split
    · have hdone : OrdinaryPath fixed u ((w.emit (.isduOd od)).emit (.isduDone w.port.isdu od)) :=
        hheard.emit rfl
      apply hdone.putIsdu
    · apply hheard.putIsdu

/-- Refusing a reply for its length is ordinary. -/
theorem replyUnframed (h : OrdinaryPath fixed u w) (data : List UInt8) :
  OrdinaryPath fixed u (IolinkMaster.replyUnframed w data).1
  := h.emit rfl

/-- Rejecting a reply for its checksum is ordinary. -/
theorem replyRejected (h : OrdinaryPath fixed u w) (data : List UInt8) :
  OrdinaryPath fixed u (IolinkMaster.replyRejected env w data).1
  := by
  have hnoted : OrdinaryPath fixed u (w.emit (.reject w.port.state data)) := h.emit rfl
  have hcounted : OrdinaryPath fixed u (countChecksumError (w.emit (.reject w.port.state data))) := by
    apply hnoted.put <;> rfl
  simp only [IolinkMaster.replyRejected]
  split
  · apply hcounted.put <;> rfl
  · apply hcounted.restartEstablish

/-- A failed reception is ordinary. -/
theorem rxFailed (h : OrdinaryPath fixed u w) :
  OrdinaryPath fixed u (IolinkMaster.rxFailed w)
  := by
  apply OrdinaryPath.fail
  apply h.put <;> rfl

/-! ### Initialization -/

/-- A step of the initialization is ordinary if it and the rest are. -/
theorem initStep {r : World × Int} {rest : World → World × Int} (h : OrdinaryPath fixed u r.1)
    (hrest : OrdinaryPath fixed u (rest r.1).1) :
  OrdinaryPath fixed u (IolinkMaster.initStep r rest).1
  := by
  simp only [IolinkMaster.initStep]
  split
  · apply h.fail
  · apply hrest

/-- What an initialization does to the PHY. -/
theorem initPhy (h : OrdinaryPath fixed u w) :
  OrdinaryPath fixed u (IolinkMaster.initPhy env w).1
  := by
  have hmode : ∀ mode, OrdinaryPath fixed u (IolinkMaster.setMode env w mode).1 :=
    fun mode => h.setMode mode
  have hrate : ∀ rate, OrdinaryPath fixed u
      (IolinkMaster.setBaudrate env (IolinkMaster.flushRx env w).1 rate).1 :=
    fun rate => h.flushRx.setBaudrate rate
  have hsdci : ∀ rate mode, OrdinaryPath fixed u (IolinkMaster.setMode env
      (IolinkMaster.setBaudrate env (IolinkMaster.flushRx env w).1 rate).1 mode).1 :=
    fun rate mode => (hrate rate).setMode mode
  simp only [IolinkMaster.initPhy]
  split
  · apply (hmode _).initStep (hmode _)
  · apply (hmode _).initStep (hmode _)
  · apply (hmode _).initStep (hmode _)
  · apply h.flushRx.initStep
    apply (hrate _).initStep
    apply (hsdci _ _).initStep (hsdci _ _)

end OrdinaryPath

/-! ### Slots of ticks -/

/-- A slot is aside, with the cycle it ends. -/
theorem AsidePath.processSlot (h : AsidePath fixed u w) (now : UInt32) (pace : Bool) :
  AsidePath fixed u (IolinkMaster.processSlot K env w now pace)
  := by
  have hpath : OrdinaryPath fixed w (processAt K env w now pace) :=
    OrdinaryPath.processAt .refl now pace
  have hslot : AsidePath fixed u (processAt K env w now pace) := h.trans hpath.aside
  simp only [IolinkMaster.processSlot]
  split
  · apply AsidePath.emit _ rfl
    rw [armCycle_eq]
    exact hslot.put rfl rfl (cycled_eventPending _ _ _) rfl
  · apply hslot

end

end IolinkMaster
