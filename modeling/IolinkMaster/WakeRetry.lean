import IolinkMaster.Establish
import IolinkMaster.Library.Rounds

/-!
# Wake-up sequences

How many wake-ups a port makes before it reports that nobody answers.  A wake-up sequence goes
through the same attempt n_WU + 1 times: a wake-up, and a test message at each rate.  The signals
on the line are the beginning of this schedule in every run without a valid answer, and the
timeout of the last test message reports the sequence as failed, as long as the 8-bit count of
wake-ups can exceed n_WU.
-/

namespace IolinkMaster

/-! ### The schedule of a sequence -/

/-- What a port does on the line to find a device. -/
inductive Signal where
  | wake
  | test (rate : Baudrate)
  deriving DecidableEq, Repr

/-- The rate of the line after the observations, if it was `rate` before. -/
def lineRate (rate : Baudrate) : List Obs → Baudrate
  | [] => rate
  | .setBaudrate rate' :: _ => rate'
  | _ :: l => lineRate rate l

/-- The signals among the observations, in order, on a line whose rate was `rate` before. -/
def signals (rate : Baudrate) : List Obs → List Signal
  | [] => []
  | .wakeUp :: l => signals rate l ++ [.wake]
  | .sent _ frame :: l =>
    signals rate l ++ [if frame = [WAKEUP_BYTE] then .wake else .test (lineRate rate l)]
  | _ :: l => signals rate l

/-- A wake-up and its rate scan. -/
def attempt (config : Config) : List Signal := .wake :: (testRates config).map .test

/-- The signals of a wake-up sequence. -/
def schedule (config : Config) : List Signal :=
  Rounds.all (attempt config) (wakeRepeats config + 1)

/-- A wake-up sequence starts: from the initialization, after a loss of communication, or after a
failed sequence. -/
structure SequenceStart (p : PortState) : Prop where
  state : p.state = .startup
  step : p.startup.step = .wake ∨ p.startup.step = .inactive
  attempts : p.startup.wakeAttempts = 0
  index : p.startup.baudrateIndex = 0
  awaiting : p.awaitingResponse = false
  room : p.rx.length < FRAME_BUF_SIZE

/-- The calls made while a device is searched, to a PHY that works: a response timeout is
reported for a test message that is out. -/
def Searches (env : Env) (w : World) : Call → Prop
  | .tickEvent .responseTimeout | .onTimeout =>
    env.Succeeds ∧ w.port.startup.step = .awaitResponse
  | .restart | .setPortMode _ => False
  | _ => env.Succeeds

/-- A timeout reports and counts a failed sequence, sets the PHY inactive, and leaves the port at
the start of the next sequence. -/
structure SequenceReported (w : World) (r : World × Int) : Prop where
  ret : r.2 = ERR_RETRY_LIMIT
  failures : r.1.port.diagnostics.establishFailures = w.port.diagnostics.establishFailures + 1
  inactive : ∃ os, r.1.log = .setMode .inactive :: os ++ w.log
  afresh : SequenceStart r.1.port

/-- The observation is no valid answer and does not end a sequence. -/
def Obs.undecided : Obs → Bool
  | .accept _ _ _ => false
  | .setMode mode => mode != .inactive
  | _ => true

/-- No test message has got a valid answer, and the sequence has not ended, between `w` and `v`. -/
def Undecided (w v : World) : Prop := ∃ os, v.log = os ++ w.log ∧ ∀ o ∈ os, o.undecided = true

/-- A timeout leads to the next test message or wake-up of the sequence. -/
structure SequenceContinued (w : World) (r : World × Int) : Prop where
  ret : r.2 = STATUS_PENDING
  failures : r.1.port.diagnostics.establishFailures = w.port.diagnostics.establishFailures
  undecided : Undecided w r.1
  step : r.1.port.startup.step = .wake ∨ r.1.port.startup.step = .sendType0

/-- The port of `v`, with the observations `since` after the start `w` of a sequence, is on
schedule. -/
structure OnSchedule (K : Iolinki) (w v : World) (since : List Obs) : Prop where
  made : signals (startupBaudrate w.port) since <+: schedule w.port.config
  uncounted :
    v.port.diagnostics.establishFailures = w.port.diagnostics.establishFailures
  /-- A slot makes the next signal unless a test message is out. -/
  advances : ∀ env now timed, env.Succeeds → v.port.startup.step ≠ .awaitResponse →
    sendGated v.port now timed = false →
    ∃ os signal, (processAt K env v now timed).log = os ++ v.log ∧
      signals (startupBaudrate w.port) (os ++ since)
        = signals (startupBaudrate w.port) since ++ [signal]
  /-- The timeout of a test message goes on with the sequence. -/
  continues : ∀ env now timed, env.Succeeds → v.port.startup.step = .awaitResponse →
    signals (startupBaudrate w.port) since ≠ schedule w.port.config →
    SequenceContinued v (onTimeoutAt env v now timed)
  /-- The timeout of the last test message reports the sequence. -/
  reports : ∀ env now timed, env.Succeeds → v.port.startup.step = .awaitResponse →
    signals (startupBaudrate w.port) since = schedule w.port.config →
    SequenceReported v (onTimeoutAt env v now timed)

/-- In every run from the start `w` of a sequence in which no test message gets a valid answer,
the port is on schedule until the sequence ends. -/
def RetryBound (K : Iolinki) (w : World) : Prop :=
  ∀ calls since, AllowedRun K Searches w calls → (run K w calls).log = since ++ w.log →
    (∀ o ∈ since, o.undecided = true) → OnSchedule K w (run K w calls) since

/-! ### What makes no signal -/

/-- An observation that is no signal and no valid answer, and sets neither mode nor rate. -/
def Obs.signalless : Obs → Bool
  | .setMode _ | .setBaudrate _ | .wakeUp | .sent _ _ | .accept _ _ _ => false
  | _ => true

section

variable {w v : World} {rate : Baudrate}

theorem lineRate_signalless {o : Obs} (ho : o.signalless = true) (l : List Obs) :
  lineRate rate (o :: l) = lineRate rate l
  := by
  cases o with
  | setMode | setBaudrate | wakeUp | sent | accept => contradiction
  | _ => rfl

theorem signals_signalless {o : Obs} (ho : o.signalless = true) (l : List Obs) :
  signals rate (o :: l) = signals rate l
  := by
  cases o with
  | setMode | setBaudrate | wakeUp | sent | accept => contradiction
  | _ => rfl

/-- The world `v` comes from `w` without a signal, and the port is where it was in the sequence. -/
structure Unmoved (w v : World) : Prop where
  config : v.port.config = w.port.config
  phy : v.port.phy = w.port.phy
  state : v.port.state = w.port.state
  startup : v.port.startup = w.port.startup
  awaiting : v.port.awaitingResponse = true → w.port.awaitingResponse = true
  room : w.port.rx.length < FRAME_BUF_SIZE → v.port.rx.length < FRAME_BUF_SIZE
  failures : v.port.diagnostics.establishFailures = w.port.diagnostics.establishFailures
  log : ∃ os, v.log = os ++ w.log ∧ ∀ o ∈ os, o.signalless = true

namespace Unmoved

theorem refl (w : World) :
  Unmoved w w
  := ⟨rfl, rfl, rfl, rfl, id, id, rfl, [], rfl, by simp⟩

theorem trans {u : World} (h : Unmoved u w) (h' : Unmoved w v) :
  Unmoved u v
  := by
  obtain ⟨os, hlog, hos⟩ := h.log
  obtain ⟨os', hlog', hos'⟩ := h'.log
  refine ⟨h'.config.trans h.config, h'.phy.trans h.phy, h'.state.trans h.state,
    h'.startup.trans h.startup, h.awaiting ∘ h'.awaiting, h'.room ∘ h.room,
    h'.failures.trans h.failures, os' ++ os, ?_, ?_⟩
  · rw [hlog', hlog, List.append_assoc]
  · intro o ho
    rcases List.mem_append.mp ho with ho | ho
    · apply hos' o ho
    · apply hos o ho

theorem emit (w : World) {o : Obs} (ho : o.signalless = true) :
  Unmoved w (w.emit o)
  := by
  refine ⟨rfl, rfl, rfl, rfl, id, id, rfl, [o], rfl, ?_⟩
  intro o' ho'
  rw [List.mem_singleton.mp ho']
  apply ho

/-- Nothing but fields that do not matter to the sequence changes. -/
theorem put {p : PortState} (hconfig : p.config = w.port.config) (hphy : p.phy = w.port.phy)
    (hstate : p.state = w.port.state) (hstartup : p.startup = w.port.startup)
    (hawaiting : p.awaitingResponse = w.port.awaitingResponse) (hrx : p.rx = w.port.rx)
    (hfailures : p.diagnostics.establishFailures = w.port.diagnostics.establishFailures) :
  Unmoved w (w.put p)
  := by
  refine ⟨hconfig, hphy, hstate, hstartup, ?_, ?_, hfailures, [], rfl, by simp⟩
  · intro h
    rw [← hawaiting]
    apply h
  · intro h
    rw [World.put_port, hrx]
    apply h

end Unmoved

/-! ### Service calls -/

theorem readIsdu_startup (hstate : w.port.state = .startup) (index : UInt16)
    (subindex cap : UInt8) :
  readIsdu w index subindex cap = (w, ⟨ISDU_ERR_INVALID_STATE, cap.toNat, []⟩)
  := by
  simp [readIsdu, hstate, acyclicAvailable]

theorem writeIsdu_startup (hstate : w.port.state = .startup) (index : UInt16) (subindex : UInt8)
    (data : List UInt8) :
  writeIsdu w index subindex data
    = (w.emit (.wrote index subindex data ISDU_ERR_INVALID_STATE), ISDU_ERR_INVALID_STATE)
  := by
  simp [writeIsdu, writeIsduBody, hstate, acyclicAvailable]

theorem eventService_startup (hstate : w.port.state = .startup) (request : EventReq)
    (result : World → World) :
  eventService w request result = (w, ISDU_ERR_INVALID_STATE)
  := by
  simp [eventService, hstate, acyclicAvailable]

theorem unmoved_serviceResult (w : World) (ret : Int) :
  Unmoved w (w.put (serviceResult w.port ret))
  := by
  simp only [serviceResult]
  split <;> apply Unmoved.put <;> rfl

theorem verifyDataStorage_startup (hstate : w.port.state = .startup) (expected : List UInt8) :
  verifyDataStorage w expected = (w, ISDU_ERR_INVALID_STATE)
  := by
  rw [verifyDataStorage, readIsdu_startup hstate]
  rfl

theorem verifyIsdu_startup (hstate : w.port.state = .startup) (index : UInt16)
    (subindex : UInt8) (expected : List UInt8) :
  verifyIsdu w index subindex expected = (w, ISDU_ERR_INVALID_STATE)
  := by
  rw [verifyIsdu, readIsdu_startup hstate]
  rfl

theorem unmoved_blockVerify (hstate : w.port.state = .startup) :
  Unmoved w (blockVerify w).1
  := by
  have hrefused : blockVerify w = (⟨serviceResult { w.port with block := BlockState.zero }
      ISDU_ERR_INVALID_STATE, w.log⟩, ISDU_ERR_INVALID_STATE) := by
    rw [blockVerify]
    by_cases hstorage : w.port.block.index = IDX_DATA_STORAGE ∧ w.port.block.subindex = 0
    · simp only [hstorage, and_self, if_true]
      rw [verifyDataStorage_startup hstate]
      rfl
    · simp only [hstorage, if_false]
      rw [verifyIsdu_startup hstate]
      rfl
  rw [hrefused]
  apply (Unmoved.put (p := { w.port with block := BlockState.zero }) rfl rfl rfl rfl rfl rfl
    rfl).trans
  apply unmoved_serviceResult

/-- A step of the parameter block operation ends with a refused call. -/
theorem unmoved_blockStep {step next : BlockStep} {call rest : World → World × Int}
    (hcall : Unmoved w (call w).1) (hrefused : (call w).2 ≠ STATUS_OK)
    (hrest : Unmoved w (rest w).1) :
  Unmoved w (blockStep w step next call rest).1
  := by
  rw [blockStep]
  split
  · dsimp only
    rw [if_pos hrefused]
    apply hcall
  · apply hrest

theorem unmoved_writeParameterBlock (hstate : w.port.state = .startup) (index : UInt16)
    (subindex : UInt8) (data : List UInt8) :
  Unmoved w (writeParameterBlock w index subindex data).1
  := by
  have hwrite : ∀ u : World, u.port.state = .startup → ∀ index subindex data,
      Unmoved u (writeIsdu u index subindex data).1 ∧
        (writeIsdu u index subindex data).2 ≠ STATUS_OK := by
    intro u hu index subindex data
    rw [writeIsdu_startup hu]
    exact ⟨Unmoved.emit u rfl, (by decide : ISDU_ERR_INVALID_STATE ≠ STATUS_OK)⟩
  have hsteps : ∀ u : World, u.port.state = .startup →
      Unmoved u (blockStep u .beginDownload .write
        (fun w => writeSystemCommand w CMD_PARAM_DOWNLOAD_START) fun w =>
        blockStep w .write .endDownload
          (fun w => writeIsdu w w.port.block.index w.port.block.subindex w.port.block.data)
          fun w => blockStep w .endDownload .verify
            (fun w => writeSystemCommand w CMD_PARAM_DOWNLOAD_END) blockVerify).1 := by
    intro u hu
    apply unmoved_blockStep (hwrite u hu _ _ _).1 (hwrite u hu _ _ _).2
    apply unmoved_blockStep (hwrite u hu _ _ _).1 (hwrite u hu _ _ _).2
    apply unmoved_blockStep (hwrite u hu _ _ _).1 (hwrite u hu _ _ _).2
    apply unmoved_blockVerify hu
  simp only [writeParameterBlock]
  split
  · apply Unmoved.refl
  · split
    · apply unmoved_serviceResult
    · split
      · apply Unmoved.trans _ (hsteps _ (by exact hstate))
        apply Unmoved.put <;> rfl
      · apply hsteps w hstate

/-- A service call in STARTUP does not move the sequence. -/
theorem unmoved_runService (hstate : w.port.state = .startup) (call : Service) :
  Unmoved w (runService w call)
  := by
  suffices hbody : Unmoved w (serviceBody w call).1 by
    apply hbody.trans (Unmoved.emit _ rfl)
  cases call with
  | readIsdu | readDataStorage | readDetailedDeviceStatus =>
      rw [serviceBody, readIsdu_startup hstate]
      apply Unmoved.refl
  | writeIsdu | writeDataStorage | beginParameterDownload | endParameterDownload
  | beginParameterUpload | endParameterUpload | storeParameterDownload =>
      simp only [serviceBody, writeSystemCommand, writeIsdu_startup hstate]
      apply Unmoved.emit w rfl
  | readDeviceInfo =>
      rw [serviceBody, readDeviceInfo, readIsdu_startup hstate]
      apply Unmoved.refl
  | restoreDataStorage | writeParameterBlock => apply unmoved_writeParameterBlock hstate
  | verifyDataStorage =>
      rw [serviceBody, verifyDataStorage_startup hstate]
      apply Unmoved.refl
  | verifyIsdu =>
      rw [serviceBody, verifyIsdu_startup hstate]
      apply Unmoved.refl
  | readEventCode | ackEvent | readEventDetails =>
      simp only [serviceBody, readEventCode, ackEvent, readEventDetails,
        eventService_startup hstate]
      apply Unmoved.refl
  | setPdOut data =>
      simp only [serviceBody, setPdOut]
      split <;> apply Unmoved.put <;> rfl

/-! ### Polls and replies -/

theorem signalless_idles {o : Obs} (ho : o.idles = true) :
  o.signalless = true
  := by
  cases o with
  | setMode | setBaudrate | wakeUp | sent | accept => contradiction
  | _ => rfl

theorem unmoved_idled (h : Idled w v) :
  Unmoved w v
  := by
  obtain ⟨os, hos, hlog, rx, d, hrx, hfailures, hport⟩ := h
  refine ⟨by rw [hport], by rw [hport], by rw [hport], by rw [hport], ?_, ?_, ?_, os, hlog,
    fun o ho => signalless_idles (hos o ho)⟩
  · rw [hport]
    exact id
  · rw [hport]
    exact fun hroom => hrx.trans_lt (max_lt (by decide) hroom)
  · rw [hport]
    apply hfailures

/-- A reply in STARTUP that is no valid answer. -/
theorem unmoved_onRx {K : Iolinki} (env : Env) (data : List UInt8) (handler : List Service)
    (hstate : w.port.state = .startup) :
  Unmoved w (onRx K env w data handler).1 ∨ Answered w (onRx K env w data handler).1
  := by
  by_cases hne : data = []
  · left
    rw [onRx, if_pos hne]
    apply Unmoved.refl
  · by_cases hstep : w.port.startup.step = .awaitResponse
    · rcases onRx_answer (K := K) env handler hne hstate hstep
        with ⟨o, d, ret, -, ho, hfailures, heq⟩ | haccept
      · left
        rw [heq]
        exact ⟨rfl, rfl, rfl, rfl, id, id, hfailures, [o], rfl,
          fun o' ho' => signalless_idles (idles_one ho o' ho')⟩
      · right
        apply haccept
    · left
      rw [onRx, if_neg hne, if_pos hstate, onRxStartup, if_pos hstep]
      apply Unmoved.emit w rfl

end

/-! ### The position in the schedule -/

/-- The number of signals of the current attempt that have been made. -/
def place (p : PortState) : Nat :=
  match p.startup.step with
  | .wake | .inactive | .awaitOperateAck => 0
  | .sendType0 => p.startup.baudrateIndex + 1
  | .awaitResponse => p.startup.baudrateIndex + 2

/-- The port of `v` is in the course of the sequence that starts in `w`, with the observations
`since`. -/
structure Searching (w v : World) (since : List Obs) : Prop where
  log : v.log = since ++ w.log
  config : v.port.config = w.port.config
  send : v.port.phy.send = true
  state : v.port.state = .startup
  step : v.port.startup.step ≠ .awaitOperateAck
  awaiting : v.port.awaitingResponse = true → v.port.startup.step = .awaitResponse
  room : v.port.rx.length < FRAME_BUF_SIZE
  failures : v.port.diagnostics.establishFailures = w.port.diagnostics.establishFailures
  attempts : v.port.startup.wakeAttempts.toNat ≤ wakeRepeats w.port.config
  index : v.port.startup.baudrateIndex < (testRates w.port.config).length
  first : v.port.startup.step = .wake ∨ v.port.startup.step = .inactive →
    v.port.startup.baudrateIndex = 0
  rate : lineRate (startupBaudrate w.port) since = startupBaudrate v.port
  made : signals (startupBaudrate w.port) since
    = Rounds.upTo (attempt w.port.config) v.port.startup.wakeAttempts.toNat (place v.port)

section

variable {K : Iolinki} {env : Env} {u v w : World} {since : List Obs}

theorem attempt_length {config : Config} :
  (attempt config).length = (testRates config).length + 1
  := by
  simp [attempt]

theorem attempt_wake {config : Config} {h : 0 < (attempt config).length} :
  (attempt config)[0] = .wake
  := rfl

theorem attempt_test {config : Config} {i : Nat} (hi : i < (testRates config).length)
    {h : i + 1 < (attempt config).length} :
  (attempt config)[i + 1] = .test (testRate config i)
  := by
  simp only [attempt, List.getElem_cons_succ, List.getElem_map, testRate]
  rw [List.getD_eq_getElem?_getD, List.getElem?_eq_getElem hi, Option.getD_some]

/-- Arming the gate changes nothing but the gate. -/
theorem armSendGate_eq (p : PortState) (now delay : UInt32) (timed : Bool) :
  ∃ ready valid, armSendGate p now delay timed
    = { p with sendReadyAt100us := ready, sendReadyValid := valid }
  := by
  cases timed with
  | true => exact ⟨_, _, rfl⟩
  | false => exact ⟨_, _, rfl⟩

/-- A starting sequence has made no signal. -/
theorem SequenceStart.searching (h : SequenceStart w.port) (hsend : w.port.phy.send = true) :
  Searching w w []
  := by
  have hplace : place w.port = 0 := by
    rw [place]
    rcases h.step with hstep | hstep
    · rw [hstep]
    · rw [hstep]
  refine ⟨rfl, rfl, hsend, h.state, ?_, ?_, h.room, rfl, ?_, ?_, fun _ => h.index, rfl, ?_⟩
  · rcases h.step with hstep | hstep
    · rw [hstep]
      decide
    · rw [hstep]
      decide
  · intro hawaiting
    rw [h.awaiting] at hawaiting
    contradiction
  · rw [h.attempts]
    apply Nat.zero_le
  · rw [h.index, testRates_length]
    split <;> decide
  · rw [h.attempts, hplace]
    exact Rounds.upTo_zero_zero.symm

/-- A sequence starts when the PHY has been initialized. -/
theorem sequenceStart_started (henv : env.Succeeds) {phy : PhyApi} {config : Config}
    (hphy : phy.init = true → env.phyInit = 0) (hmode : config.portMode = .iolink)
    (hconfig : configRefused config = false) :
  SequenceStart (started env phy config).port
  := by
  have hinit : (phy.init && env.phyInit != 0) = false := by
    cases hcall : phy.init with
    | true =>
        rw [hphy hcall]
        rfl
    | false => rfl
  obtain ⟨os, -, hflush⟩ := flushRx_succeeds henv
    ⟨zeroPort phy config, [.enter (zeroPort phy config).state]⟩
  have hport : (started env phy config).port = { zeroPort phy config with rx := [] } := by
    have hport : (zeroPort phy config).config.portMode = .iolink := hmode
    simp only [started, initPort, hconfig, hinit, powerOn, initPhy, hport, initStep, hflush,
      setBaudrate_succeeds henv, setMode_succeeds henv, Bool.false_eq_true, if_false, ne_eq,
      not_true_eq_false]
    rfl
  rw [hport]
  exact ⟨if_pos hmode, .inl rfl, rfl, rfl, rfl, Nat.zero_lt_succ _⟩

/-- A sequence starts when communication has been lost. -/
theorem sequenceStart_restartEstablish (henv : env.Succeeds) (now : UInt32) (timed : Bool)
    (hindex : w.port.startup.baudrateIndex < (testRates w.port.config).length)
    (hroom : w.port.rx.length < FRAME_BUF_SIZE) :
  SequenceStart (restartEstablish env w now timed).1.port
  := by
  obtain ⟨os, hreset, -⟩ := resetRateScan_succeeds henv
    (w := ⟨comlostPort w.port, .enter .startup :: comlostObs w.port :: w.log⟩) hindex
  have hlost : ∃ ready valid, (restartEstablish env w now timed).1.port
      = { comlostPort w.port with
          startup := { (comlostPort w.port).startup with baudrateIndex := 0 }
          sendReadyAt100us := ready
          sendReadyValid := valid } := by
    obtain ⟨ready, valid, hgate⟩ := armSendGate_eq
      { comlostPort w.port with
        startup := { (comlostPort w.port).startup with baudrateIndex := 0 } } now
      (tDwu100us (comlostPort w.port)) timed
    refine ⟨ready, valid, ?_⟩
    rw [← hgate, restartEstablish]
    erw [hreset]
    rfl
  obtain ⟨ready, valid, hport⟩ := hlost
  rw [hport]
  exact ⟨rfl, .inl rfl, rfl, rfl, rfl, hroom⟩

/-- What does not move the sequence leaves the port in its course. -/
theorem Searching.unmoved (h : Searching w v since) (hmove : Unmoved v u) :
  ∃ os, u.log = os ++ v.log ∧ (∀ o ∈ os, o.signalless = true) ∧ Searching w u (os ++ since)
  := by
  obtain ⟨os, hlog, hos⟩ := hmove.log
  have hrate : lineRate (startupBaudrate w.port) (os ++ since)
      = lineRate (startupBaudrate w.port) since :=
    Trace.unaffected_append (fun o l ho => lineRate_signalless ho l) hos since
  have hsignals : signals (startupBaudrate w.port) (os ++ since)
      = signals (startupBaudrate w.port) since :=
    Trace.unaffected_append (fun o l ho => signals_signalless ho l) hos since
  have hplace : place u.port = place v.port := by
    rw [place, hmove.startup, place]
  have hport : startupBaudrate u.port = startupBaudrate v.port := by
    rw [startupBaudrate, hmove.startup, hmove.config, startupBaudrate]
  refine ⟨os, hlog, hos, ?_⟩
  refine ⟨?_, hmove.config.trans h.config, ?_, hmove.state.trans h.state, ?_, ?_,
    hmove.room h.room, hmove.failures.trans h.failures, ?_, ?_, ?_, ?_, ?_⟩
  · rw [hlog, h.log, List.append_assoc]
  · rw [hmove.phy]
    apply h.send
  · rw [hmove.startup]
    apply h.step
  · rw [hmove.startup]
    exact h.awaiting ∘ hmove.awaiting
  · rw [hmove.startup]
    apply h.attempts
  · rw [hmove.startup]
    apply h.index
  · rw [hmove.startup]
    apply h.first
  · rw [hrate, hport]
    apply h.rate
  · rw [hsignals, hplace, hmove.startup]
    apply h.made

/-- The signals made are the beginning of the schedule. -/
theorem Searching.prefix_schedule (h : Searching w v since) :
  signals (startupBaudrate w.port) since <+: schedule w.port.config
  := by
  rw [h.made]
  exact Rounds.upTo_prefix_all (Nat.lt_succ_of_le h.attempts)

/-- The schedule is complete exactly when the last test message of the last attempt is out. -/
theorem Searching.complete_iff (h : Searching w v since)
    (hstep : v.port.startup.step = .awaitResponse) :
  signals (startupBaudrate w.port) since = schedule w.port.config ↔
    v.port.startup.wakeAttempts.toNat = wakeRepeats w.port.config ∧
      v.port.startup.baudrateIndex + 1 = (testRates w.port.config).length
  := by
  have hplace : place v.port = v.port.startup.baudrateIndex + 2 := by
    rw [place, hstep]
  have hindex := h.index
  rw [h.made, schedule, hplace, Rounds.upTo_eq_all (by simp [attempt])
    (Nat.lt_succ_of_le h.attempts) (by rw [attempt_length]; omega), attempt_length]
  omega

/-- The rate of the test message that comes next. -/
theorem Searching.testRate (h : Searching w v since) :
  startupBaudrate v.port = IolinkMaster.testRate w.port.config v.port.startup.baudrateIndex
  := by
  rw [← h.config]
  apply startupBaudrate_eq
  rw [h.config]
  apply h.index

/-- The port waits for its next slot in the step `step` of the sequence. -/
theorem Searching.waits (h : Searching w v since) {p : PortState} {i : Nat} {a : UInt8}
    (hp : Retries v.port p i a) {step : StartupStep} {l : List Obs} (now delay : UInt32)
    (timed : Bool) (hstep : step = .wake ∧ i = 0 ∨ step = .sendType0)
    (ha : a.toNat ≤ wakeRepeats w.port.config) (hi : i < (testRates w.port.config).length)
    (hrate : lineRate (startupBaudrate w.port) (l ++ since) = startupBaudrate p)
    (hmade : signals (startupBaudrate w.port) (l ++ since)
      = Rounds.upTo (attempt w.port.config) a.toNat (if step = .wake then 0 else i + 1)) :
  Searching w
    ⟨armSendGate { p with startup := { p.startup with step := step } } now delay timed,
      l ++ v.log⟩ (l ++ since)
  := by
  obtain ⟨ready, valid, hgate⟩ := armSendGate_eq
    { p with startup := { p.startup with step := step } } now delay timed
  rw [hgate]
  refine ⟨?_, hp.config.trans h.config, ?_, hp.state.trans h.state, ?_, ?_, ?_, ?_, ?_, ?_, ?_,
    hrate, ?_⟩
  · rw [h.log, List.append_assoc]
  · change p.phy.send = true
    rw [hp.phy, h.send]
  · rcases hstep with ⟨rfl, -⟩ | rfl <;> simp
  · intro hawaiting
    change p.awaitingResponse = true at hawaiting
    rw [hp.awaiting] at hawaiting
    contradiction
  · change p.rx.length < _
    rw [hp.rx]
    apply h.room
  · change p.diagnostics.establishFailures = _
    rw [hp.diagnostics, h.failures]
  · change p.startup.wakeAttempts.toNat ≤ _
    rw [hp.attempts]
    apply ha
  · change p.startup.baudrateIndex < _
    rw [hp.index]
    apply hi
  · change _ → p.startup.baudrateIndex = 0
    rw [hp.index]
    rcases hstep with ⟨-, hzero⟩ | rfl
    · exact fun _ => hzero
    · simp
  · rw [hmade]
    change _ = Rounds.upTo _ p.startup.wakeAttempts.toNat _
    rw [hp.attempts]
    rcases hstep with ⟨rfl, -⟩ | rfl
    · rfl
    · change _ = Rounds.upTo _ _ (p.startup.baudrateIndex + 1)
      rw [hp.index]
      rfl

/-- A wake-up. -/
theorem Searching.wake (henv : env.Succeeds) (h : Searching w v since) (now : UInt32)
    (timed : Bool) (hstep : v.port.startup.step = .wake) :
  ∃ o, o.undecided = true ∧ Searching w (processWake env v now timed) (o :: since) ∧
    (processWake env v now timed).log = o :: v.log ∧
    signals (startupBaudrate w.port) (o :: since)
      = signals (startupBaudrate w.port) since ++ [.wake]
  := by
  obtain ⟨o, odExpected, ho, hrun⟩ := processWake_succeeds henv v now timed
  have hsignals : signals (startupBaudrate w.port) (o :: since)
      = signals (startupBaudrate w.port) since ++ [.wake] := by
    rcases ho with rfl | rfl
    · rfl
    · rw [signals, if_pos rfl]
  have hrate : lineRate (startupBaudrate w.port) (o :: since)
      = lineRate (startupBaudrate w.port) since := by
    rcases ho with rfl | rfl
    · rfl
    · rfl
  have hindex := h.first (.inl hstep)
  have hplace : place v.port = 0 := by
    rw [place, hstep]
  have hlength : 0 < (attempt w.port.config).length := by
    rw [attempt_length]
    omega
  have hquiet : v.port.awaitingResponse = false := by
    rw [Bool.eq_false_iff]
    intro hawaiting
    have hawait := h.awaiting hawaiting
    rw [hstep] at hawait
    contradiction
  have hmade : signals (startupBaudrate w.port) ([o] ++ since)
      = Rounds.upTo (attempt w.port.config) v.port.startup.wakeAttempts.toNat 1 := by
    have hnext := Rounds.upTo_succ (i := v.port.startup.wakeAttempts.toNat) hlength
    rw [attempt_wake] at hnext
    rw [List.singleton_append, hsignals, h.made, hplace, ← hnext]
  have hundecided : o.undecided = true := by
    rcases ho with rfl | rfl
    · rfl
    · rfl
  refine ⟨o, hundecided, ?_, by rw [hrun], hsignals⟩
  rw [hrun]
  apply h.waits (p := { v.port with rxOdExpected := odExpected }) (l := [o])
    ⟨rfl, rfl, rfl, rfl, rfl, hquiet, hindex, rfl⟩ _ _ _ (.inr rfl) h.attempts _ _ hmade
  · rw [← hindex]
    apply h.index
  · rw [List.singleton_append, hrate, h.rate]
    rfl

/-- A test message. -/
theorem Searching.test (hK : K.Lawful) (henv : env.Succeeds) (h : Searching w v since)
    (now : UInt32) (timed : Bool) (hstep : v.port.startup.step = .sendType0) :
  ∃ o signal, o.undecided = true ∧ Searching w (processTest K env v now timed) (o :: since) ∧
    (processTest K env v now timed).log = o :: v.log ∧
    signals (startupBaudrate w.port) (o :: since)
      = signals (startupBaudrate w.port) since ++ [signal]
  := by
  have hindex := h.index
  have hsignals : signals (startupBaudrate w.port) (.sent v.port.state (testMessage K) :: since)
      = signals (startupBaudrate w.port) since
        ++ [.test (IolinkMaster.testRate w.port.config v.port.startup.baudrateIndex)] := by
    rw [signals, if_neg (testMessage_ne_wake hK), h.rate, h.testRate]
  have hplace : place v.port = v.port.startup.baudrateIndex + 1 := by
    rw [place, hstep]
  have hlength : v.port.startup.baudrateIndex + 1 < (attempt w.port.config).length := by
    rw [attempt_length]
    omega
  refine ⟨.sent v.port.state (testMessage K), _, rfl, ?_,
    by rw [processTest_succeeds hK henv], hsignals⟩
  rw [processTest_succeeds hK henv]
  refine ⟨?_, h.config, h.send, h.state, by simp, fun _ => rfl, h.room, h.failures, h.attempts,
    hindex, by simp, h.rate, ?_⟩
  · rw [h.log]
    rfl
  · rw [hsignals, h.made, hplace]
    have hnext := Rounds.upTo_succ (i := v.port.startup.wakeAttempts.toNat) hlength
    rw [attempt_test hindex] at hnext
    rw [← hnext]
    rfl

/-- A slot makes the next signal unless a test message is out. -/
theorem Searching.slot (hK : K.Lawful) (henv : env.Succeeds) (h : Searching w v since)
    (now : UInt32) (timed : Bool) (hstep : v.port.startup.step ≠ .awaitResponse)
    (hopen : sendGated v.port now timed = false) :
  ∃ os signal, (∀ o ∈ os, o.undecided = true) ∧
    Searching w (processAt K env v now timed) (os ++ since) ∧
    (processAt K env v now timed).log = os ++ v.log ∧
    signals (startupBaudrate w.port) (os ++ since)
      = signals (startupBaudrate w.port) since ++ [signal]
  := by
  have hslot : processAt K env v now timed = processStartup K env v now timed := by
    simp only [processAt, h.send, hopen, Bool.not_true, Bool.or_false, Bool.false_eq_true, if_false,
      h.state]
  rw [hslot]
  cases hat : v.port.startup.step with
  | wake =>
      obtain ⟨o, ho, hsearching, hlog, hsignals⟩ := h.wake henv now timed hat
      simp only [processStartup, hat]
      exact ⟨[o], _, List.forall_mem_singleton.mpr ho, hsearching, hlog, hsignals⟩
  | inactive =>
      have hrun : processStartup K env v now timed
          = processWake env ⟨{ v.port with startup := { v.port.startup with step := .wake } },
              .setMode .sdci :: v.log⟩ now timed := by
        simp only [processStartup, hat, setMode_succeeds henv]
        rfl
      have hmade := h.made
      have hplace : place v.port = 0 := by
        rw [place, hat]
      have hawake : Searching w ⟨{ v.port with startup := { v.port.startup with step := .wake } },
          .setMode .sdci :: v.log⟩ (.setMode .sdci :: since) := by
        refine ⟨?_, h.config, h.send, h.state, by simp, ?_, h.room, h.failures, h.attempts,
          h.index, fun _ => h.first (.inr hat), h.rate, ?_⟩
        · rw [h.log]
          rfl
        · intro hawaiting
          have hawait := h.awaiting hawaiting
          rw [hat] at hawait
          contradiction
        · rw [hplace] at hmade
          exact hmade
      obtain ⟨o, ho, hsearching, hlog, hsignals⟩ := hawake.wake henv now timed rfl
      rw [hrun]
      exact ⟨[o, .setMode .sdci], _, List.forall_mem_cons.mpr ⟨ho, List.forall_mem_singleton.mpr rfl⟩,
        hsearching, hlog, hsignals⟩
  | sendType0 =>
      obtain ⟨o, signal, ho, hsearching, hlog, hsignals⟩ := h.test hK henv now timed hat
      simp only [processStartup, hat]
      exact ⟨[o], signal, List.forall_mem_singleton.mpr ho, hsearching, hlog, hsignals⟩
  | awaitResponse => exact absurd hat hstep
  | awaitOperateAck => exact absurd hat h.step

/-! ### Failed test messages -/

theorem lineRate_rescan {rate rate' start : Baudrate} {os l : List Obs}
    (hos : Rescans rate rate' os) (hrate : lineRate start l = rate) :
  lineRate start (os ++ l) = rate'
  := by
  rcases hos with ⟨rfl, rfl⟩ | rfl
  · apply hrate
  · rfl

theorem signals_rescan {rate rate' start : Baudrate} {os : List Obs}
    (hos : Rescans rate rate' os) (l : List Obs) :
  signals start (os ++ l) = signals start l
  := by
  rcases hos with ⟨rfl, -⟩ | rfl
  · rfl
  · rfl

theorem Rescans.undecided {rate rate' : Baudrate} {os : List Obs} (hos : Rescans rate rate' os) :
  ∀ o ∈ os, o.undecided = true
  := by
  rcases hos with ⟨rfl, -⟩ | rfl
  · simp
  · simp [Obs.undecided]

/-- A rate is the last one exactly when the scan does not go on. -/
theorem Searching.scanned_iff (h : Searching w v since) :
  (v.port.config.autoBaudrate && decide (v.port.startup.baudrateIndex < 2)) = false ↔
    v.port.startup.baudrateIndex + 1 = (testRates w.port.config).length
  := by
  have hindex := h.index
  rw [testRates_length] at hindex ⊢
  rw [h.config]
  cases hauto : w.port.config.autoBaudrate with
  | true =>
      rw [hauto, if_pos rfl] at hindex
      rw [Bool.true_and, decide_eq_false_iff_not, if_pos rfl]
      omega
  | false =>
      rw [hauto, if_neg (by simp)] at hindex
      rw [Bool.false_and, if_neg (by simp), eq_self_iff_true, true_iff]
      omega

/-- A failed test message of a schedule that is not complete leads to the next signal. -/
theorem Searching.failed_continues (henv : env.Succeeds) (h : Searching w v since)
    (now : UInt32) (timed : Bool) (hstep : v.port.startup.step = .awaitResponse)
    (hmore : signals (startupBaudrate w.port) since ≠ schedule w.port.config) :
  ∃ os, Searching w (establishAttemptFailed env v now timed).1 (os ++ since) ∧
    signals (startupBaudrate w.port) (os ++ since) = signals (startupBaudrate w.port) since ∧
    SequenceContinued v (establishAttemptFailed env v now timed)
  := by
  have hindex := h.index
  have hmade := h.made
  have hplace : place v.port = v.port.startup.baudrateIndex + 2 := by
    rw [place, hstep]
  rw [hplace] at hmade
  cases hnext : v.port.config.autoBaudrate && decide (v.port.startup.baudrateIndex < 2) with
  | true =>
      have hlater : v.port.startup.baudrateIndex + 1 < (testRates w.port.config).length := by
        have hlast := h.scanned_iff.not.mp (by rw [hnext]; simp)
        omega
      obtain ⟨p, rate, hp, rfl, heq⟩ := establishAttemptFailed_next henv now timed hnext
      obtain ⟨ready, valid, hgate⟩ := armSendGate_eq
        { p with startup := { p.startup with step := .sendType0 } } now
        (tDmt100us p (startupBaudrate p)) timed
      rw [heq]
      refine ⟨[.setBaudrate (startupBaudrate p)], ?_, rfl, ?_⟩
      · apply h.waits (l := [.setBaudrate (startupBaudrate p)]) hp _ _ _ (.inr rfl) h.attempts hlater
          rfl
        exact hmade
      · rw [hgate]
        exact ⟨rfl, congrArg Diagnostics.establishFailures hp.diagnostics,
          ⟨[.setBaudrate (startupBaudrate p)], rfl, by simp [Obs.undecided]⟩, .inr rfl⟩
  | false =>
      have hlast := h.scanned_iff.mp hnext
      have hrepeats : v.port.startup.wakeAttempts.toNat < wakeRepeats w.port.config := by
        have hcount := h.attempts
        have hne : v.port.startup.wakeAttempts.toNat ≠ wakeRepeats w.port.config := by
          intro hall
          exact hmore ((h.complete_iff hstep).mpr ⟨hall, hlast⟩)
        omega
      obtain ⟨p, os, hp, hos, hagain, -⟩ := establishAttemptFailed_last henv now timed hnext
        (by rw [h.config]; apply hindex)
      have hlimit : (wakeRetryLimit p).toNat = wakeRepeats w.port.config := by
        rw [← h.config, ← hp.config]
        rfl
      have hrange : (wakeRetryLimit p).toNat < 256 := UInt8.toNat_lt _
      have hattempted : p.startup.wakeAttempts.toNat = v.port.startup.wakeAttempts.toNat + 1 := by
        rw [hp.attempts, UInt8.toNat_add]
        change (_ + 1) % 256 = _
        omega
      have hbound : p.startup.wakeAttempts ≤ wakeRetryLimit p := by
        rw [UInt8.le_iff_toNat_le, hattempted, hlimit]
        apply hrepeats
      obtain ⟨ready, valid, hgate⟩ := armSendGate_eq
        { p with startup := { p.startup with step := .wake } } now (tDwu100us p) timed
      rw [hagain hbound]
      refine ⟨os, ?_, signals_rescan hos since, ?_⟩
      · apply h.waits hp _ _ _ (.inl ⟨rfl, rfl⟩) _ _ (lineRate_rescan hos h.rate)
        · rw [signals_rescan hos, hmade, ← hp.attempts, hattempted, if_pos rfl,
            ← Rounds.upTo_length, attempt_length, ← hlast]
        · rw [← hp.attempts, hattempted]
          apply hrepeats
        · omega
      · rw [hgate]
        exact ⟨rfl, congrArg Diagnostics.establishFailures hp.diagnostics, ⟨os, rfl, hos.undecided⟩,
          .inl rfl⟩

/-- The last failed test message of a complete schedule reports the sequence, unless the count of
wake-ups cannot exceed n_WU; then the port wakes up the device once more. -/
theorem Searching.failed_complete (henv : env.Succeeds) (h : Searching w v since)
    (now : UInt32) (timed : Bool) (hstep : v.port.startup.step = .awaitResponse)
    (hall : signals (startupBaudrate w.port) since = schedule w.port.config) :
  (w.port.config.wakeRetryLimit ≠ 255 →
    SequenceReported v (establishAttemptFailed env v now timed)) ∧
  (w.port.config.wakeRetryLimit = 255 →
    (establishAttemptFailed env v now timed).2 = STATUS_PENDING)
  := by
  obtain ⟨hcount, hlast⟩ := (h.complete_iff hstep).mp hall
  have hindex := h.index
  obtain ⟨p, os, hp, hos, hagain, hfailed⟩ := establishAttemptFailed_last henv now timed
    (h.scanned_iff.mpr hlast) (by rw [h.config]; apply hindex)
  have hlimit : (wakeRetryLimit p).toNat = wakeRepeats w.port.config := by
    rw [← h.config, ← hp.config]
    rfl
  have hattempted : p.startup.wakeAttempts.toNat = (wakeRepeats w.port.config + 1) % 256 := by
    rw [hp.attempts, UInt8.toNat_add, hcount]
    rfl
  constructor
  · intro hne
    have hrange : wakeRepeats w.port.config < 255 := by
      have hlt : wakeRepeats w.port.config < 256 := UInt8.toNat_lt _
      have hne' : wakeRepeats w.port.config ≠ 255 := by
        rw [wakeRepeats]
        split
        · decide
        · intro heq
          exact hne (UInt8.toNat_inj.mp heq)
      omega
    have hbound : ¬ p.startup.wakeAttempts ≤ wakeRetryLimit p := by
      rw [UInt8.le_iff_toNat_le, hattempted, hlimit]
      omega
    obtain ⟨ready, valid, hgate⟩ := armSendGate_eq
      { p with
        startup := { p.startup with wakeAttempts := 0, step := .inactive }
        diagnostics :=
          { p.diagnostics with establishFailures := p.diagnostics.establishFailures + 1 } }
      now (tSd100us p) timed
    rw [hfailed hbound, hgate]
    refine ⟨rfl, ?_, ⟨os, rfl⟩, hp.state.trans h.state, .inr rfl, rfl, hp.index, hp.awaiting, ?_⟩
    · change p.diagnostics.establishFailures + 1 = _
      rw [hp.diagnostics]
    · change p.rx.length < _
      rw [hp.rx]
      apply h.room
  · intro heq
    have hbound : p.startup.wakeAttempts ≤ wakeRetryLimit p := by
      rw [UInt8.le_iff_toNat_le, hattempted, wakeRepeats, heq]
      apply Nat.zero_le
    rw [hagain hbound]

/-! ### Calls -/

namespace Undecided

theorem trans (h : Undecided u w) (h' : Undecided w v) :
  Undecided u v
  := by
  obtain ⟨os, hlog, hos⟩ := h
  obtain ⟨os', hlog', hos'⟩ := h'
  refine ⟨os' ++ os, ?_, List.forall_mem_append.mpr ⟨hos', hos⟩⟩
  rw [hlog', hlog, List.append_assoc]

theorem mem (h : Undecided w v) {os : List Obs} (hlog : v.log = os ++ w.log) :
  ∀ o ∈ os, o.undecided = true
  := by
  obtain ⟨os', hlog', hos'⟩ := h
  rw [hlog] at hlog'
  rw [List.append_cancel_right hlog']
  apply hos'

/-- What is undecided has been undecided before. -/
theorem earlier (h : Undecided w v) (hwu : w.log <:+ u.log) (huv : u.log <:+ v.log) :
  Undecided w u
  := by
  obtain ⟨os, hos⟩ := hwu
  obtain ⟨os', hos'⟩ := huv
  refine ⟨os, hos.symm, ?_⟩
  have hlog : v.log = (os' ++ os) ++ w.log := by
    rw [← hos', ← hos, List.append_assoc]
  intro o ho
  apply h.mem hlog o (List.mem_append_right _ ho)

theorem later (h : Undecided w v) (hwu : w.log <:+ u.log) (huv : u.log <:+ v.log) :
  Undecided u v
  := by
  obtain ⟨os, hos⟩ := hwu
  obtain ⟨os', hos'⟩ := huv
  refine ⟨os', hos'.symm, ?_⟩
  have hlog : v.log = (os' ++ os) ++ w.log := by
    rw [← hos', ← hos, List.append_assoc]
  intro o ho
  apply h.mem hlog o (List.mem_append_left _ ho)

theorem not_answered (h : Undecided w v) :
  ¬ Answered w v
  := by
  rintro ⟨os, data, hlog, hmem⟩
  have haccept := h.mem hlog _ hmem
  contradiction

end Undecided

theorem Unmoved.undecided (h : Unmoved w v) :
  Undecided w v
  := by
  obtain ⟨os, hlog, hos⟩ := h.log
  refine ⟨os, hlog, ?_⟩
  intro o ho
  have hsignalless := hos o ho
  cases o with
  | setMode | accept => contradiction
  | _ => rfl

theorem SequenceContinued.after (hmove : Unmoved w v) {r : World × Int}
    (h : SequenceContinued v r) :
  SequenceContinued w r
  := ⟨h.ret, h.failures.trans hmove.failures, hmove.undecided.trans h.undecided, h.step⟩

theorem SequenceReported.after (hmove : Unmoved w v) {r : World × Int}
    (h : SequenceReported v r) :
  SequenceReported w r
  := by
  obtain ⟨os, hlog, -⟩ := hmove.log
  obtain ⟨os', hlog'⟩ := h.inactive
  refine ⟨h.ret, by rw [h.failures, hmove.failures], ⟨os' ++ os, ?_⟩, h.afresh⟩
  rw [hlog', hlog, List.cons_append, List.cons_append, List.append_assoc]

/-- A reported sequence has ended. -/
theorem SequenceReported.decided {r : World × Int} (h : SequenceReported w r) :
  ¬ Undecided w r.1
  := by
  intro hundecided
  obtain ⟨os, hlog⟩ := h.inactive
  have hinactive := hundecided.mem hlog _ List.mem_cons_self
  contradiction

/-- The timeout of a test message. -/
theorem Searching.timeout (henv : env.Succeeds) (h : Searching w v since)
    (hstep : v.port.startup.step = .awaitResponse) (hmove : Unmoved v u) (now : UInt32)
    (timed : Bool) {r : World × Int} (hr : r = establishAttemptFailed env u now timed) :
  (signals (startupBaudrate w.port) since ≠ schedule w.port.config →
    ∃ since', Searching w r.1 since' ∧
      signals (startupBaudrate w.port) since' = signals (startupBaudrate w.port) since ∧
      SequenceContinued v r) ∧
  (signals (startupBaudrate w.port) since = schedule w.port.config →
    (w.port.config.wakeRetryLimit ≠ 255 → SequenceReported v r) ∧
    (w.port.config.wakeRetryLimit = 255 → r.2 = STATUS_PENDING))
  := by
  obtain ⟨os, hlog, hos, hsearching⟩ := h.unmoved hmove
  have hsame : signals (startupBaudrate w.port) (os ++ since)
      = signals (startupBaudrate w.port) since :=
    Trace.unaffected_append (fun o l ho => signals_signalless ho l) hos since
  have hstep' : u.port.startup.step = .awaitResponse := by
    rw [hmove.startup, hstep]
  subst hr
  constructor
  · intro hmore
    obtain ⟨os', hfailed, hsignals, hcontinued⟩ :=
      hsearching.failed_continues henv now timed hstep' (by rw [hsame]; exact hmore)
    exact ⟨_, hfailed, hsignals.trans hsame, hcontinued.after hmove⟩
  · intro hall
    obtain ⟨hreported, hpending⟩ :=
      hsearching.failed_complete henv now timed hstep' (hsame.trans hall)
    exact ⟨fun hlimit => (hreported hlimit).after hmove, hpending⟩

/-- The timeout of a test message that does not end the sequence. -/
theorem Searching.timeout_undecided (henv : env.Succeeds)
    (hlimit : w.port.config.wakeRetryLimit ≠ 255) (h : Searching w v since)
    (hstep : v.port.startup.step = .awaitResponse) (hmove : Unmoved v u) (now : UInt32)
    (timed : Bool) {r : World × Int} (hr : r = establishAttemptFailed env u now timed)
    (hundecided : Undecided v r.1) :
  ∃ since', Searching w r.1 since'
  := by
  obtain ⟨hcontinues, hreports⟩ := h.timeout henv hstep hmove now timed hr
  by_cases hall : signals (startupBaudrate w.port) since = schedule w.port.config
  · exact absurd hundecided ((hreports hall).1 hlimit).decided
  · obtain ⟨since', hsearching, -⟩ := hcontinues hall
    exact ⟨since', hsearching⟩

/-- The receive buffer is flushed, and a timeout is processed. -/
theorem unmoved_flushed {os : List Obs} (hos : ∀ o ∈ os, o.idles = true) (due awaiting : Bool)
    (hawaiting : awaiting = true → v.port.awaitingResponse = true) :
  Unmoved v ⟨{ v.port with rx := [], awaitingResponse := awaiting },
    .timeout .startup due :: (os ++ v.log)⟩
  := by
  refine ⟨rfl, rfl, rfl, rfl, hawaiting, fun _ => Nat.zero_lt_succ _, rfl,
    .timeout .startup due :: os, rfl, ?_⟩
  exact List.forall_mem_cons.mpr ⟨rfl, fun o ho => signalless_idles (hos o ho)⟩

/-- The timeout of a test message is its failure. -/
theorem onTimeoutAt_moved (henv : env.Succeeds) (h : Searching w v since)
    (hstep : v.port.startup.step = .awaitResponse) (now : UInt32) (timed : Bool) :
  ∃ u, Unmoved v u ∧ onTimeoutAt env v now timed = establishAttemptFailed env u now timed
  := by
  obtain ⟨os, due, hos, heq⟩ := onTimeoutAt_failed henv now timed h.state (by rw [hstep]; simp)
  exact ⟨_, unmoved_flushed hos due v.port.awaitingResponse id, heq⟩

/-- A tick. -/
theorem searching_tick (hK : K.Lawful) (henv : env.Succeeds)
    (hlimit : w.port.config.wakeRetryLimit ≠ 255) (h : Searching w v since) (event : TickEvent)
    (pace : Bool) (now : UInt32)
    (hevent : event = .responseTimeout → pace = false → v.port.startup.step = .awaitResponse)
    (hundecided : Undecided v (tickCommon K env v event pace now).1) :
  ∃ since', Searching w (tickCommon K env v event pace now).1 since'
  := by
  have hpolled := tickCommon_polled hK env v event pace now
  have hmove : Unmoved v (pollRx K env v).1 := by
    rcases pollRx_idled hK henv.recvFails h.state h.room with hidled | hanswered
    · apply unmoved_idled hidled
    · exact absurd (hanswered.later hpolled) hundecided.not_answered
  obtain ⟨os, hlog, -, hsearching⟩ := h.unmoved hmove
  rcases tickCommon_cases K env v event pace now
    with heq | ⟨hresponse, hawaiting, heq⟩ | ⟨-, hawaiting, heq⟩
  · rw [heq]
    exact ⟨_, hsearching⟩
  · have hstep : (pollRx K env v).1.port.startup.step = .awaitResponse := by
      cases pace with
      | true => apply hsearching.awaiting (hawaiting rfl)
      | false =>
          rw [hmove.startup]
          apply hevent hresponse rfl
    obtain ⟨os', due, hos', hfailed⟩ :=
      tickTimeout_failed henv now pace hsearching.state (by rw [hstep]; simp)
    rw [heq] at hundecided ⊢
    rw [heq] at hpolled
    apply hsearching.timeout_undecided henv hlimit hstep (unmoved_flushed hos' due false (by simp))
      now pace hfailed (hundecided.later ⟨os, hlog.symm⟩ hpolled)
  · rw [heq, processSlot_startup env now pace hsearching.state]
    cases hgate : sendGated (pollRx K env v).1.port now pace with
    | true =>
        have hheld : processAt K env (pollRx K env v).1 now pace = (pollRx K env v).1 := by
          simp [processAt, hgate]
        rw [hheld]
        exact ⟨_, hsearching⟩
    | false =>
        by_cases hstep : (pollRx K env v).1.port.startup.step = .awaitResponse
        · have hheld : processAt K env (pollRx K env v).1 now pace = (pollRx K env v).1 := by
            simp only [processAt, hgate, hsearching.send, hsearching.state, processStartup, hstep,
              Bool.not_true, Bool.or_false, Bool.false_eq_true, if_false]
          rw [hheld]
          exact ⟨_, hsearching⟩
        · obtain ⟨os', signal, -, hslot, -⟩ := hsearching.slot hK henv now pace hstep hgate
          exact ⟨_, hslot⟩

/-- A call made while a device is searched. -/
theorem searching_call (hK : K.Lawful) (hlimit : w.port.config.wakeRetryLimit ≠ 255)
    (h : Searching w v since) {c : Call} (hc : Searches env v c)
    (hundecided : Undecided v (runCall K env v c)) :
  ∃ since', Searching w (runCall K env v c) since'
  := by
  have hticked : ∀ now, ∃ os, Searching w (v.emit (.tick now)) (os ++ since) := by
    intro now
    obtain ⟨os, -, -, hsearching⟩ := h.unmoved (Unmoved.emit v (o := .tick now) rfl)
    exact ⟨os, hsearching⟩
  have htimed : ∀ event now, env.Succeeds → Undecided v (tickAt K env v event now).1 →
      ∃ since', Searching w (tickAt K env v event now).1 since' := by
    intro event now henv hlater
    obtain ⟨os, hsearching⟩ := hticked now
    apply searching_tick hK henv hlimit hsearching event true now (by simp)
    apply hlater.later (List.suffix_cons _ _)
    apply tickCommon_extends hK
  have hmoved : ∀ u, Unmoved v u → ∃ since', Searching w u since' := by
    intro u hmove
    obtain ⟨os, -, -, hsearching⟩ := h.unmoved hmove
    exact ⟨_, hsearching⟩
  cases c with
  | tickAt event now => apply htimed event now hc hundecided
  | controllerTickAt now => apply htimed _ now hc hundecided
  | tickEvent event =>
      cases event with
      | responseTimeout =>
          exact searching_tick hK hc.1 hlimit h _ false 0 (fun _ _ => hc.2) hundecided
      | cycleDue => exact searching_tick hK hc hlimit h _ false 0 (by simp) hundecided
      | none => exact searching_tick hK hc hlimit h _ false 0 (by simp) hundecided
  | process =>
      by_cases hstep : v.port.startup.step = .awaitResponse
      · have hheld : processAt K env v 0 false = v := by
          simp [processAt, sendGated, h.send, h.state, processStartup, hstep]
        simp only [runCall, hheld]
        exact ⟨_, h⟩
      · obtain ⟨os, signal, -, hslot, -⟩ := h.slot hK hc 0 false hstep rfl
        exact ⟨_, hslot⟩
  | pollRx =>
      rcases pollRx_idled hK hc.recvFails h.state h.room with hidled | hanswered
      · apply hmoved _ (unmoved_idled hidled)
      · exact absurd hanswered hundecided.not_answered
  | onRx data handler =>
      rcases unmoved_onRx (K := K) env data handler h.state with hmove | hanswered
      · apply hmoved _ hmove
      · exact absurd hanswered hundecided.not_answered
  | onTimeout =>
      obtain ⟨u, hmove, hfailed⟩ := onTimeoutAt_moved hc.1 h hc.2 0 false
      exact h.timeout_undecided hc.1 hlimit hc.2 hmove 0 false hfailed hundecided
  | service call => apply hmoved _ (unmoved_runService h.state call)
  | restart | setPortMode => contradiction

/-! ### Runs -/

theorem searching_run (hK : K.Lawful) (hlimit : w.port.config.wakeRetryLimit ≠ 255)
    (calls : List (Env × Call)) (h : Searching w v since)
    (hcalls : AllowedRun K Searches v calls) (hundecided : Undecided v (run K v calls)) :
  ∃ since', Searching w (run K v calls) since'
  := by
  induction calls generalizing v since with
  | nil =>
      rw [run_nil]
      exact ⟨since, h⟩
  | cons c calls ih =>
      rw [run_cons] at hundecided ⊢
      have hextends := runCall_extends hK c.1 v c.2
      have hlater := run_extends hK (runCall K c.1 v c.2) calls
      obtain ⟨since', hsearching⟩ :=
        searching_call hK hlimit h hcalls.1 (hundecided.earlier hextends hlater)
      apply ih hsearching hcalls.2 (hundecided.later hextends hlater)

/-- A port in the course of a sequence whose limit can be exceeded is on schedule. -/
theorem Searching.onSchedule (hK : K.Lawful) (hlimit : w.port.config.wakeRetryLimit ≠ 255)
    (h : Searching w v since) :
  OnSchedule K w v since
  := by
  refine ⟨h.prefix_schedule, h.failures, ?_, ?_, ?_⟩
  · intro env now timed henv hstep hopen
    obtain ⟨os, signal, -, -, hlog, hsignals⟩ := h.slot hK henv now timed hstep hopen
    exact ⟨os, signal, hlog, hsignals⟩
  · intro env now timed henv hstep hmore
    obtain ⟨u, hmove, hfailed⟩ := onTimeoutAt_moved henv h hstep now timed
    obtain ⟨-, -, -, hcontinued⟩ := (h.timeout henv hstep hmove now timed hfailed).1 hmore
    apply hcontinued
  · intro env now timed henv hstep hall
    obtain ⟨u, hmove, hfailed⟩ := onTimeoutAt_moved henv h hstep now timed
    apply ((h.timeout henv hstep hmove now timed hfailed).2 hall).1 hlimit

/-- A complete schedule leaves a test message out. -/
theorem Searching.complete_awaits (h : Searching w v since)
    (hall : signals (startupBaudrate w.port) since = schedule w.port.config) :
  v.port.startup.step = .awaitResponse
  := by
  have hindex := h.index
  have hplace : place v.port ≤ (attempt w.port.config).length := by
    rw [attempt_length, place]
    split <;> omega
  rw [h.made, schedule, Rounds.upTo_eq_all (by simp [attempt]) (Nat.lt_succ_of_le h.attempts)
    hplace, attempt_length] at hall
  have hend := hall.2
  cases hstep : v.port.startup.step with
  | awaitResponse => rfl
  | _ =>
      simp only [place, hstep] at hend
      omega

/-- A port that nobody answers completes the schedule, slot by slot and timeout by timeout. -/
theorem Searching.completes (hK : K.Lawful) (h : Searching w v since) :
  ∃ calls since', AllowedRun K Searches v calls ∧ Undecided v (run K v calls) ∧
    Searching w (run K v calls) since' ∧
    signals (startupBaudrate w.port) since' = schedule w.port.config
  := by
  have henv : (Env.quiet []).Succeeds := ⟨Env.transmits_quiet _, rfl, rfl, rfl, rfl, rfl⟩
  -- The induction is on the signals left to make; a test message that is out counts half a signal.
  induction hleft : 2 * ((schedule w.port.config).length
      - (signals (startupBaudrate w.port) since).length)
      + (if v.port.startup.step = .awaitResponse then 1 else 0) using Nat.strongRecOn
      generalizing v since with
  | ind left ih =>
      have hlength := h.prefix_schedule.length_le
      by_cases hall : signals (startupBaudrate w.port) since = schedule w.port.config
      · rw [← run_nil K v] at h
        exact ⟨[], since, trivial, ⟨[], by rw [run_nil]; rfl, by simp⟩, h, hall⟩
      · have hshort : (signals (startupBaudrate w.port) since).length
            < (schedule w.port.config).length := by
          by_contra hlong
          exact hall (h.prefix_schedule.eq_of_length (by omega))
        by_cases hstep : v.port.startup.step = .awaitResponse
        · obtain ⟨u, hmove, hfailed⟩ := onTimeoutAt_moved henv h hstep 0 false
          obtain ⟨since', hsearching, hsignals, hcontinued⟩ :=
            (h.timeout henv hstep hmove 0 false hfailed).1 hall
          have hnext : (onTimeoutAt (.quiet []) v 0 false).1.port.startup.step
              ≠ .awaitResponse := by
            rcases hcontinued.step with hat | hat <;> simp [hat]
          obtain ⟨calls, since'', hcalls, hundecided, hend, hdone⟩ := ih _ (by
            rw [if_pos hstep] at hleft
            rw [hsignals, if_neg hnext]
            omega) hsearching rfl
          refine ⟨(.quiet [], .onTimeout) :: calls, since'', ⟨⟨henv, hstep⟩, hcalls⟩, ?_, ?_, hdone⟩
          · rw [run_cons]
            exact hcontinued.undecided.trans hundecided
          · rw [run_cons]
            exact hend
        · obtain ⟨os, signal, hos, hsearching, hlog, hsignals⟩ :=
            h.slot hK henv 0 false hstep rfl
          obtain ⟨calls, since'', hcalls, hundecided, hend, hdone⟩ := ih _ (by
            rw [if_neg hstep] at hleft
            rw [hsignals, List.length_append, List.length_singleton]
            split <;> omega) hsearching rfl
          refine ⟨(.quiet [], .process) :: calls, since'', ⟨henv, hcalls⟩, ?_, ?_, hdone⟩
          · rw [run_cons]
            exact (show Undecided v _ from ⟨os, hlog, hos⟩).trans hundecided
          · rw [run_cons]
            exact hend

/-- With the limit 255 the count of wake-ups wraps around before it exceeds the limit. -/
theorem retryBound_wraps (hK : K.Lawful) (hstart : SequenceStart w.port)
    (hsend : w.port.phy.send = true) (hlimit : w.port.config.wakeRetryLimit = 255) :
  ¬ RetryBound K w
  := by
  intro hbound
  have henv : (Env.quiet []).Succeeds := ⟨Env.transmits_quiet _, rfl, rfl, rfl, rfl, rfl⟩
  obtain ⟨calls, since, hcalls, hundecided, h, hall⟩ :=
    (hstart.searching hsend).completes (K := K) hK
  have hstep := h.complete_awaits hall
  have hreported := (hbound calls since hcalls h.log (hundecided.mem h.log)).reports
    (.quiet []) 0 false henv hstep hall
  obtain ⟨u, hmove, hfailed⟩ := onTimeoutAt_moved henv h hstep 0 false
  have hpending := ((h.timeout henv hstep hmove 0 false hfailed).2 hall).2 hlimit
  rw [hreported.ret] at hpending
  contradiction

end

/-- From every start of a wake-up sequence, as long as no test message gets a valid answer, the
port makes n_WU + 1 wake-ups with a full rate scan each, and the timeout of the last test message
reports the sequence, counts it once, sets the PHY inactive and starts the count afresh, if and
only if the limit is not the largest value of the count.  The initialization and a loss of
communication are such starts. -/
theorem wake_retry_bound {K : Iolinki} (hK : K.Lawful) :
  (∀ w : World, SequenceStart w.port → w.port.phy.send = true →
    (RetryBound K w ↔ w.port.config.wakeRetryLimit ≠ 255)) ∧
  (∀ (env : Env) (phy : PhyApi) (config : Config), env.Succeeds →
    (phy.init = true → env.phyInit = 0) → config.portMode = .iolink →
    configRefused config = false → SequenceStart (started env phy config).port) ∧
  ∀ (env : Env) (w : World) (now : UInt32) (timed : Bool), env.Succeeds →
    w.port.startup.baudrateIndex < (testRates w.port.config).length →
    w.port.rx.length < FRAME_BUF_SIZE →
    SequenceStart (restartEstablish env w now timed).1.port
  := by
  refine ⟨?_, ?_, ?_⟩
  · intro w hstart hsend
    constructor
    · intro hbound hlimit
      exact retryBound_wraps hK hstart hsend hlimit hbound
    · intro hlimit calls since hcalls hlog hundecided
      obtain ⟨since', h⟩ := searching_run hK hlimit calls (hstart.searching hsend) hcalls
        ⟨since, hlog, hundecided⟩
      obtain rfl : since = since' := List.append_cancel_right (hlog.symm.trans h.log)
      apply h.onSchedule hK hlimit
  · intro env phy config henv hphy hmode hconfig
    apply sequenceStart_started henv hphy hmode hconfig
  · intro env w now timed henv hindex hroom
    apply sequenceStart_restartEstablish henv now timed hindex hroom

/-- A port that repeats a wake-up once. -/
theorem wake_retry_bound_scanning :
  RetryBound .reference (started (.quiet []) .full scanning)
  := by
  have henv : (Env.quiet []).Succeeds := ⟨Env.transmits_quiet _, rfl, rfl, rfl, rfl, rfl⟩
  obtain ⟨hbound, hstarted, -⟩ := wake_retry_bound Iolinki.lawful_reference
  apply (hbound (started (.quiet []) .full scanning) _ (by decide)).mpr
  · decide
  · apply hstarted _ _ _ henv (fun _ => rfl) rfl (by decide)

/-- A port that is to repeat a wake-up 255 times. -/
def persistent : Config := { Config.bare .type2_1 1 1 with wakeRetryLimit := 255 }

/-- After 256 wake-ups the sequence goes on. -/
theorem wake_retry_bound_persistent :
  ¬ RetryBound .reference (started (.quiet []) .full persistent)
  := by
  apply retryBound_wraps Iolinki.lawful_reference _ (by decide) (by decide)
  exact ⟨by decide, by decide, by decide, by decide, by decide, by decide⟩

end IolinkMaster
