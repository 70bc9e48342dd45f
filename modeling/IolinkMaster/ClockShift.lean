import IolinkMaster.Pacing
import IolinkMaster.PortPaths

/-!
# Runs at another time

The times a port stores lie at most its longest wait after the tick that stores them.  So a run that
takes place within a window of the clock does the same in every other window of this length, as
long as the clock does not wrap around within the window.
-/

namespace IolinkMaster

/-! ### Waits -/

/-- The longest time a port holds a transmission off or waits for a reply. -/
def longestWait (config : Config) : Nat :=
  max 5000 (max config.tDwu100us.toNat config.tSd100us.toNat)

/-- The default and the configured waits are within the longest one. -/
theorem le_longestWait (config : Config) :
  5000 ≤ longestWait config ∧ config.tDwu100us.toNat ≤ longestWait config ∧
    config.tSd100us.toNat ≤ longestWait config
  := by
  rw [longestWait]
  omega

/-- Up to 255 bit times are short at every rate. -/
theorem tbitTo100us_le (rate : Baudrate) {tBit : Nat} (h : tBit ≤ 255) :
  (tbitTo100us rate tBit).toNat ≤ 600
  := by
  have hle : (tBitNs rate * tBit + 100000 - 1) / 100000 ≤ 600 := by
    cases rate with
    | com1 | com2 | com3 =>
        simp only [tBitNs]
        omega
  rw [tbitTo100us, UInt32.toNat_ofNat']
  exact (Nat.mod_le _ _).trans hle

/-- The master message delay is at most 60 ms. -/
theorem tDmt100us_le (p : PortState) (rate : Baudrate) :
  (tDmt100us p rate).toNat ≤ 600
  := by
  rw [tDmt100us]
  apply tbitTo100us_le
  have hlt := p.config.tDmtTbit.toNat_lt
  split <;> omega

/-- The response timeout in use is at most 60 ms. -/
theorem responseTimeout100us_le (p : PortState) :
  (responseTimeout100us p).toNat ≤ 600
  := by
  have hframe := tbitTo100us_le (startupBaudrate p) (show 11 + 10 ≤ 255 by omega)
  have hconfigured := p.config.responseTimeout100us.toNat_lt
  rw [← UInt8.toNat_toUInt32] at hconfigured
  have hone : (1 : UInt32).toNat = 1 := rfl
  simp only [responseTimeout100us]
  split <;> split <;> omega

/-- The answer window of a test message is at most 60 ms. -/
theorem testMessageTimeout100us_le (p : PortState) :
  (testMessageTimeout100us p).toNat ≤ 600
  := by
  have hwindow := tbitTo100us_le (startupBaudrate p) (show 58 ≤ 255 by omega)
  have hconfigured := p.config.responseTimeout100us.toNat_lt
  rw [← UInt8.toNat_toUInt32] at hconfigured
  have hone : (1 : UInt32).toNat = 1 := rfl
  simp only [testMessageTimeout100us]
  split <;> split <;> omega

/-! ### Times in force -/

/-- The time `t'`, if it is in force, is `t`, which was, or lies a wait after `now`. -/
def Rearmed (config : Config) (now : UInt32) (valid : Bool) (t : UInt32) (valid' : Bool)
    (t' : UInt32) : Prop :=
  valid' = true → valid = true ∧ t' = t ∨
    ∃ delay : UInt32, delay.toNat ≤ longestWait config ∧ t' = now + delay

/-- From the port `p` to the port `q`, the times in force are kept or stored anew at `now`. -/
structure Rearms (now : UInt32) (p q : PortState) : Prop where
  config : q.config = p.config
  gate : Rearmed p.config now p.sendReadyValid p.sendReadyAt100us q.sendReadyValid
    q.sendReadyAt100us
  deadline : Rearmed p.config now p.awaitingResponse p.responseDeadline100us q.awaitingResponse
    q.responseDeadline100us
  cycle : q.cycleTimerValid = true → p.cycleTimerValid = true ∧
      q.lastCycleStart100us = p.lastCycleStart100us ∨ q.lastCycleStart100us = now

section

variable {config : Config} {now : UInt32} {p q r : PortState}

/-- A time that is armed twice is armed. -/
theorem Rearmed.trans {valid valid' valid'' : Bool} {t t' t'' : UInt32}
    (h : Rearmed config now valid t valid' t') (h' : Rearmed config now valid' t' valid'' t'') :
  Rearmed config now valid t valid'' t''
  := by
  intro hvalid
  rcases h' hvalid with ⟨hkept, rfl⟩ | harmed
  · exact h hkept
  · exact .inr harmed

/-- The port `q` stores the times of the port `p`; it may have stopped to wait for a reply. -/
structure KeepsTimes (p q : PortState) : Prop where
  config : q.config = p.config
  gateValid : q.sendReadyValid = p.sendReadyValid
  gate : q.sendReadyAt100us = p.sendReadyAt100us
  waiting : q.awaitingResponse = true → p.awaitingResponse = true
  deadline : q.responseDeadline100us = p.responseDeadline100us
  cycleValid : q.cycleTimerValid = p.cycleTimerValid
  cycle : q.lastCycleStart100us = p.lastCycleStart100us

/-- What keeps the times of a port arms none wrongly. -/
theorem KeepsTimes.rearms (h : KeepsTimes p q) :
  Rearms now p q
  := by
  refine ⟨h.config, ?_, ?_, ?_⟩
  · intro hvalid
    exact .inl ⟨h.gateValid ▸ hvalid, h.gate⟩
  · intro hvalid
    exact .inl ⟨h.waiting hvalid, h.deadline⟩
  · intro hvalid
    exact .inl ⟨h.cycleValid ▸ hvalid, h.cycle⟩

/-- A port that stays as it is arms nothing. -/
theorem Rearms.refl (p : PortState) :
  Rearms now p p
  := KeepsTimes.rearms ⟨rfl, rfl, rfl, id, rfl, rfl, rfl⟩

/-- Times are armed one step after the other. -/
theorem Rearms.trans (h : Rearms now p q) (h' : Rearms now q r) :
  Rearms now p r
  := by
  obtain ⟨hconfig, hgate, hdeadline, hcycle⟩ := h'
  rw [h.config] at hgate hdeadline
  refine ⟨hconfig.trans h.config, h.gate.trans hgate, h.deadline.trans hdeadline, ?_⟩
  intro hvalid
  rcases hcycle hvalid with ⟨hkept, heq⟩ | harmed
  · rw [heq]
    exact h.cycle hkept
  · exact .inr harmed

/-- A step that stores no times, after others. -/
theorem Rearms.kept (h : Rearms now p q) (hkept : KeepsTimes q r) :
  Rearms now p r
  := h.trans hkept.rearms

/-- The send gate is stored. -/
theorem Rearms.arm (h : Rearms now p q) {delay : UInt32}
    (hdelay : delay.toNat ≤ longestWait q.config) :
  Rearms now p (armSendGate q now delay true)
  := by
  apply h.trans
  refine ⟨rfl, ?_, ?_, ?_⟩
  · intro _
    exact .inr ⟨delay, hdelay, rfl⟩
  · intro hvalid
    exact .inl ⟨hvalid, rfl⟩
  · intro hvalid
    exact .inl ⟨hvalid, rfl⟩

end

section

variable {K : Iolinki} {env : Env} {allowed : Service → Prop} {now : UInt32} {u v w : World}

/-- Port steps keep the configuration. -/
theorem config_of_portPath (h : PortPath K env allowed u w) :
  w.port.config = u.port.config
  := by
  induction h with
  | refl => rfl
  | tail _ hstep ih =>
      rw [← ih]
      cases hstep with
      | put h => exact h.config
      | validate =>
          rename_i v _ _
          have hpath := (processValidation_path v).1
          generalize (processValidation v).1 = u at hpath
          induction hpath with
          | refl => rfl
          | tail _ hcontrol ih =>
              rw [← ih]
              cases hcontrol with
              | service h => exact (untouched_of_step h).config
              | fail => rfl
      | call call => exact (untouched_of_path (runService_path _ call)).config
      | _ => rfl

/-- What does not read the times of a port stores none. -/
theorem keepsTimes_of_after {α : Type} {f : World → World × α}
    (hf : ∀ t l w, f (w.after t l) = resultAfter t l (f w))
    (hconfig : (f w).1.port.config = w.port.config) :
  KeepsTimes w.port (f w).1.port
  := by
  have hfresh := hf w.port.stamps w.log w.fresh
  rw [fresh_after] at hfresh
  rw [hfresh] at hconfig ⊢
  refine ⟨hconfig, rfl, rfl, ?_, rfl, rfl, rfl⟩
  intro hwaiting
  exact (Bool.and_eq_true_iff.mp hwaiting).2

/-- What does the same at any time keeps the times of the port. -/
theorem keepsTimes_of_map {f : World → World} (hf : ∀ t l w, f (w.after t l) = (f w).after t l)
    (hconfig : (f w).port.config = w.port.config) :
  KeepsTimes w.port (f w).port
  := by
  apply keepsTimes_of_after (f := fun w => (f w, ())) _ hconfig
  intro t l w
  rw [hf]
  rfl

/-- A path that begins. -/
theorem portPath_refl (w : World) :
  PortPath K env (fun _ => True) w w
  := .refl

/-! ### Polls and calls -/

/-- Polling the PHY arms no time. -/
theorem rearms_pollRx (env : Env) (w : World) :
  Rearms now w.port (pollRx K env w).1.port
  := by
  apply KeepsTimes.rearms
  apply keepsTimes_of_after (f := pollRx K env)
  · intro t l w
    apply pollRx_after
  · exact config_of_portPath (K := K) ((portPath_refl w).pollRx fun _ _ => trivial)

/-- A service call keeps the times of the port. -/
theorem keepsTimes_service (w : World) (call : Service) :
  KeepsTimes w.port (runService w call).port
  := by
  apply keepsTimes_of_map (f := fun w => runService w call)
  · intro t l w
    apply runService_after
  · exact (untouched_of_path (runService_path w call)).config

/-- Flushing the receive path arms no time. -/
theorem rearms_flushRx (env : Env) (w : World) :
  Rearms now w.port (flushRx env w).1.port
  := by
  rw [flushRx_fst]
  exact KeepsTimes.rearms ⟨rfl, rfl, rfl, id, rfl, rfl, rfl⟩

/-! ### Response timeouts -/

/-- Resetting the rate scan arms no time. -/
theorem rearms_resetRateScan (env : Env) (w : World) :
  Rearms now w.port (resetRateScan env w).1.port
  := by
  apply KeepsTimes.rearms
  apply keepsTimes_of_after (f := resetRateScan env)
  · intro t l w
    apply resetRateScan_after
  · exact config_of_portPath (K := .reference) (portPath_refl w).resetRateScan.1

/-- A step of the startup with its send gate. -/
theorem rearms_step (step : StartupStep) {delay : UInt32}
    (hdelay : delay.toNat ≤ longestWait w.port.config) :
  Rearms now w.port ((w.setStep step).put (armSendGate (w.setStep step).port now delay true)).port
  := by
  have hstep : Rearms now w.port (w.setStep step).port :=
    KeepsTimes.rearms ⟨rfl, rfl, rfl, id, rfl, rfl, rfl⟩
  exact hstep.arm hdelay

/-- The delay of a wake-up is within the longest wait. -/
theorem tDwu100us_le (p : PortState) :
  (tDwu100us p).toNat ≤ longestWait p.config
  := by
  have hle := le_longestWait p.config
  have hdefault : (400 : UInt32).toNat = 400 := rfl
  rw [tDwu100us]
  split <;> omega

/-- The spacing of wake-up sequences is within the longest wait. -/
theorem tSd100us_le (p : PortState) :
  (tSd100us p).toNat ≤ longestWait p.config
  := by
  have hle := le_longestWait p.config
  have hdefault : (5000 : UInt32).toNat = 5000 := rfl
  rw [tSd100us]
  split <;> omega

/-- Going on with the next rate arms the gate only. -/
theorem rearms_nextRate (env : Env) (w : World) :
  Rearms now w.port (nextRate env now true w).1.port
  := by
  simp only [nextRate, initStep]
  split
  · exact KeepsTimes.rearms ⟨rfl, rfl, rfl, id, rfl, rfl, rfl⟩
  · apply rearms_step (w := (setBaudrate env w (startupBaudrate w.port)).1)
    have hle := le_longestWait (setBaudrate env w (startupBaudrate w.port)).1.port.config
    exact (tDmt100us_le _ _).trans (by omega)

/-- Going on with the next sequence arms the gate only. -/
theorem rearms_nextSequence (env : Env) (w : World) :
  Rearms now w.port (nextSequence env now true w).1.port
  := by
  simp only [nextSequence, initStep]
  split
  · exact KeepsTimes.rearms ⟨rfl, rfl, rfl, id, rfl, rfl, rfl⟩
  · apply rearms_step (w := (setMode env w .inactive).1)
    exact tSd100us_le w.port

/-- Going on with the next wake-up arms the gate only. -/
theorem rearms_nextWake (env : Env) (w : World) :
  Rearms now w.port (nextWake env now true w).1.port
  := by
  have hscan : Rearms now w.port (resetRateScan env w).1.port := rearms_resetRateScan env w
  simp only [nextWake, initStep]
  split
  · exact hscan.kept ⟨rfl, rfl, rfl, id, rfl, rfl, rfl⟩
  · apply hscan.trans
    split
    · apply rearms_step
      exact tDwu100us_le _
    · refine Rearms.trans ?_ (rearms_nextSequence env _)
      exact KeepsTimes.rearms ⟨rfl, rfl, rfl, id, rfl, rfl, rfl⟩

/-- A failed attempt arms the gate only. -/
theorem rearms_establishAttemptFailed (env : Env) (w : World) :
  Rearms now w.port (establishAttemptFailed env w now true).1.port
  := by
  have hbranches := congrFun (congrFun (congrFun (establishAttemptFailed_branches env) now) true) w
  rw [show establishAttemptFailed env w now true = _ from hbranches]
  split
  · refine Rearms.trans ?_ (rearms_nextRate env _)
    exact KeepsTimes.rearms ⟨rfl, rfl, rfl, fun h => by contradiction, rfl, rfl, rfl⟩
  · refine Rearms.trans ?_ (rearms_nextWake env _)
    exact KeepsTimes.rearms ⟨rfl, rfl, rfl, fun h => by contradiction, rfl, rfl, rfl⟩

/-- Restarting communication arms the gate only. -/
theorem rearms_restartEstablish (env : Env) (w : World) :
  Rearms now w.port (restartEstablish env w now true).1.port
  := by
  have hlost : Rearms now w.port w.lost.port :=
    KeepsTimes.rearms ⟨rfl, rfl, rfl, fun h => by contradiction, rfl, rfl, rfl⟩
  have hscan := hlost.trans (rearms_resetRateScan env w.lost)
  rw [restartEstablish_lost, initStep]
  split
  · exact hscan.kept ⟨rfl, rfl, rfl, id, rfl, rfl, rfl⟩
  · exact hscan.arm (tDwu100us_le _)

/-- A failed M-sequence of OPERATE arms the gate only. -/
theorem rearms_operateTimeout (env : Env) (w : World) :
  Rearms now w.port (operateTimeout env w now true).1.port
  := by
  simp only [operateTimeout]
  split
  · exact KeepsTimes.rearms ⟨rfl, rfl, rfl, id, rfl, rfl, rfl⟩
  · refine Rearms.trans ?_ (rearms_restartEstablish env _)
    exact KeepsTimes.rearms ⟨rfl, rfl, rfl, id, rfl, rfl, rfl⟩

/-- A response timeout arms the gate only. -/
theorem rearms_onTimeoutAt (env : Env) (w : World) :
  Rearms now w.port (onTimeoutAt env w now true).1.port
  := by
  have hnoted : ∀ o, Rearms now w.port ((flushRx env w).1.emit o).port :=
    fun _ => rearms_flushRx env w
  rw [onTimeoutAt]
  dsimp only
  generalize Obs.timeout (flushRx env w).1.port.state
    (!true || decide (now ≥ w.port.responseDeadline100us)) = o
  split
  · exact (hnoted o).kept ⟨rfl, rfl, rfl, id, rfl, rfl, rfl⟩
  · split
    · split
      · exact hnoted o
      · exact (hnoted o).trans (rearms_establishAttemptFailed env _)
    · exact (hnoted o).trans (rearms_operateTimeout env _)
    all_goals exact hnoted o

/-- The response timeout of a tick arms the gate only. -/
theorem rearms_tickTimeout (env : Env) (w : World) :
  Rearms now w.port (tickTimeout env w now true).1.port
  := by
  simp only [tickTimeout]
  refine Rearms.trans ?_ (rearms_onTimeoutAt env _)
  split
  · exact (rearms_flushRx env w).kept ⟨rfl, rfl, rfl, fun h => by contradiction, rfl, rfl, rfl⟩
  · exact KeepsTimes.rearms ⟨rfl, rfl, rfl, fun h => by contradiction, rfl, rfl, rfl⟩

/-! ### Slots -/

/-- A wake-up arms the gate only. -/
theorem rearms_processWake (env : Env) (w : World) :
  Rearms now w.port (processWake env w now true).port
  := by
  have hwoken : Rearms now w.port (wakeUp env w).1.port := by
    apply KeepsTimes.rearms
    apply keepsTimes_of_after (f := wakeUp env)
    · intro t l w
      apply wakeUp_after
    · exact config_of_portPath (K := .reference) (portPath_refl w).wakeUp
  simp only [processWake]
  split
  · apply hwoken.trans
    apply rearms_step
    have hle := le_longestWait (wakeUp env w).1.port.config
    have htest := tDmt100us_le ((wakeUp env w).1.setStep .sendType0).port
      (startupBaudrate ((wakeUp env w).1.setStep .sendType0).port)
    rw [UInt32.toNat_add]
    refine (Nat.mod_le _ _).trans ?_
    have hfive : (5 : UInt32).toNat = 5 := rfl
    omega
  · exact hwoken

/-- Sending a frame arms no time. -/
theorem rearms_sendFull (env : Env) (w : World) (frame : List UInt8) :
  Rearms now w.port (sendFull env w frame).1.port
  := by
  have hcases := sendFull_cases env w frame
  revert hcases
  generalize sendFull env w frame = r
  rintro (_ | _ | _)
  all_goals exact KeepsTimes.rearms ⟨rfl, rfl, rfl, id, rfl, rfl, rfl⟩

/-- A test message arms its deadline. -/
theorem rearms_processTest (env : Env) (w : World) :
  Rearms now w.port (processTest K env w now true).port
  := by
  have hsent : Rearms now w.port (sendFull env w (testMessage K)).1.port :=
    rearms_sendFull env w (testMessage K)
  simp only [processTest]
  split
  · exact .refl _
  · split
    · apply hsent.trans
      refine ⟨rfl, fun hvalid => .inl ⟨hvalid, rfl⟩, fun _ => .inr ⟨_, ?_, rfl⟩,
        fun hvalid => .inl ⟨hvalid, rfl⟩⟩
      have hle := le_longestWait (sendFull env w (testMessage K)).1.port.config
      exact (testMessageTimeout100us_le _).trans (by omega)
    · exact hsent

/-- A slot in STARTUP arms the gate or a deadline. -/
theorem rearms_processStartup (env : Env) (w : World) :
  Rearms now w.port (processStartup K env w now true).port
  := by
  have hset : Rearms now w.port ((setMode env w .sdci).1.setStep .wake).port :=
    KeepsTimes.rearms ⟨rfl, rfl, rfl, id, rfl, rfl, rfl⟩
  simp only [processStartup]
  split
  · split
    · exact KeepsTimes.rearms ⟨rfl, rfl, rfl, id, rfl, rfl, rfl⟩
    · exact hset.trans (rearms_processWake env _)
  · exact rearms_processWake env w
  · exact rearms_processTest env w
  all_goals exact .refl _

/-- Processing a slot arms the gate or a deadline. -/
theorem rearms_processAt (hK : K.Lawful) (env : Env) (w : World) :
  Rearms now w.port (processAt K env w now true).port
  := by
  have hconfig : (processAt K env w now true).port.config = w.port.config :=
    config_of_portPath ((portPath_refl w).processAt hK now true)
  revert hconfig
  rw [processAt]
  split
  · intro _
    exact .refl _
  · cases w.port.state with
    | startup =>
        intro _
        exact rearms_processStartup env w
    | preoperate =>
        intro hconfig
        apply KeepsTimes.rearms
        apply keepsTimes_of_map (f := fun w => processPreoperate K env w) (w := w.openSlot) _ hconfig
        intro t l w
        apply processPreoperate_after
    | operate =>
        intro hconfig
        apply KeepsTimes.rearms
        apply keepsTimes_of_map (f := fun w => processOperate K env w) (w := w.openSlot) _ hconfig
        intro t l w
        apply processOperate_after
    | inactive | error =>
        intro _
        exact .refl _

/-- An executed cycle stores its start and its deadline. -/
theorem rearms_processSlot (hK : K.Lawful) (env : Env) (w : World) :
  Rearms now w.port (processSlot K env w now true).port
  := by
  have hslot : Rearms now w.port (processAt K env w now true).port := rearms_processAt hK env w
  rcases processSlot_armed K env w now with ⟨heq, -⟩ | ⟨deadline, heq, -⟩
  · rw [heq]
    exact hslot
  · rw [heq, armCycle_eq]
    apply hslot.trans
    refine ⟨rfl, fun hvalid => .inl ⟨hvalid, rfl⟩, fun _ => .inr ⟨_, ?_, rfl⟩, fun _ => .inr rfl⟩
    have hle := le_longestWait (processAt K env w now true).port.config
    exact (responseTimeout100us_le _).trans (by omega)

/-- A tick keeps the times in force or stores them anew. -/
theorem rearms_tickAt (hK : K.Lawful) (env : Env) (w : World) (event : TickEvent) :
  Rearms now w.port (tickAt K env w event now).1.port
  := by
  have hpoll : Rearms now w.port (pollRx K env (w.emit (.tick now))).1.port :=
    rearms_pollRx env (w.emit (.tick now))
  rcases tickCommon_cases K env (w.emit (.tick now)) event true now
    with heq | ⟨-, -, heq⟩ | ⟨-, -, heq⟩
  · rw [tickAt, heq]
    exact hpoll
  · rw [tickAt, heq]
    exact hpoll.trans (rearms_tickTimeout env _)
  · rw [tickAt, heq]
    exact hpoll.trans (rearms_processSlot hK env _)

end

/-! ### Windows of the clock -/

/-- A call within the window from `first` to `last`: a timed call whose waits end in it, or a service
call. -/
def Within (config : Config) (first last : Nat) : Call → Prop
  | .tickAt _ now | .controllerTickAt now =>
    first ≤ now.toNat ∧ now.toNat + longestWait config ≤ last
  | .service _ => True
  | _ => False

/-- The clock wraps around neither within the window from `first` to `last` nor within the one that
is `c` later. -/
structure Unbroken (c : UInt32) (first last : Nat) : Prop where
  window : last < CLOCK_RANGE
  shifted : last + c.toNat < CLOCK_RANGE ∨ CLOCK_RANGE ≤ first + c.toNat

/-- The times in force are in the window from `first` to `last`. -/
structure Windowed (config : Config) (first last : Nat) (p : PortState) : Prop where
  configured : p.config = config
  gate : p.sendReadyValid = true →
    first ≤ p.sendReadyAt100us.toNat ∧ p.sendReadyAt100us.toNat ≤ last
  deadline : p.awaitingResponse = true →
    first ≤ p.responseDeadline100us.toNat ∧ p.responseDeadline100us.toNat ≤ last
  cycle : p.cycleTimerValid = true →
    first ≤ p.lastCycleStart100us.toNat ∧ p.lastCycleStart100us.toNat + longestWait config ≤ last

section

variable {config : Config} {c now : UInt32} {first last : Nat} {p q : PortState}

/-- A wait after a time that is early enough ends in the window. -/
theorem windowed_wait {delay : UInt32} (hlast : last < CLOCK_RANGE) (hfirst : first ≤ now.toNat)
    (hnow : now.toNat + longestWait config ≤ last) (hdelay : delay.toNat ≤ longestWait config) :
  first ≤ (now + delay).toNat ∧ (now + delay).toNat ≤ last
  := by
  rw [toNat_add (by omega)]
  omega

/-- Times armed within the window stay in it. -/
theorem Windowed.rearms (h : Windowed config first last p) (hlast : last < CLOCK_RANGE)
    (hfirst : first ≤ now.toNat) (hnow : now.toNat + longestWait config ≤ last)
    (harms : Rearms now p q) :
  Windowed config first last q
  := by
  obtain ⟨hconfig, hgate, hdeadline, hcycle⟩ := harms
  rw [h.configured] at hgate hdeadline
  refine ⟨hconfig.trans h.configured, ?_, ?_, ?_⟩
  · intro hvalid
    rcases hgate hvalid with ⟨hkept, heq⟩ | ⟨delay, hdelay, heq⟩
    · rw [heq]
      exact h.gate hkept
    · rw [heq]
      exact windowed_wait hlast hfirst hnow hdelay
  · intro hvalid
    rcases hdeadline hvalid with ⟨hkept, heq⟩ | ⟨delay, hdelay, heq⟩
    · rw [heq]
      exact h.deadline hkept
    · rw [heq]
      exact windowed_wait hlast hfirst hnow hdelay
  · intro hvalid
    rcases hcycle hvalid with ⟨hkept, heq⟩ | heq
    · rw [heq]
      exact h.cycle hkept
    · rw [heq]
      exact ⟨hfirst, hnow⟩

/-- Times that are kept stay in the window. -/
theorem Windowed.kept (h : Windowed config first last p) (hkept : KeepsTimes p q) :
  Windowed config first last q
  := by
  refine ⟨hkept.config.trans h.configured, ?_, ?_, ?_⟩
  · rw [hkept.gateValid, hkept.gate]
    exact h.gate
  · intro hvalid
    rw [hkept.deadline]
    exact h.deadline (hkept.waiting hvalid)
  · rw [hkept.cycleValid, hkept.cycle]
    exact h.cycle

/-- Times of an unbroken window wrap around together. -/
theorem Unbroken.together (h : Unbroken c first last) {s t : UInt32}
    (hs : first ≤ s.toNat ∧ s.toNat ≤ last) (ht : first ≤ t.toNat ∧ t.toNat ≤ last) :
  WrapTogether c s t
  := by
  have hshifted := h.shifted
  rw [WrapTogether, Clock.Carries, Clock.Carries]
  omega

end

/-! ### Whole runs -/

/-- The calls with their times shifted by `c`. -/
def shiftCalls (c : UInt32) (calls : List (Env × Call)) : List (Env × Call) :=
  calls.map fun call => (call.1, call.2.shift c)

section

variable {K : Iolinki} {env : Env} {config : Config} {c now : UInt32} {first last : Nat}
  {w w' : World}

/-- No comparison of a call in the window is decided by a wrap-around. -/
theorem Windowed.comparable (h : Windowed config first last w.port) (hc : Unbroken c first last)
    {call : Call} (hcall : Within config first last call) :
  Comparable c env w call
  := by
  have htogether : ∀ {now t : UInt32}, first ≤ now.toNat ∧ now.toNat + longestWait config ≤ last →
      first ≤ t.toNat ∧ t.toNat ≤ last → WrapTogether c now t := by
    intro now t hnow ht
    exact hc.together ⟨hnow.1, by omega⟩ ht
  cases call with
  | tickAt event now =>
      intro _ hvalid
      exact htogether hcall (h.gate hvalid)
  | controllerTickAt now =>
      constructor
      · intro hwaiting
        exact htogether hcall (h.deadline hwaiting)
      · intro _ hvalid
        exact htogether hcall (h.gate hvalid)
  | service call => trivial
  | tickEvent | process | pollRx | onRx | onTimeout | restart | setPortMode => contradiction

/-- A call in the window leaves the times in force in it. -/
theorem Windowed.runCall (hK : K.Lawful) (h : Windowed config first last w.port)
    (hc : Unbroken c first last) {call : Call} (hcall : Within config first last call) :
  Windowed config first last (runCall K env w call).port
  := by
  cases call with
  | tickAt event now => exact h.rearms hc.window hcall.1 hcall.2 (rearms_tickAt hK env w event)
  | controllerTickAt now => exact h.rearms hc.window hcall.1 hcall.2 (rearms_tickAt hK env w _)
  | service call => exact h.kept (keepsTimes_service w call)
  | tickEvent | process | pollRx | onRx | onTimeout | restart | setPortMode => contradiction

/-- A call does the same in both runs. -/
theorem shifted_runCall (h : Shifted c w w') {call : Call} (hcall : Comparable c env w call) :
  Shifted c (runCall K env w call) (runCall K env w' (call.shift c)) ∧
    callResult K env w' (call.shift c) = callResult K env w call
  := by
  cases call with
  | tickAt event now => exact shifted_tickAt h hcall
  | controllerTickAt now =>
      obtain ⟨hdue, hgate⟩ := hcall
      exact shifted_controllerTickAt h hdue hgate
  | service call =>
      refine ⟨?_, rfl⟩
      apply h.map (f := fun w => runService w call)
      intro t l w
      apply runService_after
  | tickEvent | process | pollRx | onRx | onTimeout | restart | setPortMode => contradiction

/-- A run in the window and the same run `c` later. -/
theorem shifted_run (hK : K.Lawful) (hc : Unbroken c first last) (h : Shifted c w w')
    (hw : Windowed config first last w.port) (calls : List (Env × Call))
    (hcalls : ∀ call ∈ calls, Within config first last call.2) :
  results K w' (shiftCalls c calls) = results K w calls ∧
    Shifted c (run K w calls) (run K w' (shiftCalls c calls)) ∧
    Windowed config first last (run K w calls).port
  := by
  induction calls generalizing w w' with
  | nil =>
      rw [shiftCalls, List.map_nil, run_nil, run_nil]
      exact ⟨rfl, h, hw⟩
  | cons call calls ih =>
      have hcall := hcalls call List.mem_cons_self
      obtain ⟨hshifted, hresult⟩ := shifted_runCall (K := K) h
        (hw.comparable hc hcall : Comparable c call.1 w call.2)
      obtain ⟨hresults, hrun⟩ := ih hshifted (hw.runCall hK hc hcall) fun later hlater =>
        hcalls later (List.mem_cons_of_mem _ hlater)
      rw [shiftCalls, List.map_cons, run_cons, run_cons]
      refine ⟨?_, hrun⟩
      rw [results, results]
      exact congrArg₂ List.cons hresult hresults

/-! ### The next useful tick -/

/-- The later one of two times that wrap around together. -/
theorem WrapTogether.later {s t : UInt32} (h : WrapTogether c s t) :
  (if s + c ≥ t + c then s + c else t + c) = (if s ≥ t then s else t) + c
  := by
  by_cases hle : s ≥ t
  · rw [if_pos hle, if_pos (h.ge_iff.mpr hle)]
  · rw [if_neg hle, if_neg (mt h.ge_iff.mp hle)]

/-- The time of the next useful tick is shifted with the run. -/
theorem getNextTickTime_shift (hc : Unbroken c first last) (h : Shifted c w w')
    (hw : Windowed config first last w.port) (hfirst : first ≤ now.toNat) (hlast : now.toNat ≤ last) :
  getNextTickTime w'.port (now + c) = getNextTickTime w.port now + c
  := by
  have hstate : w'.port.state = w.port.state := h.same fun _ _ _ _ => rfl
  have hawaiting : w'.port.awaitingResponse = w.port.awaitingResponse :=
    h.same (f := PortState.awaitingResponse) fun _ _ _ _ => rfl
  have hvalid : w'.port.sendReadyValid = w.port.sendReadyValid :=
    h.same (f := PortState.sendReadyValid) fun _ _ _ _ => rfl
  have hconfig : w'.port.config = w.port.config := h.same fun _ _ _ _ => rfl
  rw [getNextTickTime, getNextTickTime, hstate, hawaiting, hvalid, hconfig, cyclePaced_shift h]
  split
  · rfl
  · cases hwaiting : w.port.awaitingResponse with
    | true =>
        have hstored := h.deadline
        rw [hwaiting] at hstored
        rw [if_pos rfl, if_pos rfl, hstored.stored]
        exact (hc.together ⟨hfirst, hlast⟩ (hw.deadline hwaiting)).later
    | false =>
        rw [if_neg Bool.false_ne_true, if_neg Bool.false_ne_true]
        have hgated : (w.port.state = .startup ∧ w.port.sendReadyValid = true ∧
              now + c < w'.port.sendReadyAt100us) ↔
            (w.port.state = .startup ∧ w.port.sendReadyValid = true ∧
              now < w.port.sendReadyAt100us) := by
          apply and_congr_right
          intro _
          apply and_congr_right
          intro hready
          have hstored := h.gate
          rw [hready] at hstored
          rw [hstored.stored]
          exact (hc.together ⟨hfirst, hlast⟩ (hw.gate hready)).lt_iff
        rw [if_congr hgated rfl rfl]
        split
        · next hready =>
          have hstored := h.gate
          rw [hready.2.1] at hstored
          rw [hstored.stored]
        · cases hpaced : cyclePaced w.port with
          | false => rfl
          | true =>
              have htimer : w.port.cycleTimerValid = true := by
                rw [cyclePaced, Bool.and_eq_true] at hpaced
                exact hpaced.2
              have hstored := h.cycle
              rw [htimer] at hstored
              obtain ⟨hstart, hend⟩ := hw.cycle htimer
              -- The cycle time is an octet, which no wait is shorter than.
              have hcycle : w.port.config.minCycleTime.toUInt32.toNat ≤ longestWait config := by
                have hle := le_longestWait config
                have hoctet := w.port.config.minCycleTime.toNat_lt
                rw [UInt8.toNat_toUInt32]
                omega
              simp only [Bool.not_true, Bool.false_eq_true, if_false]
              rw [hstored.stored, shift_add]
              exact (hc.together ⟨hfirst, hlast⟩
                (windowed_wait hc.window hstart hend hcycle)).later

/-! ### Runs from the initialization on -/

/-- An initialized port stores no times. -/
theorem started_stamps (env : Env) (phy : PhyApi) (config : Config) :
  (started env phy config).port.stamps = ⟨0, false, 0, false, 0, false⟩ ∧
    (started env phy config).port.config = config
  := by
  have hkept : ∀ v : World, (initPhy env v).1.port.stamps = v.port.stamps ∧
      (initPhy env v).1.port.config = v.port.config := by
    intro v
    simp only [initPhy, initStep, setMode, setBaudrate, flushRx_fst]
    repeat' split
    all_goals exact ⟨rfl, rfl⟩
  rw [started, initPort]
  split
  · exact ⟨rfl, rfl⟩
  · dsimp only
    split
    · exact ⟨rfl, rfl⟩
    · exact hkept _

/-- A port that stores no times is the same port at every time. -/
theorem shifted_unstored (h : w.port.stamps = ⟨0, false, 0, false, 0, false⟩) :
  Shifted c w w
  := by
  have hstamps : StampsShifted c w.port.stamps w.port.stamps := by
    rw [h]
    exact ⟨rfl, rfl, rfl, .inr ⟨rfl, rfl, rfl⟩, .inr ⟨rfl, rfl, rfl⟩, .inr ⟨rfl, rfl, rfl⟩⟩
  have hshifted : Shifted c (w.fresh.after w.port.stamps w.log) (w.fresh.after w.port.stamps w.log) :=
    shifted_after _ hstamps rfl
  rw [fresh_after] at hshifted
  exact hshifted

/-- A port that stores no times has none outside of a window. -/
theorem windowed_unstored {p : PortState} (hconfig : p.config = config)
    (h : p.stamps = ⟨0, false, 0, false, 0, false⟩) :
  Windowed config first last p
  := by
  have hgate : p.sendReadyValid = false := congrArg Stamps.gateValid h
  have hdeadline : p.awaitingResponse = false := congrArg Stamps.waiting h
  have hcycle : p.cycleTimerValid = false := congrArg Stamps.cycleValid h
  refine ⟨hconfig, ?_, ?_, ?_⟩
  · rw [hgate]
    exact fun hvalid => absurd hvalid Bool.false_ne_true
  · rw [hdeadline]
    exact fun hvalid => absurd hvalid Bool.false_ne_true
  · rw [hcycle]
    exact fun hvalid => absurd hvalid Bool.false_ne_true

/-- Every run, with any service calls between its ticks, does the same `c` later, if the clock wraps
around neither from its first tick to the end of the longest wait after its last one nor in the same
time `c` later: the same values are returned and the same is observed, the times the port stores are
`c` later, and so is the time of the next useful tick. -/
theorem clock_shift (hK : K.Lawful) (env : Env) (phy : PhyApi) (config : Config)
    (hc : Unbroken c first last) (calls : List (Env × Call))
    (hcalls : ∀ call ∈ calls, Within config first last call.2) :
  results K (started env phy config) (shiftCalls c calls)
      = results K (started env phy config) calls ∧
    Shifted c (run K (started env phy config) calls)
      (run K (started env phy config) (shiftCalls c calls)) ∧
    ∀ now : UInt32, first ≤ now.toNat → now.toNat ≤ last →
      getNextTickTime (run K (started env phy config) (shiftCalls c calls)).port (now + c)
        = getNextTickTime (run K (started env phy config) calls).port now + c
  := by
  obtain ⟨hstamps, hconfig⟩ := started_stamps env phy config
  obtain ⟨hresults, hrun, hend⟩ := shifted_run hK hc (shifted_unstored hstamps)
    (windowed_unstored hconfig hstamps) calls hcalls
  exact ⟨hresults, hrun, fun now hfirst hlast => getNextTickTime_shift hc hrun hend hfirst hlast⟩

end

/-- The ticks that lead to PREOPERATE do so as well at the end of the clock. -/
theorem clock_shift_connecting :
  (run .reference (started (.quiet []) .full (.bare .type2_1 1 1))
    (shiftCalls 4294960000 connecting)).port.state = .preoperate
  := by
  have hc : Unbroken 4294960000 0 6000 := ⟨by decide, by decide⟩
  have hcalls : ∀ call ∈ connecting, Within (.bare .type2_1 1 1) 0 6000 call.2 := by
    intro call hcall
    simp only [connecting, List.mem_cons, List.not_mem_nil, or_false] at hcall
    rcases hcall with rfl | rfl | rfl
    · exact ⟨by decide, by decide⟩
    · exact ⟨by decide, by decide⟩
    · exact ⟨by decide, by decide⟩
  obtain ⟨-, hshifted, -⟩ := clock_shift Iolinki.lawful_reference (.quiet []) .full
    (.bare .type2_1 1 1) hc connecting hcalls
  rw [hshifted.same (f := PortState.state) fun _ _ _ _ => rfl]
  decide +kernel

end IolinkMaster
