import IolinkMaster.Comlost

/-!
# The wake-up procedure

What a port does until a device answers: each wake-up is followed by one test message at each
rate, the wake-ups of a sequence and the sequences themselves are spaced, and between two
sequences the line is inactive.  The waits are kept as long as the sums of times the port
computes do not exceed its clock.
-/

namespace IolinkMaster

/-! ### The demands on a run -/

/-- The ready-enable time after a wake-up. -/
def T_REN_MAX_100US : Nat := 5

/-- The rates at which a device is searched, in order. -/
def testRates (config : Config) : List Baudrate :=
  if config.autoBaudrate then baudrateScan else [config.baudrate]

/-- The rate of the test message number `i` of a wake-up. -/
def testRate (config : Config) (i : Nat) : Baudrate := (testRates config).getD i config.baudrate

/-- The rate of the last test message of a wake-up. -/
def lastRate (config : Config) : Baudrate := testRate config ((testRates config).length - 1)

/-- T_DMT at a rate. -/
def testDelay (config : Config) (rate : Baudrate) : Nat :=
  (tbitTo100us rate (if config.tDmtTbit = 0 then 32 else config.tDmtTbit.toNat)).toNat

/-- The answer window of a test message at a rate. -/
def answerWindow (config : Config) (rate : Baudrate) : Nat :=
  let window := tbitTo100us rate 58
  let configured := config.responseTimeout100us.toUInt32
  let window := if configured > window then configured else window
  (if window = 0 then 1 else window).toNat

/-- n_WU, the number of repetitions of a wake-up. -/
def wakeRepeats (config : Config) : Nat :=
  (if config.wakeRetryLimit = 0 then 2 else config.wakeRetryLimit).toNat

/-- T_DWU. -/
def wakeDelay (config : Config) : Nat :=
  (if config.tDwu100us = 0 then 400 else config.tDwu100us).toNat

/-- T_SD. -/
def sequenceDelay (config : Config) : Nat :=
  (if config.tSd100us = 0 then 5000 else config.tSd100us).toNat

/-- How far a run has come: the time of its last tick, the mode and the rate of the line, the
number of wake-ups since the line was last set inactive, the number of test messages since the
last wake-up, and the time of the last wake-up, test message or deactivation of the line. -/
structure Progress where
  clock : Nat
  mode : Option PhyMode
  rate : Option Baudrate
  wakes : Nat
  tests : Nat
  since : Option Nat
  deriving DecidableEq, Repr

namespace Progress

/-- Nothing has happened. -/
def zero : Progress := ⟨0, none, none, 0, 0, none⟩

/-- The device is woken up. -/
def wake (g : Progress) : Progress :=
  { g with wakes := g.wakes + 1, tests := 0, since := some g.clock }

/-- A test message is sent. -/
def test (g : Progress) : Progress := { g with tests := g.tests + 1, since := some g.clock }

/-- What an observation adds. -/
def observe (g : Progress) : Obs → Progress
  | .tick now => { g with clock := now.toNat }
  | .setMode mode =>
    if mode = .inactive then
      { g with mode := some mode, wakes := 0, tests := 0, since := some g.clock }
    else { g with mode := some mode }
  | .setBaudrate rate => { g with rate := some rate }
  | .wakeUp => g.wake
  | .sent _ frame => if frame = [WAKEUP_BYTE] then g.wake else g.test
  | _ => g

theorem observe_sent_wake (g : Progress) (state : MasterState) :
  g.observe (.sent state [WAKEUP_BYTE]) = g.wake
  := by
  unfold observe
  apply if_pos rfl

theorem observe_sent_test (g : Progress) (state : MasterState) {frame : List UInt8}
    (hframe : frame ≠ [WAKEUP_BYTE]) :
  g.observe (.sent state frame) = g.test
  := by
  unfold observe
  apply if_neg hframe

/-- At least `delay` has passed since the last wake-up, test message or deactivation. -/
def Elapsed (g : Progress) (delay : Nat) : Prop := ∀ t ∈ g.since, t + delay ≤ g.clock

instance (g : Progress) (delay : Nat) : Decidable (g.Elapsed delay) :=
  inferInstanceAs (Decidable (∀ t ∈ g.since, _))

end Progress

/-- How far a run has come with the observations `log`. -/
def progress : List Obs → Progress
  | [] => .zero
  | o :: log => (progress log).observe o

/-- The wait before the test message number `i` of a wake-up: T_REN and T_DMT after the
wake-up, T_DMT after the answer window of the test message before. -/
def testLead (config : Config) : Nat → Nat
  | 0 => T_REN_MAX_100US + testDelay config (testRate config 0)
  | i + 1 => answerWindow config (testRate config i) + testDelay config (testRate config (i + 1))

/-- A wake-up is due: the line is in SDCI; the first one of a sequence comes T_SD after the line
was set inactive, a repeated one T_DWU after the answer window of the last test message. -/
structure WakeUpDue (config : Config) (g : Progress) : Prop where
  mode : g.mode = some .sdci
  first : g.wakes = 0 → g.Elapsed (sequenceDelay config)
  repeated : 0 < g.wakes → g.wakes ≤ wakeRepeats config ∧
    g.tests = (testRates config).length ∧
    g.Elapsed (answerWindow config (lastRate config) + wakeDelay config)

/-- A test message is due: the line is in SDCI and set to its rate, the device has been woken up
and not been tested at this rate since, and the wait before the message is over. -/
structure TestDue (config : Config) (g : Progress) : Prop where
  mode : g.mode = some .sdci
  rate : g.rate = some (testRate config g.tests)
  woken : 0 < g.wakes
  untested : g.tests < (testRates config).length
  elapsed : g.Elapsed (testLead config g.tests)

/-- The line may be set inactive: all wake-ups of a sequence have failed at all rates. -/
structure SequenceFailed (config : Config) (g : Progress) : Prop where
  wakes : g.wakes = wakeRepeats config + 1
  tests : g.tests = (testRates config).length
  elapsed : g.Elapsed (answerWindow config (lastRate config))

/-- An observation fits the wake-up procedure; frames other than wake-ups and test messages do
not. -/
def Establishes (K : Iolinki) (config : Config) (log : List Obs) : Obs → Prop
  | .wakeUp => WakeUpDue config (progress log)
  | .sent _ frame =>
    if frame = [WAKEUP_BYTE] then WakeUpDue config (progress log)
    else frame = testMessage K ∧ TestDue config (progress log)
  | .setMode mode => mode = .inactive → SequenceFailed config (progress log)
  | _ => True

/-- The wait a failed test message leads to. -/
def timeoutDelay (config : Config) (g : Progress) : Nat :=
  if g.tests < (testRates config).length then testDelay config (testRate config g.tests)
  else if g.wakes ≤ wakeRepeats config then wakeDelay config
  else sequenceDelay config

/-- The number of values of the 8-bit count of wake-ups. -/
def WAKE_RANGE : Nat := 256

/-- The times computed at an observation do not exceed the clock, and the count of wake-ups does
not overflow. -/
def Countable (config : Config) (log : List Obs) : Obs → Prop
  | .wakeUp => (progress log).clock + testLead config 0 < CLOCK_RANGE
  | .sent _ frame =>
    if frame = [WAKEUP_BYTE] then (progress log).clock + testLead config 0 < CLOCK_RANGE
    else (progress log).clock + answerWindow config (testRate config (progress log).tests)
      < CLOCK_RANGE
  | .timeout _ _ =>
    (progress log).clock + timeoutDelay config (progress log) < CLOCK_RANGE ∧
      ((progress log).tests = (testRates config).length → (progress log).wakes < WAKE_RANGE)
  | _ => True

instance (config : Config) (g : Progress) : Decidable (WakeUpDue config g) :=
  decidable_of_iff (g.mode = some .sdci ∧ (g.wakes = 0 → g.Elapsed (sequenceDelay config)) ∧
      (0 < g.wakes → g.wakes ≤ wakeRepeats config ∧ g.tests = (testRates config).length ∧
        g.Elapsed (answerWindow config (lastRate config) + wakeDelay config)))
    ⟨fun h => ⟨h.1, h.2.1, h.2.2⟩, fun h => ⟨h.mode, h.first, h.repeated⟩⟩

instance (config : Config) (g : Progress) : Decidable (TestDue config g) :=
  decidable_of_iff (g.mode = some .sdci ∧ g.rate = some (testRate config g.tests) ∧ 0 < g.wakes ∧
      g.tests < (testRates config).length ∧ g.Elapsed (testLead config g.tests))
    ⟨fun h => ⟨h.1, h.2.1, h.2.2.1, h.2.2.2.1, h.2.2.2.2⟩,
      fun h => ⟨h.mode, h.rate, h.woken, h.untested, h.elapsed⟩⟩

instance (config : Config) (g : Progress) : Decidable (SequenceFailed config g) :=
  decidable_of_iff (g.wakes = wakeRepeats config + 1 ∧ g.tests = (testRates config).length ∧
      g.Elapsed (answerWindow config (lastRate config)))
    ⟨fun h => ⟨h.1, h.2.1, h.2.2⟩, fun h => ⟨h.wakes, h.tests, h.elapsed⟩⟩

instance (K : Iolinki) (config : Config) (log : List Obs) :
    DecidablePred (Establishes K config log) := by
  intro o
  apply Obs.casesOn (motive := fun o => Decidable (Establishes K config log o)) o <;> intros <;>
    unfold Establishes <;> infer_instance

instance (config : Config) (log : List Obs) : DecidablePred (Countable config log) := by
  intro o
  apply Obs.casesOn (motive := fun o => Decidable (Countable config log o)) o <;> intros <;>
    unfold Countable <;> infer_instance

/-- The hooks of the environment succeed and frames go out in full. -/
structure Env.Succeeds (env : Env) : Prop extends env.Transmits where
  setMode : env.setMode = STATUS_OK
  setBaudrate : env.setBaudrate = STATUS_OK
  flushRx : env.flushRx = STATUS_OK
  wakeUp : env.wakeUp = STATUS_OK
  recvFails : env.recvFails = false

/-- A tick of a controller whose clock does not go back. -/
def Monotone (_ : Env) (w : World) : Call → Prop
  | .controllerTickAt now => (progress w.log).clock ≤ now.toNat
  | _ => False

instance (env : Env) (w : World) : DecidablePred (Monotone env w) := by
  intro c
  apply Call.casesOn (motive := fun c => Decidable (Monotone env w c)) c <;> intros <;>
    unfold Monotone <;> infer_instance

/-- The calls of a controller whose clock does not go back, to a PHY that works. -/
def controllerTicks (env : Env) (w : World) (c : Call) : Prop := env.Succeeds ∧ Monotone env w c

/-! ### Rates and waits -/

section

variable {config : Config} {p : PortState}

theorem testRates_length :
  (testRates config).length = if config.autoBaudrate then 3 else 1
  := by
  rw [testRates]
  split <;> rfl

/-- The port tests at the rate its index stands for. -/
theorem startupBaudrate_eq (h : p.startup.baudrateIndex < (testRates p.config).length) :
  startupBaudrate p = testRate p.config p.startup.baudrateIndex
  := by
  rw [testRates_length] at h
  rw [startupBaudrate, testRate, testRates]
  cases hauto : p.config.autoBaudrate with
  | true =>
      rw [hauto, if_pos rfl] at h
      simp only [if_true]
      generalize p.startup.baudrateIndex = i at h
      rcases i with _ | _ | _ | i
      · rfl
      · rfl
      · rfl
      · omega
  | false =>
      rw [hauto, if_neg (by simp)] at h
      have hindex : p.startup.baudrateIndex = 0 := by omega
      rw [hindex]
      rfl

theorem testMessageTimeout_eq (h : p.startup.baudrateIndex < (testRates p.config).length) :
  (testMessageTimeout100us p).toNat
    = answerWindow p.config (testRate p.config p.startup.baudrateIndex)
  := by
  rw [← startupBaudrate_eq h]
  rfl

/-- A sum of times that does not exceed the clock. -/
theorem toNat_add {a b : UInt32} (h : a.toNat + b.toNat < CLOCK_RANGE) :
  (a + b).toNat = a.toNat + b.toNat
  := by
  rw [UInt32.toNat_add]
  exact Nat.mod_eq_of_lt h

end

/-! ### The state of the procedure -/

/-- The send gate holds until `delay` after the last wake-up, test message or deactivation. -/
def Held (g : Progress) (p : PortState) (delay : Nat) : Prop :=
  ∀ t ∈ g.since, p.sendReadyValid = true ∧ t + delay ≤ p.sendReadyAt100us.toNat

/-- The step of a port in STARTUP, its counts, its gate and its deadline agree with how far the
run has come. -/
def Stage (config : Config) (g : Progress) (p : PortState) : Prop :=
  match p.startup.step with
  | .wake =>
    g.mode = some .sdci ∧ p.startup.baudrateIndex = 0 ∧ p.startup.wakeAttempts.toNat = g.wakes ∧
      (g.wakes = 0 → g.since = none) ∧
      (0 < g.wakes → g.wakes ≤ wakeRepeats config ∧ g.tests = (testRates config).length ∧
        Held g p (answerWindow config (lastRate config) + wakeDelay config))
  | .sendType0 =>
    g.mode = some .sdci ∧ p.startup.baudrateIndex = g.tests ∧
      p.startup.wakeAttempts.toNat + 1 = g.wakes ∧ g.wakes ≤ wakeRepeats config + 1 ∧
      g.tests < (testRates config).length ∧ Held g p (testLead config g.tests)
  | .awaitResponse =>
    g.mode = some .sdci ∧ p.startup.baudrateIndex + 1 = g.tests ∧
      p.startup.wakeAttempts.toNat + 1 = g.wakes ∧ g.wakes ≤ wakeRepeats config + 1 ∧
      g.tests ≤ (testRates config).length ∧
      ∃ t, g.since = some t ∧ p.responseDeadline100us.toNat
        = t + answerWindow config (testRate config p.startup.baudrateIndex)
  | .inactive =>
    p.startup.baudrateIndex = 0 ∧ p.startup.wakeAttempts = 0 ∧ g.wakes = 0 ∧
      Held g p (sequenceDelay config)
  | .awaitOperateAck => False

/-- A port in STARTUP whose run so far fits the wake-up procedure. -/
structure Establishing (K : Iolinki) (config : Config) (w : World) : Prop where
  configured : w.port.config = config
  state : w.port.state = .startup
  awaiting : w.port.awaitingResponse = true ↔ w.port.startup.step = .awaitResponse
  rx : w.port.rx.length ≤ 1
  rate : (progress w.log).rate = some (startupBaudrate w.port)
  stage : Stage config (progress w.log) w.port
  exact : Trace.Always (Establishes K config) w.log

/-- An observation that is no progress and no valid answer. -/
def Obs.idles : Obs → Bool
  | .tick _ | .setMode _ | .setBaudrate _ | .wakeUp | .sent _ _ | .accept _ _ _ => false
  | _ => true

section

variable {K : Iolinki} {config : Config} {env : Env} {v w : World}

theorem idles_one {o : Obs} (ho : o.idles = true) :
  ∀ o' ∈ [o], o'.idles = true
  := by
  intro o' h
  rw [List.mem_singleton.mp h]
  apply ho

theorem progress_idles {o : Obs} (ho : o.idles = true) (log : List Obs) :
  progress (o :: log) = progress log
  := by
  cases o with
  | tick | setMode | setBaudrate | wakeUp | sent => contradiction
  | _ => rfl

theorem establishes_idles {o : Obs} (ho : o.idles = true) (log : List Obs) :
  Establishes K config log o
  := by
  cases o with
  | tick | setMode | setBaudrate | wakeUp | sent => contradiction
  | _ => trivial

/-- What does not touch the procedure keeps its state. -/
theorem Establishing.quiet (h : Establishing K config w) {os : List Obs}
    (hos : ∀ o ∈ os, o.idles = true) (hlog : v.log = os ++ w.log)
    (hport : ∃ rx d, rx.length ≤ 1 ∧ v.port = { w.port with rx := rx, diagnostics := d }) :
  Establishing K config v
  := by
  obtain ⟨rx, d, hrx, hport⟩ := hport
  have hprogress : progress v.log = progress w.log := by
    rw [hlog]
    apply Trace.unaffected_append (fun o l ho => progress_idles ho l) hos
  constructor
  · rw [hport]
    apply h.configured
  · rw [hport]
    apply h.state
  · rw [hport]
    apply h.awaiting
  · rw [hport]
    apply hrx
  · rw [hprogress, hport]
    apply h.rate
  · rw [hprogress, hport]
    apply h.stage
  · rw [hlog]
    apply Trace.always_append (fun o l ho => establishes_idles ho l) hos h.exact

/-- A tick starts. -/
theorem Establishing.tick (h : Establishing K config w) (now : UInt32) :
  Establishing K config (w.emit (.tick now))
  := ⟨h.configured, h.state, h.awaiting, h.rx, h.rate, h.stage, h.exact, trivial⟩

/-! ### Receiving -/

/-- What a world becomes when octets are received that are no valid answer. -/
def Idled (w v : World) : Prop :=
  ∃ os, (∀ o ∈ os, o.idles = true) ∧ v.log = os ++ w.log ∧
    ∃ rx d, rx.length ≤ max 1 w.port.rx.length ∧
      d.establishFailures = w.port.diagnostics.establishFailures ∧
      v.port = { w.port with rx := rx, diagnostics := d }

theorem Establishing.idled (h : Establishing K config w) (hidled : Idled w v) :
  Establishing K config v
  := by
  obtain ⟨os, hos, hlog, rx, d, hrx, -, hport⟩ := hidled
  exact h.quiet hos hlog ⟨rx, d, hrx.trans (max_le le_rfl h.rx), hport⟩

theorem Idled.refl (w : World) :
  Idled w w
  := ⟨[], by simp, rfl, w.port.rx, w.port.diagnostics, le_max_right _ _, rfl, rfl⟩

/-- What idles after an octet has been received has idled before, too. -/
theorem Idled.received {octet : UInt8 × List Service} (h : Idled (received w [octet]) v)
    (hrx : v.port.rx.length ≤ 1) :
  Idled w v
  := by
  obtain ⟨os, hos, hlog, rx, d, -, hfailures, hport⟩ := h
  rw [hport] at hrx
  refine ⟨os ++ [.recv octet.1], ?_, ?_, rx, d, hrx.trans (le_max_left _ _), hfailures, hport⟩
  · intro o ho
    rcases List.mem_append.mp ho with ho | ho
    · apply hos o ho
    · rw [List.mem_singleton.mp ho]
      rfl
  · rw [hlog, List.append_assoc]
    rfl

/-- A valid answer to the test message has been received. -/
def Answered (w v : World) : Prop := ∃ os data, v.log = os ++ w.log ∧ .accept .startup data none ∈ os

theorem Answered.later {u : World} (h : Answered w v) (hlater : v.log <:+ u.log) :
  Answered w u
  := by
  obtain ⟨os, data, hlog, hmem⟩ := h
  obtain ⟨os', hlog'⟩ := hlater
  refine ⟨os' ++ os, data, ?_, List.mem_append_right _ hmem⟩
  rw [← hlog', hlog, List.append_assoc]

/-- An answer to the test message is refused, rejected or accepted. -/
theorem onRx_answer (env : Env) (handler : List Service) {data : List UInt8} (hne : data ≠ [])
    (hstate : w.port.state = .startup) (hstep : w.port.startup.step = .awaitResponse) :
  (∃ o d ret, ret ≠ STATUS_OK ∧ o.idles = true ∧
      d.establishFailures = w.port.diagnostics.establishFailures ∧
      onRx K env w data handler = (⟨{ w.port with diagnostics := d }, o :: w.log⟩, ret)) ∨
    Answered w (onRx K env w data handler).1
  := by
  have hstep' : ¬ w.port.startup.step ≠ .awaitResponse := not_not.mpr hstep
  rw [onRx, if_neg hne, if_pos hstate, onRxStartup, if_neg hstep']
  split
  · left
    exact ⟨_, w.port.diagnostics, ERR_FRAME, by decide, rfl, rfl, rfl⟩
  · split
    · left
      exact ⟨_, (countChecksumError w).port.diagnostics, ERR_CHECKSUM, by decide, rfl, rfl, rfl⟩
    · right
      refine ⟨[.enter .preoperate, .accept .startup data none], data, ?_, by simp⟩
      rw [← hstate]
      rfl

/-- The buffered octets are dropped. -/
def cleared (w : World) : World := w.put { w.port with rx := [] }

/-- An octet of a poll that completes no reply is buffered. -/
theorem pollLoop_open (env : Env) {expected : Nat} (frames : Nat) (octet : UInt8 × List Service)
    (rest : List (UInt8 × List Service)) (hroom : w.port.rx.length < FRAME_BUF_SIZE) {u : World}
    (hu : u = received w [octet]) (hopen : ¬ expected ≤ u.port.rx.length) :
  pollLoop K env expected w frames (octet :: rest) = pollLoop K env expected u frames rest
  := by
  subst hu
  obtain ⟨byte, handler⟩ := octet
  rw [pollLoop]
  dsimp only
  rw [if_neg (by simpa using hroom)]
  exact if_neg hopen

/-- An octet of a poll that completes a reply has it judged. -/
theorem pollLoop_full (env : Env) {expected : Nat} (frames : Nat) (octet : UInt8 × List Service)
    (rest : List (UInt8 × List Service)) (hroom : w.port.rx.length < FRAME_BUF_SIZE) {u : World}
    (hu : u = received w [octet]) (hfull : expected ≤ u.port.rx.length) {r : World × Int}
    (hr : r = onRx K env u u.port.rx octet.2) :
  pollLoop K env expected w frames (octet :: rest)
    = if r.2 ≠ 0 then (cleared r.1, r.2)
      else pollLoop K env expected (cleared r.1) (frames + 1) rest
  := by
  subst hu hr
  obtain ⟨byte, handler⟩ := octet
  rw [pollLoop]
  dsimp only
  rw [if_neg (by simpa using hroom)]
  exact if_pos hfull

/-- The octets of one poll in STARTUP idle or hold a valid answer. -/
theorem pollLoop_idled (hK : K.Lawful) (henv : env.recvFails = false) (frames : Nat)
    (octets : List (UInt8 × List Service)) (hstate : w.port.state = .startup)
    (hstep : w.port.startup.step = .awaitResponse) (hrx : w.port.rx.length < FRAME_BUF_SIZE) :
  Idled w (pollLoop K env M_SEQ_TYPE0_LEN w frames octets).1 ∨
    Answered w (pollLoop K env M_SEQ_TYPE0_LEN w frames octets).1
  := by
  induction octets generalizing w frames with
  | nil =>
      simp only [pollLoop, henv, Bool.false_eq_true, if_false]
      exact .inl (Idled.refl w)
  | cons octet octets ih =>
      obtain ⟨u, hu⟩ : ∃ u, u = received w [octet] := ⟨_, rfl⟩
      have hlen : u.port.rx.length = w.port.rx.length + 1 := by
        rw [hu]
        simp [received]
      have hidled : ∀ v, Idled u v → v.port.rx.length ≤ 1 → Idled w v := by
        intro v
        rw [hu]
        apply Idled.received
      have hanswered : ∀ v, Answered u v → Answered w v := by
        rintro v ⟨os, data, hlog, hmem⟩
        refine ⟨os ++ [.recv octet.1], data, ?_, List.mem_append_left _ hmem⟩
        rw [hlog, hu, List.append_assoc]
        rfl
      have hstate' : u.port.state = .startup := by
        rw [hu]
        exact hstate
      have hstep' : u.port.startup.step = .awaitResponse := by
        rw [hu]
        exact hstep
      by_cases hfull : M_SEQ_TYPE0_LEN ≤ u.port.rx.length
      · -- The answer is complete.
        have hne : u.port.rx ≠ [] := by
          intro hnil
          rw [hnil] at hlen
          contradiction
        obtain ⟨r, hr⟩ : ∃ r, r = onRx K env u u.port.rx octet.2 := ⟨_, rfl⟩
        rw [pollLoop_full env frames octet octets hrx hu hfull hr]
        rcases onRx_answer (K := K) env octet.2 hne hstate' hstep'
          with ⟨o, d, ret, hret, ho, hfailures, heq⟩ | haccept
        · left
          rw [← hr] at heq
          rw [heq, if_pos (by exact hret)]
          apply hidled _ _ (Nat.zero_le _)
          exact ⟨[o], idles_one ho, rfl, [], d, Nat.zero_le _, hfailures, rfl⟩
        · right
          rw [← hr] at haccept
          apply hanswered
          apply haccept.later
          split
          · apply List.suffix_refl
          · have hpath := pollLoop_path hK env M_SEQ_TYPE0_LEN (frames + 1) (cleared r.1) octets
            exact (extends_receive.path hpath : (cleared r.1).log <:+ _)
      · rw [pollLoop_open env frames octet octets hrx hu hfull]
        have hone : u.port.rx.length ≤ 1 := by
          change ¬ 2 ≤ _ at hfull
          omega
        rcases ih frames hstate' hstep' (hone.trans_lt (by decide)) with hlater | hlater
        · left
          apply hidled _ hlater
          obtain ⟨-, -, -, rx, d, hrx', -, hport⟩ := hlater
          rw [hport]
          exact hrx'.trans (max_le le_rfl hone)
        · right
          apply hanswered _ hlater

/-- A poll in STARTUP idles or receives a valid answer. -/
theorem pollRx_idled (hK : K.Lawful) (henv : env.recvFails = false)
    (hstate : w.port.state = .startup) (hrx : w.port.rx.length < FRAME_BUF_SIZE) :
  Idled w (pollRx K env w).1 ∨ Answered w (pollRx K env w).1
  := by
  by_cases hrecv : w.port.phy.recvByte = true
  · by_cases hstep : w.port.startup.step = .awaitResponse
    · have hexpected : expectedLen w.port = some M_SEQ_TYPE0_LEN := by
        simp only [expectedLen, hstate, hstep, if_true]
      simp only [pollRx, hrecv, hexpected, Bool.not_true, Bool.false_eq_true, if_false]
      apply pollLoop_idled hK henv 0 env.recv hstate hstep hrx
    · have hexpected : expectedLen w.port = none := by
        simp only [expectedLen, hstate, hstep, if_false]
      simp only [pollRx, hrecv, hexpected, Bool.not_true, Bool.false_eq_true, if_false]
      exact .inl (Idled.refl w)
  · simp only [pollRx, hrecv, Bool.not_false, if_true]
    exact .inl (Idled.refl w)

/-! ### Failed test messages -/

/-- A flush that succeeds. -/
theorem flushRx_succeeds (henv : env.Succeeds) (w : World) :
  ∃ os, (∀ o ∈ os, o.idles = true) ∧
    flushRx env w = (⟨{ w.port with rx := [] }, os ++ w.log⟩, STATUS_OK)
  := by
  simp only [flushRx]
  cases hflush : w.port.config.flushRx with
  | true =>
      refine ⟨[.flushRx], idles_one rfl, ?_⟩
      simp [World.put, World.emit, hflush, henv.flushRx]
  | false =>
      refine ⟨[], by simp, ?_⟩
      simp [World.put, hflush]

/-- The line is set to a mode. -/
theorem setMode_succeeds (henv : env.Succeeds) (w : World) (mode : PhyMode) :
  setMode env w mode = (w.emit (.setMode mode), STATUS_OK)
  := by
  simp only [setMode, henv.setMode, ite_self]

/-- The line is set to a rate. -/
theorem setBaudrate_succeeds (henv : env.Succeeds) (w : World) (rate : Baudrate) :
  setBaudrate env w rate = (w.emit (.setBaudrate rate), STATUS_OK)
  := by
  simp only [setBaudrate, henv.setBaudrate, ite_self]

/-- A timeout in STARTUP is the failure of a test message. -/
theorem onTimeoutAt_failed (henv : env.Succeeds) (now : UInt32) (timed : Bool)
    (hstate : w.port.state = .startup) (hstep : w.port.startup.step ≠ .inactive) :
  ∃ os due, (∀ o ∈ os, o.idles = true) ∧
    onTimeoutAt env w now timed
      = establishAttemptFailed env
          ⟨{ w.port with rx := [] }, .timeout .startup due :: (os ++ w.log)⟩ now timed
  := by
  obtain ⟨os, hos, hflush⟩ := flushRx_succeeds henv w
  refine ⟨os, !timed || decide (now ≥ w.port.responseDeadline100us), hos, ?_⟩
  simp only [onTimeoutAt, hflush, ne_eq, not_true_eq_false, if_false, World.emit_port, hstate,
    hstep]
  rfl

/-- A response timeout of a tick in STARTUP is the failure of a test message. -/
theorem tickTimeout_failed (henv : env.Succeeds) (now : UInt32) (pace : Bool)
    (hstate : w.port.state = .startup) (hstep : w.port.startup.step ≠ .inactive) :
  ∃ os due, (∀ o ∈ os, o.idles = true) ∧
    tickTimeout env w now pace
      = establishAttemptFailed env
          ⟨{ w.port with rx := [], awaitingResponse := false },
            .timeout .startup due :: (os ++ w.log)⟩ now pace
  := by
  obtain ⟨rx, os, hos, hstart⟩ : ∃ rx os, (∀ o ∈ os, o.idles = true) ∧
      tickTimeout env w now pace
        = onTimeoutAt env ⟨{ w.port with rx := rx, awaitingResponse := false }, os ++ w.log⟩ now
            pace := by
    by_cases hawaiting : w.port.awaitingResponse = true
    · obtain ⟨os, hos, hflush⟩ := flushRx_succeeds henv w
      refine ⟨[], os, hos, ?_⟩
      rw [tickTimeout, if_pos hawaiting, hflush]
      rfl
    · refine ⟨w.port.rx, [], by simp, ?_⟩
      rw [tickTimeout, if_neg hawaiting]
      rfl
  obtain ⟨os', due, hos', htimeout⟩ := onTimeoutAt_failed henv now pace
    (w := ⟨{ w.port with rx := rx, awaitingResponse := false }, os ++ w.log⟩) hstate hstep
  refine ⟨os' ++ os, due, ?_, ?_⟩
  · intro o ho
    rcases List.mem_append.mp ho with ho | ho
    · apply hos' o ho
    · apply hos o ho
  · rw [hstart, htimeout, List.append_assoc]

/-- The observations `os` bring the line from the rate `rate` to the rate `rate'`. -/
def Rescans (rate rate' : Baudrate) (os : List Obs) : Prop :=
  os = [] ∧ rate' = rate ∨ os = [.setBaudrate rate']

theorem progress_rescan {rate rate' : Baudrate} {os log : List Obs} (hos : Rescans rate rate' os)
    (hrate : (progress log).rate = some rate) :
  progress (os ++ log) = { progress log with rate := some rate' }
  := by
  rcases hos with ⟨rfl, rfl⟩ | rfl
  · rw [List.nil_append, ← hrate]
  · rfl

/-- The rate scan starts again at its first rate. -/
theorem resetRateScan_succeeds (henv : env.Succeeds)
    (hindex : w.port.startup.baudrateIndex < (testRates w.port.config).length) :
  ∃ os, resetRateScan env w
      = (⟨{ w.port with startup := { w.port.startup with baudrateIndex := 0 } }, os ++ w.log⟩,
          STATUS_OK) ∧
    Rescans (startupBaudrate w.port)
      (startupBaudrate
        { w.port with startup := { w.port.startup with baudrateIndex := 0 } }) os
  := by
  by_cases hstay : (!w.port.config.autoBaudrate || w.port.startup.baudrateIndex == 0) = true
  · have hzero : w.port.startup.baudrateIndex = 0 := by
      rw [Bool.or_eq_true, Bool.not_eq_true', beq_iff_eq] at hstay
      rcases hstay with hauto | hzero
      · rw [testRates_length, hauto] at hindex
        simpa using hindex
      · apply hzero
    have hsame : { w.port with startup := { w.port.startup with baudrateIndex := 0 } }
        = w.port := by
      rw [← hzero]
    refine ⟨[], ?_, .inl ⟨rfl, by rw [hsame]⟩⟩
    rw [hsame]
    simp only [resetRateScan, hstay, if_true]
    rfl
  · refine ⟨[.setBaudrate _], ?_, .inr rfl⟩
    simp only [resetRateScan, hstay, Bool.false_eq_true, if_false, setBaudrate_succeeds henv]
    rfl

/-- The answer window of a test message has ended. -/
structure WindowOver (config : Config) (g : Progress) (p : PortState) : Prop where
  mode : g.mode = some .sdci
  index : p.startup.baudrateIndex + 1 = g.tests
  attempts : p.startup.wakeAttempts.toNat + 1 = g.wakes
  wakes : g.wakes ≤ wakeRepeats config + 1
  tests : g.tests ≤ (testRates config).length
  elapsed : g.Elapsed (answerWindow config (testRate config p.startup.baudrateIndex))

/-- The gate armed at a time `now` holds for the wait it was armed for. -/
theorem held_arm {g : Progress} {p : PortState} {now delay : UInt32} {window wait : Nat}
    (hclock : g.clock = now.toNat) (hfits : g.clock + delay.toNat < CLOCK_RANGE)
    (helapsed : g.Elapsed window) (hwait : wait = window + delay.toNat)
    (hvalid : p.sendReadyValid = true) (hready : p.sendReadyAt100us = now + delay) :
  Held g p wait
  := by
  intro t ht
  have hend := helapsed t ht
  rw [hclock] at hend hfits
  rw [hready, toNat_add hfits]
  exact ⟨hvalid, by omega⟩

/-- The port `q` is the port `p` after a failed test message, with a new position in the rate
scan and a new count of wake-ups. -/
structure Retries (p q : PortState) (index : Nat) (attempts : UInt8) : Prop where
  config : q.config = p.config
  state : q.state = p.state
  phy : q.phy = p.phy
  diagnostics : q.diagnostics = p.diagnostics
  rx : q.rx = p.rx
  awaiting : q.awaitingResponse = false
  index : q.startup.baudrateIndex = index
  attempts : q.startup.wakeAttempts = attempts

/-- A failed test message that is followed by one at the next rate. -/
theorem establishAttemptFailed_next (henv : env.Succeeds) (now : UInt32) (timed : Bool)
    (hnext : (w.port.config.autoBaudrate && decide (w.port.startup.baudrateIndex < 2)) = true) :
  ∃ p rate, Retries w.port p (w.port.startup.baudrateIndex + 1) w.port.startup.wakeAttempts ∧
    rate = startupBaudrate p ∧
    establishAttemptFailed env w now timed
      = (⟨armSendGate { p with startup := { p.startup with step := .sendType0 } } now
            (tDmt100us p rate) timed,
          .setBaudrate rate :: w.log⟩, STATUS_PENDING)
  := by
  refine ⟨{ w.port with
      awaitingResponse := false
      startup := { w.port.startup with baudrateIndex := w.port.startup.baudrateIndex + 1 } }, _,
    ⟨rfl, rfl, rfl, rfl, rfl, rfl, rfl, rfl⟩, rfl, ?_⟩
  rw [establishAttemptFailed]
  dsimp only
  rw [if_pos (by exact hnext), setBaudrate_succeeds henv]
  rfl

/-- A failed test message at the last rate is followed by the next wake-up, or ends the
sequence. -/
theorem establishAttemptFailed_last (henv : env.Succeeds) (now : UInt32) (timed : Bool)
    (hnext : (w.port.config.autoBaudrate && decide (w.port.startup.baudrateIndex < 2)) = false)
    (hindex : w.port.startup.baudrateIndex < (testRates w.port.config).length) :
  ∃ p os, Retries w.port p 0 (w.port.startup.wakeAttempts + 1) ∧
    Rescans (startupBaudrate w.port) (startupBaudrate p) os ∧
    (p.startup.wakeAttempts ≤ wakeRetryLimit p →
      establishAttemptFailed env w now timed
        = (⟨armSendGate { p with startup := { p.startup with step := .wake } } now
              (tDwu100us p) timed,
            os ++ w.log⟩, STATUS_PENDING)) ∧
    (¬ p.startup.wakeAttempts ≤ wakeRetryLimit p →
      establishAttemptFailed env w now timed
        = (⟨armSendGate { p with
                startup := { p.startup with wakeAttempts := 0, step := .inactive }
                diagnostics :=
                  { p.diagnostics with establishFailures := p.diagnostics.establishFailures + 1 } }
              now (tSd100us p) timed,
            .setMode .inactive :: (os ++ w.log)⟩, ERR_RETRY_LIMIT))
  := by
  obtain ⟨os, hreset, hos⟩ := resetRateScan_succeeds henv
    (w := ⟨{ w.port with
      awaitingResponse := false
      startup := { w.port.startup with
        wakeAttempts := w.port.startup.wakeAttempts + 1 } }, w.log⟩) hindex
  refine ⟨{ w.port with
      awaitingResponse := false
      startup := { w.port.startup with
        wakeAttempts := w.port.startup.wakeAttempts + 1
        baudrateIndex := 0 } }, os, ⟨rfl, rfl, rfl, rfl, rfl, rfl, rfl, rfl⟩, hos, ?_, ?_⟩
  · intro hagain
    rw [establishAttemptFailed]
    dsimp only
    rw [if_neg (by rw [Bool.not_eq_true]; exact hnext)]
    erw [hreset]
    rw [if_neg (by simp), if_pos (by exact hagain)]
    rfl
  · intro hfailed
    rw [establishAttemptFailed]
    dsimp only
    rw [if_neg (by rw [Bool.not_eq_true]; exact hnext)]
    erw [hreset]
    rw [if_neg (by simp), if_neg (by exact hfailed)]
    erw [setMode_succeeds henv]
    rfl

/-- After a test message has failed, the procedure goes on as it has to. -/
theorem establishing_failed (henv : env.Succeeds) {now : UInt32}
    (hconfig : w.port.config = config) (hstate : w.port.state = .startup)
    (hrx : w.port.rx.length ≤ 1) (hrate : (progress w.log).rate = some (startupBaudrate w.port))
    (hexact : Trace.Always (Establishes K config) w.log)
    (hover : WindowOver config (progress w.log) w.port)
    (hclock : (progress w.log).clock = now.toNat)
    (hfits : (progress w.log).clock + timeoutDelay config (progress w.log) < CLOCK_RANGE)
    (hcount : (progress w.log).tests = (testRates config).length →
      (progress w.log).wakes < WAKE_RANGE) :
  Establishing K config (establishAttemptFailed env w now true).1
  := by
  obtain ⟨hmode, hindex, hattempts, hwakes, htests, helapsed⟩ := hover
  cases hnext : w.port.config.autoBaudrate && decide (w.port.startup.baudrateIndex < 2) with
  | true =>
      have hmore : w.port.startup.baudrateIndex + 1 < (testRates config).length := by
        rw [Bool.and_eq_true, decide_eq_true_eq] at hnext
        rw [testRates_length, ← hconfig, if_pos hnext.1]
        omega
      obtain ⟨p, rate, hp, hrate', heq⟩ := establishAttemptFailed_next henv now true hnext
      have hpconfig := hp.config.trans hconfig
      have htest : rate = testRate config (progress w.log).tests := by
        rw [hrate', ← hindex, ← hp.index, ← hpconfig]
        apply startupBaudrate_eq
        rw [hp.index, hpconfig]
        apply hmore
      have hdelay : (tDmt100us p rate).toNat = testDelay config rate := by
        rw [← hpconfig]
        rfl
      have hlead : testLead config (progress w.log).tests
          = answerWindow config (testRate config w.port.startup.baudrateIndex)
            + (tDmt100us p rate).toNat := by
        rw [← hindex, testLead, hindex, ← htest, hdelay]
      rw [timeoutDelay, if_pos (by omega), ← htest, ← hdelay] at hfits
      rw [heq]
      refine ⟨hpconfig, hp.state.trans hstate, ?_, ?_, ?_, ?_, hexact, trivial⟩
      · rw [hp.awaiting]
        exact ⟨fun h => by contradiction, fun h => by contradiction⟩
      · rw [hp.rx]
        apply hrx
      · rw [hrate']
        rfl
      · refine ⟨hmode, hp.index.trans hindex, ?_, hwakes, ?_, ?_⟩
        · change p.startup.wakeAttempts.toNat + 1 = (progress w.log).wakes
          rw [hp.attempts, hattempts]
        · change (progress w.log).tests < (testRates config).length
          omega
        · exact held_arm (g := progress (.setBaudrate rate :: w.log)) hclock hfits helapsed hlead
            rfl rfl
  | false =>
      have hlast : w.port.startup.baudrateIndex + 1 = (testRates config).length := by
        rw [testRates_length, ← hconfig] at htests ⊢
        cases hauto : w.port.config.autoBaudrate with
        | true =>
            rw [hauto, Bool.true_and, decide_eq_false_iff_not] at hnext
            rw [hauto, if_pos rfl] at htests
            rw [if_pos rfl]
            omega
        | false =>
            rw [hauto, if_neg (by simp)] at htests
            rw [if_neg (by simp)]
            omega
      have htested : (progress w.log).tests = (testRates config).length := by omega
      have hrange := hcount htested
      obtain ⟨p, os, hp, hos, hagain, hfailed⟩ :=
        establishAttemptFailed_last henv now true hnext (by rw [hconfig]; omega)
      have hprogress := progress_rescan hos hrate
      have hpconfig := hp.config.trans hconfig
      have hwindow : (progress w.log).Elapsed (answerWindow config (lastRate config)) := by
        rw [lastRate, ← hlast, Nat.add_sub_cancel]
        apply helapsed
      have hattempted : p.startup.wakeAttempts.toNat = (progress w.log).wakes := by
        rw [hp.attempts, UInt8.toNat_add, ← hattempts]
        change (_ + 1) % 256 = _
        change _ < 256 at hrange
        omega
      have hlimit : (wakeRetryLimit p).toNat = wakeRepeats config := by
        rw [← hpconfig]
        rfl
      have hosexact : Trace.Always (Establishes K config) (os ++ w.log) := by
        rcases hos with ⟨rfl, -⟩ | rfl
        · apply hexact
        · exact ⟨hexact, trivial⟩
      rw [timeoutDelay, if_neg (by omega)] at hfits
      by_cases hrepeats : p.startup.wakeAttempts ≤ wakeRetryLimit p
      · have hrepeats' : (progress w.log).wakes ≤ wakeRepeats config := by
          rw [UInt8.le_iff_toNat_le, hattempted, hlimit] at hrepeats
          apply hrepeats
        have hdelay : (tDwu100us p).toNat = wakeDelay config := by
          rw [← hpconfig]
          rfl
        rw [if_pos hrepeats', ← hdelay] at hfits
        rw [hagain hrepeats]
        refine ⟨hpconfig, hp.state.trans hstate, ?_, ?_, ?_, ?_, hosexact⟩
        · rw [hp.awaiting]
          exact ⟨fun h => by contradiction, fun h => by contradiction⟩
        · rw [hp.rx]
          apply hrx
        · rw [hprogress]
          rfl
        · rw [hprogress]
          refine ⟨hmode, hp.index, hattempted, ?_, fun _ => ⟨hrepeats', htested, ?_⟩⟩
          · intro hwakes
            change (progress w.log).wakes = 0 at hwakes
            omega
          · apply held_arm (g := { progress w.log with rate := some (startupBaudrate p) })
              hclock hfits hwindow _ rfl rfl
            rw [hdelay]
      · have hrepeats' : ¬ (progress w.log).wakes ≤ wakeRepeats config := by
          rw [UInt8.le_iff_toNat_le, hattempted, hlimit] at hrepeats
          apply hrepeats
        have hdelay : (tSd100us p).toNat = sequenceDelay config := by
          rw [← hpconfig]
          rfl
        rw [if_neg hrepeats', ← hdelay] at hfits
        rw [hfailed hrepeats]
        refine ⟨hpconfig, hp.state.trans hstate, ?_, ?_, ?_, ?_, hosexact, ?_⟩
        · rw [hp.awaiting]
          exact ⟨fun h => by contradiction, fun h => by contradiction⟩
        · rw [hp.rx]
          apply hrx
        · rw [progress, hprogress]
          rfl
        · rw [progress, hprogress]
          refine ⟨hp.index, rfl, rfl, ?_⟩
          apply held_arm (g := Progress.observe
            { progress w.log with rate := some (startupBaudrate p) } (.setMode .inactive))
            hclock hfits _ (hdelay.symm.trans (Nat.zero_add _).symm) rfl rfl
          -- The line is set inactive at this very time.
          intro t ht
          cases ht
          rfl
        · intro _
          rw [hprogress]
          refine ⟨?_, htested, hwindow⟩
          change (progress w.log).wakes = wakeRepeats config + 1
          omega

/-! ### Slots -/

/-- A gate that has opened has held for its wait. -/
theorem Held.elapsed {g : Progress} {p : PortState} {delay : Nat} {now : UInt32}
    (h : Held g p delay) (hclock : g.clock = now.toNat) (hopen : sendGated p now true = false) :
  g.Elapsed delay
  := by
  intro t ht
  obtain ⟨hvalid, hready⟩ := h t ht
  have hreached : ¬ now < p.sendReadyAt100us := by
    intro hearly
    simp [sendGated, hvalid, hearly] at hopen
  rw [UInt32.lt_iff_toNat_lt] at hreached
  rw [hclock]
  omega

/-- The device is woken up by the hook or by the wake-up octet, and the gate for the first test
message is armed. -/
theorem processWake_succeeds (henv : env.Succeeds) (w : World) (now : UInt32) (timed : Bool) :
  ∃ o odExpected, (o = .wakeUp ∨ o = .sent w.port.state [WAKEUP_BYTE]) ∧
    processWake env w now timed
      = ⟨armSendGate { w.port with
              rxOdExpected := odExpected
              startup := { w.port.startup with step := .sendType0 } }
            now (5 + tDmt100us w.port (startupBaudrate w.port)) timed, o :: w.log⟩
  := by
  cases hhook : w.port.config.wakeUp with
  | true =>
      refine ⟨.wakeUp, w.port.rxOdExpected, .inl rfl, ?_⟩
      simp only [processWake, wakeUp, hhook, henv.wakeUp]
      rfl
  | false =>
      refine ⟨.sent w.port.state [WAKEUP_BYTE], mcIsRead WAKEUP_BYTE, .inr rfl, ?_⟩
      simp only [processWake, wakeUp, hhook, sendFull_transmits henv.toTransmits]
      rfl

/-- A test message is no wake-up. -/
theorem testMessage_cons (hK : K.Lawful) :
  ∃ mc ckt, testMessage K = [mc, ckt]
  := ⟨_, _, hK.encodeType0_eq _⟩

theorem testMessage_ne_wake (hK : K.Lawful) :
  testMessage K ≠ [WAKEUP_BYTE]
  := by
  obtain ⟨mc, ckt, hframe⟩ := testMessage_cons hK
  rw [hframe]
  simp

/-- The test message goes out, and its answer is awaited. -/
theorem processTest_succeeds (hK : K.Lawful) (henv : env.Succeeds) (w : World) (now : UInt32)
    (timed : Bool) :
  processTest K env w now timed
    = ⟨{ w.port with
          rxOdExpected := mcIsRead ((testMessage K).getD 0 0)
          startup := { w.port.startup with step := .awaitResponse }
          responseDeadline100us :=
            if timed then now + testMessageTimeout100us w.port else w.port.responseDeadline100us
          awaitingResponse := timed || w.port.awaitingResponse },
        .sent w.port.state (testMessage K) :: w.log⟩
  := by
  obtain ⟨mc, ckt, hframe⟩ := testMessage_cons hK
  rw [processTest, if_neg (by rw [hframe]; simp), sendFull_transmits henv.toTransmits]
  cases timed with
  | true => rfl
  | false => rfl

/-- A wake-up that is due. -/
theorem establishing_wake (henv : env.Succeeds) {now : UInt32}
    (hconfig : w.port.config = config) (hstate : w.port.state = .startup)
    (hawaiting : w.port.awaitingResponse = false) (hrx : w.port.rx.length ≤ 1)
    (hrate : (progress w.log).rate = some (startupBaudrate w.port))
    (hexact : Trace.Always (Establishes K config) w.log)
    (hindex : w.port.startup.baudrateIndex = 0)
    (hattempts : w.port.startup.wakeAttempts.toNat = (progress w.log).wakes)
    (hwakes : (progress w.log).wakes ≤ wakeRepeats config)
    (hdue : WakeUpDue config (progress w.log))
    (hclock : (progress w.log).clock = now.toNat)
    (hcount : Trace.Always (Countable config) (processWake env w now true).log) :
  Establishing K config (processWake env w now true)
  := by
  have hlength : 0 < (testRates config).length := by
    rw [testRates_length]
    split <;> decide
  have hfirst : startupBaudrate w.port = testRate config 0 := by
    rw [← hindex, ← hconfig]
    apply startupBaudrate_eq
    rw [hindex, hconfig]
    apply hlength
  obtain ⟨o, rx, ho, hrun⟩ := processWake_succeeds henv w now true
  obtain ⟨hprogress, hestablishes, hcountable⟩ :
      progress (o :: w.log) = (progress w.log).wake ∧
        Establishes K config w.log o ∧
        (Countable config w.log o →
          (progress w.log).clock + testLead config 0 < CLOCK_RANGE) := by
    rcases ho with rfl | rfl
    · exact ⟨rfl, hdue, fun h => h⟩
    · refine ⟨Progress.observe_sent_wake _ w.port.state, ?_, fun h => ?_⟩
      · rw [Establishes, if_pos rfl]
        apply hdue
      · rw [Countable, if_pos rfl] at h
        apply h
  rw [hrun] at hcount ⊢
  have hfits := hcountable hcount.2
  have hdelay : (5 + tDmt100us w.port (startupBaudrate w.port)).toNat = testLead config 0 := by
    have htest : (tDmt100us w.port (startupBaudrate w.port)).toNat
        = testDelay config (testRate config 0) := by
      rw [hfirst, ← hconfig]
      rfl
    rw [testLead, ← htest] at hfits ⊢
    rw [toNat_add (by change 5 + _ < _; change _ + (5 + _) < _ at hfits; omega)]
    rfl
  rw [← hdelay] at hfits
  refine ⟨hconfig, hstate, ?_, hrx, ?_, ?_, hexact, hestablishes⟩
  · change w.port.awaitingResponse = true ↔ StartupStep.sendType0 = .awaitResponse
    rw [hawaiting]
    exact ⟨fun h => by contradiction, fun h => by contradiction⟩
  · rw [hprogress]
    apply hrate
  · rw [hprogress]
    refine ⟨hdue.mode, hindex, ?_, ?_, hlength, ?_⟩
    · change w.port.startup.wakeAttempts.toNat + 1 = (progress w.log).wakes + 1
      rw [hattempts]
    · change (progress w.log).wakes + 1 ≤ _
      omega
    · apply held_arm (g := (progress w.log).wake) hclock hfits _
        (hdelay.symm.trans (Nat.zero_add _).symm) rfl rfl
      -- The wake-up happens at this very time.
      intro t ht
      cases ht
      rfl

/-- A test message that is due. -/
theorem establishing_test (hK : K.Lawful) (henv : env.Succeeds) {now : UInt32}
    (h : Establishing K config w) (hstep : w.port.startup.step = .sendType0)
    (hopen : sendGated w.port now true = false)
    (hclock : (progress w.log).clock = now.toNat)
    (hcount : Trace.Always (Countable config) (processTest K env w now true).log) :
  Establishing K config (processTest K env w now true)
  := by
  have hstage := h.stage
  simp only [Stage, hstep] at hstage
  obtain ⟨hmode, hindex, hattempts, hwakes, htests, hheld⟩ := hstage
  have hscan : w.port.startup.baudrateIndex < (testRates w.port.config).length := by
    rw [hindex, h.configured]
    apply htests
  have hwake := testMessage_ne_wake hK
  have hrun := processTest_succeeds hK henv w now true
  have hprogress : progress (.sent w.port.state (testMessage K) :: w.log)
      = (progress w.log).test :=
    Progress.observe_sent_test _ w.port.state hwake
  have hwindow : (testMessageTimeout100us w.port).toNat
      = answerWindow config (testRate config w.port.startup.baudrateIndex) := by
    rw [testMessageTimeout_eq hscan, h.configured]
  rw [hrun] at hcount ⊢
  have hfits := hcount.2
  rw [Countable, if_neg hwake, ← hindex, ← hwindow, hclock] at hfits
  refine ⟨h.configured, h.state, ?_, h.rx, ?_, ?_, h.exact, ?_⟩
  · exact ⟨fun _ => rfl, fun _ => rfl⟩
  · rw [hprogress]
    apply h.rate
  · rw [hprogress]
    refine ⟨hmode, ?_, hattempts, hwakes, htests, now.toNat, ?_, ?_⟩
    · change w.port.startup.baudrateIndex + 1 = (progress w.log).tests + 1
      rw [hindex]
    · change some (progress w.log).clock = some now.toNat
      rw [hclock]
    · rw [← hwindow]
      apply toNat_add hfits
  · rw [Establishes, if_neg hwake]
    refine ⟨rfl, hmode, ?_, by omega, htests, hheld.elapsed hclock hopen⟩
    rw [h.rate, startupBaudrate_eq hscan, hindex, h.configured]

/-- A slot. -/
theorem establishing_slot (hK : K.Lawful) (henv : env.Succeeds) {now : UInt32}
    (h : Establishing K config w) (hawaiting : w.port.awaitingResponse = false)
    (hclock : (progress w.log).clock = now.toNat)
    (hcount : Trace.Always (Countable config) (processAt K env w now true).log) :
  Establishing K config (processAt K env w now true)
  := by
  cases hhold : !w.port.phy.send || sendGated w.port now true with
  | true =>
      rw [processAt, if_pos hhold]
      apply h
  | false =>
      have hopen : sendGated w.port now true = false := by
        rw [Bool.or_eq_false_iff] at hhold
        apply hhold.2
      have hslot : processAt K env w now true = processStartup K env w now true := by
        rw [processAt, if_neg (by rw [hhold]; simp)]
        simp only [h.state]
      rw [hslot] at hcount ⊢
      have hstage := h.stage
      cases hstep : w.port.startup.step with
      | wake =>
          simp only [Stage, hstep] at hstage
          obtain ⟨hmode, hindex, hattempts, hfirst, hagain⟩ := hstage
          simp only [processStartup, hstep] at hcount ⊢
          apply establishing_wake henv h.configured h.state hawaiting h.rx h.rate h.exact hindex
            hattempts _ _ hclock hcount
          · rcases Nat.eq_zero_or_pos (progress w.log).wakes with hzero | hpos
            · rw [hzero]
              apply Nat.zero_le
            · apply (hagain hpos).1
          · refine ⟨hmode, ?_, ?_⟩
            · intro hzero t ht
              rw [hfirst hzero] at ht
              contradiction
            · intro hpos
              obtain ⟨hrepeats, htests, hheld⟩ := hagain hpos
              exact ⟨hrepeats, htests, hheld.elapsed hclock hopen⟩
      | inactive =>
          simp only [Stage, hstep] at hstage
          obtain ⟨hindex, hattempts, hzero, hheld⟩ := hstage
          have hrun : processStartup K env w now true
              = processWake env ⟨{ w.port with startup := { w.port.startup with step := .wake } },
                  .setMode .sdci :: w.log⟩ now true := by
            simp only [processStartup, hstep, setMode_succeeds henv]
            rfl
          rw [hrun] at hcount ⊢
          apply establishing_wake
            (w := ⟨{ w.port with startup := { w.port.startup with step := .wake } },
              .setMode .sdci :: w.log⟩) henv h.configured h.state hawaiting h.rx h.rate _ hindex
            _ _ _ hclock hcount
          · refine ⟨h.exact, ?_⟩
            intro hmode
            contradiction
          · change w.port.startup.wakeAttempts.toNat = (progress w.log).wakes
            rw [hattempts, hzero]
            rfl
          · change (progress w.log).wakes ≤ _
            rw [hzero]
            apply Nat.zero_le
          · refine ⟨rfl, fun _ => hheld.elapsed hclock hopen, ?_⟩
            intro hpos
            change 0 < (progress w.log).wakes at hpos
            omega
      | sendType0 =>
          simp only [processStartup, hstep] at hcount ⊢
          apply establishing_test hK henv h hstep hopen hclock hcount
      | awaitResponse =>
          rw [h.awaiting.mpr hstep] at hawaiting
          contradiction
      | awaitOperateAck =>
          simp only [Stage, hstep] at hstage

/-- A response timeout whose deadline has passed. -/
theorem establishing_timeout (henv : env.Succeeds) {now : UInt32} (h : Establishing K config w)
    (hawaiting : w.port.awaitingResponse = true) (hdue : w.port.responseDeadline100us ≤ now)
    (hclock : (progress w.log).clock = now.toNat)
    (hcount : Trace.Always (Countable config) (tickTimeout env w now true).1.log) :
  Establishing K config (tickTimeout env w now true).1
  := by
  have hstep := h.awaiting.mp hawaiting
  have hstage := h.stage
  simp only [Stage, hstep] at hstage
  obtain ⟨hmode, hindex, hattempts, hwakes, htests, t, hsince, hdeadline⟩ := hstage
  obtain ⟨os, due, hos, hrun⟩ := tickTimeout_failed henv now true h.state (by rw [hstep]; simp)
  have hidle : ∀ o ∈ Obs.timeout .startup due :: os, o.idles = true := by
    intro o ho
    rcases List.mem_cons.mp ho with rfl | ho
    · rfl
    · apply hos o ho
  have hprogress : progress (.timeout .startup due :: (os ++ w.log)) = progress w.log :=
    Trace.unaffected_append (fun o l ho => progress_idles ho l) hidle w.log
  have hprogress' : progress (os ++ w.log) = progress w.log :=
    Trace.unaffected_append (fun o l ho => progress_idles ho l) hos w.log
  rw [hrun] at hcount ⊢
  have htimeout : Countable config (os ++ w.log) (.timeout .startup due) := by
    have hpath : TimeoutPath (fun _ _ _ => True) _ _ := establishAttemptFailed_path env
      ⟨{ w.port with rx := [], awaitingResponse := false },
        .timeout .startup due :: (os ++ w.log)⟩ now true h.state
    apply (Trace.closed_always _ (extends_timeout.path hpath) hcount).2
  rw [Countable, hprogress'] at htimeout
  apply establishing_failed (w := ⟨{ w.port with rx := [], awaitingResponse := false },
    .timeout .startup due :: (os ++ w.log)⟩) henv h.configured h.state (Nat.zero_le _)
  · rw [hprogress]
    apply h.rate
  · exact Trace.always_append (fun o l ho => establishes_idles ho l) hidle h.exact
  · rw [hprogress]
    refine ⟨hmode, hindex, hattempts, hwakes, htests, ?_⟩
    intro t' ht'
    rw [hsince] at ht'
    cases ht'
    rw [UInt32.le_iff_toNat_le, hdeadline] at hdue
    rw [hclock]
    apply hdue
  · rw [hprogress, hclock]
  · rw [hprogress]
    apply htimeout.1
  · rw [hprogress]
    apply htimeout.2

/-! ### Ticks -/

/-- A slot of STARTUP executes no cycle. -/
theorem processSlot_startup (env : Env) (now : UInt32) (pace : Bool)
    (hstate : w.port.state = .startup) :
  processSlot K env w now pace = processAt K env w now pace
  := by
  have hcycles : (processAt K env w now pace).port.cycleCount = w.port.cycleCount := by
    rw [processAt]
    split
    · rfl
    · simp only [hstate]
      apply processStartup_cycleCount
  simp only [processSlot, hcycles, bne_self_eq_false, Bool.and_false, Bool.false_eq_true, if_false]

/-- A tick of the controller. -/
theorem establishing_call (hK : K.Lawful) (henv : env.Succeeds) {now : UInt32}
    (h : Establishing K config w)
    (hunanswered : ∀ o ∈ (controllerTickAt K env w now).1.log, o.isAccept = false)
    (hcount : Trace.Always (Countable config) (controllerTickAt K env w now).1.log) :
  Establishing K config (controllerTickAt K env w now).1
  := by
  have hticked := h.tick now
  have hpolled : (pollRx K env (w.emit (.tick now))).1.log
      <:+ (controllerTickAt K env w now).1.log := tickCommon_polled hK env _ _ true now
  have hidled : Idled (w.emit (.tick now)) (pollRx K env (w.emit (.tick now))).1 := by
    rcases pollRx_idled hK henv.recvFails hticked.state (hticked.rx.trans_lt (by decide))
      with hidled | ⟨os, data, hlog, hmem⟩
    · apply hidled
    · have haccept := hunanswered (.accept .startup data none) (hpolled.mem (by
        rw [hlog]
        apply List.mem_append_left _ hmem))
      contradiction
  have hreceived := hticked.idled hidled
  have hclock : (progress (pollRx K env (w.emit (.tick now))).1.log).clock = now.toNat := by
    obtain ⟨os, hos, hlog, -⟩ := hidled
    rw [hlog, Trace.unaffected_append (fun o l ho => progress_idles ho l) hos]
    rfl
  have hsame : (pollRx K env (w.emit (.tick now))).1.port.awaitingResponse
        = w.port.awaitingResponse ∧
      (pollRx K env (w.emit (.tick now))).1.port.responseDeadline100us
        = w.port.responseDeadline100us := by
    obtain ⟨-, -, -, rx, d, -, -, hport⟩ := hidled
    rw [hport]
    exact ⟨rfl, rfl⟩
  rcases tickCommon_cases K env (w.emit (.tick now))
      (if responseDueAt w.port now then .responseTimeout else .cycleDue) true now
    with heq | ⟨hevent, hawaiting, heq⟩ | ⟨-, hawaiting, heq⟩
  · rw [controllerTickAt, tickAt, heq]
    apply hreceived
  · have hdue : responseDueAt w.port now = true := by
      by_contra hearly
      rw [if_neg hearly] at hevent
      contradiction
    rw [responseDueAt, Bool.and_eq_true, decide_eq_true_eq] at hdue
    rw [controllerTickAt, tickAt, heq] at hcount ⊢
    apply establishing_timeout henv hreceived (hawaiting rfl) _ hclock hcount
    rw [hsame.2]
    apply hdue.2
  · rw [controllerTickAt, tickAt, heq, processSlot_startup env now true hreceived.state] at hcount ⊢
    apply establishing_slot hK henv hreceived hawaiting hclock hcount

/-! ### Runs -/

/-- A port whose PHY could not be initialized. -/
structure NotStarted (K : Iolinki) (config : Config) (w : World) : Prop where
  state : w.port.state = .error
  awaiting : w.port.awaitingResponse = false
  exact : Trace.Always (Establishes K config) w.log

/-- A port that has not started does nothing. -/
theorem notStarted_call (h : NotStarted K config w) (env : Env) (now : UInt32) :
  NotStarted K config (controllerTickAt K env w now).1
  := by
  have hpoll : pollRx K env (w.emit (.tick now)) = (w.emit (.tick now), STATUS_OK) := by
    simp only [pollRx, expectedLen, World.emit_port, h.state, ite_self]
  have hslot : processSlot K env (w.emit (.tick now)) now true = w.emit (.tick now) := by
    simp [processSlot, processAt, h.state]
  have htick : (controllerTickAt K env w now).1 = w.emit (.tick now) := by
    simp [controllerTickAt, tickAt, responseDueAt, tickCommon, hpoll, h.awaiting, hslot,
      STATUS_OK, cycleDueAt, cyclePaced, h.state]
  rw [htick]
  exact ⟨h.state, h.awaiting, h.exact, trivial⟩

/-- An initialization that fails leaves the port in ERROR. -/
theorem notStarted_enter (hexact : Trace.Always (Establishes K config) w.log)
    (hawaiting : w.port.awaitingResponse = false) :
  NotStarted K config (w.enter .error)
  := ⟨rfl, hawaiting, hexact, trivial⟩

/-- An initialization starts the procedure or leaves the port in ERROR. -/
theorem establishing_started (env : Env) (phy : PhyApi) (hmode : config.portMode = .iolink)
    (hrefused : configRefused config = false) :
  Establishing K config (started env phy config) ∨ NotStarted K config (started env phy config)
  := by
  have hstate : (zeroPort phy config).state = .startup := if_pos hmode
  simp only [started, initPort, hrefused, Bool.false_eq_true, if_false, powerOn]
  split
  · right
    refine notStarted_enter ?_ rfl
    exact ⟨trivial, trivial⟩
  · have hflushed : ∃ os, (∀ o ∈ os, o.idles = true) ∧
        (flushRx env ⟨zeroPort phy config, [.enter (zeroPort phy config).state]⟩).1
          = ⟨zeroPort phy config, os⟩ := by
      rw [flushRx_fst, flushNoted]
      split
      · exact ⟨[.flushRx, _], List.forall_mem_cons.mpr ⟨rfl, idles_one rfl⟩, rfl⟩
      · exact ⟨[_], idles_one rfl, rfl⟩
    obtain ⟨os, hos, hflush⟩ := hflushed
    have hexact : Trace.Always (Establishes K config) os := by
      rw [← List.append_nil os]
      exact Trace.always_append (fun o l ho => establishes_idles ho l) hos trivial
    have hprogress : progress os = .zero := by
      rw [← List.append_nil os]
      exact Trace.unaffected_append (fun o l ho => progress_idles ho l) hos []
    have hphy : initPhy env ⟨zeroPort phy config, [.enter (zeroPort phy config).state]⟩
        = initStep (flushRx env ⟨zeroPort phy config, [.enter (zeroPort phy config).state]⟩)
            fun w => initStep (setBaudrate env w (startupBaudrate w.port)) fun w =>
              initStep (setMode env w .sdci) fun w => (w, STATUS_OK) := by
      simp only [initPhy, zeroPort, hmode]
    simp only [hphy, initStep, hflush]
    split
    · right
      apply notStarted_enter hexact rfl
    · split
      · right
        refine notStarted_enter ?_ rfl
        exact ⟨hexact, trivial⟩
      · split
        · right
          refine notStarted_enter ?_ rfl
          exact ⟨⟨hexact, trivial⟩, by simp [Establishes]⟩
        · left
          refine ⟨rfl, hstate, ?_, Nat.zero_le _, rfl, ?_, ⟨hexact, trivial⟩, by simp [Establishes]⟩
          · exact ⟨fun h => by contradiction, fun h => by contradiction⟩
          · simp only [setMode, setBaudrate, World.emit_log, progress, hprogress]
            exact ⟨rfl, rfl, rfl, fun _ => rfl, fun h => absurd h (lt_irrefl 0)⟩

end

/-- As long as no test message gets a valid answer and all times and counts can be counted,
everything a port in IO-Link mode does fits the wake-up procedure. -/
theorem establish_sequence {K : Iolinki} (hK : K.Lawful) {phy : PhyApi} {config : Config}
    (hmode : config.portMode = .iolink) {w : World} (hw : Reach K controllerTicks phy config w)
    (hunanswered : ∀ o ∈ w.log, o.isAccept = false)
    (hcount : Trace.Always (Countable config) w.log) :
  Trace.Always (Establishes K config) w.log
  := by
  have h : Establishing K config w ∨ NotStarted K config w := by
    induction hw with
    | start env hrefused => apply establishing_started env phy hmode hrefused
    | @call w env c hw hc ih =>
        obtain ⟨henv, htick⟩ := hc
        cases c with
        | controllerTickAt now =>
            have hticked : w.log <:+ (w.emit (.tick now)).log := List.suffix_cons _ _
            have hlog : w.log <:+ (controllerTickAt K env w now).1.log :=
              hticked.trans (tickCommon_extends hK env _ _ true now)
            have hearlier := ih (fun o ho => hunanswered o (hlog.mem ho))
              (Trace.closed_always _ hlog hcount)
            rcases hearlier with h | h
            · left
              apply establishing_call hK henv h hunanswered hcount
            · right
              apply notStarted_call h
        | _ => contradiction
  rcases h with h | h
  · apply h.exact
  · apply h.exact

/-- Quiet environments in which octets arrive, and the times of the ticks. -/
def quietTicks (ticks : List (List UInt8 × UInt32)) : List (Env × Call) :=
  ticks.map fun tick => (.quiet tick.1, .controllerTickAt tick.2)

theorem allowedRun_quietTicks {K : Iolinki} {ticks : List (List UInt8 × UInt32)} {w : World}
    (h : AllowedRun K Monotone w (quietTicks ticks)) :
  AllowedRun K controllerTicks w (quietTicks ticks)
  := by
  induction ticks generalizing w with
  | nil => trivial
  | cons tick ticks ih => exact ⟨⟨⟨Env.transmits_quiet _, rfl, rfl, rfl, rfl, rfl⟩, h.1⟩, ih h.2⟩

/-- A port that scans all rates and repeats a wake-up once. -/
def scanning : Config :=
  { Config.bare .type2_1 1 1 with autoBaudrate := true, wakeRetryLimit := 1 }

/-- Ticks at which nobody answers but for two octets of noise: two wake-ups, and the first one of
the next sequence. -/
def unanswered : List (List UInt8 × UInt32) :=
  [([], 0), ([], 7), ([0x12, 0x34], 8), ([], 10), ([], 19), ([], 35), ([], 102), ([], 223),
    ([], 623), ([], 630), ([], 633), ([], 642), ([], 658), ([], 725), ([], 846), ([], 5846)]

/-- The port wakes up the device three times. -/
theorem establish_sequence_scanning :
  Trace.Always (Establishes .reference scanning)
    (run .reference (started (.quiet []) .full scanning) (quietTicks unanswered)).log
  := by
  have hreach : Reach .reference controllerTicks .full scanning
      (run .reference (started (.quiet []) .full scanning) (quietTicks unanswered)) := by
    apply (Reach.start _ (by decide)).run
    apply allowedRun_quietTicks
    decide +kernel
  apply establish_sequence Iolinki.lawful_reference rfl hreach
  · decide +kernel
  · decide +kernel

/-- A port that waits as long as can be configured between two sequences. -/
def patient : Config :=
  { Config.bare .type2_1 1 1 with wakeRetryLimit := 1, tDwu100us := 1, tSd100us := 4294967295 }

/-- Ticks at which nobody answers. -/
def impatient : List (List UInt8 × UInt32) :=
  [([], 0), ([], 7), ([], 10), ([], 11), ([], 18), ([], 21), ([], 22)]

/-- The sequence has failed at 21, and the next wake-up goes out at 22. -/
theorem establish_sequence_patient :
  Reach .reference controllerTicks .full patient
      (run .reference (started (.quiet []) .full patient) (quietTicks impatient)) ∧
    (∀ o ∈ (run .reference (started (.quiet []) .full patient) (quietTicks impatient)).log,
      o.isAccept = false) ∧
    ¬ Trace.Always (Establishes .reference patient)
      (run .reference (started (.quiet []) .full patient) (quietTicks impatient)).log
  := by
  refine ⟨?_, ?_, ?_⟩
  · apply (Reach.start _ (by decide)).run
    apply allowedRun_quietTicks
    decide +kernel
  · decide +kernel
  · decide +kernel

end IolinkMaster
