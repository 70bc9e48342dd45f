import IolinkMaster.Layout
import IolinkMaster.Pacing
import IolinkMaster.Polling

/-!
# The time of the next tick

`iolink_master_get_next_tick_time` and the tick engine read the same timers. Before the time the
one returns a tick of the other does nothing, and at that time it advances the port.
-/

namespace IolinkMaster

open Relation

/-! ### Ticks that advance a port -/

/-- A frame or a wake-up is sent, or a response timeout is processed. -/
def Obs.advances : Obs → Bool
  | .sent _ _ | .wakeUp | .timeout _ _ => true
  | _ => false

/-- Something is sent between the worlds `w` and `v`, or a response timeout is processed. -/
def Adds (w v : World) : Prop := ∃ os, v.log = os ++ w.log ∧ ∃ o ∈ os, o.advances = true

/-- Something is sent between the worlds `w` and `v`, a response timeout is processed, or the port
changes. -/
def Advances (w v : World) : Prop := Adds w v ∨ v.port ≠ w.port

/-- The time `next` is the time of the next useful tick of a port at the time `now`. -/
structure NextTick (K : Iolinki) (w : World) (now next : UInt32) : Prop where
  /-- The time is not in the past. -/
  later : now ≤ next
  /-- Before it a tick without received octets does nothing. -/
  idle : ∀ (env : Env) (t : UInt32), env.recv = [] → env.recvFails = false → now ≤ t → t < next →
    (controllerTickAt K env w t).1 = w.emit (.tick t)
  /-- At it every tick advances the port. -/
  due : ∀ env : Env, Advances w (controllerTickAt K env w next).1

/-- The end of the cycle in progress is within the range of the clock. -/
def CycleFits (p : PortState) : Prop :=
  cyclePaced p = true →
    p.lastCycleStart100us.toNat + p.config.minCycleTime.toNat < CLOCK_RANGE

/-! ### Timers -/

/-- The test message has been sent. -/
def Tested (p : PortState) : Prop :=
  acyclicAvailable p.state = true ∨ p.state = .startup ∧ p.startup.step = .awaitResponse

/-- In STARTUP the port waits for the answer to the test message exactly by its deadline. -/
structure Phased (p : PortState) : Prop where
  awaits : p.state = .startup → p.startup.step = .awaitResponse → p.awaitingResponse = true
  unacknowledged : p.state = .startup → p.startup.step ≠ .awaitOperateAck

/-- The send gate of a test message that has been sent, and the start of a cycle, are in the
past. -/
structure Timely (w : World) : Prop where
  phased : Phased w.port
  gate : Tested w.port → w.port.sendReadyValid = true →
    w.port.sendReadyAt100us.toNat ≤ tickTime w.log
  cycle : w.port.cycleTimerValid = true → w.port.lastCycleStart100us.toNat ≤ tickTime w.log

/-- The send gate is the same. -/
structure SameGate (p q : PortState) : Prop where
  gate : q.sendReadyAt100us = p.sendReadyAt100us
  valid : q.sendReadyValid = p.sendReadyValid

/-- What a port does without the timers: it stays in phase, and does not send the test message. -/
structure Moves (p q : PortState) : Prop where
  phased : Phased p → Phased q
  tested : Tested q → Tested p

theorem Moves.trans {p q r : PortState} (h : Moves p q) (h' : Moves q r) :
  Moves p r
  := ⟨fun hp => h'.phased (h.phased hp), fun hr => h.tested (h'.tested hr)⟩

/-- A port that stays in its state stays in phase. -/
theorem moves_of_same {p q : PortState} (hstate : q.state = p.state)
    (hstep : q.startup.step = p.startup.step) (hawaiting : q.awaitingResponse = p.awaitingResponse) :
  Moves p q
  := by
  constructor
  · rintro ⟨hawaits, hack⟩
    constructor
    · rw [hstate, hstep, hawaiting]
      apply hawaits
    · rw [hstate, hstep]
      apply hack
  · rw [Tested, Tested, hstate, hstep]
    exact id

/-- A port outside STARTUP is in phase. -/
theorem phased_of_ne {p : PortState} (h : p.state ≠ .startup) :
  Phased p
  := ⟨fun hstate => absurd hstate h, fun hstate => absurd hstate h⟩

/-- The port is in STARTUP before its next transmission. -/
structure Pausing (p : PortState) : Prop where
  state : p.state = .startup
  unanswered : p.startup.step ≠ .awaitResponse
  unacknowledged : p.startup.step ≠ .awaitOperateAck

/-- The port waits for no answer to a test message. -/
structure Untested (p : PortState) : Prop where
  phased : Phased p
  untested : ¬ Tested p

theorem Pausing.untested {p : PortState} (h : Pausing p) :
  Untested p
  := by
  constructor
  · exact ⟨fun _ hstep => absurd hstep h.unanswered, fun _ => h.unacknowledged⟩
  · rintro (havail | ⟨-, hstep⟩)
    · rw [h.state] at havail
      contradiction
    · exact h.unanswered hstep

/-- A port in ERROR has failed. -/
theorem untested_error {p : PortState} (h : p.state = .error) :
  Untested p
  := by
  constructor
  · apply phased_of_ne
    rw [h]
    decide
  · rintro (havail | ⟨hstate, -⟩)
    · rw [h] at havail
      contradiction
    · rw [h] at hstate
      contradiction

theorem Untested.moves {q : PortState} (h : Untested q) (p : PortState) :
  Moves p q
  := ⟨fun _ => h.phased, fun htested => absurd htested h.untested⟩

section

variable {K : Iolinki} {env : Env} {config : Config} {now : UInt32} {w v : World}

theorem Timely.moves (h : Timely w) (hmoves : Moves w.port v.port)
    (hgate : Tested v.port → SameGate w.port v.port) (htimer : SameTimer w v)
    (htime : tickTime v.log = tickTime w.log) :
  Timely v
  := by
  refine ⟨hmoves.phased h.phased, ?_, ?_⟩
  · intro htested
    rw [(hgate htested).gate, (hgate htested).valid, htime]
    apply h.gate (hmoves.tested htested)
  · rw [htimer.valid, htimer.start, htime]
    apply h.cycle

theorem Timely.untested (h : Timely w) (huntested : Untested v.port) (htimer : SameTimer w v)
    (htime : tickTime v.log = tickTime w.log) :
  Timely v
  := by
  apply h.moves (huntested.moves _) _ htimer htime
  intro htested
  exact absurd htested huntested.untested

/-- A port that stays outside STARTUP keeps its timers. -/
theorem Timely.stays (h : Timely w) (hstate : v.port.state = w.port.state)
    (hne : w.port.state ≠ .startup) (hgate : SameGate w.port v.port) (htimer : SameTimer w v)
    (htime : tickTime v.log = tickTime w.log) :
  Timely v
  := by
  apply h.moves _ (fun _ => hgate) htimer htime
  constructor
  · intro _
    apply phased_of_ne
    rw [hstate]
    apply hne
  · rintro (havail | ⟨hstartup, -⟩)
    · rw [hstate] at havail
      exact .inl havail
    · rw [hstate] at hstartup
      exact absurd hstartup hne

/-- What does not read the times of a port leaves its send gate alone. -/
theorem sameGate_of_map {f : World → World}
    (hf : ∀ t l w, f (w.after t l) = (f w).after t l) (w : World) :
  SameGate w.port (f w).port
  := by
  have hfresh := hf w.port.stamps w.log w.fresh
  rw [fresh_after] at hfresh
  rw [hfresh]
  exact ⟨rfl, rfl⟩

/-- A port only stops to wait when it receives. -/
theorem pollRx_awaiting (K : Iolinki) (env : Env) (w : World)
    (h : (pollRx K env w).1.port.awaitingResponse = true) :
  w.port.awaitingResponse = true
  := by
  have hfresh : pollRx K env w = resultAfter w.port.stamps w.log (pollRx K env w.fresh) :=
    pollRx_after w.port.stamps w.log w.fresh env K
  rw [hfresh] at h
  exact (Bool.and_eq_true_iff.mp h).2

/-! ### Receiving -/

theorem moves_judge {data : List UInt8} (h : JudgeStep K data w v) :
  Moves w.port v.port
  := by
  have hconnected : ∀ {p q : PortState}, q.state ≠ .startup → Tested p → Moves p q :=
    fun hq hp => ⟨fun _ => phased_of_ne hq, fun _ => hp⟩
  cases h with
  | unframed | rejectTest | rejectRetry => exact moves_of_same rfl rfl rfl
  | rejectLost =>
      have hpausing : Pausing (comlostPort w.port) :=
        ⟨rfl, (by decide : StartupStep.wake ≠ .awaitResponse),
          (by decide : StartupStep.wake ≠ .awaitOperateAck)⟩
      exact hpausing.untested.moves _
  | acceptTest hstate hstep =>
      have hpreoperate : MasterState.preoperate ≠ .startup := by decide
      exact hconnected hpreoperate (.inr ⟨hstate, hstep⟩)
  | acceptAck hack =>
      have hoperate : MasterState.operate ≠ .startup := by decide
      apply hconnected hoperate
      left
      rw [hack.1]
      rfl
  | @accept u pdIn pdInLen pdValid hstate hack hwidth hcks hhandler hpd =>
      obtain ⟨s, e, hport⟩ := routeOd_port u (data.take (odWidth w.port))
      have hkept := untouched_of_path hhandler
      have hsame : ((routeOd u (data.take (odWidth w.port))).setPd pdIn pdInLen pdValid).port.state
          = w.port.state := by
        simp only [World.setPd, World.put_port, hport, hkept.state]
        rfl
      constructor
      · intro _
        apply phased_of_ne
        rw [hsame]
        apply hstate
      · rintro (havail | ⟨hstartup, -⟩)
        · rw [hsame] at havail
          exact .inl havail
        · rw [hsame] at hstartup
          exact absurd hstartup hstate

theorem moves_control (h : ControlStep w v) :
  Moves w.port v.port
  := by
  cases h with
  | service h =>
      have hkept := untouched_of_step h
      exact moves_of_same hkept.state hkept.step hkept.awaiting
  | fail => exact (untested_error rfl).moves _

theorem moves_poll (hK : K.Lawful) (env : Env) (w : World) :
  Moves w.port (pollRx K env w).1.port
  := by
  have hpath := pollRx_path hK env w
  generalize (pollRx K env w).1 = v at hpath
  induction hpath with
  | refl => exact ⟨id, id⟩
  | tail _ hstep ih =>
      apply ih.trans
      cases hstep with
      | control h => apply moves_control h
      | recv | clearRx => exact moves_of_same rfl rfl rfl
      | judge data _ h => apply moves_judge h

/-- A port that receives keeps its timers. -/
theorem Timely.polled (h : Timely w) (hK : K.Lawful) (env : Env) :
  Timely (pollRx K env w).1
  := by
  obtain ⟨hquiet, htimer⟩ := pollRx_paced hK w.port.config env w
  obtain ⟨hgate, hvalid⟩ := pollRx_gate K env w
  exact h.moves (moves_poll hK env w) (fun _ => ⟨hgate, hvalid⟩) htimer hquiet.time

/-! ### Response timeouts -/

/-- A step before the next transmission waits for its send gate. -/
theorem pausing_arm {step : StartupStep} (delay : UInt32) (hstate : w.port.state = .startup)
    (hstep : step ≠ .awaitResponse ∧ step ≠ .awaitOperateAck) :
  Pausing ((w.setStep step).put (armSendGate (w.setStep step).port now delay true)).port
  := ⟨hstate, hstep.1, hstep.2⟩

theorem nextRate_leaves (env : Env) (now : UInt32) (hstate : w.port.state = .startup) :
  (nextRate env now true w).1.port.state = .error ∨ Pausing (nextRate env now true w).1.port
  := by
  simp only [nextRate, initStep]
  split
  · left
    rfl
  · right
    exact pausing_arm _ hstate (by decide)

theorem nextSequence_leaves (env : Env) (now : UInt32) (hstate : w.port.state = .startup) :
  (nextSequence env now true w).1.port.state = .error ∨
    Pausing (nextSequence env now true w).1.port
  := by
  simp only [nextSequence, initStep]
  split
  · left
    rfl
  · right
    exact pausing_arm _ hstate (by decide)

theorem nextWake_leaves (env : Env) (now : UInt32) (hstate : w.port.state = .startup) :
  (nextWake env now true w).1.port.state = .error ∨ Pausing (nextWake env now true w).1.port
  := by
  have hscan := (resetRateScan_state env w).trans hstate
  simp only [nextWake, initStep]
  split
  · left
    rfl
  · split
    · right
      exact pausing_arm _ hscan (by decide)
    · apply nextSequence_leaves env now
      apply hscan

/-- A failed test message leaves the port in ERROR or before its next transmission. -/
theorem establishAttemptFailed_leaves (env : Env) (now : UInt32) (hstate : w.port.state = .startup) :
  (establishAttemptFailed env w now true).1.port.state = .error ∨
    Pausing (establishAttemptFailed env w now true).1.port
  := by
  have hbranches := congrFun (congrFun (congrFun (establishAttemptFailed_branches env) now) true) w
  rw [show establishAttemptFailed env w now true = _ from hbranches]
  split
  · apply nextRate_leaves env now
    apply hstate
  · apply nextWake_leaves env now
    apply hstate

/-- A restart of communication leaves the port in ERROR or before its next transmission. -/
theorem restartEstablish_leaves (env : Env) (w : World) (now : UInt32) (timed : Bool) :
  (restartEstablish env w now timed).1.port.state = .error ∨
    Pausing (restartEstablish env w now timed).1.port
  := by
  rw [restartEstablish_eq]
  simp only [restartedPort, armSendGate]
  split
  · left
    rfl
  · right
    split
    all_goals exact ⟨rfl, (by decide : StartupStep.wake ≠ .awaitResponse),
      (by decide : StartupStep.wake ≠ .awaitOperateAck)⟩

/-- What a response timeout makes of the port `p`. -/
inductive TimedOut (p q : PortState) : Prop where
  | failed (hstate : q.state = .error)
  | restarts (h : Pausing q)
  | goesOn (hstate : q.state = p.state) (hne : p.state ≠ .startup) (hgate : SameGate p q)

theorem onTimeoutAt_timedOut (env : Env) (w : World) (now : UInt32) :
  TimedOut w.port (onTimeoutAt env w now true).1.port
  := by
  have hflush : (flushRx env w).1.port = { w.port with rx := [] } := by
    rw [flushRx_fst]
  have hstate : (flushRx env w).1.port.state = w.port.state := by
    rw [hflush]
  have hgate : SameGate w.port (flushRx env w).1.port := by
    rw [hflush]
    exact ⟨rfl, rfl⟩
  have hstays : w.port.state ≠ .startup → TimedOut w.port (flushRx env w).1.port :=
    fun hne => .goesOn hstate hne hgate
  simp only [onTimeoutAt]
  split
  · exact .failed rfl
  · split
    · next hstartup =>
      simp only [World.emit_port] at hstartup
      split
      · next hstep =>
        apply TimedOut.restarts
        refine ⟨hstartup, ?_, ?_⟩
        · rw [hstep]
          decide
        · rw [hstep]
          decide
      · rcases establishAttemptFailed_leaves (w := (flushRx env w).1.emit _) env now hstartup
          with hfailed | hpausing
        · exact .failed hfailed
        · exact .restarts hpausing
    · next hoperate =>
      simp only [World.emit_port] at hoperate
      simp only [operateTimeout]
      split
      · have hne : w.port.state ≠ .startup := by
          rw [← hstate, hoperate]
          decide
        exact .goesOn hstate hne ⟨hgate.gate, hgate.valid⟩
      · rcases restartEstablish_leaves env _ now true with hfailed | hpausing
        · exact .failed hfailed
        · exact .restarts hpausing
    all_goals
      next hother =>
      simp only [World.emit_port] at hother
      apply hstays
      rw [← hstate, hother]
      decide

/-- A response timeout keeps the timers. -/
theorem Timely.timeout (h : Timely w) (env : Env) (now : UInt32) :
  Timely (tickTimeout env w now true).1
  := by
  obtain ⟨hquiet, htimer⟩ := tickTimeout_paced w.port.config env w now
  obtain ⟨u, hu, hstate, hgate⟩ : ∃ u : World, (tickTimeout env w now true).1
      = (onTimeoutAt env u now true).1 ∧ u.port.state = w.port.state ∧
        SameGate w.port u.port := by
    refine ⟨_, rfl, ?_, ?_⟩
    · split
      · rw [flushRx_fst]
        rfl
      · rfl
    · split
      · rw [flushRx_fst]
        exact ⟨rfl, rfl⟩
      · exact ⟨rfl, rfl⟩
  have htimedOut := onTimeoutAt_timedOut env u now
  rw [← hu] at htimedOut
  cases htimedOut with
  | failed herror => exact h.untested (untested_error herror) htimer hquiet.time
  | restarts hpausing => exact h.untested hpausing.untested htimer hquiet.time
  | goesOn hsame hne hkept =>
      rw [hstate] at hsame hne
      apply h.stays hsame hne _ htimer hquiet.time
      exact ⟨hkept.gate.trans hgate.gate, hkept.valid.trans hgate.valid⟩

/-! ### Slots -/

/-- A slot of PREOPERATE or OPERATE stays in its state, or fails. -/
theorem SlotPath.stays {ready : World → Prop} (h : SlotPath K ready w v)
    (hstate : w.port.state ≠ .startup) :
  v.port.state = w.port.state ∨ v.port.state = .error
  := by
  induction h with
  | refl =>
      left
      rfl
  | @tail u v _ hstep ih =>
      have hne : u.port.state ≠ .startup := by
        rcases ih with h | h
        · rw [h]
          apply hstate
        · rw [h]
          decide
      cases hstep with
      | control h =>
          cases h with
          | service h =>
              rw [(untouched_of_step h).state]
              apply ih
          | fail =>
              right
              rfl
      | slot | send | count | arm => apply ih
      | sendFailed | startupFailed =>
          right
          rfl
      | restep _ hstartup | callWakeUp hstartup | wake hstartup | test _ _ hstartup =>
          exact absurd hstartup hne

/-- No time passes in a slot. -/
theorem SlotPath.time {ready : World → Prop} (h : SlotPath K ready w v) :
  tickTime v.log = tickTime w.log
  := by
  induction h with
  | refl => rfl
  | tail _ hstep ih =>
      rw [← ih]
      cases hstep with
      | control h =>
          have hquiet : Quiet w.port.config _ _ := (slotless_control h).quiet
          exact hquiet.time
      | sendFailed sent => cases sent <;> rfl
      | _ => rfl

theorem sendFull_gate (env : Env) (w : World) (frame : List UInt8) :
  SameGate w.port (sendFull env w frame).1.port
  := by
  apply sameGate_of_map (f := fun w => (sendFull env w frame).1)
  intro t l w
  rw [sendFull_after]
  rfl

/-- A transmission that fails leaves the port in ERROR. -/
theorem sendFull_failed {env : Env} {frame : List UInt8} (h : (sendFull env w frame).2 = false) :
  (sendFull env w frame).1.port.state = .error
  := by
  have hcases := sendFull_cases env w frame
  revert h hcases
  generalize sendFull env w frame = r
  rintro h (_ | _ | _)
  · rfl
  · rfl
  · contradiction

theorem sendFull_state {env : Env} {frame : List UInt8} (h : (sendFull env w frame).2 = true) :
  (sendFull env w frame).1.port.state = w.port.state
  := by
  have hcases := sendFull_cases env w frame
  revert h hcases
  generalize sendFull env w frame = r
  rintro h (_ | _ | _)
  · contradiction
  · contradiction
  · rfl

/-- A wake-up leaves the port in ERROR or before the test message. -/
theorem processWake_untested (env : Env) (now : UInt32) (hstate : w.port.state = .startup) :
  Untested (processWake env w now true).port
  := by
  have hfails : (wakeUp env w).2 = false → (wakeUp env w).1.port.state = .error := by
    simp only [wakeUp]
    split
    · apply sendFull_failed
    · split
      · intro hsent
        contradiction
      · intro _
        rfl
  have hwoken : (wakeUp env w).2 = true → (wakeUp env w).1.port.state = .startup := by
    rw [← hstate]
    simp only [wakeUp]
    split
    · apply sendFull_state
    · split
      · intro _
        rfl
      · intro hsent
        contradiction
  simp only [processWake]
  split
  · next h =>
    exact (pausing_arm _ (hwoken h) (by decide)).untested
  · next h =>
    exact untested_error (hfails (Bool.eq_false_iff.mpr h))

/-- A slot of STARTUP whose send gate is open keeps the timers. -/
theorem Timely.startup (h : Timely w) (env : Env) {now : UInt32}
    (hstate : w.port.state = .startup) (hnow : tickTime w.log = now.toNat)
    (hgate : sendGated w.port now true = false)
    (htime : tickTime (processStartup K env w now true).log = tickTime w.log) :
  Timely (processStartup K env w now true)
  := by
  have htimer := processStartup_timer env K w now
  revert htime htimer
  simp only [processStartup]
  split
  · split
    · intro htime htimer
      exact h.untested (untested_error rfl) htimer htime
    · intro htime htimer
      exact h.untested (processWake_untested env now hstate) htimer htime
  · intro htime htimer
    exact h.untested (processWake_untested env now hstate) htimer htime
  · simp only [processTest]
    split
    · intro _ _
      apply h
    · have hkept := sendFull_gate env w (testMessage K)
      split
      · intro htime htimer
        refine ⟨?_, ?_, ?_⟩
        · exact ⟨fun _ _ => rfl, fun _ => (by decide : StartupStep.awaitResponse ≠ .awaitOperateAck)⟩
        · intro _ hvalid
          rw [htime, hnow]
          have hsame : (sendFull env w (testMessage K)).1.port.sendReadyValid = true := hvalid
          rw [hkept.valid] at hsame
          rw [sendGated, hsame, Bool.and_self, Bool.true_and, decide_eq_false_iff_not] at hgate
          have hle : w.port.sendReadyAt100us.toNat ≤ now.toNat :=
            UInt32.le_iff_toNat_le.mp (UInt32.not_lt.mp hgate)
          rw [← hkept.gate] at hle
          exact hle
        · rw [htimer.valid, htimer.start, htime]
          apply h.cycle
      · next hfails =>
        intro htime htimer
        have herror := sendFull_failed (Bool.eq_false_iff.mpr hfails)
        exact h.untested (untested_error herror) htimer htime
  · intro _ _
    apply h
  · intro _ _
    apply h

/-- A slot keeps the timers. -/
theorem Timely.slot (h : Timely w) (hK : K.Lawful) (env : Env) {now : UInt32}
    (hnow : tickTime w.log = now.toNat) :
  Timely (processAt K env w now true)
  := by
  have htimer : SameTimer w (processAt K env w now true) := processAt_timer w now
  have hpath : SlotPath K (fun _ => True) w (processAt K env w now true) :=
    processAt_path hK env now true trivial
  have htime := hpath.time
  have hconnected : w.port.state ≠ .startup → SameGate w.port (processAt K env w now true).port →
      Timely (processAt K env w now true) := by
    intro hne hgate
    rcases hpath.stays hne with hsame | herror
    · exact h.stays hsame hne hgate htimer htime
    · exact h.untested (untested_error herror) htimer htime
  revert htimer htime hconnected
  simp only [processAt]
  split
  · intro _ _ _
    apply h
  · next hopen =>
    simp only [Bool.or_eq_true, not_or, Bool.not_eq_true] at hopen
    cases hstate : w.port.state with
    | startup =>
        intro _ htime _
        exact h.startup env hstate hnow hopen.2 htime
    | preoperate =>
        intro _ _ hconnected
        apply hconnected (by decide : MasterState.preoperate ≠ .startup)
        exact sameGate_of_map (f := fun w => processPreoperate K env w)
          (fun t l w => processPreoperate_after t l w env K) w.openSlot
    | operate =>
        intro _ _ hconnected
        apply hconnected (by decide : MasterState.operate ≠ .startup)
        exact sameGate_of_map (f := fun w => processOperate K env w)
          (fun t l w => processOperate_after t l w env K) w.openSlot
    | inactive | error =>
        intro _ _ _
        apply h

/-- A slot that starts a cycle keeps the timers. -/
theorem Timely.cycled (h : Timely w) (hK : K.Lawful) (env : Env) {now : UInt32}
    (hnow : tickTime w.log = now.toNat) :
  Timely (processSlot K env w now true)
  := by
  have hslot := h.slot hK env hnow
  have hpath : SlotPath K (fun _ => True) w (processAt K env w now true) :=
    processAt_path hK env now true trivial
  have hnow' := hpath.time.trans hnow
  rcases processSlot_armed K env w now with ⟨heq, -⟩ | ⟨deadline, heq, -⟩
  · rw [heq]
    apply hslot
  · rw [heq, armCycle_eq]
    exact ⟨⟨fun _ _ => rfl, hslot.phased.unacknowledged⟩, hslot.gate, fun _ => hnow'.ge⟩

/-- A tick keeps the timers. -/
theorem Timely.tick (h : Timely w) (hK : K.Lawful) (env : Env) (event : TickEvent)
    {now : UInt32} (hnow : tickTime w.log ≤ now.toNat) :
  Timely (tickAt K env w event now).1
  := by
  have hticked : Timely (w.emit (.tick now)) :=
    ⟨h.phased, fun htested hvalid => (h.gate htested hvalid).trans hnow,
      fun hvalid => (h.cycle hvalid).trans hnow⟩
  have hpolled := hticked.polled hK env
  rcases tickCommon_cases K env (w.emit (.tick now)) event true now
    with heq | ⟨-, -, heq⟩ | ⟨-, -, heq⟩
  · rw [tickAt, heq]
    apply hpolled
  · rw [tickAt, heq]
    apply hpolled.timeout
  · rw [tickAt, heq]
    apply hpolled.cycled hK env
    exact (pollRx_paced hK w.port.config env (w.emit (.tick now))).1.time

theorem Timely.service (h : Timely w) (call : Service) :
  Timely (runService w call)
  := by
  obtain ⟨hquiet, htimer⟩ := runService_paced w.port.config w call
  have hkept := untouched_of_path (runService_path w call)
  apply h.moves (moves_of_same hkept.state hkept.step hkept.awaiting) _ htimer hquiet.time
  intro _
  exact sameGate_of_map (f := fun w => runService w call)
    (fun t l w => runService_after t l w call) w

/-! ### Runs -/

/-- An initialized port has not sent anything. -/
theorem timely_started (env : Env) (phy : PhyApi) (config : Config)
    (hconfig : configRefused config = false) :
  Timely (started env phy config)
  := by
  have hkept : ∀ v : World,
      (initPhy env v).1.port.startup = v.port.startup ∧
        (initPhy env v).1.port.sendReadyValid = v.port.sendReadyValid ∧
        (initPhy env v).1.port.cycleTimerValid = v.port.cycleTimerValid := by
    intro v
    simp only [initPhy, initStep, setMode, setBaudrate, flushRx_fst]
    repeat' split
    all_goals exact ⟨rfl, rfl, rfl⟩
  have hfresh : ∀ v : World, v.port.startup = .zero → v.port.sendReadyValid = false →
      v.port.cycleTimerValid = false → Timely v := by
    intro v hstartup hgate hcycle
    refine ⟨⟨?_, ?_⟩, ?_, ?_⟩
    · rw [hstartup]
      intro _ hstep
      contradiction
    · rw [hstartup]
      intro _ hstep
      contradiction
    · rw [hgate]
      intro _ hvalid
      contradiction
    · rw [hcycle]
      intro hvalid
      contradiction
  simp only [started, initPort, hconfig, Bool.false_eq_true, if_false]
  split
  · apply hfresh <;> rfl
  · obtain ⟨hstartup, hgate, hcycle⟩ := hkept
      ⟨zeroPort phy config, .enter (zeroPort phy config).state :: (powerOn phy config).log⟩
    apply hfresh
    · apply hstartup
    · apply hgate
    · apply hcycle

/-- The timers of every reachable port are in order. -/
theorem reachable_timely (hK : K.Lawful) {phy : PhyApi} {config : Config}
    (hw : Reach K timedTicks phy config w) :
  Timely w
  := by
  induction hw with
  | start env hconfig => apply timely_started env phy config hconfig
  | call env c hw hc ih =>
      cases c with
      | tickAt event now => exact ih.tick hK env event hc
      | service call => exact ih.service call
      | _ => contradiction

/-! ### The predicted time -/

/-- The predicted time is not in the past. -/
theorem le_getNextTickTime (p : PortState) (now : UInt32) :
  now ≤ getNextTickTime p now
  := by
  simp only [getNextTickTime]
  split
  · apply UInt32.le_refl
  · split
    · split
      · apply UInt32.le_refl
      · next hlate => exact UInt32.le_of_lt (UInt32.not_le.mp hlate)
    · split
      · next hgate => exact UInt32.le_of_lt hgate.2.2
      · split
        · apply UInt32.le_refl
        · split
          · apply UInt32.le_refl
          · next hlate => exact UInt32.le_of_lt (UInt32.not_le.mp hlate)

/-- A tested port is not held off by its send gate. -/
theorem Timely.ungated (h : Timely w) (htested : Tested w.port) {t : UInt32}
    (ht : tickTime w.log ≤ t.toNat) :
  sendGated w.port t true = false
  := by
  rw [sendGated]
  cases hvalid : w.port.sendReadyValid with
  | false => rfl
  | true =>
      have hpast : w.port.sendReadyAt100us ≤ t :=
        UInt32.le_iff_toNat_le.mpr ((h.gate htested hvalid).trans ht)
      simpa using hpast

/-- A paced cycle is due from its end on. -/
theorem Timely.due_iff (h : Timely w) (hpaced : cyclePaced w.port = true)
    (hfits : CycleFits w.port) {t : UInt32} (ht : tickTime w.log ≤ t.toNat) :
  cycleDueAt w.port t = true ↔
    w.port.lastCycleStart100us + w.port.config.minCycleTime.toUInt32 ≤ t
  := by
  have hvalid : w.port.cycleTimerValid = true := by
    simp only [cyclePaced, Bool.and_eq_true] at hpaced
    exact hpaced.2
  have hstart : w.port.lastCycleStart100us.toNat ≤ t.toNat := (h.cycle hvalid).trans ht
  have hend := toNat_add (a := w.port.lastCycleStart100us)
    (b := w.port.config.minCycleTime.toUInt32) (hfits hpaced)
  rw [cycleDueAt, hpaced, Bool.not_true, Bool.false_or, decide_eq_true_iff, ge_iff_le,
    UInt32.le_iff_toNat_le, UInt32.le_iff_toNat_le, hend,
    UInt32.toNat_sub_of_le _ _ (UInt32.le_iff_toNat_le.mpr hstart)]
  omega

/-- A port that is not paced is always due. -/
theorem cycleDueAt_unpaced {p : PortState} (h : cyclePaced p = false) (t : UInt32) :
  cycleDueAt p t = true
  := by
  rw [cycleDueAt, h]
  rfl

/-- The states in which a port communicates. -/
def Communicates (p : PortState) : Prop :=
  p.state = .startup ∨ p.state = .preoperate ∨ p.state = .operate

theorem Communicates.started {p : PortState} (h : Communicates p) :
  ¬ (p.state = .inactive ∨ p.state = .error)
  := by
  rcases h with h | h | h <;> simp [h]

theorem Communicates.ne_error {p : PortState} (h : Communicates p) :
  p.state ≠ .error
  := fun herror => h.started (.inr herror)

theorem unpaced_of_startup {p : PortState} (h : p.state = .startup) :
  cyclePaced p = false
  := by
  rw [cyclePaced, h]
  rfl

/-- At the predicted time nothing holds off a port that waits for no reply. -/
theorem Timely.open (h : Timely w) (hstate : Communicates w.port)
    (hawaiting : w.port.awaitingResponse = false) (hfits : CycleFits w.port) {now : UInt32}
    (hnow : tickTime w.log ≤ now.toNat) :
  sendGated w.port (getNextTickTime w.port now) true = false ∧
    cycleDueAt w.port (getNextTickTime w.port now) = true
  := by
  have hnext := hnow.trans (UInt32.le_iff_toNat_le.mp (le_getNextTickTime w.port now))
  rcases hstate with hstartup | hconnected
  · refine ⟨?_, cycleDueAt_unpaced (unpaced_of_startup hstartup) _⟩
    simp only [getNextTickTime, hstartup, hawaiting, unpaced_of_startup hstartup]
    simp only [reduceCtorEq, or_self, Bool.false_eq_true, if_false, true_and, Bool.not_false,
      if_true]
    split
    · simp [sendGated]
    · next hopen =>
      rw [sendGated, Bool.true_and, Bool.and_eq_false_iff, decide_eq_false_iff_not]
      rw [not_and_or, Bool.not_eq_true] at hopen
      apply hopen
  · have hne : w.port.state ≠ .startup := by
      rcases hconnected with h | h <;> simp [h]
    have htested : Tested w.port := by
      left
      rcases hconnected with h | h <;> simp [acyclicAvailable, h]
    refine ⟨h.ungated htested hnext, ?_⟩
    cases hpaced : cyclePaced w.port with
    | false => apply cycleDueAt_unpaced hpaced
    | true =>
        rw [h.due_iff hpaced hfits hnext, getNextTickTime,
          if_neg (Communicates.started (.inr hconnected)), hawaiting, if_neg (by decide),
          if_neg (fun h => hne h.1), hpaced, Bool.not_true, if_neg (by decide)]
        dsimp only
        split
        · next hlate => exact hlate
        · apply UInt32.le_refl

/-- Before the predicted time something holds off the port. -/
theorem Timely.closed (h : Timely w) (hstate : Communicates w.port) (hfits : CycleFits w.port)
    {now t : UInt32} (hnow : tickTime w.log ≤ now.toNat) (hle : now ≤ t)
    (hlt : t < getNextTickTime w.port now) :
  responseDueAt w.port t = false ∧
    (w.port.awaitingResponse = true ∨
      w.port.state = .startup ∧ sendGated w.port t true = true ∨ cycleDueAt w.port t = false)
  := by
  have hpast := hnow.trans (UInt32.le_iff_toNat_le.mp hle)
  have hfar : ¬ t < now := UInt32.not_lt.mpr hle
  rw [getNextTickTime, if_neg hstate.started] at hlt
  cases hawaiting : w.port.awaitingResponse with
  | true =>
      refine ⟨?_, .inl rfl⟩
      rw [hawaiting, if_pos rfl] at hlt
      split at hlt
      · contradiction
      · rw [responseDueAt, hawaiting, Bool.true_and, decide_eq_false_iff_not]
        exact UInt32.not_le.mpr hlt
  | false =>
      refine ⟨by rw [responseDueAt, hawaiting, Bool.false_and], .inr ?_⟩
      rw [hawaiting, if_neg (by decide)] at hlt
      split at hlt
      · next hgate =>
        left
        refine ⟨hgate.1, ?_⟩
        rw [sendGated, hgate.2.1, Bool.true_and, Bool.true_and, decide_eq_true_iff]
        exact hlt
      · split at hlt
        · contradiction
        · next hpaced =>
          rw [Bool.not_eq_true', ← Bool.not_eq_true, not_not] at hpaced
          right
          rw [← Bool.not_eq_true, h.due_iff hpaced hfits hpast]
          dsimp only at hlt
          split at hlt
          · contradiction
          · exact UInt32.not_le.mpr hlt

/-! ### Ticks before the predicted time -/

/-- A poll without received octets does nothing. -/
theorem pollRx_silent (K : Iolinki) {env : Env} (w : World) (hrecv : env.recv = [])
    (hfails : env.recvFails = false) :
  (pollRx K env w).1 = w ∧ ¬ (pollRx K env w).2 < 0
  := by
  simp only [pollRx]
  split
  · exact ⟨rfl, (by decide : ¬ STATUS_OK < 0)⟩
  · split
    · exact ⟨rfl, (by decide : ¬ STATUS_OK < 0)⟩
    · simp [hrecv, pollLoop, hfails]

/-- Before the predicted time a tick without received octets does nothing. -/
theorem Timely.idles (h : Timely w) (hstate : Communicates w.port) (hfits : CycleFits w.port)
    {env : Env} (hrecv : env.recv = []) (hfails : env.recvFails = false) {now t : UInt32}
    (hnow : tickTime w.log ≤ now.toNat) (hle : now ≤ t) (hlt : t < getNextTickTime w.port now) :
  (controllerTickAt K env w t).1 = w.emit (.tick t)
  := by
  obtain ⟨hdue, hclosed⟩ := h.closed hstate hfits hnow hle hlt
  obtain ⟨hpoll, hret⟩ := pollRx_silent K (w.emit (.tick t)) hrecv hfails
  rw [controllerTickAt, hdue, if_neg (by decide), tickAt, tickCommon]
  dsimp only
  rw [if_neg hret, hpoll]
  split
  · rfl
  · next hawaiting =>
    split
    · rfl
    · next hcycle =>
      rw [Bool.true_and, Bool.not_eq_true', Bool.not_eq_false] at hcycle
      have hgated : sendGated w.port t true = true := by
        rcases hclosed with hwaits | ⟨-, hgated⟩ | hearly
        · exact absurd hwaits hawaiting
        · exact hgated
        · exact absurd hcycle (by simpa using hearly)
      have hslot : processAt K env (w.emit (.tick t)) t true = w.emit (.tick t) := by
        rw [processAt]
        apply if_pos
        rw [Bool.or_eq_true]
        exact .inr hgated
      rw [processSlot]
      dsimp only
      rw [hslot, bne_self_eq_false, Bool.and_false]
      rfl

/-! ### Slots that send -/

/-- What is added later is added. -/
theorem Adds.after {u : World} (h : Adds v u) (hlog : w.log <:+ v.log) :
  Adds w u
  := by
  obtain ⟨os, hos, o, ho, hadvances⟩ := h
  obtain ⟨added, hv⟩ := hlog
  refine ⟨os ++ added, ?_, o, List.mem_append_left _ ho, hadvances⟩
  rw [hos, ← hv, List.append_assoc]

/-- What is added before something else is added. -/
theorem Adds.before {u : World} (h : Adds w v) (hlog : v.log <:+ u.log) :
  Adds w u
  := by
  obtain ⟨os, hos, o, ho, hadvances⟩ := h
  obtain ⟨added, hu⟩ := hlog
  refine ⟨added ++ os, ?_, o, List.mem_append_right _ ho, hadvances⟩
  rw [← hu, hos, List.append_assoc]

/-- Something is sent between the worlds `w` and `v`, or the port fails. -/
def Transmits (w v : World) : Prop := Adds w v ∨ v.port.state = .error

/-- What keeps the state takes nothing back. -/
theorem Transmits.later {u : World} (h : Transmits w v) (hlog : v.log <:+ u.log)
    (hstate : u.port.state = v.port.state) :
  Transmits w u
  := by
  rcases h with hadds | herror
  · exact .inl (hadds.before hlog)
  · right
    rw [hstate, herror]

/-- What neither observes anything nor changes the state takes nothing back. -/
theorem Transmits.same {u : World} (h : Transmits w v) (hlog : u.log = v.log)
    (hstate : u.port.state = v.port.state) :
  Transmits w u
  := h.later (hlog ▸ List.suffix_refl _) hstate

/-- What is sent later is sent. -/
theorem Transmits.after {u : World} (h : Transmits v u) (hlog : w.log <:+ v.log) :
  Transmits w u
  := h.imp_left fun hadds => hadds.after hlog

theorem sendFull_sends (env : Env) (w : World) (frame : List UInt8) :
  Transmits w (sendFull env w frame).1
  := by
  have hcases := sendFull_cases env w frame
  revert hcases
  generalize sendFull env w frame = r
  rintro (_ | _ | _)
  · right
    rfl
  · right
    rfl
  · left
    exact ⟨[_], rfl, _, List.mem_singleton_self _, rfl⟩

theorem sendEvent_sends (hK : K.Lawful) (h : (sendEvent K env w).2 = true) :
  Transmits w (sendEvent K env w).1
  := by
  revert h
  simp only [sendEvent]
  split
  · intro hsent
    contradiction
  · next read addr _ =>
    intro _
    have hsent := sendFull_sends env w (eventFrame K w.port read addr)
    rw [if_neg (eventFrame_ne_nil hK w.port read addr)]
    split
    · split
      · apply hsent.same rfl rfl
      · apply hsent.same rfl rfl
    · split
      · apply hsent.same rfl rfl
      · apply hsent

theorem sendIsdu_sends (h : (sendIsdu K env w).2 = true) :
  Transmits w (sendIsdu K env w).1
  := by
  revert h
  rw [sendIsdu_eq]
  cases isduNext w.port.isdu w.port.odLen with
  | none =>
      intro hsent
      contradiction
  | some next =>
      simp only [sendFrame]
      split
      · intro hsent
        contradiction
      · intro _
        exact sendFull_sends env (w.putIsdu next.2) _

/-- A cyclic exchange sends its frame. -/
theorem processCyclic_sends (hK : K.Lawful) (env : Env) (w : World) :
  Transmits w (processCyclic K env w)
  := by
  have hsent : ∀ (s : IsduState) (frame : List UInt8), Transmits w
      (if (sendFull env (w.putIsdu s) frame).2 then
        (sendFull env (w.putIsdu s) frame).1.put
          (countCycle (sendFull env (w.putIsdu s) frame).1.port)
      else (sendFull env (w.putIsdu s) frame).1) := by
    intro s frame
    have hframe : Transmits w (sendFull env (w.putIsdu s) frame).1 :=
      sendFull_sends env (w.putIsdu s) frame
    split
    · apply hframe.same rfl rfl
    · apply hframe
  simp only [processCyclic]
  rw [if_neg (cyclicFrame_ne_nil hK _ _ _ _)]
  apply hsent

/-- A slot of OPERATE sends a frame. -/
theorem processOperate_sends (hK : K.Lawful) (env : Env) (w : World) :
  Transmits w (processOperate K env w)
  := by
  simp only [processOperate]
  split
  · next hevent => apply sendEvent_sends hK hevent
  · next hevent =>
    have hkept := sendEvent_unsent_eq hK (Bool.eq_false_iff.mpr hevent)
    rw [hkept]
    split
    · next hisdu => apply sendIsdu_sends hisdu
    · next hisdu =>
      have hnext := sendIsdu_unsent_eq hK (Bool.eq_false_iff.mpr hisdu)
      rw [sendIsdu_eq, hnext]
      apply processCyclic_sends hK

theorem processDeviceOperate_sends (hK : K.Lawful) (env : Env) (w : World) :
  Transmits w (processDeviceOperate K env w)
  := by
  have hframe : deviceOperateMessage K ≠ [] := by
    simp [deviceOperateMessage, hK.encodeType0Write_eq]
  have hsent := sendFull_sends env w (deviceOperateMessage K)
  simp only [processDeviceOperate, if_neg hframe]
  split
  · apply hsent.same rfl rfl
  · apply hsent

/-- A read that is pending on a silent transport has just started. -/
theorem readIsdu_pending {index : UInt16} {subindex cap : UInt8}
    (hbusy : isduBusy w.port.isdu = false)
    (h : (readIsdu w index subindex cap).2.ret = STATUS_PENDING) :
  w.port.isdu.op = .none ∧ (readIsdu w index subindex cap).1.port.isdu.op = .read
  := by
  revert h
  simp only [readIsdu, hbusy]
  split
  · intro h
    exact absurd h (by decide : ISDU_ERR_INVALID_STATE ≠ STATUS_PENDING)
  · rw [if_neg (by decide)]
    split
    · split
      · intro h
        exact absurd h (by decide : ISDU_ERR_BUSY ≠ STATUS_PENDING)
      · simp only [isduFinishRead]
        split
        · intro h
          exact absurd h (by decide : ISDU_ERR_DEVICE ≠ STATUS_PENDING)
        · split
          · intro h
            exact absurd h (by decide : ISDU_ERR_BUFFER_TOO_SMALL ≠ STATUS_PENDING)
          · intro h
            exact absurd h (by decide : STATUS_OK ≠ STATUS_PENDING)
    · next hdone =>
      intro _
      refine ⟨?_, rfl⟩
      simpa [isduBusy, hdone] using hbusy

/-- A page that has been read is accepted or refused at once. -/
theorem applyDirectParameterPage1_settles (p : PortState) (page : List UInt8) :
  (applyDirectParameterPage1 p page).2 < 0 ∨
    (applyDirectParameterPage1 p page).2 = STATUS_OK ∧
      validateDeviceInfo (applyDirectParameterPage1 p page).1 ≤ 0
  := by
  simp only [applyDirectParameterPage1]
  split
  · next info hparse =>
    right
    exact ⟨rfl, validateConfigAgainstDeviceInfo_le p.config (parseDirectParameterPage1_valid hparse)⟩
  · next e hparse =>
    left
    exact parseDirectParameterPage1_error_neg hparse

theorem readDeviceInfo_pending (hbusy : isduBusy w.port.isdu = false)
    (h : (readDeviceInfo w).2 = STATUS_PENDING) :
  w.port.isdu.op = .none ∧ (readDeviceInfo w).1.port.isdu.op = .read
  := by
  obtain ⟨r, hr⟩ : ∃ r, r = readIsdu w IDX_DIRECT_PARAMETERS_1 0 (UInt8.ofNat DPP1_LEN) := ⟨_, rfl⟩
  revert h
  simp only [readDeviceInfo, ← hr]
  split
  · intro h
    rw [hr] at h ⊢
    apply readIsdu_pending hbusy h
  · have hsettles :=
      applyDirectParameterPage1_settles (r.1.emit (.page r.2.data)).port r.2.data
    split
    · next hrefused =>
      rcases hsettles with hneg | ⟨hok, -⟩
      · intro h
        rw [h] at hneg
        exact absurd hneg (by decide : ¬ STATUS_PENDING < 0)
      · exact absurd hok hrefused
    · next haccepted =>
      rcases hsettles with hneg | ⟨-, hle⟩
      · exact absurd (ne_of_lt hneg) haccepted
      · intro h
        dsimp only at h
        rw [World.put_port] at h
        rw [h] at hle
        exact absurd hle (by decide : ¬ STATUS_PENDING ≤ 0)

/-- A check of the device information that stops PREOPERATE has started to read it, or fails. -/
theorem processValidation_stops (hbusy : isduBusy w.port.isdu = false)
    (h : (processValidation w).2 = false) :
  (processValidation w).1.port.state = .error ∨
    w.port.isdu.op = .none ∧ (processValidation w).1.port.isdu.op = .read
  := by
  obtain ⟨r, hr⟩ : ∃ r, r = if w.port.deviceInfo.valid then (w, STATUS_OK) else readDeviceInfo w :=
    ⟨_, rfl⟩
  revert h
  simp only [processValidation, ← hr]
  split
  · split
    · next hpending =>
      intro _
      right
      rw [hr] at hpending ⊢
      split at hpending
      · exact absurd hpending (by decide : STATUS_OK ≠ STATUS_PENDING)
      · next hvalid =>
        rw [if_neg hvalid]
        apply readDeviceInfo_pending hbusy hpending
    · split
      · intro _
        left
        rfl
      · split
        · intro _
          left
          rfl
        · intro h
          exact absurd h (by decide : ¬ true = false)
  · intro h
    exact absurd h (by decide : ¬ true = false)

/-- A slot of PREOPERATE sends a frame, or starts to read the device information. -/
theorem processPreoperate_sends (hK : K.Lawful) (env : Env) (w : World) :
  Transmits w (processPreoperate K env w) ∨
    w.port.isdu.op = .none ∧ (processPreoperate K env w).port.isdu.op = .read
  := by
  simp only [processPreoperate]
  split
  · next hevent =>
    left
    apply sendEvent_sends hK hevent
  · next hevent =>
    have hkept := sendEvent_unsent_eq hK (Bool.eq_false_iff.mpr hevent)
    rw [hkept]
    split
    · next hisdu =>
      left
      apply sendIsdu_sends hisdu
    · next hisdu =>
      have hnext := sendIsdu_unsent_eq hK (Bool.eq_false_iff.mpr hisdu)
      have hbusy : isduBusy w.port.isdu = false := by
        have hsilent := (isduNext_none hnext).1
        simp only [isduSilent, Bool.and_eq_true, Bool.not_eq_true'] at hsilent
        tauto
      rw [sendIsdu_eq, hnext]
      dsimp only
      split
      · left
        have hlog : w.log <:+ (processValidation w).1.log :=
          extends_control.path (processValidation_path w).1
        exact (processDeviceOperate_sends hK env (processValidation w).1).after hlog
      · next hstops =>
        rcases processValidation_stops hbusy (Bool.eq_false_iff.mpr hstops) with herror | hstarts
        · exact .inl (.inr herror)
        · exact .inr hstarts

/-- A wake-up is sent. -/
theorem processWake_sends (env : Env) (w : World) (now : UInt32) (timed : Bool) :
  Transmits w (processWake env w now timed)
  := by
  have hwoken : Transmits w (wakeUp env w).1 := by
    simp only [wakeUp]
    split
    · apply sendFull_sends
    · split
      · left
        exact ⟨[_], rfl, _, List.mem_singleton_self _, rfl⟩
      · right
        rfl
  simp only [processWake]
  split
  · simp only [armSendGate]
    split
    · apply hwoken.same rfl rfl
    · apply hwoken.same rfl rfl
  · apply hwoken

/-- A slot of STARTUP sends a wake-up or the test message, unless the answer is outstanding. -/
theorem processStartup_sends (hK : K.Lawful) (env : Env) (now : UInt32) (timed : Bool)
    (hstep : w.port.startup.step ≠ .awaitResponse ∧ w.port.startup.step ≠ .awaitOperateAck) :
  Transmits w (processStartup K env w now timed)
  := by
  simp only [processStartup]
  split
  · split
    · right
      rfl
    · have hwoken := processWake_sends env ((setMode env w .sdci).1.setStep .wake) now timed
      exact hwoken.after ⟨[_], rfl⟩
  · apply processWake_sends
  · have hframe : testMessage K ≠ [] := by
      simp [testMessage, hK.encodeType0_eq]
    have hsent := sendFull_sends env w (testMessage K)
    simp only [processTest, if_neg hframe]
    split
    · split
      · apply hsent.same rfl rfl
      · apply hsent.same rfl rfl
    · apply hsent
  · next h => exact absurd h hstep.1
  · next h => exact absurd h hstep.2

/-- A slot sends something, fails, or starts to read the device information in PREOPERATE. -/
def Proceeds (w v : World) : Prop :=
  Transmits w v ∨
    w.port.state = .preoperate ∧ w.port.isdu.op = .none ∧ v.port.isdu.op = .read

theorem processAt_proceeds (hK : K.Lawful) (env : Env) {now : UInt32}
    (hsend : w.port.phy.send = true) (hgate : sendGated w.port now true = false)
    (hstate : Communicates w.port)
    (hstep : w.port.state = .startup →
      w.port.startup.step ≠ .awaitResponse ∧ w.port.startup.step ≠ .awaitOperateAck) :
  Proceeds w (processAt K env w now true)
  := by
  have hopened : w.log <:+ w.openSlot.log := ⟨[_, _], rfl⟩
  simp only [processAt, hsend, hgate, Bool.not_true, Bool.or_self, Bool.false_eq_true, if_false]
  rcases hstate with hst | hst | hst
  · rw [hst]
    exact .inl (processStartup_sends hK env now true (hstep hst))
  · rw [hst]
    rcases processPreoperate_sends hK env w.openSlot with hsends | ⟨hnone, hread⟩
    · exact .inl (hsends.after hopened)
    · exact .inr ⟨hst, hnone, hread⟩
  · rw [hst]
    exact .inl ((processOperate_sends hK env w.openSlot).after hopened)

theorem processSlot_proceeds (hK : K.Lawful) (env : Env) {now : UInt32}
    (hsend : w.port.phy.send = true) (hgate : sendGated w.port now true = false)
    (hstate : Communicates w.port)
    (hstep : w.port.state = .startup →
      w.port.startup.step ≠ .awaitResponse ∧ w.port.startup.step ≠ .awaitOperateAck) :
  Proceeds w (processSlot K env w now true)
  := by
  have hslot := processAt_proceeds hK env hsend hgate hstate hstep
  rcases processSlot_armed K env w now with ⟨heq, -⟩ | ⟨deadline, heq, -⟩
  · rw [heq]
    apply hslot
  · rw [heq, armCycle_eq]
    rcases hslot with hsends | hreads
    · exact .inl (hsends.later ⟨[_], rfl⟩ rfl)
    · exact .inr hreads

/-- A slot of PREOPERATE or OPERATE stays in its state, or fails. -/
theorem processSlot_state (hK : K.Lawful) (env : Env) (now : UInt32)
    (hstate : w.port.state ≠ .startup) :
  (processSlot K env w now true).port.state = w.port.state ∨
    (processSlot K env w now true).port.state = .error
  := by
  have hpath : SlotPath K (fun _ => True) w (processAt K env w now true) :=
    processAt_path hK env now true trivial
  have hstays := hpath.stays hstate
  rcases processSlot_armed K env w now with ⟨heq, -⟩ | ⟨deadline, heq, -⟩
  · rw [heq]
    apply hstays
  · rw [heq, armCycle_eq]
    apply hstays

/-! ### Ticks at the predicted time -/

/-- What only arms the send gate takes back no observation. -/
theorem extends_of_gate {f : UInt32 → Bool → World → World × Int} (hf : ∀ w, ArmsGate f w)
    (now : UInt32) (w : World) :
  w.log <:+ (f now true w).1.log
  := by
  obtain ⟨delay, harms⟩ := hf w.fresh
  have hfresh := harms w.port.stamps w.log now
  rw [fresh_after] at hfresh
  rw [hfresh]
  apply List.suffix_append

/-- A response timeout is processed. -/
theorem tickTimeout_adds (env : Env) (w : World) (now : UInt32) :
  Adds w (tickTimeout env w now true).1
  := by
  have hflush : ∀ u : World, u.log <:+ (flushRx env u).1.log := by
    intro u
    rw [flushRx_fst, flushNoted]
    split
    · exact ⟨[_], rfl⟩
    · apply List.suffix_refl
  have hnoted : ∀ (u v : World) (st : MasterState) (due : Bool),
      ((flushRx env u).1.emit (.timeout st due)).log <:+ v.log → Adds u v := by
    intro u v st due hlater
    have hadds : Adds (flushRx env u).1 ((flushRx env u).1.emit (.timeout st due)) :=
      ⟨[_], rfl, _, List.mem_singleton_self _, rfl⟩
    exact (hadds.after (hflush u)).before hlater
  have htimeout : ∀ u : World, Adds u (onTimeoutAt env u now true).1 := by
    intro u
    apply hnoted u _ (flushRx env u).1.port.state (!true || decide (now ≥ u.port.responseDeadline100us))
    simp only [onTimeoutAt]
    split
    · exact ⟨[_], rfl⟩
    · split
      · split
        · apply List.suffix_refl
        · apply extends_of_gate (establishAttemptFailed_gate env)
      · apply extends_of_gate (operateTimeout_gate env)
      all_goals apply List.suffix_refl
  simp only [tickTimeout]
  apply (htimeout _).after
  split
  · apply hflush
  · apply List.suffix_refl

/-- A reply that is outstanding at the predicted time is overdue. -/
theorem responseDueAt_next {p : PortState} (hstate : Communicates p)
    (hawaiting : p.awaitingResponse = true) (now : UInt32) :
  responseDueAt p (getNextTickTime p now) = true
  := by
  rw [responseDueAt, getNextTickTime, if_neg hstate.started, if_pos hawaiting, hawaiting,
    Bool.true_and, decide_eq_true_iff]
  split
  · next hlate => exact hlate
  · apply UInt32.le_refl

/-- A port that has taken replies and is in its state is as due as it was. -/
theorem Ongoing.open (h : Ongoing w.port v.port) (hgate : SameGate w.port v.port)
    (htimer : SameTimer w v) {now : UInt32} :
  sendGated v.port now true = sendGated w.port now true ∧
    cycleDueAt v.port now = cycleDueAt w.port now
  := by
  simp only [sendGated, cycleDueAt, cyclePaced, hgate.gate, hgate.valid, htimer.valid, htimer.start,
    h.config, h.state, and_self]

/-- The world `v` comes from `w` by the poll of a timed tick. -/
structure Heard (w v : World) : Prop where
  past : w.log <:+ v.log
  gate : SameGate w.port v.port
  timer : SameTimer w v
  awaits : v.port.awaitingResponse = true → w.port.awaitingResponse = true

theorem heard_tick (hK : K.Lawful) (env : Env) (w : World) (now : UInt32) :
  Heard w (pollRx K env (w.emit (.tick now))).1
  := by
  have hpolled : (w.emit (.tick now)).log <:+ (pollRx K env (w.emit (.tick now))).1.log :=
    extends_receive.path (pollRx_path hK env _)
  have hticked : w.log <:+ (w.emit (.tick now)).log := ⟨[_], rfl⟩
  obtain ⟨hvalid, hstart⟩ := (pollRx_paced hK w.port.config env (w.emit (.tick now))).2
  obtain ⟨hgate, harmed⟩ := pollRx_gate K env (w.emit (.tick now))
  exact ⟨hticked.trans hpolled, ⟨hgate, harmed⟩, ⟨hvalid, hstart⟩, pollRx_awaiting K env _⟩

/-- The port has got beyond STARTUP. -/
theorem Later.connected {st st' : MasterState} (h : Later st st') :
  st' ≠ .startup
  := by
  rcases h with ⟨rfl, rfl | rfl⟩ | ⟨rfl, rfl⟩ <;> decide

/-- A slot that nothing holds off advances the port. -/
theorem Heard.slot (hheard : Heard w v) (htaken : Taken w.port v.port) (h : Timely w)
    (hK : K.Lawful) (env : Env) {now : UInt32} (hsend : w.port.phy.send = true)
    (hstate : Communicates w.port) (hawaiting : w.port.awaitingResponse = false)
    (hgate : sendGated w.port now true = false) :
  Advances w (processSlot K env v now true)
  := by
  have hne := hstate.ne_error
  rcases htaken.state with hlater | hongoing
  · -- The slot is one of the state the replies have led to.
    right
    intro hsame
    rcases processSlot_state hK env now hlater.connected with hstays | herror
    · rw [hsame] at hstays
      exact hlater.ne hstays.symm
    · rw [hsame] at herror
      exact hne herror
  · have hstep : v.port.state = .startup →
        v.port.startup.step ≠ .awaitResponse ∧ v.port.startup.step ≠ .awaitOperateAck := by
      intro hstartup
      rw [hongoing.state] at hstartup
      rw [hongoing.step]
      refine ⟨?_, h.phased.unacknowledged hstartup⟩
      intro hwaits
      have hawaits := h.phased.awaits hstartup hwaits
      rw [hawaiting] at hawaits
      contradiction
    have hsend' : v.port.phy.send = true := by
      rw [hongoing.phy, hsend]
    have hgate' : sendGated v.port now true = false := by
      rw [(hongoing.open hheard.gate hheard.timer).1, hgate]
    have hstate' : Communicates v.port := by
      rw [Communicates, hongoing.state]
      apply hstate
    rcases processSlot_proceeds hK env hsend' hgate' hstate' hstep
      with (hadds | herror) | ⟨hpreoperate, hnone, hread⟩
    · exact .inl (hadds.after hheard.past)
    · right
      intro hsame
      rw [hsame] at herror
      exact hne herror
    · right
      intro hsame
      rw [hongoing.state] at hpreoperate
      rw [hsame, ← hongoing.op hpreoperate, hnone] at hread
      contradiction

/-- At the predicted time a tick advances the port, whatever is received. -/
theorem Timely.advances (h : Timely w) (hK : K.Lawful) (hvalid : configRefused config = false)
    (hformed : WellFormed config w.port) (hsend : w.port.phy.send = true)
    (hstate : Communicates w.port) (hfits : CycleFits w.port) {now : UInt32}
    (hnow : tickTime w.log ≤ now.toNat) (env : Env) :
  Advances w (controllerTickAt K env w (getNextTickTime w.port now)).1
  := by
  have hne := hstate.ne_error
  have hheeds : Heeds w.port (pollRx K env (w.emit (.tick (getNextTickTime w.port now)))) :=
    pollRx_heeds (w := w.emit (.tick (getNextTickTime w.port now))) hK hvalid hformed hne
  have hheard := heard_tick hK env w (getNextTickTime w.port now)
  rw [controllerTickAt, tickAt, tickCommon]
  revert hheeds hheard
  generalize pollRx K env (w.emit (.tick (getNextTickTime w.port now))) = r
  obtain ⟨v, ret⟩ := r
  intro hheeds hheard
  dsimp only
  split
  · next hneg => exact .inr (hheeds.broken hneg)
  · next hret =>
    have htaken : Taken w.port v.port := hheeds.taken (not_lt.mp hret)
    cases hawaiting : w.port.awaitingResponse with
    | true =>
        rw [responseDueAt_next hstate hawaiting]
        simp only [if_true, Bool.true_and]
        split
        · next hanswered =>
          right
          intro hsame
          rw [hsame, hawaiting] at hanswered
          contradiction
        · left
          exact (tickTimeout_adds env v _).after hheard.past
    | false =>
        obtain ⟨hgate, hdue⟩ := h.open hstate hawaiting hfits hnow
        have hidle : v.port.awaitingResponse = false := by
          rw [← Bool.not_eq_true]
          intro hwaits
          rw [hheard.awaits hwaits] at hawaiting
          contradiction
        have hevent : responseDueAt w.port (getNextTickTime w.port now) = false := by
          rw [responseDueAt, hawaiting, Bool.false_and]
        rw [hevent]
        simp only [hidle, Bool.false_eq_true, if_false, Bool.true_and]
        split
        · next hearly =>
          -- The cycle timer paces the state the replies have led to.
          right
          intro hsame
          rw [hsame, hdue] at hearly
          contradiction
        · exact hheard.slot htaken h hK env hsend hstate hawaiting hgate

end

/-! ### Runs of ticks -/

/-- In every run of timed ticks and services the time `iolink_master_get_next_tick_time` returns is
the time of the next useful tick. -/
theorem next_tick_time {K : Iolinki} (hK : K.Lawful) {phy : PhyApi} {config : Config} {w : World}
    (hw : Reach K timedTicks phy config w) (hsend : w.port.phy.send = true)
    (hstate : Communicates w.port) (hfits : CycleFits w.port) {now : UInt32}
    (hnow : tickTime w.log ≤ now.toNat) :
  NextTick K w now (getNextTickTime w.port now)
  := by
  have htimely := reachable_timely hK hw
  constructor
  · apply le_getNextTickTime
  · intro env t hrecv hfails hle hlt
    exact htimely.idles hstate hfits hrecv hfails hnow hle hlt
  · intro env
    exact htimely.advances hK hw.accepted (reachable_port hK hw).1 hsend hstate hfits hnow env

/-- A port with a minimum cycle time of 2 ms that has answered its cyclic frame of 34 is due
again at 54. -/
theorem next_tick_time_cycles :
  let w := run .reference (started (.quiet []) .full pacing)
    (cycles ++ [(.quiet (reply 0 [0x11]), .tickAt .none 36)])
  w.port.awaitingResponse = false ∧ getNextTickTime w.port 36 = 54 ∧
    NextTick .reference w 36 (getNextTickTime w.port 36)
  := by
  have hreach : Reach .reference timedTicks .full pacing
      (run .reference (started (.quiet []) .full pacing)
        (cycles ++ [(.quiet (reply 0 [0x11]), .tickAt .none 36)])) := by
    apply (Reach.start _ (by decide)).run
    decide +kernel
  refine ⟨by decide +kernel, by decide +kernel, ?_⟩
  apply next_tick_time Iolinki.lawful_reference hreach
  · decide +kernel
  · right
    right
    decide +kernel
  · intro _
    decide +kernel
  · decide +kernel

end IolinkMaster
