import IolinkMaster.Library.Clock
import IolinkMaster.Retiming
import IolinkMaster.Runs

/-!
# Wrap-around of the clock

A run whose times are all shifted by the same amount, modulo the range of the clock, does
the same as the original run as long as no comparison of a stored time with the time of a
tick is decided by the wrap-around of one of them.
-/

namespace IolinkMaster

/-! ### Shifted runs -/

/-- The time `t'` is the time `t` shifted by `c`, unless no time has been stored yet. -/
def TimeShifted (c : UInt32) (stored : Bool) (t t' : UInt32) : Prop :=
  t' = t + c ∨ stored = false ∧ t = 0 ∧ t' = 0

/-- The times stored in a port are shifted by `c`. -/
structure StampsShifted (c : UInt32) (t t' : Stamps) : Prop where
  cycleValid : t'.cycleValid = t.cycleValid
  waiting : t'.waiting = t.waiting
  gateValid : t'.gateValid = t.gateValid
  cycle : TimeShifted c t.cycleValid t.cycleStart t'.cycleStart
  deadline : TimeShifted c t.waiting t.deadline t'.deadline
  gate : TimeShifted c t.gateValid t.gate t'.gate

/-- The observation without the times in it. -/
def Obs.untimed : Obs → Obs
  | .tick _ => .tick 0
  | .armed _ => .armed 0
  | .view p => .view (p.retime ⟨0, false, 0, false, 0, false⟩)
  | .timeout st _ => .timeout st true
  | o => o

/-- The world `w'` differs from `w` only by a shift of the stored times by `c`. -/
structure Shifted (c : UInt32) (w w' : World) : Prop where
  port : w'.port = { w.port with
    lastCycleStart100us := w'.port.lastCycleStart100us
    responseDeadline100us := w'.port.responseDeadline100us
    sendReadyAt100us := w'.port.sendReadyAt100us }
  cycle : TimeShifted c w.port.cycleTimerValid w.port.lastCycleStart100us
    w'.port.lastCycleStart100us
  deadline : TimeShifted c w.port.awaitingResponse w.port.responseDeadline100us
    w'.port.responseDeadline100us
  gate : TimeShifted c w.port.sendReadyValid w.port.sendReadyAt100us w'.port.sendReadyAt100us
  log : w'.log.map Obs.untimed = w.log.map Obs.untimed

/-- The call with its time shifted by `c`. -/
def Call.shift (c : UInt32) : Call → Call
  | .tickAt event now => .tickAt event (now + c)
  | .controllerTickAt now => .controllerTickAt (now + c)
  | call => call

/-- The return value of a call; services record theirs. -/
def callResult (K : Iolinki) (env : Env) (w : World) : Call → Int
  | .tickAt event now => (tickAt K env w event now).2
  | .controllerTickAt now => (controllerTickAt K env w now).2
  | .tickEvent event => (tickEvent K env w event).2
  | .pollRx => (pollRx K env w).2
  | .onRx data handler => (onRx K env w data handler).2
  | .onTimeout => (onTimeoutAt env w 0 false).2
  | .restart => (restart env w).2
  | .setPortMode mode => (setPortMode env w mode).2
  | .process | .service _ => STATUS_OK

/-- The return values of the calls of a run. -/
def results (K : Iolinki) (w : World) : List (Env × Call) → List Int
  | [] => []
  | c :: calls => callResult K c.1 w c.2 :: results K (runCall K c.1 w c.2) calls

/-- The shift by `c` takes both times beyond the range of the clock, or neither. -/
def WrapTogether (c s t : UInt32) : Prop :=
  Clock.Carries CLOCK_RANGE c.toNat s.toNat ↔ Clock.Carries CLOCK_RANGE c.toNat t.toNat

instance (c s t : UInt32) : Decidable (WrapTogether c s t) := inferInstanceAs (Decidable (_ ↔ _))

/-- The send gate in force wraps around with the time of the tick. -/
def GateComparable (c : UInt32) (p : PortState) (now : UInt32) : Prop :=
  p.sendReadyValid = true → WrapTogether c now p.sendReadyAt100us

/-- The response deadline in force wraps around with the time of the tick. -/
def DeadlineComparable (c : UInt32) (p : PortState) (now : UInt32) : Prop :=
  p.awaitingResponse = true → WrapTogether c now p.responseDeadline100us

instance (c : UInt32) (p : PortState) (now : UInt32) : Decidable (GateComparable c p now) :=
  inferInstanceAs (Decidable (_ → _))

instance (c : UInt32) (p : PortState) (now : UInt32) : Decidable (DeadlineComparable c p now) :=
  inferInstanceAs (Decidable (_ → _))

/-- A timed call, or a service call, whose comparisons are not decided by a wrap-around. -/
def Comparable (c : UInt32) (_ : Env) (w : World) : Call → Prop
  | .tickAt event now => event = .cycleDue → GateComparable c w.port now
  | .controllerTickAt now =>
    DeadlineComparable c w.port now ∧
      (responseDueAt w.port now = false → GateComparable c w.port now)
  | .service _ => True
  | _ => False

/-! ### Stored times -/

section

variable {c now delay : UInt32} {t t' : Stamps}

/-- A shifted time, modulo the range of the clock. -/
theorem toNat_shift (s c : UInt32) :
  (s + c).toNat = (s.toNat + c.toNat) % CLOCK_RANGE
  := by
  rw [UInt32.toNat_add]
  rfl

/-- Times that wrap around together keep their order. -/
theorem WrapTogether.lt_iff {s t : UInt32} (h : WrapTogether c s t) :
  s + c < t + c ↔ s < t
  := by
  rw [UInt32.lt_iff_toNat_lt, UInt32.lt_iff_toNat_lt, toNat_shift, toNat_shift]
  exact (Clock.shift_lt_iff s.toNat_lt t.toNat_lt c.toNat_lt).mpr h

/-- Times that wrap together keep their order. -/
theorem WrapTogether.ge_iff {s t : UInt32} (h : WrapTogether c s t) :
  s + c ≥ t + c ↔ s ≥ t
  := by
  rw [ge_iff_le, ge_iff_le, ← UInt32.not_lt, ← UInt32.not_lt]
  exact not_congr h.lt_iff

/-- A delay after a shifted time is the shifted delay. -/
theorem shift_add (now delay c : UInt32) :
  now + c + delay = now + delay + c
  := by
  rw [UInt32.add_assoc, UInt32.add_comm c, ← UInt32.add_assoc]

/-- The time elapsed does not depend on the shift. -/
theorem shift_sub (now t c : UInt32) :
  now + c - (t + c) = now - t
  := by
  grind

/-- A time that is in use is shifted. -/
theorem TimeShifted.stored {t t' : UInt32} (h : TimeShifted c true t t') :
  t' = t + c
  := by
  rcases h with h | h
  · apply h
  · exact absurd h.1 (by simp)

/-- Gates armed at shifted times are shifted. -/
theorem StampsShifted.gateAt (h : StampsShifted c t t') (now : UInt32) (delay : Option UInt32) :
  StampsShifted c (t.gateAt now delay) (t'.gateAt (now + c) delay)
  := by
  cases delay with
  | none => apply h
  | some delay =>
      exact ⟨h.cycleValid, h.waiting, rfl, h.cycle, h.deadline, .inl (shift_add now delay c)⟩

end

/-! ### Calls that store no times -/

section

variable {c : UInt32} {t t' : Stamps} {l l' : List Obs} {w w' : World}

/-- The same world after two pasts. -/
theorem shifted_after (u : World) (ht : StampsShifted c t t')
    (hl : l'.map Obs.untimed = l.map Obs.untimed) :
  Shifted c (u.after t l) (u.after t' l')
  := by
  refine ⟨?_, ?_, ?_, ?_, ?_⟩
  · simp only [World.after, PortState.retime, ht.cycleValid, ht.waiting, ht.gateValid]
  · apply ht.cycle
  · rcases ht.deadline with h | ⟨hwaiting, h⟩
    · left
      apply h
    · right
      refine ⟨?_, h⟩
      simp only [World.after, PortState.retime, hwaiting, Bool.and_false]
  · apply ht.gate
  · simp only [World.after, List.map_append, hl]

/-- What does not depend on the stored times is the same. -/
theorem Shifted.same {α : Type} {f : PortState → α} (h : Shifted c w w')
    (hf : ∀ p x y z, f { p with
      lastCycleStart100us := x
      responseDeadline100us := y
      sendReadyAt100us := z } = f p) :
  f w'.port = f w.port
  := by
  rw [h.port, hf]

/-- Two worlds that differ by a shift are the same world after two pasts. -/
theorem Shifted.core (h : Shifted c w w') :
  ∃ u t l t' l', w = World.after t l u ∧ w' = World.after t' l' u ∧ StampsShifted c t t' ∧
    l'.map Obs.untimed = l.map Obs.untimed
  := by
  refine ⟨⟨{ w.port with awaitingResponse := true }, []⟩, w.port.stamps, w.log, w'.port.stamps,
    w'.log, rfl, ?_, ?_, h.log⟩
  · show World.mk w'.port w'.log = _
    rw [h.port]
    rfl
  · refine ⟨?_, ?_, ?_, h.cycle, h.deadline, h.gate⟩
    · apply h.same (f := PortState.cycleTimerValid) fun _ _ _ _ => rfl
    · apply h.same (f := PortState.awaitingResponse) fun _ _ _ _ => rfl
    · apply h.same (f := PortState.sendReadyValid) fun _ _ _ _ => rfl

/-- Calls with the same result that leave worlds that differ by a shift. -/
def ResultShifted {α : Type} (c : UInt32) (r r' : World × α) : Prop :=
  Shifted c r.1 r'.1 ∧ r'.2 = r.2

/-- A call that reads and stores no times does the same in both runs. -/
theorem Shifted.result {α : Type} {f : World → World × α}
    (hf : ∀ t l w, f (w.after t l) = resultAfter t l (f w)) (h : Shifted c w w') :
  ResultShifted c (f w) (f w')
  := by
  obtain ⟨u, t, l, t', l', rfl, rfl, ht, hl⟩ := h.core
  rw [hf, hf]
  exact ⟨shifted_after (f u).1 ht hl, rfl⟩

/-- What does the same at any time keeps worlds shifted. -/
theorem Shifted.map {f : World → World} (hf : ∀ t l w, f (w.after t l) = (f w).after t l)
    (h : Shifted c w w') :
  Shifted c (f w) (f w')
  := by
  obtain ⟨u, t, l, t', l', rfl, rfl, ht, hl⟩ := h.core
  rw [hf, hf]
  apply shifted_after (f u) ht hl

/-- A call that stores nothing but the send gate does the same in both runs. -/
theorem Shifted.gated {f : UInt32 → Bool → World → World × Int} (hf : ∀ w, ArmsGate f w)
    (h : Shifted c w w') (now : UInt32) :
  ResultShifted c (f now true w) (f (now + c) true w')
  := by
  obtain ⟨u, t, l, t', l', rfl, rfl, ht, hl⟩ := h.core
  obtain ⟨delay, hf⟩ := hf u
  rw [hf, hf]
  exact ⟨shifted_after (f 0 false u).1 (ht.gateAt now delay) hl, rfl⟩

/-- Observations that differ in their times only keep worlds shifted. -/
theorem Shifted.emit (h : Shifted c w w') {o o' : Obs} (ho : o'.untimed = o.untimed) :
  Shifted c (w.emit o) (w'.emit o')
  := by
  refine ⟨h.port, h.cycle, h.deadline, h.gate, ?_⟩
  rw [World.emit_log, World.emit_log, List.map_cons, List.map_cons, h.log, ho]

/-- A timeout that is due differs from one that is not only by the times. -/
theorem timeout_untimed (st : MasterState) (due due' : Bool) :
  (Obs.timeout st due').untimed = (Obs.timeout st due).untimed
  := rfl

/-- Armed deadlines differ only by their times. -/
theorem armed_untimed (deadline deadline' : UInt32) :
  (Obs.armed deadline').untimed = (Obs.armed deadline).untimed
  := rfl

/-- Ticks differ only by their times. -/
theorem tick_untimed (now now' : UInt32) :
  (Obs.tick now').untimed = (Obs.tick now).untimed
  := rfl

/-- Slots open alike in shifted worlds. -/
theorem Shifted.openSlot (h : Shifted c w w') :
  Shifted c w.openSlot w'.openSlot
  := by
  apply Shifted.emit _ rfl
  apply h.emit
  rw [h.port]
  rfl

end

/-! ### Transmission slots -/

section

variable {K : Iolinki} {env : Env} {c now : UInt32} {w w' : World}

/-- Wake-ups are alike in shifted worlds. -/
theorem shifted_processWake (h : Shifted c w w') (now : UInt32) :
  Shifted c (processWake env w now true) (processWake env w' (now + c) true)
  := (h.gated (processWake_gate env) now).1

/-- The test message arms the response deadline. -/
theorem shifted_processTest (h : Shifted c w w') (now : UInt32) :
  Shifted c (processTest K env w now true) (processTest K env w' (now + c) true)
  := by
  obtain ⟨u, t, l, t', l', rfl, rfl, ht, hl⟩ := h.core
  rw [processTest, processTest]
  by_cases hframe : testMessage K = []
  · rw [if_pos hframe, if_pos hframe]
    apply shifted_after u ht hl
  · rw [if_neg hframe, if_neg hframe, sendFull_after, sendFull_after]
    obtain ⟨v, onWire⟩ := sendFull env u (testMessage K)
    cases onWire with
    | false => exact shifted_after v ht hl
    | true =>
        let sent : World :=
          ⟨{ (v.setStep .awaitResponse).port with awaitingResponse := true }, v.log⟩
        have harmed : StampsShifted c
            { t with deadline := now + testMessageTimeout100us v.port, waiting := true }
            { t' with deadline := now + c + testMessageTimeout100us v.port, waiting := true } :=
          ⟨ht.cycleValid, rfl, ht.gateValid, ht.cycle, .inl (shift_add now _ c), ht.gate⟩
        exact shifted_after sent harmed hl

/-- Slots in STARTUP are alike in shifted worlds. -/
theorem shifted_processStartup (h : Shifted c w w') (now : UInt32) :
  Shifted c (processStartup K env w now true) (processStartup K env w' (now + c) true)
  := by
  have hstep : w'.port.startup = w.port.startup :=
    h.same (f := PortState.startup) fun _ _ _ _ => rfl
  rw [processStartup, processStartup, hstep]
  cases w.port.startup.step with
  | inactive =>
      obtain ⟨hmode, hret⟩ := h.result (f := fun w => setMode env w .sdci) fun _ _ _ => rfl
      dsimp only at hmode hret ⊢
      rw [hret]
      split
      · apply hmode.map (f := fun w => w.enter .error) fun _ _ _ => rfl
      · apply shifted_processWake
        apply hmode.map (f := fun w => w.setStep .wake) fun _ _ _ => rfl
  | wake => apply shifted_processWake h
  | sendType0 => apply shifted_processTest h
  | awaitResponse | awaitOperateAck => apply h

/-- The send gate holds off both runs or neither. -/
theorem sendGated_shift (h : Shifted c w w') (hgate : GateComparable c w.port now) :
  sendGated w'.port (now + c) true = sendGated w.port now true
  := by
  have hvalid : w'.port.sendReadyValid = w.port.sendReadyValid :=
    h.same (f := PortState.sendReadyValid) fun _ _ _ _ => rfl
  rw [sendGated, sendGated, hvalid]
  cases hw : w.port.sendReadyValid with
  | false => rfl
  | true =>
      have hstored := h.gate
      rw [hw] at hstored
      rw [hstored.stored]
      congr 1
      rw [decide_eq_decide]
      exact (hgate hw).lt_iff

/-- Slots are alike in shifted worlds whose gates compare alike. -/
theorem shifted_processAt (h : Shifted c w w') (hgate : GateComparable c w.port now) :
  Shifted c (processAt K env w now true) (processAt K env w' (now + c) true)
  := by
  have hsend : w'.port.phy = w.port.phy := h.same (f := PortState.phy) fun _ _ _ _ => rfl
  have hstate : w'.port.state = w.port.state := h.same (f := PortState.state) fun _ _ _ _ => rfl
  rw [processAt, processAt, hsend, hstate, sendGated_shift h hgate]
  split
  · apply h
  · cases w.port.state with
    | startup => apply shifted_processStartup h
    | preoperate =>
        exact h.openSlot.map fun t l w => processPreoperate_after t l w env K
    | operate =>
        exact h.openSlot.map fun t l w => processOperate_after t l w env K
    | inactive | error => apply h

/-- Shifted worlds are paced alike. -/
theorem cyclePaced_shift (h : Shifted c w w') :
  cyclePaced w'.port = cyclePaced w.port
  := h.same fun _ _ _ _ => rfl

/-- The time since the last cycle does not depend on the shift. -/
theorem elapsed_shift (h : Shifted c w w') (hpaced : cyclePaced w.port = true) (now : UInt32) :
  now + c - w'.port.lastCycleStart100us = now - w.port.lastCycleStart100us
  := by
  have hstored := h.cycle
  simp only [cyclePaced, Bool.and_eq_true] at hpaced
  rw [hpaced.2] at hstored
  rw [hstored.stored, shift_sub]

/-- Cycles are due alike in shifted worlds. -/
theorem cycleDueAt_shift (h : Shifted c w w') (now : UInt32) :
  cycleDueAt w'.port (now + c) = cycleDueAt w.port now
  := by
  have hconfig : w'.port.config = w.port.config := h.same fun _ _ _ _ => rfl
  rw [cycleDueAt, cycleDueAt, cyclePaced_shift h, hconfig]
  cases hpaced : cyclePaced w.port with
  | false => rfl
  | true => rw [elapsed_shift h hpaced]

/-- Cycles slip alike in shifted worlds. -/
theorem cycleSlippedAt_shift (h : Shifted c w w') (now : UInt32) :
  cycleSlippedAt w'.port (now + c) = cycleSlippedAt w.port now
  := by
  have hconfig : w'.port.config = w.port.config := h.same fun _ _ _ _ => rfl
  rw [cycleSlippedAt, cycleSlippedAt, cyclePaced_shift h, hconfig]
  cases hpaced : cyclePaced w.port with
  | false => rfl
  | true => rw [elapsed_shift h hpaced]

/-- Shifted worlds have the same jitter. -/
theorem cycleJitterAt_shift (h : Shifted c w w') (now : UInt32) :
  cycleJitterAt w'.port (now + c) = cycleJitterAt w.port now
  := by
  have hconfig : w'.port.config = w.port.config := h.same fun _ _ _ _ => rfl
  rw [cycleJitterAt, cycleJitterAt, cyclePaced_shift h, hconfig]
  cases hpaced : cyclePaced w.port with
  | false => rfl
  | true => rw [elapsed_shift h hpaced]

/-- An executed cycle stores its time and its deadline. -/
theorem shifted_armCycle (h : Shifted c w w') (now : UInt32) :
  Shifted c (w.put (armCycle w.port now)) (w'.put (armCycle w'.port (now + c)))
  := by
  have htimeout : responseTimeout100us w'.port = responseTimeout100us w.port := by
    apply responseTimeout100us_congr
    · exact h.same fun _ _ _ _ => rfl
    · exact h.same fun _ _ _ _ => rfl
  have hdiagnostics : w'.port.diagnostics = w.port.diagnostics := h.same fun _ _ _ _ => rfl
  rw [armCycle_eq, armCycle_eq, cycleSlippedAt_shift h, cycleJitterAt_shift h, htimeout,
    hdiagnostics, shift_add]
  generalize w.port.diagnostics.cycled (cycleSlippedAt w.port now) (cycleJitterAt w.port now) = d
  generalize now + responseTimeout100us w.port = deadline
  obtain ⟨hport, -, -, hgate, hlog⟩ := h
  obtain ⟨p', l'⟩ := w'
  dsimp only at hport hgate hlog
  generalize p'.lastCycleStart100us = x at hport
  generalize p'.responseDeadline100us = y at hport
  generalize p'.sendReadyAt100us = z at hport hgate
  subst hport
  exact ⟨rfl, .inl rfl, .inl rfl, hgate, hlog⟩

/-- Slots and their deadlines are alike in shifted worlds whose gates compare alike. -/
theorem shifted_processSlot (h : Shifted c w w') (hgate : GateComparable c w.port now) :
  Shifted c (processSlot K env w now true) (processSlot K env w' (now + c) true)
  := by
  have hat : Shifted c (processAt K env w now true) (processAt K env w' (now + c) true) :=
    shifted_processAt h hgate
  have hbefore : w'.port.cycleCount = w.port.cycleCount :=
    h.same (f := PortState.cycleCount) fun _ _ _ _ => rfl
  have hcount := hat.same (f := PortState.cycleCount) fun _ _ _ _ => rfl
  rw [processSlot, processSlot]
  dsimp only
  rw [hbefore, hcount]
  split
  · exact (shifted_armCycle hat now).emit (armed_untimed _ _)
  · apply hat

/-! ### Response timeouts -/

/-- Response timeouts are alike in shifted worlds. -/
theorem shifted_onTimeoutAt (h : Shifted c w w') (now : UInt32) :
  ResultShifted c (onTimeoutAt env w now true) (onTimeoutAt env w' (now + c) true)
  := by
  obtain ⟨hflush, hret⟩ := h.result (f := flushRx env) fun t l w => flushRx_after t l w env
  have hstate : (flushRx env w').1.port.state = (flushRx env w).1.port.state :=
    hflush.same (f := PortState.state) fun _ _ _ _ => rfl
  have hstep : (flushRx env w').1.port.startup = (flushRx env w).1.port.startup :=
    hflush.same (f := PortState.startup) fun _ _ _ _ => rfl
  rw [onTimeoutAt, onTimeoutAt]
  dsimp only
  rw [hret, World.emit_port, World.emit_port, hstate, hstep]
  have hnoted := hflush.emit (timeout_untimed (flushRx env w).1.port.state
    (!true || decide (now ≥ w.port.responseDeadline100us))
    (!true || decide (now + c ≥ w'.port.responseDeadline100us)))
  generalize (flushRx env w).1.port.state = st at hnoted ⊢
  split
  · refine ⟨?_, rfl⟩
    apply hnoted.map (f := fun w => w.enter .error) fun _ _ _ => rfl
  · cases st with
    | startup =>
        dsimp only
        split
        · exact ⟨hnoted, rfl⟩
        · apply hnoted.gated (establishAttemptFailed_gate env)
    | operate => apply hnoted.gated (operateTimeout_gate env)
    | preoperate | inactive | error => exact ⟨hnoted, rfl⟩

/-- The response timeouts of ticks are alike in shifted worlds. -/
theorem shifted_tickTimeout (h : Shifted c w w') (now : UInt32) :
  ResultShifted c (tickTimeout env w now true) (tickTimeout env w' (now + c) true)
  := by
  have hawaiting : w'.port.awaitingResponse = w.port.awaitingResponse :=
    h.same (f := PortState.awaitingResponse) fun _ _ _ _ => rfl
  rw [tickTimeout, tickTimeout, hawaiting]
  apply shifted_onTimeoutAt
  apply Shifted.map (f := fun w => w.put { w.port with awaitingResponse := false })
    fun _ _ _ => rfl
  split
  · exact (h.result (f := flushRx env) fun t l w => flushRx_after t l w env).1
  · apply h

/-! ### Ticks -/

/-- Receiving leaves the send gate as it is. -/
theorem pollRx_gate (K : Iolinki) (env : Env) (w : World) :
  (pollRx K env w).1.port.sendReadyAt100us = w.port.sendReadyAt100us ∧
    (pollRx K env w).1.port.sendReadyValid = w.port.sendReadyValid
  := by
  have hpoll : pollRx K env w = resultAfter w.port.stamps w.log
      (pollRx K env ⟨{ w.port with awaitingResponse := true }, []⟩) :=
    pollRx_after w.port.stamps w.log ⟨{ w.port with awaitingResponse := true }, []⟩ env K
  rw [hpoll]
  exact ⟨rfl, rfl⟩

/-- Ticks are alike in shifted worlds whose gates compare alike. -/
theorem shifted_tickCommon (h : Shifted c w w') {event : TickEvent}
    (hgate : event = .cycleDue → GateComparable c w.port now) :
  ResultShifted c (tickCommon K env w event true now) (tickCommon K env w' event true (now + c))
  := by
  obtain ⟨hpoll, hret⟩ := h.result (f := pollRx K env) fun t l w => pollRx_after t l w env K
  have hawaiting : (pollRx K env w').1.port.awaitingResponse
      = (pollRx K env w).1.port.awaitingResponse :=
    hpoll.same (f := PortState.awaitingResponse) fun _ _ _ _ => rfl
  have hdue := cycleDueAt_shift hpoll now
  rw [tickCommon, tickCommon]
  dsimp only
  rw [hret]
  split
  · exact ⟨hpoll, rfl⟩
  · cases event with
    | none => exact ⟨hpoll, rfl⟩
    | responseTimeout =>
        obtain ⟨htimeout, htimeoutRet⟩ :
            ResultShifted c (tickTimeout env _ now true) (tickTimeout env _ (now + c) true) :=
          shifted_tickTimeout hpoll now
        dsimp only
        rw [hawaiting, htimeoutRet]
        split
        · exact ⟨hpoll, rfl⟩
        · exact ⟨htimeout, rfl⟩
    | cycleDue =>
        dsimp only
        rw [hawaiting, hdue]
        split
        · exact ⟨hpoll, rfl⟩
        · split
          · exact ⟨hpoll, rfl⟩
          · refine ⟨shifted_processSlot hpoll ?_, rfl⟩
            intro hvalid
            obtain ⟨hat, hvalid'⟩ := pollRx_gate K env w
            rw [hat]
            apply hgate rfl
            rw [← hvalid', hvalid]

/-- Timed ticks are alike in shifted worlds whose gates compare alike. -/
theorem shifted_tickAt (h : Shifted c w w') {event : TickEvent}
    (hgate : event = .cycleDue → GateComparable c w.port now) :
  ResultShifted c (tickAt K env w event now) (tickAt K env w' event (now + c))
  := by
  apply shifted_tickCommon
  · exact h.emit (tick_untimed now (now + c))
  · apply hgate

/-- Responses are due alike in shifted worlds whose deadlines compare alike. -/
theorem responseDueAt_shift (h : Shifted c w w') (hdue : DeadlineComparable c w.port now) :
  responseDueAt w'.port (now + c) = responseDueAt w.port now
  := by
  have hawaiting : w'.port.awaitingResponse = w.port.awaitingResponse :=
    h.same (f := PortState.awaitingResponse) fun _ _ _ _ => rfl
  rw [responseDueAt, responseDueAt, hawaiting]
  cases hw : w.port.awaitingResponse with
  | false => rfl
  | true =>
      have hstored := h.deadline
      rw [hw] at hstored
      rw [hstored.stored]
      congr 1
      rw [decide_eq_decide]
      exact (hdue hw).ge_iff

/-- Ticks of the controller are alike in shifted worlds whose times compare alike. -/
theorem shifted_controllerTickAt (h : Shifted c w w') (hdue : DeadlineComparable c w.port now)
    (hgate : responseDueAt w.port now = false → GateComparable c w.port now) :
  ResultShifted c (controllerTickAt K env w now) (controllerTickAt K env w' (now + c))
  := by
  rw [controllerTickAt, controllerTickAt, responseDueAt_shift h hdue]
  apply shifted_tickAt h
  intro hevent
  apply hgate
  cases hw : responseDueAt w.port now with
  | false => rfl
  | true =>
      rw [hw] at hevent
      contradiction

end

end IolinkMaster
