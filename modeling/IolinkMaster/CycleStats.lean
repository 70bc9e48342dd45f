import IolinkMaster.Deadline
import IolinkMaster.EventFlag

/-!
# The statistics of the cycles

Cycle slips and jitter against the distances between the cyclic frames of a stay in OPERATE.  The
cycle timer outlives the loss of communication, so the first cyclic frame after a reconnection is
measured against the last one before it.
-/

namespace IolinkMaster

/-! ### Cyclic frames -/

/-- The last frame of a log is a cyclic frame of OPERATE. -/
def sentCyclic : List Obs → Bool
  | .sent .operate frame :: _ => mcChannel (frame.getD 0 0) == .process
  | _ => false

/-- The time of the cyclic frame whose transmission ends with the observation `o` after `log`: the
deadline of its reply is armed. -/
def cyclicAt (log : List Obs) : Obs → Option UInt32
  | .armed _ => if sentCyclic log then some (UInt32.ofNat (tickTime log)) else none
  | _ => none

/-- The time of the last cyclic frame since the initialization. -/
def lastCycle : List Obs → Option UInt32
  | [] => none
  | o :: log => if initializes log o then none else (cyclicAt log o).or (lastCycle log)

/-- The time of the last cyclic frame of the present stay in a state. -/
def stayCycle : List Obs → Option UInt32
  | [] => none
  | .enter _ :: _ => none
  | o :: log => (cyclicAt log o).or (stayCycle log)

/-! ### Jitter -/

/-- No more than the minimum cycle time, if there is one, passes from `start` to `now`. -/
def Punctual (config : Config) (start now : UInt32) : Prop :=
  config.minCycleTime = 0 ∨ now - start ≤ config.minCycleTime.toUInt32

instance (config : Config) (start now : UInt32) : Decidable (Punctual config start now) :=
  inferInstanceAs (Decidable (_ ∨ _))

/-- The time from `start` to `now` beyond the minimum cycle time, if there is one. -/
def jitterFrom (config : Config) (start now : UInt32) : UInt32 :=
  if Punctual config start now then 0 else now - start - config.minCycleTime.toUInt32

/-- The jitters recorded since the initialization, latest first, when `jitter` says what is recorded
for a cyclic frame at a time. -/
def recorded (jitter : List Obs → UInt32 → Option UInt32) : List Obs → List UInt32
  | [] => []
  | o :: log =>
    if initializes log o then []
    else ((cyclicAt log o).bind (jitter log)).toList ++ recorded jitter log

/-- The jitter of a cyclic frame measured within its stay in OPERATE.  The first frame of a stay
adds no jitter: the last one stays if `keeps`, and is none otherwise. -/
def sessionJitter (config : Config) (keeps : Bool) (log : List Obs) (now : UInt32) :
    Option UInt32 :=
  match stayCycle log with
  | some start => some (jitterFrom config start now)
  | none => if keeps then none else some 0

/-- The jitter of a cyclic frame measured from the last one since the initialization. -/
def chainedJitter (config : Config) (log : List Obs) (now : UInt32) : Option UInt32 :=
  some (match lastCycle log with
    | some start => jitterFrom config start now
    | none => 0)

/-- The statistics of jitters, latest first: each that is not 0 is a slip. -/
def tally (jitters : List UInt32) : JitterStats :=
  ⟨UInt32.ofNat (jitters.countP (· ≠ 0)), jitters.headD 0, jitters.foldr max 0⟩

/-- The statistics of a port measure the stays in OPERATE since its initialization. -/
def MeasuresSession (config : Config) (keeps : Bool) (w : World) : Prop :=
  w.port.diagnostics.jitterStats = tally (recorded (sessionJitter config keeps) w.log)

/-- The first cyclic frame of a stay in OPERATE comes no later after the last one before than the
minimum cycle time allows and, if the last jitter is to stay, that is 0. -/
def OnTime (config : Config) (keeps : Bool) (log : List Obs) (o : Obs) : Prop :=
  ∀ now ∈ cyclicAt log o, ∀ start ∈ lastCycle log, stayCycle log = none →
    Punctual config start now ∧
      (keeps = true → (tally (recorded (sessionJitter config keeps) log)).last = 0)

/-- The calls of an application that keeps time. -/
def timedCalls (_ : Env) (_ : World) : Call → Prop
  | .process | .tickEvent _ => False
  | _ => True

instance (config : Config) (keeps : Bool) (w : World) : Decidable (MeasuresSession config keeps w) :=
  inferInstanceAs (Decidable (_ = _))

instance (config : Config) (keeps : Bool) (log : List Obs) (o : Obs) :
    Decidable (OnTime config keeps log o) :=
  @Option.decidableForallMem _ _
    (fun _ => @Option.decidableForallMem _ _ (fun _ => inferInstance) (lastCycle log))
    (cyclicAt log o)

instance (env : Env) (w : World) : DecidablePred (timedCalls env w) := by
  intro c
  apply Call.casesOn (motive := fun c => Decidable (timedCalls env w c)) c <;> intros <;>
    unfold timedCalls <;> infer_instance

/-! ### The two tallies -/

section

variable {config : Config} {keeps : Bool} {log : List Obs}

theorem max_eq_ite (jitter most : UInt32) :
  max jitter most = if jitter > most then jitter else most
  := by
  change (if jitter ≤ most then most else jitter) = _
  simp only [← UInt32.not_lt, ite_not]

/-- A jitter more is tallied. -/
theorem tally_cons (jitter : UInt32) (jitters : List UInt32) :
  tally (jitter :: jitters) =
    ⟨if jitter = 0 then (tally jitters).slips else (tally jitters).slips + 1, jitter,
      max jitter (tally jitters).max⟩
  := by
  by_cases hzero : jitter = 0
  · simp [tally, hzero]
  · simp [tally, hzero, UInt32.ofNat_add]

/-- A cyclic frame has no jitter exactly if it is punctual. -/
theorem jitterFrom_eq_zero (start now : UInt32) :
  jitterFrom config start now = 0 ↔ Punctual config start now
  := by
  rw [jitterFrom]
  split
  · next hpunctual => exact iff_of_true rfl hpunctual
  · next hlate =>
    refine iff_of_false ?_ hlate
    intro hzero
    apply hlate
    right
    rw [UInt32.sub_eq_iff_eq_add, UInt32.zero_add] at hzero
    rw [hzero]
    apply UInt32.le_refl

/-- No initialization is observed with a cyclic frame. -/
theorem cyclicAt_of_initializes {o : Obs} (h : initializes log o = true) :
  cyclicAt log o = none
  := by
  cases o <;> first | rfl | contradiction

theorem lastCycle_cons {o : Obs} (h : initializes log o = false) :
  lastCycle (o :: log) = (cyclicAt log o).or (lastCycle log)
  := by
  rw [lastCycle, h, if_neg Bool.false_ne_true]

theorem recorded_cons (jitter : List Obs → UInt32 → Option UInt32) {o : Obs}
    (h : initializes log o = false) :
  recorded jitter (o :: log)
    = ((cyclicAt log o).bind (jitter log)).toList ++ recorded jitter log
  := by
  rw [recorded, h, if_neg Bool.false_ne_true]

/-- Before the first cyclic frame nothing is recorded. -/
theorem recorded_of_none (jitter : List Obs → UInt32 → Option UInt32)
    (h : lastCycle log = none) :
  recorded jitter log = []
  := by
  induction log with
  | nil => rfl
  | cons o log ih =>
      cases hinit : initializes log o with
      | true => rw [recorded, hinit, if_pos rfl]
      | false =>
          rw [lastCycle_cons hinit, Option.or_eq_none_iff] at h
          rw [recorded_cons jitter hinit, h.1, ih h.2]
          rfl

/-- The last cyclic frame of a stay is the last one since the initialization. -/
theorem lastCycle_of_stay {start : UInt32} (h : stayCycle log = some start) :
  lastCycle log = some start
  := by
  have hcons : ∀ (o : Obs) (log : List Obs),
      (stayCycle log = some start → lastCycle log = some start) →
        (cyclicAt log o).or (stayCycle log) = some start →
          (cyclicAt log o).or (lastCycle log) = some start := by
    intro o log ih h
    cases hat : cyclicAt log o with
    | some now =>
        rw [hat] at h
        apply h
    | none =>
        rw [hat] at h
        apply ih h
  induction log with
  | nil => contradiction
  | cons o log ih =>
      cases o with
      | enter => contradiction
      | _ =>
          rw [lastCycle_cons rfl]
          apply hcons _ log ih h

theorem stayCycle_of_none (h : lastCycle log = none) :
  stayCycle log = none
  := by
  cases hstay : stayCycle log with
  | none => rfl
  | some start =>
      rw [lastCycle_of_stay hstay] at h
      contradiction

/-- The jitter of the first cyclic frame of a stay is measured as within the stay exactly if there
is none. -/
theorem tally_first (start now : UInt32) {jitters : List UInt32}
    (h : tally jitters = tally (recorded (sessionJitter config keeps) log))
    (hstay : stayCycle log = none) :
  tally (jitterFrom config start now :: jitters)
      = tally ((sessionJitter config keeps log now).toList
          ++ recorded (sessionJitter config keeps) log) ↔
    Punctual config start now ∧
      (keeps = true → (tally (recorded (sessionJitter config keeps) log)).last = 0)
  := by
  have hslips : ∀ slips jitter : UInt32,
      (if jitter = 0 then slips else slips + 1) = slips ↔ jitter = 0 := by
    intro slips jitter
    split
    · next hzero => exact iff_of_true rfl hzero
    · next hne => exact iff_of_false (by simp) hne
  rw [tally_cons, h, ← jitterFrom_eq_zero]
  cases keeps with
  | true =>
      simp only [sessionJitter, hstay, if_true, Option.toList_none, List.nil_append,
        forall_const]
      generalize tally (recorded (sessionJitter config true) log) = stats
      generalize jitterFrom config start now = jitter
      obtain ⟨slips, last, max⟩ := stats
      simp only [JitterStats.mk.injEq, hslips]
      constructor
      · rintro ⟨rfl, rfl, -⟩
        exact ⟨rfl, rfl⟩
      · rintro ⟨rfl, rfl⟩
        exact ⟨rfl, rfl, if_pos UInt32.zero_le⟩
  | false =>
      simp only [sessionJitter, hstay, Bool.false_eq_true, if_false, Option.toList_some,
        List.singleton_append, tally_cons, if_true, JitterStats.mk.injEq, hslips, false_imp_iff,
        and_true]
      generalize jitterFrom config start now = jitter
      constructor
      · rintro ⟨rfl, -, -⟩
        rfl
      · rintro rfl
        simp

/-- The tallies stay the same exactly if the observation is on time. -/
theorem tally_step (o : Obs)
    (h : tally (recorded (chainedJitter config) log)
      = tally (recorded (sessionJitter config keeps) log)) :
  tally (recorded (chainedJitter config) (o :: log))
      = tally (recorded (sessionJitter config keeps) (o :: log)) ↔
    OnTime config keeps log o
  := by
  cases hinit : initializes log o with
  | true =>
      have hat := cyclicAt_of_initializes hinit
      simp [recorded, hinit, OnTime, hat]
  | false =>
      rw [recorded_cons _ hinit, recorded_cons _ hinit, OnTime]
      cases hat : cyclicAt log o with
      | none => simpa using h
      | some now =>
          simp only [Option.bind_some, Option.mem_some_iff, forall_eq']
          cases hlast : lastCycle log with
          | none =>
              have hstay := stayCycle_of_none hlast
              rw [recorded_of_none _ hlast, recorded_of_none _ hlast]
              cases keeps with
              | true =>
                  simp [chainedJitter, sessionJitter, hlast, hstay]
                  rfl
              | false => simp [chainedJitter, sessionJitter, hlast, hstay]
          | some start =>
              cases hstay : stayCycle log with
              | some start' =>
                  have hsame := lastCycle_of_stay hstay
                  rw [hlast, Option.some.injEq] at hsame
                  simp [chainedJitter, sessionJitter, hlast, hstay, hsame, tally_cons, h]
              | none =>
                  have hfirst := tally_first start now h hstay
                  simpa [chainedJitter, hlast] using hfirst

/-- The tallies are the same as long as every observation is on time. -/
theorem tally_of_onTime (h : Trace.Always (OnTime config keeps) log) :
  tally (recorded (chainedJitter config) log)
    = tally (recorded (sessionJitter config keeps) log)
  := by
  induction log with
  | nil => rfl
  | cons o log ih => exact (tally_step o (ih h.1)).mpr h.2

end

/-! ### What ends no cycle -/

/-- The log `m` extends `l` with observations that end no cycle and are of no initialization. -/
structure SameCycles (l m : List Obs) : Prop where
  last : lastCycle m = lastCycle l
  recorded : ∀ jitter, recorded jitter m = recorded jitter l
  onTime : ∀ config keeps,
    Trace.Always (OnTime config keeps) m ↔ Trace.Always (OnTime config keeps) l

theorem SameCycles.refl (l : List Obs) :
  SameCycles l l
  := ⟨rfl, fun _ => rfl, fun _ _ => Iff.rfl⟩

theorem SameCycles.trans {k l m : List Obs} (h : SameCycles k l) (h' : SameCycles l m) :
  SameCycles k m
  := ⟨h'.last.trans h.last, fun jitter => (h'.recorded jitter).trans (h.recorded jitter),
    fun config keeps => (h'.onTime config keeps).trans (h.onTime config keeps)⟩

/-- Whatever ends no cycle is on time. -/
theorem onTime_of_none {config : Config} {keeps : Bool} {log : List Obs} {o : Obs}
    (h : cyclicAt log o = none) :
  OnTime config keeps log o
  := by
  simp [OnTime, h]

theorem SameCycles.cons {log : List Obs} {o : Obs} (hat : cyclicAt log o = none)
    (hinit : initializes log o = false) :
  SameCycles log (o :: log)
  := by
  refine ⟨?_, ?_, fun _ _ => and_iff_left (onTime_of_none hat)⟩
  · rw [lastCycle_cons hinit, hat, Option.none_or]
  · intro jitter
    rw [recorded_cons jitter hinit, hat]
    rfl

/-- No cycle ends from `w` to `v`, and the port is not initialized. -/
structure Uncycled (w v : World) : Prop where
  jitter : v.port.diagnostics.jitterStats = w.port.diagnostics.jitterStats
  start : v.port.cycleStart = w.port.cycleStart
  config : v.port.config = w.port.config
  cycles : SameCycles w.log v.log
  unlost : lostLast w.log = false → lostLast v.log = false

section

variable {K : Iolinki} {env : Env} {w v : World}

namespace Uncycled

theorem refl (w : World) :
  Uncycled w w
  := ⟨rfl, rfl, rfl, .refl _, id⟩

theorem trans {u : World} (h : Uncycled u w) (h' : Uncycled w v) :
  Uncycled u v
  := ⟨h'.jitter.trans h.jitter, h'.start.trans h.start, h'.config.trans h.config,
    h.cycles.trans h'.cycles, fun hunlost => h'.unlost (h.unlost hunlost)⟩

/-- Something is observed that ends no cycle. -/
theorem emit {o : Obs} (hat : cyclicAt w.log o = none) (hinit : initializes w.log o = false)
    (hlost : lostLast (o :: w.log) = false) :
  Uncycled w (w.emit o)
  := ⟨rfl, rfl, rfl, .cons hat hinit, fun _ => hlost⟩

/-- A state other than STARTUP and INACTIVE is entered. -/
theorem enter {st : MasterState} (hinit : initializes w.log (.enter st) = false) :
  Uncycled w (w.enter st)
  := ⟨rfl, rfl, rfl, .cons rfl hinit, fun _ => rfl⟩

theorem put {p : PortState} (hjitter : p.diagnostics.jitterStats = w.port.diagnostics.jitterStats)
    (hstart : p.cycleStart = w.port.cycleStart) (hconfig : p.config = w.port.config) :
  Uncycled w (w.put p)
  := ⟨hjitter, hstart, hconfig, .refl _, id⟩

/-- Ordinary steps end no cycle. -/
theorem ordinary {fixed : Prop} (h : OrdinaryPath fixed w v) :
  Uncycled w v
  := by
  induction h with
  | refl => apply Uncycled.refl
  | tail _ hstep ih =>
      apply ih.trans
      cases hstep with
      | put hconfig _ _ _ hjitter hstart => exact .put hjitter hstart hconfig
      | @emit o ho =>
          cases o <;> first | contradiction | exact .emit rfl rfl rfl
      | fail => exact .enter rfl
      | lost p =>
          refine ⟨rfl, rfl, rfl, ?_, fun _ => rfl⟩
          exact (SameCycles.cons rfl rfl).trans (.cons rfl rfl)

/-! ### Replies -/

theorem replyAccepted (data : List UInt8) (od : Option (List UInt8)) :
  Uncycled w (IolinkMaster.replyAccepted w data od)
  := by
  have haccepted : Uncycled w (w.emit (.accept w.port.state data od)) := .emit rfl rfl rfl
  apply haccepted.trans
  apply Uncycled.put <;> rfl

theorem replyRejected (data : List UInt8) :
  Uncycled w (IolinkMaster.replyRejected env w data).1
  := .ordinary (OrdinaryPath.replyRejected (.refl : OrdinaryPath True _ _) data)

theorem replyUnframed (data : List UInt8) :
  Uncycled w (IolinkMaster.replyUnframed w data).1
  := .ordinary (OrdinaryPath.replyUnframed (.refl : OrdinaryPath True _ _) data)

theorem onRxStartup (data : List UInt8) :
  Uncycled w (IolinkMaster.onRxStartup K w data).1
  := by
  simp only [IolinkMaster.onRxStartup]
  split
  · apply replyUnframed
  · split
    · apply replyUnframed
    · split
      · have hrejected : Uncycled w (w.emit (.reject w.port.state data)) := .emit rfl rfl rfl
        apply hrejected.trans
        apply Uncycled.put <;> rfl
      · apply (replyAccepted data none).trans
        apply Uncycled.trans _ (.enter rfl)
        apply Uncycled.put <;> rfl

theorem onRxOperateAck (data : List UInt8) :
  Uncycled w (IolinkMaster.onRxOperateAck K env w data).1
  := by
  simp only [IolinkMaster.onRxOperateAck]
  split
  · apply replyUnframed
  · split
    · apply replyRejected
    · apply (replyAccepted data none).trans
      apply Uncycled.trans _ (.enter rfl)
      apply Uncycled.put <;> rfl

theorem routeOd (od : List UInt8) :
  Uncycled w (IolinkMaster.routeOd w od)
  := .ordinary (OrdinaryPath.routeOd (.refl : OrdinaryPath True _ _) od)

theorem onRxType0 (data : List UInt8) :
  Uncycled w (IolinkMaster.onRxType0 K env w data).1
  := by
  simp only [IolinkMaster.onRxType0]
  split
  · apply replyUnframed
  · split
    · apply replyRejected
    · apply (replyAccepted _ _).trans (routeOd _)

/-- The calls of the handler end no cycle either. -/
theorem notifyEventPending (raised : Bool) (handler : List Service) :
  Uncycled w (IolinkMaster.notifyEventPending w raised handler)
  := by
  have hcalled : Uncycled w (w.emit .eventPending) := .emit rfl rfl rfl
  have hservices :
      Uncycled (w.emit .eventPending) (handler.foldl runService (w.emit .eventPending)) :=
    .ordinary (OrdinaryPath.runServices .refl handler)
  simp only [IolinkMaster.notifyEventPending]
  split
  · apply (hcalled.trans hservices).trans
    apply Uncycled.put <;> rfl
  · apply Uncycled.put <;> rfl

theorem onRxOperate (data : List UInt8) (handler : List Service) :
  Uncycled w (IolinkMaster.onRxOperate K env w data handler).1
  := by
  simp only [IolinkMaster.onRxOperate]
  split
  · apply replyUnframed
  · next r _ =>
    split
    · apply replyRejected
    · have hstatus : ∀ v : World, Uncycled v (v.put { v.port with
          diagnostics := { v.port.diagnostics with odStatus := r.status } }) := by
        intro v
        apply Uncycled.put <;> rfl
      have htaken : ∀ v : World, Uncycled v (v.put (takePdIn v.port r)) := by
        intro v
        rw [put_takePdIn]
        apply Uncycled.put <;> rfl
      apply Uncycled.trans _ (routeOd _)
      apply Uncycled.trans _ (htaken _)
      apply Uncycled.trans _ (notifyEventPending _ _)
      apply (replyAccepted _ _).trans (hstatus _)

/-- The judgement of a reply ends no cycle. -/
theorem onRx (data : List UInt8) (handler : List Service) :
  Uncycled w (IolinkMaster.onRx K env w data handler).1
  := by
  simp only [IolinkMaster.onRx]
  split
  · apply Uncycled.refl
  · split
    · apply onRxStartup
    · split
      · split
        · apply onRxOperateAck
        · apply onRxType0
      · split
        · apply onRxType0
        · apply onRxOperate

theorem pollLoop (expected frames : Nat) (octets : List (UInt8 × List Service)) :
  Uncycled w (IolinkMaster.pollLoop K env expected w frames octets).1
  := by
  induction octets generalizing w frames with
  | nil =>
      simp only [IolinkMaster.pollLoop]
      split
      · exact .ordinary (OrdinaryPath.rxFailed (.refl : OrdinaryPath True _ _))
      · apply Uncycled.refl
  | cons octet octets ih =>
      obtain ⟨byte, handler⟩ := octet
      have hrecv : OrdinaryPath True w (w.emit (.recv byte)) := OrdinaryPath.emit .refl rfl
      have hbuffered : Uncycled w
          ((w.emit (.recv byte)).put { w.port with rx := w.port.rx ++ [byte] }) := by
        apply (Uncycled.ordinary hrecv).trans
        apply Uncycled.put <;> rfl
      have hcleared : ∀ v : World, Uncycled v (v.put { v.port with rx := [] }) := by
        intro v
        apply Uncycled.put <;> rfl
      simp only [IolinkMaster.pollLoop]
      split
      · exact .ordinary hrecv.rxFailed
      · split
        · have hjudged := hbuffered.trans (@onRx K env _ (w.port.rx ++ [byte]) handler)
          split
          · apply hjudged.trans (hcleared _)
          · apply (hjudged.trans (hcleared _)).trans (ih _)
        · apply hbuffered.trans (ih _)

theorem pollRx :
  Uncycled w (IolinkMaster.pollRx K env w).1
  := by
  simp only [IolinkMaster.pollRx]
  split
  · apply Uncycled.refl
  · split
    · apply Uncycled.refl
    · apply pollLoop

end Uncycled

/-! ### The cycle timer -/

/-- The cycle timer runs from the last cyclic frame since the initialization, and the statistics
are measured with it. -/
structure Chained (config : Config) (w : World) : Prop where
  stats : w.port.diagnostics.jitterStats = tally (recorded (chainedJitter config) w.log)
  start : w.port.cycleStart = lastCycle w.log
  minCycleTime : w.port.config.minCycleTime = config.minCycleTime
  unlost : lostLast w.log = false

theorem Chained.uncycled {config : Config} (h : Chained config w) (hwv : Uncycled w v) :
  Chained config v
  := by
  refine ⟨?_, ?_, ?_, hwv.unlost h.unlost⟩
  · rw [hwv.jitter, hwv.cycles.recorded, h.stats]
  · rw [hwv.start, hwv.cycles.last, h.start]
  · rw [hwv.config, h.minCycleTime]

/-- The statistics of a port that measures with its cycle timer, and of its stays. -/
theorem Chained.measures_iff {config : Config} {keeps : Bool} (h : Chained config w) :
  MeasuresSession config keeps w ↔
    tally (recorded (chainedJitter config) w.log)
      = tally (recorded (sessionJitter config keeps) w.log)
  := by
  rw [MeasuresSession, h.stats]

/-- The statistics after a cycle. -/
theorem cycled_jitterStats (d : Diagnostics) (slipped : Bool) (jitter : UInt32) :
  (d.cycled slipped jitter).jitterStats =
    ⟨if slipped then d.cycleSlips + 1 else d.cycleSlips, jitter,
      max jitter d.maxCycleJitter100us⟩
  := by
  by_cases hmax : jitter > d.maxCycleJitter100us
  · cases slipped <;> simp [Diagnostics.cycled, Diagnostics.jitterStats, max_eq_ite, hmax]
  · cases slipped <;> simp [Diagnostics.cycled, Diagnostics.jitterStats, max_eq_ite, hmax]

/-- The jitter of the current cycle is measured from the last cyclic frame, and it slips if there
is any. -/
theorem Chained.jitter {config : Config} (h : Chained config w) (hstate : w.port.state = .operate)
    (now : UInt32) :
  chainedJitter config w.log now = some (cycleJitterAt w.port now) ∧
    (cycleSlippedAt w.port now = true ↔ cycleJitterAt w.port now ≠ 0)
  := by
  have hmin := h.minCycleTime
  simp only [chainedJitter, ← h.start, PortState.cycleStart]
  cases hvalid : w.port.cycleTimerValid with
  | false => simp [cycleJitterAt, cycleSlippedAt, cyclePaced, hvalid]
  | true =>
      have hjitter : cycleJitterAt w.port now
          = jitterFrom config w.port.lastCycleStart100us now := by
        by_cases hpaced : config.minCycleTime = 0
        · simp [cycleJitterAt, cyclePaced, jitterFrom, Punctual, hmin, hpaced]
        · simp [cycleJitterAt, cyclePaced, jitterFrom, Punctual, hmin, hpaced, hstate, hvalid]
      refine ⟨by rw [hjitter, if_pos rfl], ?_⟩
      rw [hjitter, Ne, jitterFrom_eq_zero, Punctual, not_or, UInt32.not_le]
      simp [cycleSlippedAt, cyclePaced, hmin, hstate, hvalid]

/-- A cyclic frame is measured from the last one. -/
theorem Chained.armed {config : Config} (h : Chained config w) (hstate : w.port.state = .operate)
    (hsent : sentCyclic w.log = true) {now : UInt32} (htime : tickTime w.log = now.toNat)
    (deadline : UInt32) :
  Chained config ((w.put (armCycle w.port now)).emit (.armed deadline))
  := by
  have hat : cyclicAt w.log (.armed deadline) = some now := by
    simp [cyclicAt, hsent, htime]
  obtain ⟨hjitter, hslipped⟩ := h.jitter hstate now
  refine ⟨?_, ?_, h.minCycleTime, rfl⟩
  · rw [World.emit_log, World.put_log, recorded_cons _ rfl, hat, Option.bind_some, hjitter,
      Option.toList_some, List.singleton_append, tally_cons, ← h.stats, World.emit_port,
      World.put_port, armCycle_eq, cycled_jitterStats]
    by_cases hzero : cycleJitterAt w.port now = 0
    · have hslips : cycleSlippedAt w.port now = false := by
        rw [← Bool.not_eq_true, hslipped, not_not]
        apply hzero
      rw [hslips, if_pos hzero]
      rfl
    · rw [hslipped.mpr hzero, if_neg hzero]
      rfl
  · rw [World.emit_log, World.put_log, lastCycle_cons rfl, hat]
    rfl

/-! ### Calls -/

/-- A call that ends no cycle, or at most one on time if the statistics measure the stays. -/
structure Chains (config : Config) (w v : World) : Prop where
  chained : Chained config v
  onTime : ∀ keeps, Trace.Always (OnTime config keeps) w.log → MeasuresSession config keeps v →
    Trace.Always (OnTime config keeps) v.log

theorem Chained.chains {config : Config} (h : Chained config w) (hwv : Uncycled w v) :
  Chains config w v
  := ⟨h.uncycled hwv, fun keeps honTime _ => (hwv.cycles.onTime config keeps).mpr honTime⟩

/-- Steps that end no cycle come before a call. -/
theorem Chains.after {config : Config} {u : World} (h : Chains config w v)
    (huw : Uncycled u w) :
  Chains config u v
  := ⟨h.chained, fun keeps honTime => h.onTime keeps ((huw.cycles.onTime config keeps).mpr honTime)⟩

/-- The end of a cycle is on time if the statistics measure the stays. -/
theorem Chained.chains_armed {config : Config} (h : Chained config w)
    (hstate : w.port.state = .operate) (hsent : sentCyclic w.log = true) {now : UInt32}
    (htime : tickTime w.log = now.toNat) (deadline : UInt32) :
  Chains config w ((w.put (armCycle w.port now)).emit (.armed deadline))
  := by
  have harmed := h.armed hstate hsent htime deadline
  refine ⟨harmed, ?_⟩
  intro keeps honTime hmeasures
  refine ⟨honTime, (tally_step _ (tally_of_onTime honTime)).mp ?_⟩
  exact harmed.measures_iff.mp hmeasures

/-- A slot of a timed tick ends at most one cycle. -/
theorem Chained.slot (hK : K.Lawful) {config : Config} (h : Chained config w)
    (hrests : w.port.isdu.RestsWhenDone) {now : UInt32} (hnow : tickTime w.log = now.toNat) :
  Chains config w (processSlot K env w now true)
  := by
  have hordinary : Uncycled w (processAt K env w now true) :=
    .ordinary (OrdinaryPath.processAt (.refl : OrdinaryPath True _ _) now true)
  rcases processSlot_armed K env w now with ⟨heq, -⟩ | ⟨deadline, heq, hcount⟩
  · rw [heq]
    apply h.chains hordinary
  · obtain ⟨hstate, hidle⟩ := processAt_counted hK hrests hcount
    have hlog := hidle.sent
    rw [World.openSlot_port, hstate] at hlog
    have hsent : sentCyclic (processAt K env w now true).log = true := by
      rw [hlog, sentCyclic, idleFrame_command hK, mcChannel_encode]
      rfl
    have htime : tickTime (processAt K env w now true).log = now.toNat := by
      rw [hlog]
      exact hnow
    have hoperate : (processAt K env w now true).port.state = .operate := by
      rcases processAt_cycleCount hK env w now true with hsame | ⟨hoperate, -⟩
      · exact absurd hsame hcount
      · exact hoperate
    rw [heq]
    exact ((h.uncycled hordinary).chains_armed hoperate hsent htime deadline).after hordinary

/-- A timed tick ends at most one cycle. -/
theorem Chained.tickAt (hK : K.Lawful) {config : Config} (h : Chained config w)
    (hformed : WellFormed config w.port) (event : TickEvent) (now : UInt32) :
  Chains config w (tickAt K env w event now).1
  := by
  have hticked : Uncycled w (w.emit (.tick now)) := .emit rfl rfl rfl
  have hpolled : Uncycled w (pollRx K env (w.emit (.tick now))).1 := hticked.trans .pollRx
  have hchained := h.uncycled hpolled
  rw [IolinkMaster.tickAt]
  rcases tickCommon_cases K env (w.emit (.tick now)) event true now
    with heq | ⟨-, -, heq⟩ | ⟨-, -, heq⟩
  · rw [heq]
    apply h.chains hpolled
  · rw [heq]
    have hpath : OrdinaryPath True (pollRx K env (w.emit (.tick now))).1
        (tickTimeout env (pollRx K env (w.emit (.tick now))).1 now true).1 :=
      OrdinaryPath.tickTimeout .refl now true
    exact (hchained.chains (.ordinary hpath)).after hpolled
  · rw [heq]
    refine (hchained.slot hK ?_ ?_).after hpolled
    · have hticked : WellFormed config (w.emit (.tick now)).port := hformed
      exact (pollRx_wellFormed hK env hticked).completed
    · have hquiet := (pollRx_paced hK config env (w.emit (.tick now))).1
      exact hquiet.time

/-- An initialized port measures from its first cyclic frame. -/
theorem Chained.initPort {config : Config} (h : Chained config w) (env : Env) (phy : PhyApi)
    (config' : Config) (hmin : config'.minCycleTime = config.minCycleTime) :
  Chained config (initPort env w phy config').1 ∧
    ∀ keeps, Trace.Always (OnTime config keeps) w.log →
      Trace.Always (OnTime config keeps) (initPort env w phy config').1.log
  := by
  have hinit := initializes_zeroPort phy config' h.unlost
  have hentered : Chained config
      ⟨zeroPort phy config', .enter (zeroPort phy config').state :: w.log⟩ := by
    refine ⟨?_, ?_, hmin, rfl⟩
    · rw [recorded, hinit, if_pos rfl]
      rfl
    · rw [lastCycle, hinit, if_pos rfl]
      rfl
  have hrest : ∀ v, Uncycled
      ⟨zeroPort phy config', .enter (zeroPort phy config').state :: w.log⟩ v →
        Chained config v ∧ ∀ keeps, Trace.Always (OnTime config keeps) w.log →
          Trace.Always (OnTime config keeps) v.log := by
    intro v hv
    refine ⟨hentered.uncycled hv, ?_⟩
    intro keeps honTime
    exact (hv.cycles.onTime config keeps).mpr ⟨honTime, onTime_of_none rfl⟩
  simp only [IolinkMaster.initPort]
  split
  · exact ⟨h, fun _ honTime => honTime⟩
  · split
    · exact hrest _ (.enter rfl)
    · exact hrest _ (.ordinary (OrdinaryPath.initPhy (.refl : OrdinaryPath True _ _)))

/-- Every call of an application that keeps time ends at most one cycle. -/
theorem Chained.runCall (hK : K.Lawful) {config : Config} (h : Chained config w)
    (hformed : WellFormed config w.port) (c : Call) (hc : timedCalls env w c) :
  Chains config w (runCall K env w c)
  := by
  have hagain : ∀ mode, Chains config w (setPortMode env w mode).1 := by
    intro mode
    obtain ⟨hchained, honTime⟩ :=
      h.initPort env w.port.phy { w.port.config with portMode := mode } h.minCycleTime
    exact ⟨hchained, fun keeps hpast _ => honTime keeps hpast⟩
  cases c with
  | tickAt event now => apply h.tickAt hK hformed
  | controllerTickAt now => apply h.tickAt hK hformed
  | process | tickEvent => contradiction
  | pollRx => exact h.chains .pollRx
  | onRx data handler => exact h.chains (.onRx data handler)
  | onTimeout =>
      have hpath : OrdinaryPath True w (onTimeoutAt env w 0 false).1 :=
        OrdinaryPath.onTimeoutAt .refl 0 false
      exact h.chains (.ordinary hpath)
  | service call => exact h.chains (.ordinary (OrdinaryPath.runService .refl call))
  | restart => apply hagain w.port.config.portMode
  | setPortMode mode => apply hagain mode

/-- The statistics of a port measure its stays as long as its cyclic frames are on time. -/
theorem Chained.measures {config : Config} {keeps : Bool} (h : Chained config w)
    (honTime : Trace.Always (OnTime config keeps) w.log) :
  MeasuresSession config keeps w
  := h.measures_iff.mpr (tally_of_onTime honTime)

/-- The statistics measure the stays throughout a run exactly if its cyclic frames are on time. -/
theorem measures_run (hK : K.Lawful) {phy : PhyApi} {config : Config} {keeps : Bool}
    (calls : List (Env × Call)) (hw : Reach K (fun _ _ _ => True) phy config w)
    (h : Chained config w) (hallowed : AllowedRun K timedCalls w calls)
    (honTime : Trace.Always (OnTime config keeps) w.log) :
  (∀ n, MeasuresSession config keeps (run K w (calls.take n))) ↔
    Trace.Always (OnTime config keeps) (run K w calls).log
  := by
  induction calls generalizing w with
  | nil =>
      rw [run_nil]
      refine iff_of_true ?_ honTime
      intro n
      rw [List.take_nil, run_nil]
      exact h.measures honTime
  | cons c calls ih =>
      obtain ⟨env, c⟩ := c
      obtain ⟨hc, hcalls⟩ := hallowed
      have hchains := h.runCall hK (reachable_port hK hw).1 c hc
      have hrest := ih (.call env c hw trivial) hchains.chained hcalls
      rw [run_cons]
      constructor
      · intro hmeasures
        have hnext : ∀ n, MeasuresSession config keeps
            (IolinkMaster.run K (IolinkMaster.runCall K env w c) (calls.take n)) := by
          intro n
          have hlater := hmeasures (n + 1)
          rw [List.take_succ_cons, run_cons] at hlater
          exact hlater
        have hfirst := hnext 0
        rw [List.take_zero, run_nil] at hfirst
        exact (hrest (hchains.onTime keeps honTime hfirst)).mp hnext
      · intro hall n
        cases n with
        | zero =>
            rw [List.take_zero, run_nil]
            exact h.measures honTime
        | succ n =>
            rw [List.take_succ_cons, run_cons]
            apply (hrest _).mpr hall
            exact Trace.closed_always _ (run_extends hK _ calls) hall

end

/-- In every run of an application that keeps time the statistics measure the stays in OPERATE
after each call exactly if the first cyclic frame of a stay comes no later after the last one
before than the minimum cycle time allows. -/
theorem cycle_stats_measure_stays {K : Iolinki} (hK : K.Lawful) {phy : PhyApi} {config : Config}
    (hconfig : configRefused config = false) (env : Env) (calls : List (Env × Call))
    (hallowed : AllowedRun K timedCalls (started env phy config) calls) (keeps : Bool) :
  (∀ n, MeasuresSession config keeps (run K (started env phy config) (calls.take n))) ↔
    Trace.Always (OnTime config keeps) (run K (started env phy config) calls).log
  := by
  have hpower : Chained config (powerOn phy config) := ⟨rfl, rfl, rfl, rfl⟩
  obtain ⟨hchained, honTime⟩ := hpower.initPort env phy config rfl
  exact measures_run hK calls (Reach.start env hconfig) hchained hallowed (honTime keeps trivial)

/-- A port of type 2.1 with a minimum cycle time of 20 ms that wakes the device up again after
1 ms. -/
def slowCycles : Config := { pacing with minCycleTime := 200, tDwu100us := 10 }

/-- The port sends cyclic frames, the third of which is late, until the device answers no more.
It reconnects and sends the next one at `resumed`. -/
def reconnectingAt (resumed : UInt32) : List (Env × Call) :=
  connecting ++ [(.quiet (reply 0 []), .tickAt .cycleDue 14),
    (.quiet (reply 0 [0x11]), .tickAt .cycleDue 214), (.quiet [], .tickAt .responseTimeout 220),
    (.quiet [], .tickAt .cycleDue 416), (.quiet [], .tickAt .responseTimeout 420),
    (.quiet [], .tickAt .cycleDue 616), (.quiet [], .tickAt .responseTimeout 620),
    (.quiet [], .tickAt .cycleDue 640), (.quiet [], .tickAt .cycleDue 650),
    (.quiet (reply 0 [0x0A]), .tickAt .cycleDue 652),
    (.quiet (reply 0 []), .tickAt .cycleDue resumed)]

/-- Only the late frame is a slip when the port reconnects within the minimum cycle time. -/
theorem cycle_stats_measure_stays_resumed :
  (∀ n, MeasuresSession slowCycles true
      (run .reference (started (.quiet []) .full slowCycles) ((reconnectingAt 816).take n))) ∧
    (run .reference (started (.quiet []) .full slowCycles) (reconnectingAt 816)
      ).port.diagnostics.jitterStats = ⟨1, 0, 2⟩
  := by
  refine ⟨?_, by decide +kernel⟩
  rw [cycle_stats_measure_stays Iolinki.lawful_reference (by decide) _ _ (by decide +kernel)]
  decide +kernel

/-- The time without communication is a slip when the port reconnects later. -/
theorem cycle_stats_measure_stays_late :
  AllowedRun .reference timedCalls (started (.quiet []) .full slowCycles) (reconnectingAt 1500) ∧
    (run .reference (started (.quiet []) .full slowCycles) (reconnectingAt 1500)
      ).port.diagnostics.jitterStats = ⟨2, 684, 684⟩ ∧
    ¬ MeasuresSession slowCycles false
      (run .reference (started (.quiet []) .full slowCycles) (reconnectingAt 1500)) ∧
    ¬ MeasuresSession slowCycles true
      (run .reference (started (.quiet []) .full slowCycles) (reconnectingAt 1500))
  := by
  refine ⟨?_, ?_, ?_, ?_⟩ <;> decide +kernel

end IolinkMaster
