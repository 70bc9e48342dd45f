import IolinkMaster.Comlost
import IolinkMaster.Wraparound

/-!
# Pacing

The minimum cycle time and the frames of OPERATE.  The cycle timer runs from the last cyclic
frame only.
-/

namespace IolinkMaster

/-! ### Frames and their times -/

/-- The time of the last timed tick. -/
def tickTime : List Obs → Nat
  | .tick now :: _ => now.toNat
  | _ :: log => tickTime log
  | [] => 0

/-- An event readout or an ISDU service takes the slot of the port `p`. -/
def takesSlot (p : PortState) : Bool :=
  (eventChannelAccess p.event).isSome || (isduNext p.isdu p.odLen).isSome

/-- When a frame went out, and whether an acyclic service took its slot. -/
structure FrameSent where
  time : Nat
  acyclic : Bool
  deriving DecidableEq, Repr

/-- The last frame sent since the port entered OPERATE. -/
def lastFrame : List Obs → Option FrameSent
  | .sent .operate _ :: log => some ⟨tickTime log, (viewed log).any takesSlot⟩
  | .enter _ :: _ => none
  | _ :: log => lastFrame log
  | [] => none

/-- The frame `f` went out at least the minimum cycle time before `now`. -/
def FrameSent.Passed (f : FrameSent) (config : Config) (now : Nat) : Prop :=
  f.time + config.minCycleTime.toNat ≤ now

/-- A frame of OPERATE goes out at least the minimum cycle time after the last one. -/
def Spaced (config : Config) (log : List Obs) : Obs → Prop
  | .sent .operate _ => ∀ f ∈ lastFrame log, f.Passed config (tickTime log)
  | _ => True

instance (config : Config) (log : List Obs) : DecidablePred (Spaced config log) := by
  intro o
  unfold Spaced FrameSent.Passed
  split <;> infer_instance

/-- The hook that prepares a transmission fails. -/
def prepareFails (env : Env) (p : PortState) : Bool :=
  p.config.prepareTx && env.prepareTx != STATUS_OK

/-- A timed tick at `now` finds the port `p` ready to send a frame of OPERATE. -/
structure SendsAt (env : Env) (p : PortState) (now : UInt32) : Prop where
  state : p.state = .operate
  send : p.phy.send = true
  awaiting : p.awaitingResponse = false
  due : cycleDueAt p now = true
  gate : sendGated p now true = false
  prepared : prepareFails env p = false

instance (env : Env) (p : PortState) (now : UInt32) : Decidable (SendsAt env p now) :=
  decidable_of_iff (p.state = .operate ∧ p.phy.send = true ∧ p.awaitingResponse = false ∧
    cycleDueAt p now = true ∧ sendGated p now true = false ∧ prepareFails env p = false)
    ⟨fun ⟨h, h', h'', h₃, h₄, h₅⟩ => ⟨h, h', h'', h₃, h₄, h₅⟩,
      fun ⟨h, h', h'', h₃, h₄, h₅⟩ => ⟨h, h', h'', h₃, h₄, h₅⟩⟩

/-- A tick does not open a slot of OPERATE within the minimum cycle time after the frame of an
acyclic service. -/
def SparesAcyclic (K : Iolinki) (config : Config) (env : Env) (w : World) : Call → Prop
  | .tickAt .cycleDue now =>
    let r := pollRx K env (w.emit (.tick now))
    0 ≤ r.2 → SendsAt env r.1.port now →
      ∀ f ∈ lastFrame r.1.log, f.acyclic = true → f.Passed config now.toNat
  | _ => True

/-- Timed ticks of a clock that does not go back, and service calls. -/
def timedTicks (_ : Env) (w : World) : Call → Prop
  | .tickAt _ now => tickTime w.log ≤ now.toNat
  | .service _ => True
  | _ => False

instance (config : Config) (f : FrameSent) (now : Nat) : Decidable (f.Passed config now) :=
  inferInstanceAs (Decidable (_ ≤ _))

instance (K : Iolinki) (config : Config) (env : Env) (w : World) :
    DecidablePred (SparesAcyclic K config env w) := by
  intro c
  unfold SparesAcyclic
  split <;> infer_instance

instance (env : Env) (w : World) : DecidablePred (timedTicks env w) := by
  intro c
  apply Call.casesOn (motive := fun c => Decidable (timedTicks env w c)) c <;> intros <;>
    unfold timedTicks <;> infer_instance

/-! ### What opens no slot -/

section

variable {config : Config} {w v : World}

/-- An observation outside the slots of OPERATE: no timed tick, no frame of OPERATE, no
deadline. -/
def Obs.outside : Obs → Bool
  | .tick _ | .sent .operate _ | .armed _ => false
  | _ => true

theorem outside_of_ofSlot {o : Obs} (ho : o.ofSlot = false) :
  o.outside = true
  := by
  cases o <;> first | rfl | contradiction

theorem tickTime_cons {o : Obs} (ho : o.outside = true) (log : List Obs) :
  tickTime (o :: log) = tickTime log
  := by
  cases o <;> first | rfl | contradiction

theorem lastFrame_cons {o : Obs} (ho : o.outside = true) (log : List Obs) :
  lastFrame (o :: log) = lastFrame log ∨ lastFrame (o :: log) = none
  := by
  cases o with
  | enter => exact .inr rfl
  | sent st =>
      cases st with
      | operate => contradiction
      | _ => exact .inl rfl
  | _ => exact .inl rfl

theorem spaced_other {o : Obs} (ho : o.outside = true) (log : List Obs) :
  Spaced config log o
  := by
  cases o with
  | sent st =>
      cases st with
      | operate => contradiction
      | _ => trivial
  | _ => trivial

/-- No frame of OPERATE goes out between the logs `l` and `m`, and no time passes. -/
structure Quiet (config : Config) (l m : List Obs) : Prop where
  spaced : Trace.Always (Spaced config) m ↔ Trace.Always (Spaced config) l
  frame : lastFrame m = lastFrame l ∨ lastFrame m = none
  time : tickTime m = tickTime l

theorem Quiet.refl (config : Config) (l : List Obs) :
  Quiet config l l
  := ⟨Iff.rfl, .inl rfl, rfl⟩

theorem Quiet.trans {k l m : List Obs} (h : Quiet config k l) (h' : Quiet config l m) :
  Quiet config k m
  := by
  refine ⟨h'.spaced.trans h.spaced, ?_, h'.time.trans h.time⟩
  rcases h'.frame with hframe | hframe
  · rw [hframe]
    apply h.frame
  · exact .inr hframe

/-- What is outside the slots of OPERATE is quiet. -/
theorem Quiet.append (os l : List Obs) (hos : ∀ o ∈ os, o.outside = true) :
  Quiet config l (os ++ l)
  := by
  induction os with
  | nil => apply Quiet.refl
  | cons o os ih =>
      have ho := hos o List.mem_cons_self
      have hquiet := ih fun o' ho' => hos o' (List.mem_cons_of_mem _ ho')
      exact hquiet.trans
        ⟨and_iff_left (spaced_other ho _), lastFrame_cons ho _, tickTime_cons ho _⟩

theorem Slotless.outside (h : Slotless w v) :
  ∃ os : List Obs, (∀ o ∈ os, o.outside = true) ∧ v.log = os ++ w.log
  := by
  obtain ⟨os, hos, hlog⟩ := h
  exact ⟨os, fun o ho => outside_of_ofSlot (hos o ho), hlog⟩

theorem Slotless.quiet (h : Slotless w v) :
  Quiet config w.log v.log
  := by
  obtain ⟨os, hos, hlog⟩ := h.outside
  rw [hlog]
  apply Quiet.append os _ hos

/-- A slot of another state is no slot of OPERATE. -/
theorem SlotPath.outside {K : Iolinki} {ready : World → Prop} (h : SlotPath K ready w v)
    (hstate : w.port.state ≠ .operate) :
  v.port.state ≠ .operate ∧
    ∃ os : List Obs, (∀ o ∈ os, o.outside = true) ∧ v.log = os ++ w.log
  := by
  have hsent : ∀ st frame, st ≠ .operate → (Obs.sent st frame).outside = true := by
    intro st frame hst
    cases st <;> first | rfl | contradiction
  induction h with
  | refl => exact ⟨hstate, [], by simp, rfl⟩
  | @tail u v _ hstep ih =>
      obtain ⟨hu, os, hos, hlog⟩ := ih
      have hmore : ∀ added : List Obs, (∀ o ∈ added, o.outside = true) →
          v.log = added ++ u.log →
            ∃ os : List Obs, (∀ o ∈ os, o.outside = true) ∧ v.log = os ++ w.log := by
        intro added hadded hv
        refine ⟨added ++ os, ?_, by rw [hv, hlog, List.append_assoc]⟩
        intro o ho
        rcases List.mem_append.mp ho with ho | ho
        · apply hadded o ho
        · apply hos o ho
      cases hstep with
      | control h =>
          obtain ⟨added, hadded, hv⟩ := (slotless_control h).outside
          refine ⟨?_, hmore added hadded hv⟩
          cases h with
          | service h =>
              rw [(untouched_of_step h).state]
              apply hu
          | fail => exact nofun
      | slot => exact ⟨hu, hmore [_, _] (by simp [Obs.outside]) rfl⟩
      | send => exact ⟨hu, hmore [_] (by simp [hsent _ _ hu]) rfl⟩
      | sendFailed sent =>
          refine ⟨nofun, ?_⟩
          cases sent with
          | true =>
              refine hmore [_, _] ?_ rfl
              simp only [List.mem_cons, List.not_mem_nil, or_false, forall_eq_or_imp, forall_eq]
              exact ⟨rfl, hsent _ _ hu⟩
          | false => exact hmore [_] (by simp [Obs.outside]) rfl
      | restep => exact ⟨hu, hmore [] (by simp) rfl⟩
      | callWakeUp | wake | test => exact ⟨hu, hmore [_] (by simp [Obs.outside]) rfl⟩
      | startupFailed => exact ⟨nofun, hmore [_, _] (by simp [Obs.outside]) rfl⟩
      | count hoperate => exact absurd hoperate hu
      | arm deadline hoperate => exact absurd hoperate hu

/-- A slot of another state sends no frame of OPERATE. -/
theorem SlotPath.quiet {K : Iolinki} {ready : World → Prop} (h : SlotPath K ready w v)
    (hstate : w.port.state ≠ .operate) :
  Quiet config w.log v.log ∧ v.port.state ≠ .operate
  := by
  obtain ⟨hv, os, hos, hlog⟩ := h.outside hstate
  rw [hlog]
  exact ⟨.append os _ hos, hv⟩

/-! ### The cycle timer -/

/-- The cycle timer runs in `v` as it does in `w`. -/
structure SameTimer (w v : World) : Prop where
  valid : v.port.cycleTimerValid = w.port.cycleTimerValid
  start : v.port.lastCycleStart100us = w.port.lastCycleStart100us

theorem SameTimer.refl (w : World) :
  SameTimer w w
  := ⟨rfl, rfl⟩

theorem SameTimer.trans {u : World} (h : SameTimer u w) (h' : SameTimer w v) :
  SameTimer u v
  := ⟨h'.valid.trans h.valid, h'.start.trans h.start⟩

/-- The world `w` without its past. -/
def World.fresh (w : World) : World := ⟨{ w.port with awaitingResponse := true }, []⟩

theorem fresh_after (w : World) :
  w.fresh.after w.port.stamps w.log = w
  := rfl

/-- What does not read the times of a port leaves its cycle timer alone. -/
theorem sameTimer_of_after {α : Type} {f : World → World × α}
    (hf : ∀ t l w, f (w.after t l) = resultAfter t l (f w)) (w : World) :
  SameTimer w (f w).1
  := by
  have hfresh := hf w.port.stamps w.log w.fresh
  rw [fresh_after] at hfresh
  rw [hfresh]
  exact ⟨rfl, rfl⟩

theorem sameTimer_of_map {f : World → World}
    (hf : ∀ t l w, f (w.after t l) = (f w).after t l) (w : World) :
  SameTimer w (f w)
  := by
  have hfresh := hf w.port.stamps w.log w.fresh
  rw [fresh_after] at hfresh
  rw [hfresh]
  exact ⟨rfl, rfl⟩

/-- What only arms the send gate leaves the cycle timer alone. -/
theorem sameTimer_of_gate {f : UInt32 → Bool → World → World × Int} (hf : ∀ w, ArmsGate f w)
    (now : UInt32) (w : World) :
  SameTimer w (f now true w).1
  := by
  obtain ⟨delay, harms⟩ := hf w.fresh
  have hfresh := harms w.port.stamps w.log now
  rw [fresh_after] at hfresh
  rw [hfresh]
  cases delay <;> exact ⟨rfl, rfl⟩

variable (env : Env)

theorem processStartup_timer (K : Iolinki) (w : World) (now : UInt32) :
  SameTimer w (processStartup K env w now true)
  := by
  have hwake := sameTimer_of_gate (processWake_gate env) now
  have hsent : SameTimer w (sendFull env w (testMessage K)).1 :=
    sameTimer_of_after (f := fun w => sendFull env w (testMessage K))
      (fun t l w => sendFull_after t l w env (testMessage K)) w
  simp only [processStartup]
  split
  · split
    · exact ⟨rfl, rfl⟩
    · have hset : SameTimer w ((setMode env w .sdci).1.setStep .wake) := ⟨rfl, rfl⟩
      apply hset.trans (hwake _)
  · apply hwake
  · simp only [processTest]
    split
    · apply SameTimer.refl
    · split
      · exact ⟨hsent.valid, hsent.start⟩
      · apply hsent
  · apply SameTimer.refl
  · apply SameTimer.refl

theorem tickTimeout_timer (w : World) (now : UInt32) :
  SameTimer w (tickTimeout env w now true).1
  := by
  have hflush : ∀ w, SameTimer w (flushRx env w).1 :=
    sameTimer_of_after fun t l w => flushRx_after t l w env
  have htimeout : ∀ w, SameTimer w (onTimeoutAt env w now true).1 := by
    intro w
    have hnoted : ∀ due, SameTimer w ((flushRx env w).1.emit
        (.timeout (flushRx env w).1.port.state due)) :=
      fun _ => ⟨(hflush w).valid, (hflush w).start⟩
    simp only [onTimeoutAt]
    split
    · exact ⟨(hflush w).valid, (hflush w).start⟩
    · split
      · split
        · apply hnoted
        · apply (hnoted _).trans
          apply sameTimer_of_gate (establishAttemptFailed_gate env)
      · apply (hnoted _).trans
        apply sameTimer_of_gate (operateTimeout_gate env)
      · apply hnoted
      · apply hnoted
      · apply hnoted
  simp only [tickTimeout]
  refine SameTimer.trans ?_ (htimeout _)
  split
  · exact ⟨(hflush w).valid, (hflush w).start⟩
  · exact ⟨rfl, rfl⟩

/-! ### Slots of OPERATE -/

/-- A slot opened in the world `w` puts one frame on the wire, or fails; a frame that is
`cyclic` is counted. -/
inductive SlotSent (env : Env) (cyclic : Prop) (w v : World) : Prop where
  | blocked (hprepare : prepareFails env w.port = true) (hlog : v.log = .enter .error :: w.log)
  | failed (frame : List UInt8) (hprepare : prepareFails env w.port = false)
      (hlog : v.log = .enter .error :: .sent w.port.state frame :: w.log)
  | sent (frame : List UInt8) (hprepare : prepareFails env w.port = false)
      (hlog : v.log = .sent w.port.state frame :: w.log)
      (hcount : cyclic → v.port.cycleCount = w.port.cycleCount + 1)

/-- The ways a transmission ends, by whether the hook before it fails. -/
theorem sendFull_prepared (w : World) (frame : List UInt8) :
  prepareFails env w.port = true ∧ sendFull env w frame = (sendFailed w, false) ∨
    prepareFails env w.port = false ∧
      (sendFull env w frame = (sendFailed (w.emit (.sent w.port.state frame)), false) ∨
        sendFull env w frame
          = ((w.emit (.sent w.port.state frame)).put
              { w.port with rxOdExpected := mcIsRead (frame.getD 0 0) }, true))
  := by
  rw [sendFull]
  cases hprepare : w.port.config.prepareTx && env.prepareTx != STATUS_OK with
  | true => exact .inl ⟨hprepare, rfl⟩
  | false =>
      refine .inr ⟨hprepare, ?_⟩
      simp only [Bool.false_eq_true, if_false]
      split
      · exact .inl rfl
      · split
        · exact .inr rfl
        · exact .inl rfl

theorem sendFull_framed (w : World) (frame : List UInt8) :
  SlotSent env False w (sendFull env w frame).1
  := by
  rcases sendFull_prepared env w frame with ⟨hprepare, heq⟩ | ⟨hprepare, heq | heq⟩
  · rw [heq]
    exact .blocked hprepare rfl
  · rw [heq]
    exact .failed frame hprepare rfl
  · rw [heq]
    exact .sent frame hprepare rfl False.elim

/-- Only the log counts. -/
theorem SlotSent.of_log (w : World) {u v v' : World} (h : SlotSent env False u v)
    (hport : u.port.state = w.port.state ∧ u.port.config = w.port.config) (hpast : u.log = w.log)
    (hlog : v'.log = v.log) {cyclic : Prop} (hcyclic : ¬ cyclic) :
  SlotSent env cyclic w v'
  := by
  obtain ⟨hstate, hconfig⟩ := hport
  have hsame : prepareFails env u.port = prepareFails env w.port := by
    rw [prepareFails, prepareFails, hconfig]
  cases h with
  | blocked hprepare hv => exact .blocked (hsame ▸ hprepare) (by rw [hlog, hv, hpast])
  | failed frame hprepare hv =>
      exact .failed frame (hsame ▸ hprepare) (by rw [hlog, hv, hpast, hstate])
  | sent frame hprepare hv _ =>
      exact .sent frame (hsame ▸ hprepare) (by rw [hlog, hv, hpast, hstate]) hcyclic.elim

/-- The cyclic exchange counts the frame it sends. -/
theorem processCyclic_framed {K : Iolinki} (hK : K.Lawful) (w : World) (cyclic : Prop) :
  SlotSent env cyclic w (processCyclic K env w)
  := by
  have hsent : ∀ (frame : List UInt8) (s : IsduState), SlotSent env cyclic w
      (if (sendFull env (w.putIsdu s) frame).2 then
        (sendFull env (w.putIsdu s) frame).1.put
          (countCycle (sendFull env (w.putIsdu s) frame).1.port)
      else (sendFull env (w.putIsdu s) frame).1) := by
    intro frame s
    rcases sendFull_prepared env (w.putIsdu s) frame with
      ⟨hprepare, heq⟩ | ⟨hprepare, heq | heq⟩
    · rw [heq]
      exact .blocked hprepare rfl
    · rw [heq]
      exact .failed frame hprepare rfl
    · rw [heq]
      exact .sent frame hprepare rfl fun _ => rfl
  simp only [processCyclic]
  rw [if_neg]
  · apply hsent
  · apply cyclicFrame_ne_nil hK

/-- A slot of OPERATE sends one frame; a cyclic one is counted. -/
theorem processOperate_framed {K : Iolinki} (hK : K.Lawful) (w : World) :
  SlotSent env (takesSlot w.port = false) w (processOperate K env w)
  := by
  cases hevent : eventChannelAccess w.port.event with
  | some access =>
      obtain ⟨read, addr⟩ := access
      have hframed := sendFull_framed env w (eventFrame K w.port read addr)
      have htakes : ¬ takesSlot w.port = false := by simp [takesSlot, hevent]
      have hsent : (sendEvent K env w).2 = true := by
        simp [sendEvent, hevent, eventFrame_ne_nil hK]
      rw [processOperate]
      simp only [hsent, if_true]
      apply SlotSent.of_log env w hframed ⟨rfl, rfl⟩ rfl _ htakes
      simp only [sendEvent, hevent, if_neg (eventFrame_ne_nil hK w.port read addr)]
      split <;> split <;> rfl
  | none =>
      have hidle : sendEvent K env w = (w, false) := by
        simp only [sendEvent, hevent]
      rw [processOperate, hidle]
      dsimp only
      simp only [Bool.false_eq_true, if_false]
      cases hisdu : isduNext w.port.isdu w.port.odLen with
      | none =>
          have hnone : sendIsdu K env w = (w, false) := by
            rw [sendIsdu_eq, hisdu]
          rw [hnone]
          apply processCyclic_framed env hK
      | some next =>
          obtain ⟨f, s⟩ := next
          have htakes : ¬ takesSlot w.port = false := by simp [takesSlot, hisdu]
          obtain ⟨rest, hhead⟩ := IsduFrame.octets_head hK w.port f
          have hne : f.octets K w.port ≠ [] := by
            rw [hhead]
            apply List.cons_ne_nil
          have hsome : sendIsdu K env w = ((sendFull env (w.putIsdu s) (f.octets K w.port)).1, true) := by
            rw [sendIsdu_eq, hisdu]
            exact if_neg hne
          rw [hsome]
          dsimp only
          rw [if_pos rfl]
          have hframed := sendFull_framed env (w.putIsdu s) (f.octets K w.port)
          exact SlotSent.of_log env w hframed ⟨rfl, rfl⟩ rfl rfl htakes

/-! ### What a tick keeps -/

/-- The last frame lies in the past, and the cycle timer runs from it unless it was acyclic. -/
structure Paced (w : World) : Prop where
  past : ∀ f ∈ lastFrame w.log, f.time ≤ tickTime w.log
  timer : ∀ f ∈ lastFrame w.log, f.acyclic = false →
    w.port.cycleTimerValid = true ∧ w.port.lastCycleStart100us.toNat = f.time

/-- What is quiet and leaves the cycle timer alone keeps the pace. -/
theorem Paced.quiet (h : Paced w) (hquiet : Quiet config w.log v.log) (htimer : SameTimer w v) :
  Paced v
  := by
  rcases hquiet.frame with hframe | hframe
  · constructor
    · rw [hframe, hquiet.time]
      apply h.past
    · rw [hframe, htimer.valid, htimer.start]
      apply h.timer
  · constructor <;> simp [hframe]

variable {env} {K : Iolinki} {now : UInt32}

theorem processAt_timer (w : World) (now : UInt32) :
  SameTimer w (processAt K env w now true)
  := by
  have hopen : SameTimer w w.openSlot := ⟨rfl, rfl⟩
  have hpreoperate := sameTimer_of_map (f := fun w => processPreoperate K env w)
    fun t l w => processPreoperate_after t l w env K
  have hoperate := sameTimer_of_map (f := fun w => processOperate K env w)
    fun t l w => processOperate_after t l w env K
  simp only [processAt]
  split
  · apply SameTimer.refl
  · split
    · apply processStartup_timer
    · apply hopen.trans (hpreoperate _)
    · apply hopen.trans (hoperate _)
    · apply SameTimer.refl
    · apply SameTimer.refl

/-- The cycle timer spaces the frame that is due from a cyclic frame before it. -/
theorem Paced.passed (h : Paced w) (hconfig : w.port.config.minCycleTime = config.minCycleTime)
    (hnow : tickTime w.log = now.toNat) (hstate : w.port.state = .operate)
    (hdue : cycleDueAt w.port now = true) {f : FrameSent} (hf : f ∈ lastFrame w.log)
    (hcyclic : f.acyclic = false) :
  f.Passed config now.toNat
  := by
  have hpast := h.past f hf
  rw [hnow] at hpast
  obtain ⟨hvalid, hstart⟩ := h.timer f hf hcyclic
  rw [FrameSent.Passed]
  rw [cycleDueAt, cyclePaced, hstate, hvalid, hconfig] at hdue
  by_cases hzero : config.minCycleTime = 0
  · rw [hzero]
    exact hpast
  · have hge : config.minCycleTime.toUInt32 ≤ now - w.port.lastCycleStart100us := by
      simpa [hzero] using hdue
    rw [UInt32.le_iff_toNat_le, UInt32.toNat_sub_of_le, hstart] at hge
    · have hwidth : config.minCycleTime.toUInt32.toNat = config.minCycleTime.toNat := rfl
      omega
    · rw [UInt32.le_iff_toNat_le, hstart]
      apply hpast

/-- A cycle that is counted is armed. -/
theorem processSlot_armed (K : Iolinki) (env : Env) (w : World) (now : UInt32) :
  (processSlot K env w now true = processAt K env w now true ∧
      (processAt K env w now true).port.cycleCount = w.port.cycleCount) ∨
    ∃ deadline, processSlot K env w now true =
      ((processAt K env w now true).put (armCycle (processAt K env w now true).port now)).emit
        (.armed deadline) ∧
      (processAt K env w now true).port.cycleCount ≠ w.port.cycleCount
  := by
  simp only [processSlot, Bool.true_and]
  split
  · next hcount => exact .inr ⟨_, rfl, by simpa using hcount⟩
  · next hcount => exact .inl ⟨rfl, by simpa using hcount⟩

/-- What a slot of a timed tick does to the pace: the frames stay spaced if the tick comes late
enough after an acyclic frame. -/
theorem Paced.slot (hK : K.Lawful) (h : Paced w)
    (hconfig : w.port.config.minCycleTime = config.minCycleTime)
    (hnow : tickTime w.log = now.toNat) (hawaiting : w.port.awaitingResponse = false)
    (hdue : cycleDueAt w.port now = true) :
  Paced (processSlot K env w now true) ∧
    (Trace.Always (Spaced config) (processSlot K env w now true).log ↔
      Trace.Always (Spaced config) w.log ∧
        (SendsAt env w.port now →
          ∀ f ∈ lastFrame w.log, f.acyclic = true → f.Passed config now.toNat))
  := by
  by_cases hslot : w.port.state = .operate ∧ w.port.phy.send = true ∧
      sendGated w.port now true = false
  · obtain ⟨hstate, hsend, hgate⟩ := hslot
    have hprocess : processAt K env w now true = processOperate K env w.openSlot := by
      simp [processAt, hstate, hsend, hgate]
    have hspaced : (∀ f ∈ lastFrame w.log, f.acyclic = true → f.Passed config now.toNat) ↔
        ∀ f ∈ lastFrame w.log, f.Passed config now.toNat := by
      constructor
      · intro hacyclic f hf
        cases hkind : f.acyclic with
        | true => apply hacyclic f hf hkind
        | false => apply h.passed hconfig hnow hstate hdue hf hkind
      · intro hall f hf _
        apply hall f hf
    have htimer : SameTimer w (processAt K env w now true) := processAt_timer w now
    have hframed := processOperate_framed env hK w.openSlot
    rw [← hprocess] at hframed
    have hunarmed := processSlot_armed K env w now
    have hcounted := processAt_cycleCount hK env w now true
    generalize processAt K env w now true = v at *
    have herror : ∀ l, v.log = .enter .error :: l → processSlot K env w now true = v ∧ Paced v := by
      intro l hlog
      constructor
      · rcases hunarmed with ⟨heq, -⟩ | ⟨_, -, hcount⟩
        · apply heq
        · rcases hcounted with hsame | ⟨-, frame, l, hsent⟩
          · exact absurd hsame hcount
          · rw [hlog] at hsent
            have hhead := (List.cons.inj hsent).1
            contradiction
      · constructor <;> simp [hlog, lastFrame]
    have hsent : ∀ frame, Trace.Always (Spaced config)
        (.sent w.port.state frame :: w.openSlot.log) ↔ Trace.Always (Spaced config) w.log ∧
          ∀ f ∈ lastFrame w.log, f.Passed config (tickTime w.log) := by
      intro frame
      rw [hstate]
      have hopened : Quiet config w.log w.openSlot.log := .append [_, _] _ (by simp [Obs.outside])
      exact and_congr_left' hopened.spaced
    cases hframed with
    | blocked hprepare hlog =>
        obtain ⟨heq, hpaced⟩ := herror _ hlog
        have hunsent : ¬ SendsAt env w.port now := by
          intro hsends
          have hprepared : prepareFails env w.port = true := hprepare
          rw [hsends.prepared] at hprepared
          contradiction
        rw [and_iff_left fun hsends => absurd hsends hunsent, heq]
        refine ⟨hpaced, ?_⟩
        rw [hlog]
        have hfailed : Quiet config w.log (.enter .error :: w.openSlot.log) :=
          .append [_, _, _] _ (by simp [Obs.outside])
        exact hfailed.spaced
    | failed frame hprepare hlog =>
        obtain ⟨heq, hpaced⟩ := herror _ hlog
        have hsends : SendsAt env w.port now := ⟨hstate, hsend, hawaiting, hdue, hgate, hprepare⟩
        rw [forall_prop_of_true hsends, hspaced, ← hnow, heq]
        refine ⟨hpaced, ?_⟩
        rw [hlog]
        exact (and_iff_left trivial).trans (hsent frame)
    | sent frame hprepare hlog hcount =>
        have hsends : SendsAt env w.port now := ⟨hstate, hsend, hawaiting, hdue, hgate, hprepare⟩
        have hlast : lastFrame v.log = some ⟨now.toNat, takesSlot w.port⟩ := by
          rw [hlog, ← hnow]
          exact congrArg (fun st => lastFrame (.sent st frame :: w.openSlot.log)) hstate
        have htime : tickTime v.log = now.toNat := by
          rw [hlog, ← hnow]
          rfl
        rw [forall_prop_of_true hsends, hspaced, ← hnow, ← hsent frame]
        have hlog' : v.log = .sent w.port.state frame :: w.openSlot.log := hlog
        rw [← hlog']
        rcases hunarmed with ⟨heq, hsame⟩ | ⟨deadline, heq, -⟩
        · -- A frame that is not counted is the frame of an acyclic service.
          have hacyclic : takesSlot w.port = true := by
            rw [← Bool.not_eq_false]
            intro hcyclic
            have hnext := hcount hcyclic
            rw [hsame] at hnext
            simp at hnext
          rw [heq]
          refine ⟨⟨?_, ?_⟩, Iff.rfl⟩
          · rw [hlast, htime]
            simp
          · rw [hlast]
            simp [hacyclic]
        · rw [heq]
          refine ⟨⟨?_, ?_⟩, and_iff_left trivial⟩
          · change ∀ f ∈ lastFrame v.log, f.time ≤ tickTime v.log
            rw [hlast, htime]
            simp
          · change ∀ f ∈ lastFrame v.log, _
            rw [hlast]
            simp [armCycle_eq]
  · have hunsent : ¬ SendsAt env w.port now := fun hsends =>
      hslot ⟨hsends.state, hsends.send, hsends.gate⟩
    rw [and_iff_left fun hsends => absurd hsends hunsent]
    have hsame : processSlot K env w now true = processAt K env w now true ∧
        Quiet config w.log (processAt K env w now true).log := by
      by_cases hstate : w.port.state = .operate
      · have hidle : processAt K env w now true = w := by
          rw [processAt, if_pos]
          by_contra hopen
          rw [Bool.or_eq_true, not_or, Bool.not_eq_true', Bool.not_eq_false, Bool.not_eq_true]
            at hopen
          exact hslot ⟨hstate, hopen⟩
        rw [processSlot, hidle]
        simp only [bne_self_eq_false, Bool.and_false, Bool.false_eq_true, if_false]
        exact ⟨trivial, .refl config w.log⟩
      · have hpath : SlotPath K (fun _ => True) w (processAt K env w now true) :=
          processAt_path hK env now true trivial
        obtain ⟨hquiet, hv⟩ := hpath.quiet hstate
        refine ⟨?_, hquiet⟩
        rcases processSlot_armed K env w now with ⟨heq, -⟩ | ⟨_, -, hcount⟩
        · apply heq
        · rcases processAt_cycleCount hK env w now true with hcounted | ⟨hoperate, -⟩
          · exact absurd hcounted hcount
          · exact absurd hoperate hv
    rw [hsame.1]
    exact ⟨h.quiet hsame.2 (processAt_timer w now), hsame.2.spaced⟩

/-- Receiving sends nothing and leaves the cycle timer alone. -/
theorem pollRx_paced (hK : K.Lawful) (config : Config) (env : Env) (w : World) :
  Quiet config w.log (pollRx K env w).1.log ∧ SameTimer w (pollRx K env w).1
  := ⟨(Slotless.path (fun _ _ h => slotless_receive h) (pollRx_path hK env w)).quiet,
    sameTimer_of_after (f := fun w => pollRx K env w) (fun t l w => pollRx_after t l w env K) w⟩

/-- A port stays well-formed when it receives. -/
theorem pollRx_wellFormed (hK : K.Lawful) (env : Env) (h : WellFormed config w.port) :
  WellFormed config (pollRx K env w).1.port
  := wellFormed_receivePath (pollRx_path hK env w) h

/-- A timeout sends nothing and leaves the cycle timer alone. -/
theorem tickTimeout_paced (config : Config) (env : Env) (w : World) (now : UInt32) :
  Quiet config w.log (tickTimeout env w now true).1.log ∧
    SameTimer w (tickTimeout env w now true).1
  := by
  have hpath : TimeoutPath (fun _ _ _ => True) w (tickTimeout env w now true).1 :=
    tickTimeout_path env w now true fun _ _ _ => trivial
  exact ⟨(Slotless.path (fun _ _ h => slotless_timeout h) hpath).quiet, tickTimeout_timer env w now⟩

/-- What a timed tick does to the pace. -/
theorem Paced.tickAt (hK : K.Lawful) (h : Paced w) (hformed : WellFormed config w.port)
    (event : TickEvent) (hnow : tickTime w.log ≤ now.toNat) :
  Paced (tickAt K env w event now).1 ∧
    (Trace.Always (Spaced config) (tickAt K env w event now).1.log ↔
      Trace.Always (Spaced config) w.log ∧ SparesAcyclic K config env w (.tickAt event now))
  := by
  have hticked : Paced (w.emit (.tick now)) :=
    ⟨fun f hf => (h.past f hf).trans hnow, h.timer⟩
  obtain ⟨hquiet, htimer⟩ := pollRx_paced hK config env (w.emit (.tick now))
  have hformed' : WellFormed config (w.emit (.tick now)).port := hformed
  have hpolled := hticked.quiet hquiet htimer
  have hmode := (pollRx_wellFormed hK env hformed').configured
  simp only [IolinkMaster.tickAt, tickCommon]
  rcases hpoll : pollRx K env (w.emit (.tick now)) with ⟨v, ret⟩
  rw [hpoll] at hquiet htimer hpolled hmode
  have hspaced : Trace.Always (Spaced config) v.log ↔ Trace.Always (Spaced config) w.log :=
    hquiet.spaced.trans (and_iff_left trivial)
  have hnow' : tickTime v.log = now.toNat := hquiet.time
  obtain ⟨mode, hmode⟩ := hmode
  by_cases hret : ret < 0
  · rw [if_pos hret]
    refine ⟨hpolled, hspaced.trans (and_iff_left ?_).symm⟩
    cases event with
    | cycleDue =>
        simp only [SparesAcyclic, hpoll]
        intro hge
        exact absurd hret (not_lt.mpr hge)
    | _ => trivial
  · rw [if_neg hret]
    cases event with
    | none => exact ⟨hpolled, hspaced.trans (and_iff_left trivial).symm⟩
    | responseTimeout =>
        obtain ⟨hquiet, htimer⟩ := tickTimeout_paced config env v now
        dsimp only
        split
        · exact ⟨hpolled, hspaced.trans (and_iff_left trivial).symm⟩
        · exact ⟨hpolled.quiet hquiet htimer,
            (hquiet.spaced.trans hspaced).trans (and_iff_left trivial).symm⟩
    | cycleDue =>
        simp only [SparesAcyclic, hpoll]
        rw [forall_prop_of_true (not_lt.mp hret)]
        have hidle : ¬ SendsAt env v.port now → (Trace.Always (Spaced config) v.log ↔
            Trace.Always (Spaced config) w.log ∧ (SendsAt env v.port now →
              ∀ f ∈ lastFrame v.log, f.acyclic = true → f.Passed config now.toNat)) :=
          fun hunsent => hspaced.trans (and_iff_left fun hsends => absurd hsends hunsent).symm
        split
        · next hawaiting =>
          refine ⟨hpolled, hidle ?_⟩
          intro hsends
          rw [hsends.awaiting] at hawaiting
          contradiction
        · next hawaiting =>
          rw [Bool.not_eq_true] at hawaiting
          split
          · next hdue =>
            refine ⟨hpolled, hidle ?_⟩
            intro hsends
            rw [hsends.due] at hdue
            contradiction
          · next hdue =>
            have hdue' : cycleDueAt v.port now = true := by simpa using hdue
            have hconfig : v.port.config.minCycleTime = config.minCycleTime := by
              rw [show v.port.config = _ from hmode]
            obtain ⟨hpaced, hiff⟩ := hpolled.slot hK hconfig hnow' hawaiting hdue'
            rw [← hspaced]
            exact ⟨hpaced, hiff⟩

/-- A service call sends nothing and leaves the cycle timer alone. -/
theorem runService_paced (config : Config) (w : World) (call : Service) :
  Quiet config w.log (runService w call).log ∧ SameTimer w (runService w call)
  := ⟨(slotless_servicePath (runService_path w call)).quiet,
    sameTimer_of_map (f := fun w => runService w call) (fun t l w => runService_after t l w call) w⟩

/-- An initialized port has sent no frame of OPERATE. -/
theorem started_quiet (config : Config) (env : Env) (phy : PhyApi)
    (hconfig : configRefused config = false) :
  Quiet config (initialWorld phy config).log (started env phy config).log
  := (Slotless.path (fun _ _ h => slotless_control h) (started_path env phy config hconfig)).quiet

/-- The frames of a run stay spaced if its ticks come late enough after acyclic frames. -/
theorem spaced_run (hK : K.Lawful) {phy : PhyApi} (calls : List (Env × Call))
    (hw : Reach K (fun _ _ _ => True) phy config w) (h : Paced w)
    (hallowed : AllowedRun K timedTicks w calls) :
  Trace.Always (Spaced config) (run K w calls).log ↔
    Trace.Always (Spaced config) w.log ∧ AllowedRun K (SparesAcyclic K config) w calls
  := by
  induction calls generalizing w with
  | nil =>
      rw [run_nil]
      exact (and_iff_left trivial).symm
  | cons c calls ih =>
      obtain ⟨env, c⟩ := c
      obtain ⟨hc, hcalls⟩ := hallowed
      have hnext := ih (Reach.call env c hw trivial)
      have hstep : Paced (runCall K env w c) ∧
          (Trace.Always (Spaced config) (runCall K env w c).log ↔
            Trace.Always (Spaced config) w.log ∧ SparesAcyclic K config env w c) := by
        cases c with
        | tickAt event now => exact h.tickAt hK (reachable_port hK hw).1 event hc
        | service call =>
            obtain ⟨hquiet, htimer⟩ := runService_paced config w call
            exact ⟨h.quiet hquiet htimer, hquiet.spaced.trans (and_iff_left trivial).symm⟩
        | _ => contradiction
      rw [run_cons, hnext hstep.1 hcalls, hstep.2, and_assoc]
      exact Iff.rfl

end

/-- In every run of timed ticks and services, any two consecutive frames of OPERATE are spaced by
the minimum cycle time exactly if no tick opens a slot too early after an acyclic frame. -/
theorem min_cycle_time_respected {K : Iolinki} (hK : K.Lawful) {phy : PhyApi} {config : Config}
    (hconfig : configRefused config = false) (env : Env) (calls : List (Env × Call))
    (hallowed : AllowedRun K timedTicks (started env phy config) calls) :
  Trace.Always (Spaced config) (run K (started env phy config) calls).log ↔
    AllowedRun K (SparesAcyclic K config) (started env phy config) calls
  := by
  have hquiet := started_quiet config env phy hconfig
  have hnone : lastFrame (started env phy config).log = none := by
    rcases hquiet.frame with hframe | hframe
    · exact hframe
    · exact hframe
  have hpaced : Paced (started env phy config) := by
    constructor <;> simp [hnone]
  have hinitial : Trace.Always (Spaced config) (started env phy config).log :=
    hquiet.spaced.mpr ⟨trivial, trivial⟩
  rw [spaced_run hK calls (Reach.start env hconfig) hpaced hallowed, and_iff_right hinitial]

/-- A port of type 2.1 with a minimum cycle time of 2 ms. -/
def pacing : Config := { Config.bare .type2_1 1 1 with minCycleTime := 20 }

/-- The port connects and sends cyclic frames. -/
def cycles : List (Env × Call) :=
  connecting ++ [(.quiet (reply 0 []), .tickAt .cycleDue 14),
    (.quiet (reply 0 [0x11]), .tickAt .cycleDue 20), (.quiet [], .tickAt .cycleDue 34)]

/-- Cyclic frames are spaced. -/
theorem min_cycle_time_respected_cycling :
  Trace.Always (Spaced pacing)
      (run .reference (started (.quiet []) .full pacing) cycles).log ∧
    lastFrame (run .reference (started (.quiet []) .full pacing) cycles).log
      = some ⟨34, false⟩
  := by
  refine ⟨?_, by decide +kernel⟩
  rw [min_cycle_time_respected Iolinki.lawful_reference (by decide) _ _ (by decide +kernel)]
  decide +kernel

/-- Two frames of an ISDU read go out within 0.1 ms. -/
theorem min_cycle_time_respected_acyclic :
  AllowedRun .reference timedTicks (started (.quiet []) .full pacing)
      (cycles ++ [(.quiet (reply 0 [0x11]), .service (.readIsdu 0x10 0 16)),
        (.quiet (reply 0 [0x11]), .tickAt .cycleDue 54), (.quiet [], .tickAt .cycleDue 55)]) ∧
    ¬ Trace.Always (Spaced pacing) (run .reference (started (.quiet []) .full pacing)
      (cycles ++ [(.quiet (reply 0 [0x11]), .service (.readIsdu 0x10 0 16)),
        (.quiet (reply 0 [0x11]), .tickAt .cycleDue 54), (.quiet [], .tickAt .cycleDue 55)])).log
  := by
  constructor
  · decide +kernel
  · decide +kernel

end IolinkMaster
