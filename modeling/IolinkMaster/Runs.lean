import IolinkMaster.Codec
import IolinkMaster.SlotPaths

/-!
# Invariants of runs

An invariant that every atomic step keeps, as long as the observations satisfy a
condition, holds after every run whose observations satisfy it.
-/

namespace IolinkMaster

open Relation

variable {K : Iolinki} {judged : World → List UInt8 → Prop} {ready : World → Prop}
  {due : World → Bool → Bool → Prop}

/-! ### Steps only add observations -/

/-- A frame goes out. -/
def Obs.isSent : Obs → Bool
  | .sent _ _ => true
  | _ => false

/-- An observation of a tick or of what a transmission slot does. -/
def Obs.ofSlot : Obs → Bool
  | .tick _ | .view _ | .slot | .wakeUp | .sent _ _ | .armed _ => true
  | _ => false

/-- The frame an observation puts on the wire. -/
def Obs.frame : Obs → Option (List UInt8)
  | .sent _ frame => some frame
  | _ => none

/-- The world `v` is reached from `w` without a frame on the wire. -/
def Unsent (w v : World) : Prop :=
  ∃ os : List Obs, (∀ o ∈ os, o.isSent = false) ∧ v.log = os ++ w.log

/-- The world `v` is reached from `w` without a tick, a slot or a frame on the wire. -/
def Slotless (w v : World) : Prop :=
  ∃ os : List Obs, (∀ o ∈ os, o.ofSlot = false) ∧ v.log = os ++ w.log

theorem Slotless.refl (w : World) :
  Slotless w w
  := ⟨[], by simp, rfl⟩

theorem Slotless.trans {u w v : World} (h : Slotless u w) (h' : Slotless w v) :
  Slotless u v
  := by
  obtain ⟨os, hos, hlog⟩ := h
  obtain ⟨os', hos', hlog'⟩ := h'
  refine ⟨os' ++ os, ?_, ?_⟩
  · intro o ho
    rcases List.mem_append.mp ho with ho | ho
    · apply hos' o ho
    · apply hos o ho
  · rw [hlog', hlog, List.append_assoc]

theorem Slotless.emit {w v : World} (h : Slotless w v) {o : Obs} (ho : o.ofSlot = false) :
  Slotless w (v.emit o)
  := by
  obtain ⟨os, hos, hlog⟩ := h
  refine ⟨o :: os, ?_, congrArg (o :: ·) hlog⟩
  intro o' ho'
  rcases List.mem_cons.mp ho' with rfl | ho'
  · apply ho
  · apply hos o' ho'

theorem Slotless.path {r : World → World → Prop} (hr : ∀ ⦃w v : World⦄, r w v → Slotless w v)
    {w v : World} (h : ReflTransGen r w v) :
  Slotless w v
  := by
  induction h with
  | refl => apply Slotless.refl
  | tail _ hstep ih => apply ih.trans (hr hstep)

/-- What opens no slot sends no frame. -/
theorem Slotless.unsent {w v : World} (h : Slotless w v) :
  Unsent w v
  := by
  obtain ⟨os, hos, hlog⟩ := h
  refine ⟨os, ?_, hlog⟩
  intro o ho
  have hslot := hos o ho
  cases o <;> first | rfl | contradiction

theorem slotless_servicePath {w v : World} (h : ServicePath w v) :
  Slotless w v
  := by
  obtain ⟨os, hos, hlog⟩ := log_of_servicePath h
  refine ⟨os, ?_, hlog⟩
  intro o ho
  have hservice := hos o ho
  cases o <;> first | rfl | contradiction

theorem slotless_control {w v : World} (h : ControlStep w v) :
  Slotless w v
  := by
  cases h with
  | service h => apply slotless_servicePath (.single h)
  | fail => exact (Slotless.refl w).emit rfl

/-- Handing on on-request data is observed. -/
theorem slotless_routeOd (w : World) (od : List UInt8) :
  Slotless w (routeOd w od)
  := by
  obtain ⟨os, hos, hlog⟩ := log_of_routeOd w od
  refine ⟨os, ?_, hlog⟩
  intro o ho
  have hroute := hos o ho
  cases o <;> first | rfl | contradiction

theorem slotless_judge {data : List UInt8} {w v : World} (h : JudgeStep K data w v) :
  Slotless w v
  := by
  cases h with
  | rejectLost => exact (((Slotless.refl w).emit rfl).emit rfl).emit rfl
  | acceptTest | acceptAck => exact ((Slotless.refl w).emit rfl).emit rfl
  | accept hstate hack hwidth hcks hhandler hpd =>
      have haccepted : Slotless w (accepted w data) := (Slotless.refl w).emit rfl
      apply (haccepted.trans (slotless_servicePath hhandler)).trans
      apply slotless_routeOd
  | unframed | rejectTest | rejectRetry => exact (Slotless.refl w).emit rfl

theorem slotless_receive {w v : World} (h : ReceiveStep K judged w v) :
  Slotless w v
  := by
  cases h with
  | control h => apply slotless_control h
  | clearRx => apply Slotless.refl
  | recv byte => exact (Slotless.refl w).emit rfl
  | judge data hjudged h => apply slotless_judge h

theorem slotless_timeout {w v : World} (h : TimeoutStep due w v) :
  Slotless w v
  := by
  cases h with
  | control h => apply slotless_control h
  | clearRx | restep => apply Slotless.refl
  | broken => exact ((Slotless.refl w).emit rfl).emit rfl
  | lost => exact (((Slotless.refl w).emit rfl).emit rfl).emit rfl
  | _ => exact (Slotless.refl w).emit rfl

theorem unsent_servicePath {w v : World} (h : ServicePath w v) :
  Unsent w v
  := (slotless_servicePath h).unsent

theorem unsent_service {w v : World} (h : ServiceStep w v) :
  Unsent w v
  := unsent_servicePath (.single h)

theorem unsent_control {w v : World} (h : ControlStep w v) :
  Unsent w v
  := (slotless_control h).unsent

/-- Handing on on-request data is observed. -/
theorem unsent_routeOd (w : World) (od : List UInt8) :
  Unsent w (routeOd w od)
  := (slotless_routeOd w od).unsent

theorem unsent_receive {w v : World} (h : ReceiveStep K judged w v) :
  Unsent w v
  := (slotless_receive h).unsent

theorem unsent_timeout {w v : World} (h : TimeoutStep due w v) :
  Unsent w v
  := (slotless_timeout h).unsent

theorem Unsent.extends {w v : World} (h : Unsent w v) :
  w.log <:+ v.log
  := by
  obtain ⟨os, -, hlog⟩ := h
  exact ⟨os, hlog.symm⟩

/-- What holds of everything but frames still holds if no frame was sent. -/
theorem Unsent.always {w v : World} (h : Unsent w v) {P : List Obs → Obs → Prop}
    (hP : ∀ o l, o.isSent = false → P l o) (hw : Trace.Always P w.log) :
  Trace.Always P v.log
  := by
  obtain ⟨os, hos, hlog⟩ := h
  rw [hlog]
  apply Trace.always_append hP hos hw

theorem extends_service :
  Trace.Extends World.log ServiceStep
  := fun _ _ h => (unsent_service h).extends

theorem extends_control :
  Trace.Extends World.log ControlStep
  := fun _ _ h => (unsent_control h).extends

/-- Handing on on-request data is observed. -/
theorem routeOd_extends (w : World) (od : List UInt8) :
  w.log <:+ (routeOd w od).log
  := (unsent_routeOd w od).extends

theorem extends_receive :
  Trace.Extends World.log (ReceiveStep K judged)
  := fun _ _ h => (unsent_receive h).extends

theorem extends_slot :
  Trace.Extends World.log (SlotStep K ready)
  := by
  intro w v h
  cases h with
  | control h => apply extends_control h
  | sendFailed sent => exact ⟨_, rfl⟩
  | slot | startupFailed => exact ⟨[_, _], rfl⟩
  | restep | count => exact ⟨[], rfl⟩
  | _ => exact ⟨[_], rfl⟩

theorem extends_timeout :
  Trace.Extends World.log (TimeoutStep due)
  := fun _ _ h => (unsent_timeout h).extends

/-! ### Invariants -/

/-- Every step keeps the invariant `I` as long as the observations satisfy `C`. -/
structure Kept (K : Iolinki) (judged : World → List UInt8 → Prop) (ready : World → Prop)
    (due : World → Bool → Bool → Prop) (C : List Obs → Prop) (I : World → Prop) : Prop where
  closed : Trace.Closed C
  control : ∀ ⦃w v : World⦄, ControlStep w v → I w → C v.log → I v
  receive : ∀ ⦃w v : World⦄, ReceiveStep K judged w v → I w → C v.log → I v
  slot : ∀ ⦃w v : World⦄, SlotStep K ready w v → I w → C v.log → I v
  timeout : ∀ ⦃w v : World⦄, TimeoutStep due w v → I w → C v.log → I v

section

variable {C : List Obs → Prop} {I : World → Prop} (h : Kept K judged ready due C I)
  {w v : World}
include h

theorem Kept.controlPath (hpath : ControlPath w v) (hw : I w) (hv : C v.log) :
  I v
  := Trace.invariant_of_path extends_control h.closed h.control hpath hw hv

theorem Kept.receivePath (hpath : ReceivePath K judged w v) (hw : I w) (hv : C v.log) :
  I v
  := Trace.invariant_of_path extends_receive h.closed h.receive hpath hw hv

theorem Kept.slotPath (hpath : SlotPath K ready w v) (hw : I w) (hv : C v.log) :
  I v
  := Trace.invariant_of_path extends_slot h.closed h.slot hpath hw hv

theorem Kept.timeoutPath (hpath : TimeoutPath due w v) (hw : I w) (hv : C v.log) :
  I v
  := Trace.invariant_of_path extends_timeout h.closed h.timeout hpath hw hv

/-- A tick keeps an invariant. -/
theorem Kept.tickCommon (hK : K.Lawful) (env : Env) (event : TickEvent) (pace : Bool)
    (now : UInt32) (hjudged : ∀ u data, Polled w.port u data → judged u data)
    (hready : ∀ u : World, u.port.awaitingResponse = false → ready u)
    (hdue : ∀ v : World, v.port.awaitingResponse = (pollRx K env w).1.port.awaitingResponse →
      v.port.responseDeadline100us = (pollRx K env w).1.port.responseDeadline100us →
      due v (!pace || decide (now ≥ (pollRx K env w).1.port.responseDeadline100us)) false)
    (hw : I w) (hv : C (tickCommon K env w event pace now).1.log) :
  I (tickCommon K env w event pace now).1
  := by
  have hpoll := (pollRx_path hK env w).mono hjudged
  rcases tickCommon_cases K env w event pace now with heq | ⟨-, -, heq⟩ | ⟨-, hawaiting, heq⟩
  · rw [heq] at hv ⊢
    apply h.receivePath hpoll hw hv
  · rw [heq] at hv ⊢
    have hpath := tickTimeout_path env (pollRx K env w).1 now pace hdue
    have hmid := h.receivePath hpoll hw (h.closed (extends_timeout.path hpath) hv)
    apply h.timeoutPath hpath hmid hv
  · rw [heq] at hv ⊢
    have hpath : SlotPath K ready _ _ :=
      processSlot_path hK env (w := (pollRx K env w).1) now pace (hready _ hawaiting)
    have hmid := h.receivePath hpoll hw (h.closed (extends_slot.path hpath) hv)
    apply h.slotPath hpath hmid hv

end

/-- Every step keeps the observations made before. -/
theorem kept_suffix (l : List Obs) :
  Kept K judged ready due (fun _ => True) (fun w => l <:+ w.log)
  := by
  constructor
  · intro _ _ _ _
    trivial
  · intro w v hstep hw _
    apply hw.trans (extends_control hstep)
  · intro w v hstep hw _
    apply hw.trans (extends_receive hstep)
  · intro w v hstep hw _
    apply hw.trans (extends_slot hstep)
  · intro w v hstep hw _
    apply hw.trans (extends_timeout hstep)

/-- A tick only adds observations. -/
theorem tickCommon_extends (hK : K.Lawful) (env : Env) (w : World) (event : TickEvent)
    (pace : Bool) (now : UInt32) :
  w.log <:+ (tickCommon K env w event pace now).1.log
  := by
  have hkept : Kept K (fun _ _ => True) (fun _ => True) (fun _ _ _ => True) (fun _ => True)
      (fun v => w.log <:+ v.log) := kept_suffix w.log
  apply hkept.tickCommon hK
  · intro _ _ _
    trivial
  · intro _ _
    trivial
  · intro _ _ _
    trivial
  · apply List.suffix_refl
  · trivial

/-- What is observed in the poll of a tick stays observed. -/
theorem tickCommon_polled (hK : K.Lawful) (env : Env) (w : World) (event : TickEvent)
    (pace : Bool) (now : UInt32) :
  (pollRx K env w).1.log <:+ (tickCommon K env w event pace now).1.log
  := by
  rcases tickCommon_cases K env w event pace now with heq | ⟨-, -, heq⟩ | ⟨-, -, heq⟩
  · rw [heq]
  · rw [heq]
    have hpath : TimeoutPath (fun _ _ _ => True) (pollRx K env w).1 _ :=
      tickTimeout_path env (pollRx K env w).1 now pace (fun _ _ _ => trivial)
    apply extends_timeout.path hpath
  · rw [heq]
    have hpath : SlotPath K (fun _ => True) (pollRx K env w).1 _ :=
      processSlot_path hK env now pace trivial
    exact extends_slot.path hpath

/-- A tick keeps an invariant that no reply and no timeout can break. -/
theorem Kept.freeTick {C : List Obs → Prop} {I : World → Prop}
    (h : Kept K (fun _ _ => True) ready (fun _ _ _ => True) C I) (hK : K.Lawful) (env : Env)
    (w : World) (event : TickEvent) (pace : Bool) (now : UInt32)
    (hready : ∀ u : World, u.port.awaitingResponse = false → ready u)
    (hw : C w.log → I w) (hv : C (IolinkMaster.tickCommon K env w event pace now).1.log) :
  I (IolinkMaster.tickCommon K env w event pace now).1
  := by
  apply h.tickCommon hK env event pace now
  · intro _ _ _
    trivial
  · apply hready
  · intro _ _ _
    trivial
  · apply hw (h.closed (tickCommon_extends hK env w event pace now) hv)
  · apply hv

/-! ### Runs of ticks and services -/

/-- The calls of an application that drives a port by ticks. -/
def ticksAndServices (_ : Env) (_ : World) : Call → Prop
  | .tickAt _ _ | .tickEvent _ | .controllerTickAt _ | .service _ => True
  | _ => False

instance (env : Env) (w : World) : DecidablePred (ticksAndServices env w) := by
  intro c
  unfold ticksAndServices
  split <;> infer_instance

/-- A port opens slots only while no reply is outstanding. -/
def NotAwaiting (w : World) : Prop := w.port.awaitingResponse = false

/-- The world in which an initialization leaves a port before it touches the PHY. -/
def initialWorld (phy : PhyApi) (config : Config) : World :=
  ⟨zeroPort phy config, [.enter (zeroPort phy config).state]⟩

/-- What an initialization does to the PHY is a sequence of control steps. -/
theorem initPhy_path (env : Env) {w : World} (hrx : w.port.rx = []) :
  ControlPath w (initPhy env w).1
  := by
  have hstep : ∀ (r : World × Int) (rest : World → World × Int), ControlPath w r.1 →
      (ControlPath w r.1 → ControlPath w (rest r.1).1) → ControlPath w (initStep r rest).1 := by
    intro r rest hr hrest
    simp only [initStep]
    split
    · apply hr.tail
      apply ControlStep.fail
    · apply hrest hr
  have hmode : ∀ (v : World) mode, ControlPath w v → ControlPath w (setMode env v mode).1 := by
    intro v mode hv
    apply hv.tail
    apply ControlStep.service (.note rfl)
  simp only [initPhy]
  split
  · apply hstep _ _ (hmode _ _ .refl)
    intro h
    apply h
  · apply hstep _ _ (hmode _ _ .refl)
    intro h
    apply h
  · apply hstep _ _ (hmode _ _ .refl)
    intro h
    apply h
  · apply hstep
    · rw [flushRx_fst]
      have hport := flushNoted_port w
      apply (flushNoted_path w).trans
      generalize flushNoted w = v at hport
      obtain ⟨p, l⟩ := v
      obtain rfl : p = w.port := hport
      have hsimilar : Similar w.port { w.port with rx := [] } :=
        ⟨id, rfl, rfl, rfl, rfl, rfl, rfl, rfl, rfl, rfl, hrx.symm, rfl, rfl, rfl, rfl,
          rfl, rfl, ⟨rfl, rfl, rfl⟩⟩
      exact (ServicePath.tune (w := ⟨w.port, l⟩) hsimilar).control
    · intro hflush
      apply hstep
      · apply hflush.tail
        apply ControlStep.service (.note rfl)
      · intro hrate
        apply hstep _ _ (hmode _ _ hrate)
        intro h
        apply h

/-- An initialized port starts up, or stays silent in its inactive mode. -/
theorem zeroPort_state (phy : PhyApi) (config : Config) :
  (zeroPort phy config).state = .startup ∨ (zeroPort phy config).state = .inactive
  := by
  simp only [zeroPort]
  split
  · left
    rfl
  · right
    rfl

/-- The initialization of a port, after its state has been set up, is a sequence of control
steps. -/
theorem initPort_path (env : Env) (w : World) (phy : PhyApi) (config : Config)
    (h : configRefused config = false) :
  ControlPath ⟨zeroPort phy config, .enter (zeroPort phy config).state :: w.log⟩
    (initPort env w phy config).1
  := by
  simp only [initPort, h, Bool.false_eq_true, if_false]
  split
  · apply ControlPath.fail
  · apply initPhy_path env
    rfl

theorem started_path (env : Env) (phy : PhyApi) (config : Config)
    (h : configRefused config = false) :
  ControlPath (initialWorld phy config) (started env phy config)
  := initPort_path env (powerOn phy config) phy config h

/-- The configuration of a reachable port is one `iolink_master_init` accepts. -/
theorem Reach.accepted {phy : PhyApi} {config : Config}
    {allowed : Env → World → Call → Prop} {w : World} (hw : Reach K allowed phy config w) :
  configRefused config = false
  := by
  induction hw with
  | start env h => apply h
  | call env c hw hc ih => apply ih

/-- Whatever is invariant under all steps, and holds initially, holds of an initialized port. -/
theorem Kept.started {C : List Obs → Prop} {I : World → Prop} {phy : PhyApi} {config : Config}
    (h : Kept K judged ready due C I)
    (hinit : C (initialWorld phy config).log → I (initialWorld phy config))
    (env : Env) (hconfig : configRefused config = false)
    (hC : C (IolinkMaster.started env phy config).log) :
  I (IolinkMaster.started env phy config)
  := by
  have hpath := started_path env phy config hconfig
  apply h.controlPath hpath _ hC
  apply hinit (h.closed (extends_control.path hpath) hC)

/-- Whatever is invariant under ticks and services, and holds initially, holds after every
run of ticks and services whose observations satisfy the condition. -/
theorem Kept.reach {C : List Obs → Prop} {I : World → Prop} {phy : PhyApi} {config : Config}
    (h : Kept K (fun _ _ => True) NotAwaiting (fun _ _ _ => True) C I) (hK : K.Lawful)
    (hinit : configRefused config = false → C (initialWorld phy config).log →
      I (initialWorld phy config))
    (htick : ∀ (w : World) (now : UInt32), I w → I (w.emit (.tick now)))
    {w : World} (hw : Reach K ticksAndServices phy config w) (hC : C w.log) :
  I w
  := by
  induction hw with
  | start env hconfig => apply h.started (hinit hconfig) env hconfig hC
  | @call w env c _ hc ih =>
      have hcommon : ∀ event pace now, ∀ u : World, (C u.log → I u) →
          C (IolinkMaster.tickCommon K env u event pace now).1.log →
          I (IolinkMaster.tickCommon K env u event pace now).1 := by
        intro event pace now u hu hv
        apply h.freeTick hK env u event pace now _ hu hv
        intro _ hawaiting
        apply hawaiting
      have htimed : ∀ now, C (w.emit (.tick now)).log → I (w.emit (.tick now)) := by
        intro now hnow
        apply htick w now (ih (h.closed (List.suffix_cons _ _) hnow))
      cases c with
      | tickAt event now => apply hcommon event true now _ (htimed now) hC
      | tickEvent event => apply hcommon event false 0 w ih hC
      | controllerTickAt now => apply hcommon _ true now _ (htimed now) hC
      | service call =>
          have hpath := (runService_path w call).control
          apply h.controlPath hpath (ih (h.closed (extends_control.path hpath) hC)) hC
      | _ => contradiction

/-! ### Runs of all calls -/

/-- The world in which a renewed initialization leaves a port before it touches the PHY. -/
def renewed (w : World) (mode : PortMode) : World :=
  let p := zeroPort w.port.phy { w.port.config with portMode := mode }
  ⟨p, .enter p.state :: w.log⟩

/-- An initialization is refused, or it renews the port and brings up the PHY. -/
theorem setPortMode_path (env : Env) (w : World) (mode : PortMode) :
  (setPortMode env w mode).1 = w ∨ ControlPath (renewed w mode) (setPortMode env w mode).1
  := by
  simp only [setPortMode]
  cases hrefused : configRefused { w.port.config with portMode := mode } with
  | true =>
      left
      simp only [initPort, hrefused, if_true]
  | false =>
      right
      apply initPort_path env w w.port.phy _ hrefused

/-- Whatever is invariant under all steps is kept by every call whose observations satisfy the
condition. -/
theorem Kept.runCall {C : List Obs → Prop} {I : World → Prop}
    (h : Kept K (fun _ _ => True) (fun _ => True) (fun _ _ _ => True) C I) (hK : K.Lawful)
    (htick : ∀ (w : World) (now : UInt32), I w → I (w.emit (.tick now)))
    (hrenew : ∀ (w : World) (mode : PortMode), I w → I (renewed w mode))
    (env : Env) {w : World} (c : Call) (hw : C w.log → I w)
    (hC : C (IolinkMaster.runCall K env w c).log) :
  I (IolinkMaster.runCall K env w c)
  := by
  have hcommon : ∀ event pace now, ∀ u : World, (C u.log → I u) →
      C (IolinkMaster.tickCommon K env u event pace now).1.log →
      I (IolinkMaster.tickCommon K env u event pace now).1 := by
    intro event pace now u hu hv
    apply h.freeTick hK env u event pace now _ hu hv
    intro _ _
    trivial
  have htimed : ∀ now, C (w.emit (.tick now)).log → I (w.emit (.tick now)) := by
    intro now hnow
    apply htick w now (hw (h.closed (List.suffix_cons _ _) hnow))
  have hagain : ∀ mode, C (IolinkMaster.setPortMode env w mode).1.log →
      I (IolinkMaster.setPortMode env w mode).1 := by
    intro mode hmode
    rcases setPortMode_path env w mode with heq | hpath
    · rw [heq] at hmode ⊢
      apply hw hmode
    · apply h.controlPath hpath _ hmode
      apply hrenew w mode
      apply hw
      apply h.closed ((List.suffix_cons _ _).trans (extends_control.path hpath)) hmode
  cases c with
  | tickAt event now => apply hcommon event true now _ (htimed now) hC
  | tickEvent event => apply hcommon event false 0 w hw hC
  | controllerTickAt now => apply hcommon _ true now _ (htimed now) hC
  | process =>
      have hpath : SlotPath K (fun _ => True) w (processAt K env w 0 false) :=
        processAt_path hK env 0 false trivial
      apply h.slotPath hpath (hw (h.closed (extends_slot.path hpath) hC)) hC
  | pollRx =>
      have hpath : ReceivePath K (fun _ _ => True) w (pollRx K env w).1 :=
        (pollRx_path hK env w).mono (fun _ _ _ => trivial)
      apply h.receivePath hpath (hw (h.closed (extends_receive.path hpath) hC)) hC
  | onRx data handler =>
      have hpath : ReceivePath K (fun _ _ => True) w _ := onRx_path hK env w data handler trivial
      apply h.receivePath hpath (hw (h.closed (extends_receive.path hpath) hC)) hC
  | onTimeout =>
      have hpath : TimeoutPath (fun _ _ _ => True) w (onTimeoutAt env w 0 false).1 :=
        onTimeoutAt_path env w w.port.awaitingResponse 0 false (.inr rfl)
          (fun _ _ _ _ => trivial)
      apply h.timeoutPath hpath (hw (h.closed (extends_timeout.path hpath) hC)) hC
  | service call =>
      have hpath := (runService_path w call).control
      apply h.controlPath hpath (hw (h.closed (extends_control.path hpath) hC)) hC
  | restart => apply hagain w.port.config.portMode hC
  | setPortMode mode => apply hagain mode hC

/-- A call only adds observations. -/
theorem runCall_extends (hK : K.Lawful) (env : Env) (w : World) (c : Call) :
  w.log <:+ (runCall K env w c).log
  := by
  have hkept : Kept K (fun _ _ => True) (fun _ => True) (fun _ _ _ => True) (fun _ => True)
      (fun v => w.log <:+ v.log) := kept_suffix w.log
  apply hkept.runCall hK _ _ env c (fun _ => List.suffix_refl _) trivial
  · intro v now hv
    apply hv.trans (List.suffix_cons _ _)
  · intro v mode hv
    apply hv.trans (List.suffix_cons _ _)

/-- A run only adds observations. -/
theorem run_extends (hK : K.Lawful) (w : World) (calls : List (Env × Call)) :
  w.log <:+ (run K w calls).log
  := by
  induction calls generalizing w with
  | nil =>
      rw [run_nil]
  | cons c calls ih =>
      rw [run_cons]
      apply (runCall_extends hK c.1 w c.2).trans (ih _)

/-- Whatever is invariant under all calls, and holds initially, holds after every run whose
observations satisfy the condition. -/
theorem Kept.reachCalls {C : List Obs → Prop} {I : World → Prop} {phy : PhyApi}
    {config : Config}
    (h : Kept K (fun _ _ => True) (fun _ => True) (fun _ _ _ => True) C I) (hK : K.Lawful)
    (hinit : configRefused config = false → C (initialWorld phy config).log →
      I (initialWorld phy config))
    (htick : ∀ (w : World) (now : UInt32), I w → I (w.emit (.tick now)))
    (hrenew : ∀ (w : World) (mode : PortMode), I w → I (renewed w mode))
    {allowed : Env → World → Call → Prop} {w : World} (hw : Reach K allowed phy config w)
    (hC : C w.log) :
  I w
  := by
  induction hw with
  | start env hconfig => apply h.started (hinit hconfig) env hconfig hC
  | call env c _ _ ih => apply h.runCall hK htick hrenew env c ih hC

/-! ### Explicit runs -/

/-- Every call of a run from `w` is allowed in the world in which it is made. -/
def AllowedRun (K : Iolinki) (allowed : Env → World → Call → Prop) (w : World) :
    List (Env × Call) → Prop
  | [] => True
  | c :: calls => allowed c.1 w c.2 ∧ AllowedRun K allowed (runCall K c.1 w c.2) calls

instance AllowedRun.decidable (K : Iolinki) (allowed : Env → World → Call → Prop)
    [∀ env w c, Decidable (allowed env w c)] (w : World) :
    DecidablePred (AllowedRun K allowed w)
  | [] => isTrue trivial
  | c :: calls =>
    have := AllowedRun.decidable K allowed (runCall K c.1 w c.2) calls
    inferInstanceAs (Decidable (allowed c.1 w c.2 ∧ _))

/-- Allowed calls made one after the other reach their final world. -/
theorem Reach.run {allowed : Env → World → Call → Prop} {phy : PhyApi} {config : Config}
    {w : World} (hw : Reach K allowed phy config w) (calls : List (Env × Call))
    (h : AllowedRun K allowed w calls) :
  Reach K allowed phy config (run K w calls)
  := by
  induction calls generalizing w with
  | nil =>
      rw [run_nil]
      apply hw
  | cons c calls ih =>
      rw [run_cons]
      apply ih
      · apply Reach.call c.1 c.2 hw h.1
      · apply h.2

/-- A reply of the octets `body` with the flags `flags`, as the reference codec closes it. -/
def reply (flags : UInt8) (body : List UInt8) : List UInt8 :=
  body ++ [Iolinki.reference.cks flags body]

/-- Timed ticks that bring a port of type 2.1 into PREOPERATE. -/
def connecting : List (Env × Call) :=
  [(.quiet [], .tickAt .cycleDue 0), (.quiet [], .tickAt .cycleDue 10),
    (.quiet (reply 0 [0x0A]), .tickAt .cycleDue 12)]

end IolinkMaster
