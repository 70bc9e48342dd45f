import IolinkMaster.Runs

/-!
# Ports at rest

A port in ERROR or INACTIVE stays there, and puts nothing on the wire, until the
application initializes it again, exactly as long as nobody hands it a reply of the length
it would accept with a wrong checksum when its retries are exhausted.
-/

namespace IolinkMaster

open Relation

/-- A port at rest. -/
def Resting (p : PortState) : Prop := p.state = .inactive ∨ p.state = .error

instance (p : PortState) : Decidable (Resting p) := inferInstanceAs (Decidable (_ ∨ _))

/-- An observation of a port that communicates: it enters a communication state, sends a
frame or wakes the device. -/
def Obs.communicates : Obs → Bool
  | .enter .startup | .enter .preoperate | .enter .operate => true
  | .sent _ _ | .wakeUp => true
  | _ => false

/-- The communication observed in a run. -/
def communication (log : List Obs) : List Obs := log.filter Obs.communicates

/-- The world `v` is reached from `w` at rest: no communication is observed on the way. -/
structure RestsFrom (w v : World) : Prop where
  resting : Resting v.port
  silent : communication v.log = communication w.log

/-- A call is made at rest. -/
def StaysAtRest (K : Iolinki) (env : Env) (w : World) (c : Call) : Prop :=
  RestsFrom w (runCall K env w c)

/-- A call does not hand in a reply that exhausts the retries: one of the length `on_rx`
accepts whose checksum is wrong. -/
def Unprovoked (K : Iolinki) (_ : Env) (w : World) : Call → Prop
  | .onRx data _ =>
    replyWidth w.port = some data.length → ¬ K.CksOk data →
      w.port.diagnostics.rxRetryCount < RX_RETRY_LIMIT
  | _ => True

/-- The calls that initialize a port. -/
def Call.initializes : Call → Bool
  | .restart | .setPortMode _ => true
  | _ => false

instance (w v : World) : Decidable (RestsFrom w v) :=
  decidable_of_iff (Resting v.port ∧ communication v.log = communication w.log)
    ⟨fun h => ⟨h.1, h.2⟩, fun h => ⟨h.resting, h.silent⟩⟩

instance (K : Iolinki) (env : Env) (w : World) (c : Call) : Decidable (StaysAtRest K env w c) :=
  inferInstanceAs (Decidable (RestsFrom _ _))

/-! ### Steps at rest -/

section

variable {u v w : World}

theorem RestsFrom.refl (hw : Resting w.port) :
  RestsFrom w w
  := ⟨hw, rfl⟩

theorem RestsFrom.trans (h : RestsFrom u w) (h' : RestsFrom w v) :
  RestsFrom u v
  := ⟨h'.resting, h'.silent.trans h.silent⟩

/-- An observation that is no communication. -/
theorem communication_cons {o : Obs} (ho : o.communicates = false) (log : List Obs) :
  communication (o :: log) = communication log
  := by
  rw [communication, List.filter_cons_of_neg (by simpa using ho), communication]

/-- A communication is observed for good. -/
theorem communication_grows {o : Obs} (ho : o.communicates = true) {k l m : List Obs}
    (hk : o :: l <:+ k) (hl : m <:+ l) :
  communication k ≠ communication m
  := by
  obtain ⟨os, rfl⟩ := hk
  obtain ⟨ps, rfl⟩ := hl
  intro heq
  have hlen := congrArg List.length heq
  rw [communication, List.filter_append, List.filter_cons_of_pos ho, List.filter_append,
    communication, List.length_append, List.length_cons, List.length_append] at hlen
  omega

theorem rests_service (hstep : ServiceStep w v) (hw : Resting w.port) :
  RestsFrom w v
  := by
  constructor
  · rw [Resting, (untouched_of_step hstep).state]
    apply hw
  · apply unaffected_by_service _ hstep
    intro o l ho
    apply communication_cons
    cases o <;> first | rfl | contradiction

theorem rests_control (hstep : ControlStep w v) (hw : Resting w.port) :
  RestsFrom w v
  := by
  cases hstep with
  | service hstep => apply rests_service hstep hw
  | fail => exact ⟨.inr rfl, communication_cons rfl _⟩

/-- A path whose steps keep ports at rest keeps a port at rest. -/
theorem RestsFrom.path {r : World → World → Prop}
    (hr : ∀ {w v : World}, r w v → Resting w.port → RestsFrom w v) (hpath : ReflTransGen r w v)
    (hw : Resting w.port) :
  RestsFrom w v
  := by
  induction hpath with
  | refl => exact .refl hw
  | tail _ hstep ih => exact ih.trans (hr hstep ih.resting)

/-- A port at rest communicates in no state. -/
theorem Resting.not_communicating (hw : Resting w.port) :
  w.port.state ≠ .startup ∧ w.port.state ≠ .preoperate ∧ w.port.state ≠ .operate
  := by
  rcases hw with hw | hw
  · simp [hw]
  · simp [hw]

/-- Handing on on-request data at rest. -/
theorem rests_routeOd (od : List UInt8) (hw : Resting w.port) :
  RestsFrom w (routeOd w od)
  := by
  obtain ⟨s, e, hport, -⟩ := routeOd_service w od
  constructor
  · rw [hport]
    apply hw
  · apply unaffected_by_routeOd
    intro o l ho
    apply communication_cons
    cases o <;> first | rfl | contradiction

variable {K : Iolinki} {data : List UInt8}

/-- The judgement of a reply keeps a port at rest if and only if the reply does not exhaust
the retries. -/
theorem rests_judge (hstep : JudgeStep K data w v) (hw : Resting w.port) :
  RestsFrom w v ∧ (replyWidth w.port = some data.length → ¬ K.CksOk data →
      w.port.diagnostics.rxRetryCount < RX_RETRY_LIMIT) ∨
    Obs.enter .startup :: comlostObs w.port :: .reject w.port.state data :: w.log = v.log ∧
      ¬ (replyWidth w.port = some data.length → ¬ K.CksOk data →
        w.port.diagnostics.rxRetryCount < RX_RETRY_LIMIT)
  := by
  have hne := hw.not_communicating
  cases hstep with
  | unframed hwidth =>
      left
      exact ⟨⟨hw, communication_cons rfl _⟩, fun h => absurd h hwidth⟩
  | rejectTest hstate => exact absurd hstate hne.1
  | rejectRetry hstate hcks hcount =>
      left
      exact ⟨⟨hw, communication_cons rfl _⟩, fun _ _ => hcount⟩
  | rejectLost hstate hcks hcount hwidth =>
      right
      refine ⟨rfl, ?_⟩
      intro h
      apply hcount (h hwidth hcks)
  | acceptTest hstate => exact absurd hstate hne.1
  | acceptAck hack => exact absurd hack.1 hne.2.1
  | @accept u pdIn pdInLen pdValid hstate hack hwidth hcks hhandler hpd =>
      left
      refine ⟨?_, fun _ h => absurd hcks h⟩
      have haccepted : RestsFrom w (accepted w data) := ⟨hw, communication_cons rfl _⟩
      have hu := haccepted.trans (.path rests_service hhandler haccepted.resting)
      have hrouted := hu.trans (rests_routeOd (data.take (odWidth w.port)) hu.resting)
      exact ⟨hrouted.resting, hrouted.silent⟩

/-- A reply handed to a port at rest. -/
theorem rests_onRx (hK : K.Lawful) (env : Env) (handler : List Service)
    (hw : Resting w.port) :
  RestsFrom w (onRx K env w data handler).1 ↔
    (replyWidth w.port = some data.length → ¬ K.CksOk data →
      w.port.diagnostics.rxRetryCount < RX_RETRY_LIMIT)
  := by
  by_cases hdata : data = []
  · have hempty : replyWidth w.port ≠ some data.length := by
      rw [hdata]
      rcases hw with hw | hw
      · simp [replyWidth, hw]
      · simp [replyWidth, hw]
    simp only [onRx, hdata, if_true]
    rw [hdata] at hempty
    exact ⟨fun _ h => absurd h hempty, fun _ => .refl hw⟩
  · obtain ⟨u, hstep, hpath⟩ := onRx_judged hK env w handler hdata
    rcases rests_judge hstep hw with ⟨hu, hcond⟩ | ⟨hlog, hcond⟩
    · exact ⟨fun _ => hcond, fun _ => hu.trans (RestsFrom.path rests_control hpath hu.resting)⟩
    · -- Communication is given up, and the port enters STARTUP.
      refine ⟨fun h => ?_, fun h => absurd h hcond⟩
      have hextends := extends_control.path hpath
      rw [← hlog] at hextends
      refine absurd h.silent (communication_grows rfl hextends ?_)
      exact ⟨[_, _], rfl⟩

/-- No slot opens at rest. -/
theorem rests_slot {ready : World → Prop} (hstep : SlotStep K ready w v)
    (hw : Resting w.port) :
  RestsFrom w v
  := by
  have hne := hw.not_communicating
  have hacyclic : acyclicAvailable w.port.state ≠ true := by
    simp [acyclicAvailable, hne.2.1, hne.2.2]
  cases hstep with
  | control hstep => apply rests_control hstep hw
  | slot hready hstate => contradiction
  | send hstate => contradiction
  | sendFailed sent e hstate => contradiction
  | restep step hstate | test deadline awaiting hstate | startupFailed frame hstate =>
      exact absurd hstate hne.1
  | callWakeUp hstate | wake hstate => exact absurd hstate hne.1
  | count hstate | arm deadline hstate => exact absurd hstate hne.2.2

/-- A response timeout at rest counts nothing and starts nothing. -/
theorem rests_timeout {due : World → Bool → Bool → Prop} (hstep : TimeoutStep due w v)
    (hw : Resting w.port) :
  RestsFrom w v
  := by
  have hne := hw.not_communicating
  cases hstep with
  | control hstep => apply rests_control hstep hw
  | clearRx => exact ⟨hw, rfl⟩
  | ignored => exact ⟨hw, communication_cons rfl _⟩
  | broken =>
      refine ⟨.inr rfl, ?_⟩
      rw [communication_cons rfl, communication_cons rfl]
  | count d awaiting hdue hstate => exact absurd hstate hne.2.2
  | lost d hdue hstate => exact absurd hstate hne.2.2
  | restep step hstate => exact absurd hstate hne.1

/-- A port at rest polls nothing. -/
theorem pollRx_rest (env : Env) (hw : Resting w.port) :
  (pollRx K env w).1 = w
  := by
  have hexpected : expectedLen w.port = none := by
    rcases hw with hw | hw
    · simp [expectedLen, hw]
    · simp [expectedLen, hw]
  simp only [pollRx, hexpected]
  split
  · rfl
  · rfl

/-- A tick of a port at rest. -/
theorem rests_tickCommon (hK : K.Lawful) (env : Env) (event : TickEvent) (pace : Bool)
    (now : UInt32) (hw : Resting w.port) :
  RestsFrom w (tickCommon K env w event pace now).1
  := by
  have hcases := tickCommon_cases K env w event pace now
  rw [pollRx_rest env hw] at hcases
  rcases hcases with heq | ⟨-, -, heq⟩ | ⟨-, -, heq⟩
  · rw [heq]
    exact .refl hw
  · rw [heq]
    have hpath : TimeoutPath (fun _ _ _ => True) w _ :=
      tickTimeout_path env w now pace (fun _ _ _ => trivial)
    exact .path rests_timeout hpath hw
  · rw [heq]
    have hpath : SlotPath K (fun _ => True) w _ := processSlot_path hK env now pace trivial
    exact .path rests_slot hpath hw

/-- A timed tick of a port at rest. -/
theorem rests_tickAt (hK : K.Lawful) (env : Env) (event : TickEvent) (now : UInt32)
    (hw : Resting w.port) :
  RestsFrom w (tickAt K env w event now).1
  := by
  have htick : RestsFrom w (w.emit (.tick now)) := ⟨hw, communication_cons rfl _⟩
  exact htick.trans (rests_tickCommon hK env event true now htick.resting)

/-- A call that does not initialize a port keeps it at rest if and only if it does not hand
in a reply that exhausts the retries. -/
theorem staysAtRest_iff (hK : K.Lawful) (env : Env) (c : Call) (hw : Resting w.port)
    (hc : c.initializes = false) :
  StaysAtRest K env w c ↔ Unprovoked K env w c
  := by
  have hfree : ∀ {v : World}, RestsFrom w v → (RestsFrom w v ↔ True) := by
    intro v h
    exact ⟨fun _ => trivial, fun _ => h⟩
  cases c with
  | tickAt event now => exact hfree (rests_tickAt hK env event now hw)
  | tickEvent event => exact hfree (rests_tickCommon hK env event false 0 hw)
  | controllerTickAt now => exact hfree (rests_tickAt hK env _ now hw)
  | process =>
      have hpath : SlotPath K (fun _ => True) w (processAt K env w 0 false) :=
        processAt_path hK env 0 false trivial
      exact hfree (.path rests_slot hpath hw)
  | pollRx =>
      rw [StaysAtRest, runCall, pollRx_rest env hw]
      exact hfree (.refl hw)
  | onRx data handler => exact rests_onRx hK env handler hw
  | onTimeout =>
      have hpath : TimeoutPath (fun _ _ _ => True) w (onTimeoutAt env w 0 false).1 :=
        onTimeoutAt_path env w w.port.awaitingResponse 0 false (.inr rfl)
          (fun _ _ _ _ => trivial)
      exact hfree (.path rests_timeout hpath hw)
  | service call => exact hfree (.path rests_control (runService_path w call).control hw)
  | restart | setPortMode => contradiction

end

/-! ### Runs at rest -/

/-- A port in ERROR or INACTIVE stays there, sends nothing and wakes nobody, in every run of
calls that do not initialize it, if and only if no call hands it a reply of the accepted
length with a wrong checksum when its retries are exhausted. -/
theorem left_only_by_application {K : Iolinki} (hK : K.Lawful) {w : World}
    (hw : Resting w.port) (calls : List (Env × Call))
    (hcalls : ∀ c ∈ calls, c.2.initializes = false) :
  AllowedRun K (StaysAtRest K) w calls ↔ AllowedRun K (Unprovoked K) w calls
  := by
  induction calls generalizing w with
  | nil => apply Iff.rfl
  | cons c calls ih =>
      have hc := staysAtRest_iff hK c.1 c.2 hw (hcalls c List.mem_cons_self)
      have hrest := fun d hd => hcalls d (List.mem_cons_of_mem c hd)
      constructor
      · rintro ⟨hstays, h⟩
        exact ⟨hc.mp hstays, (ih hstays.resting hrest).mp h⟩
      · rintro ⟨hfree, h⟩
        have hstays := hc.mpr hfree
        exact ⟨hstays, (ih hstays.resting hrest).mpr h⟩

/-- A digital input of type 2.1 after its initialization. -/
def digitalInput : World :=
  started (.quiet []) .full { Config.bare .type2_1 1 1 with portMode := .di }

/-- Two replies with a wrong checksum, a tick and an application call. -/
def mistaken : List (Env × Call) :=
  [(.quiet [], .onRx [0, 0] []), (.quiet [], .onRx [0, 0] []),
    (.quiet [0x55], .tickAt .cycleDue 7), (.quiet [], .service .readEventCode)]

/-- Two wrong replies do not wake a digital input. -/
theorem left_only_by_application_mistaken :
  AllowedRun .reference (StaysAtRest .reference) digitalInput mistaken
  := by
  apply (left_only_by_application Iolinki.lawful_reference (by decide) mistaken (by decide)).mpr
  refine ⟨fun _ _ => ?_, fun _ _ => ?_, trivial, trivial, trivial⟩
  · decide +kernel
  · decide +kernel

/-- The third reply with a wrong checksum moves a digital input to STARTUP, and the next slot
sends the wake-up byte. -/
theorem left_only_by_application_provoked :
  (∀ c ∈ mistaken ++ [(.quiet [], .onRx [0, 0] []), (.quiet [], .process)],
      c.2.initializes = false) ∧
    Resting digitalInput.port ∧
    (run .reference digitalInput (mistaken ++ [(.quiet [], .onRx [0, 0] [])])).port.state
      = .startup ∧
    Obs.sent .startup [WAKEUP_BYTE] ∈ (run .reference digitalInput
      (mistaken ++ [(.quiet [], .onRx [0, 0] []), (.quiet [], .process)])).log ∧
    ¬ AllowedRun .reference (StaysAtRest .reference) digitalInput
      (mistaken ++ [(.quiet [], .onRx [0, 0] []), (.quiet [], .process)])
  := by
  refine ⟨by decide, by decide, ?_, ?_, ?_⟩
  · decide +kernel
  · decide +kernel
  · decide +kernel

end IolinkMaster
