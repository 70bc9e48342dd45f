import IolinkMaster.Runs

/-!
# One M-sequence at a time

When a frame goes out in a run of ticks and services, the frame before it has been
answered or has timed out, provided that no slot opens while a frame without a deadline
is unanswered.
-/

namespace IolinkMaster

/-! ### The frame in flight -/

/-- The frame of PREOPERATE or OPERATE in flight. -/
inductive Flight where
  /-- No frame is in flight. -/
  | none
  /-- The frame has no response deadline. -/
  | unarmed
  /-- The response deadline of the frame is armed. -/
  | armed (deadline : UInt32)
  deriving DecidableEq, Repr

/-- What an observation makes of the frame in flight: a reply that `on_rx` consumes or a
response timeout that is due ends the exchange. -/
def flightStep (o : Obs) (f : Flight) : Flight :=
  match o with
  | .sent .preoperate _ | .sent .operate _ => .unarmed
  | .armed deadline => if f = .none then .none else .armed deadline
  | .accept _ _ _ | .reject _ _ | .badFrame _ => .none
  | .timeout _ due => if due then .none else f
  | _ => f

/-- The frame in flight after the observations of a run. -/
def flight (log : List Obs) : Flight := log.foldr flightStep .none

@[simp]
theorem flight_nil :
  flight [] = .none
  := rfl

@[simp]
theorem flight_cons (o : Obs) (log : List Obs) :
  flight (o :: log) = flightStep o (flight log)
  := rfl

/-- A response timeout is processed before the deadline. -/
def Obs.isEarly : Obs → Bool
  | .timeout _ due => !due
  | _ => false

/-- A frame goes out only when none is in flight. -/
def OneAtATime (log : List Obs) (o : Obs) : Prop := o.isSent = true → flight log = .none

/-- No slot opens while a frame without a deadline is unanswered, and no response timeout
is reported before the deadline of the frame in flight. -/
def Unhurried (log : List Obs) (o : Obs) : Prop :=
  (o = .slot → flight log ≠ .unarmed) ∧ (o.isEarly = true → flight log = .none)

instance (log : List Obs) (o : Obs) : Decidable (OneAtATime log o) :=
  inferInstanceAs (Decidable (_ → _))

instance (log : List Obs) (o : Obs) : Decidable (Unhurried log o) :=
  inferInstanceAs (Decidable (_ ∧ _))

/-! ### The invariant -/

/-- What makes a run serial: a frame with a deadline keeps the port waiting, an open slot
and the startup sequence find no frame in flight. -/
structure Serial (w : World) : Prop where
  always : Trace.Always OneAtATime w.log
  armed : ∀ d, flight w.log = .armed d → w.port.awaitingResponse = true
  opened : slotOpen w.log = true → flight w.log = .none
  startup : w.port.state = .startup → flight w.log = .none

/-- A step that observes nothing about frames keeps a run serial. -/
theorem Serial.quiet {w v : World} (h : Serial w)
    (halways : Trace.Always OneAtATime w.log → Trace.Always OneAtATime v.log)
    (hflight : flight v.log = flight w.log) (hopen : slotOpen v.log = slotOpen w.log)
    (hstate : v.port.state = .startup → w.port.state = .startup)
    (hawaiting : v.port.awaitingResponse = w.port.awaitingResponse) :
  Serial v
  := by
  constructor
  · apply halways h.always
  · rw [hflight, hawaiting]
    apply h.armed
  · rw [hflight, hopen]
    apply h.opened
  · rw [hflight]
    intro hv
    apply h.startup (hstate hv)

/-- A step that ends the exchange keeps a run serial. -/
theorem Serial.over {w v : World} (h : Serial w)
    (halways : Trace.Always OneAtATime w.log → Trace.Always OneAtATime v.log)
    (hflight : flight v.log = .none) :
  Serial v
  := by
  constructor
  · apply halways h.always
  · rw [hflight]
    intro _ hv
    contradiction
  · intro _
    apply hflight
  · intro _
    apply hflight

/-- Observations that are no frames keep the exchanges of a run apart. -/
theorem always_of_not_sent {o : Obs} {log : List Obs} (ho : o.isSent = false)
    (h : Trace.Always OneAtATime log) :
  Trace.Always OneAtATime (o :: log)
  := by
  refine ⟨h, ?_⟩
  intro hsent
  rw [ho] at hsent
  contradiction

theorem serial_service {w v : World} (hstep : ServiceStep w v) (h : Serial w) :
  Serial v
  := by
  have hsame := untouched_of_step hstep
  apply h.quiet _ _ hsame.slotOpen _ hsame.awaiting
  · apply always_of_service _ hstep
    intro o l ho hsent
    cases o <;> contradiction
  · apply unaffected_by_service _ hstep
    intro o l ho
    cases o <;> first | rfl | contradiction
  · intro hv
    rw [← hsame.state]
    apply hv

theorem serial_control {w v : World} (hstep : ControlStep w v) (h : Serial w) :
  Serial v
  := by
  cases hstep with
  | service hstep => apply serial_service hstep h
  | fail => exact h.quiet (always_of_not_sent rfl) rfl rfl (fun hv => by contradiction) rfl

theorem serial_judge {K : Iolinki} {data : List UInt8} {w v : World}
    (hstep : JudgeStep K data w v) (h : Serial w) :
  Serial v
  := by
  cases hstep with
  | unframed | rejectTest | rejectRetry => exact h.over (always_of_not_sent rfl) rfl
  | rejectLost =>
      refine h.over ?_ rfl
      intro hw
      apply always_of_not_sent rfl (always_of_not_sent rfl (always_of_not_sent rfl hw))
  | acceptTest | acceptAck =>
      refine h.over ?_ rfl
      intro hw
      apply always_of_not_sent rfl (always_of_not_sent rfl hw)
  | @accept u pdIn pdInLen pdValid hstate hack hwidth hcks hhandler hpd =>
      have haccepted : Serial (accepted w data) := h.over (always_of_not_sent rfl) rfl
      have hu : Serial u := hhandler.keeps (fun _ _ => serial_service) haccepted
      obtain ⟨s, e, hport⟩ := routeOd_port u (data.take (odWidth w.port))
      apply hu.quiet
      · apply always_of_routeOd
        intro o l ho hsent
        cases o <;> contradiction
      · apply unaffected_by_routeOd
        intro o l ho
        cases o <;> first | rfl | contradiction
      · apply unaffected_by_routeOd
        intro o l ho
        cases o <;> first | rfl | contradiction
      · rw [World.setPd, World.put_port, hport]
        apply id
      · rw [World.setPd, World.put_port, hport]

theorem serial_receive {K : Iolinki} {judged : World → List UInt8 → Prop} {w v : World}
    (hstep : ReceiveStep K judged w v) (h : Serial w) :
  Serial v
  := by
  cases hstep with
  | control hstep => apply serial_control hstep h
  | recv byte => exact h.quiet (always_of_not_sent rfl) rfl rfl id rfl
  | clearRx => exact h.quiet id rfl rfl id rfl
  | judge data hjudged hstep => apply serial_judge hstep h

theorem serial_slot {K : Iolinki} {w v : World} (hstep : SlotStep K NotAwaiting w v)
    (h : Serial w) (hC : Trace.Always Unhurried v.log) :
  Serial v
  := by
  have hsend : ∀ st frame, flight w.log = .none →
      Trace.Always OneAtATime (.sent st frame :: w.log) := by
    intro st frame hnone
    exact ⟨h.always, fun _ => hnone⟩
  cases hstep with
  | control hstep => apply serial_control hstep h
  | slot hready hstate =>
      -- No frame with a deadline is in flight, and none without one either.
      have hnone : flight w.log = .none := by
        have hunarmed := hC.2.1 rfl
        cases hf : flight w.log with
        | none => rfl
        | unarmed => contradiction
        | armed d =>
            have hawaiting := h.armed d hf
            rw [hready] at hawaiting
            contradiction
      refine h.over ?_ hnone
      intro hw
      apply always_of_not_sent rfl (always_of_not_sent rfl hw)
  | callWakeUp => exact h.quiet (always_of_not_sent rfl) rfl rfl id rfl
  | send hstate hopen hemit =>
      have hnone := h.opened hopen
      constructor
      · apply hsend _ _ hnone
      · intro d harmed
        cases hs : w.port.state <;> simp [hs, flightStep, hnone] at harmed
      · intro hv
        contradiction
      · intro hv
        rw [show w.port.state = .startup from hv] at hstate
        contradiction
  | sendFailed sent e' hstate hopen hemit =>
      have hnone := h.opened hopen
      cases sent with
      | false => exact h.quiet (always_of_not_sent rfl) rfl rfl (fun hv => by contradiction) rfl
      | true =>
          constructor
          · apply always_of_not_sent rfl (hsend _ _ hnone)
          · intro d harmed
            cases hs : w.port.state <;> simp [hs, flightStep, hnone] at harmed
          · intro hv
            contradiction
          · intro hv
            contradiction
  | restep step hstate => exact h.quiet id rfl rfl id rfl
  | wake hstate =>
      have hnone := h.startup hstate
      refine h.over ?_ hnone
      intro _
      apply hsend _ _ hnone
  | test deadline awaiting hstate =>
      have hnone := h.startup hstate
      refine h.over ?_ hnone
      intro _
      apply hsend _ _ hnone
  | startupFailed frame hstate =>
      have hnone := h.startup hstate
      refine h.over ?_ hnone
      intro _
      apply always_of_not_sent rfl (hsend _ _ hnone)
  | count => exact h.quiet id rfl rfl id rfl
  | arm deadline hstate hsent =>
      obtain ⟨frame, l, hlog⟩ := hsent
      constructor
      · apply always_of_not_sent rfl h.always
      · intro _ _
        rfl
      · intro hv
        simp [slotOpen, hlog] at hv
      · intro hv
        have hnone := h.startup hv
        simp [hlog, flightStep] at hnone

theorem serial_timeout {w v : World} (hstep : TimeoutStep (fun _ _ _ => True) w v)
    (h : Serial w) (hC : Trace.Always Unhurried v.log) :
  Serial v
  := by
  have hover : ∀ st d, Unhurried w.log (.timeout st d) →
      flight (.timeout st d :: w.log) = .none := by
    intro st d hd
    cases d with
    | true => rfl
    | false => apply hd.2 rfl
  cases hstep with
  | control hstep => apply serial_control hstep h
  | clearRx => exact h.quiet id rfl rfl id rfl
  | ignored d => exact h.over (always_of_not_sent rfl) (hover _ d hC.2)
  | broken d =>
      refine h.over ?_ (hover _ d hC.1.2)
      intro hw
      apply always_of_not_sent rfl (always_of_not_sent rfl hw)
  | count d => exact h.over (always_of_not_sent rfl) (hover _ d hC.2)
  | lost d =>
      refine h.over ?_ (hover _ d hC.1.1.2)
      intro hw
      apply always_of_not_sent rfl (always_of_not_sent rfl (always_of_not_sent rfl hw))
  | restep => exact h.quiet id rfl rfl id rfl

/-- Runs stay serial as long as no slot is hurried. -/
theorem kept_serial {K : Iolinki} :
  Kept K (fun _ _ => True) NotAwaiting (fun _ _ _ => True) (Trace.Always Unhurried) Serial
  := by
  constructor
  · apply Trace.closed_always
  · intro w v hstep h _
    apply serial_control hstep h
  · intro w v hstep h _
    apply serial_receive hstep h
  · intro w v hstep h hC
    apply serial_slot hstep h hC
  · intro w v hstep h hC
    apply serial_timeout hstep h hC

/-- A port starts with no frame in flight. -/
theorem serial_initial (phy : PhyApi) (config : Config) :
  Serial (initialWorld phy config)
  := by
  constructor
  · exact always_of_not_sent rfl (Trace.always_nil _)
  · intro _ h
    contradiction
  · intro h
    contradiction
  · intro _
    rfl

/-! ### One M-sequence at a time -/

/-- In every run of ticks and services in which no slot is hurried, a frame goes out only
when the frame before it has been answered or has timed out. -/
theorem one_msequence_at_a_time {K : Iolinki} (hK : K.Lawful) {phy : PhyApi} {config : Config}
    {w : World} (hw : Reach K ticksAndServices phy config w)
    (hC : Trace.Always Unhurried w.log) :
  Trace.Always OneAtATime w.log
  := by
  apply (kept_serial.reach hK _ _ hw hC).always
  · intro _ _
    apply serial_initial
  · intro w now h
    exact h.quiet (always_of_not_sent rfl) rfl rfl id rfl

/-- Timed ticks that bring a port of type 2.1 into OPERATE and through a cycle, each frame
answered by the next tick. -/
def cycling : List (Env × Call) :=
  connecting ++ [(.quiet (reply 0 []), .tickAt .cycleDue 14),
    (.quiet (reply 0 [0x55]), .tickAt .cycleDue 20)]

/-- In a run in which every frame is answered before the next slot, no frame overtakes
another. -/
theorem one_msequence_at_a_time_cycling :
  Trace.Always OneAtATime
    (run .reference (started (.quiet []) .full (.bare .type2_1 1 1)) cycling).log
  := by
  apply one_msequence_at_a_time Iolinki.lawful_reference
  · apply (Reach.start _ (by decide)).run
    decide +kernel
  · decide +kernel

/-- The write of DeviceOperate has no response deadline: with no reply to it, the next tick
sends it again. -/
theorem one_msequence_at_a_time_unanswered :
  Reach .reference ticksAndServices .full (.bare .type2_1 1 1)
    (run .reference (started (.quiet []) .full (.bare .type2_1 1 1))
      (connecting ++ [(.quiet [], .tickAt .cycleDue 14)])) ∧
  ¬ Trace.Always OneAtATime
    (run .reference (started (.quiet []) .full (.bare .type2_1 1 1))
      (connecting ++ [(.quiet [], .tickAt .cycleDue 14)])).log
  := by
  constructor
  · apply (Reach.start _ (by decide)).run
    decide +kernel
  · decide +kernel

end IolinkMaster
