import IolinkMaster.Replies

/-!
# Routing of on-request data

The on-request data of the reply to a read on the ISDU channel reaches the ISDU transport and
nothing else, that of the reply to a read on the diagnosis channel reaches the event memory and
nothing else, and none is dropped, provided that no event readout starts while the on-request data
of an ISDU read is outstanding, and that on-request data which answers no acyclic read comes to
no service that waits for octets.
-/

namespace IolinkMaster

/-! ### What is due is done -/

/-- The delivery of on-request data to a channel. -/
def Acyclic.deliver (c : Acyclic) (od : List UInt8) : Obs :=
  match c with
  | .isdu => .isduOd od
  | .diagnosis => .eventOd od

/-- The number of on-request data octets in the reply to a read. -/
def readWidth (config : Config) (st : MasterState) : Nat :=
  if st = .preoperate then 1 else odLenForType config.mSeqType

/-- On-request data is handed to a service, or to nobody. -/
def Obs.handsOn : Obs → Bool
  | .isduOd _ | .eventOd _ | .dropOd _ => true
  | _ => false

/-- An observation does what is due: the reply to a read is accepted with all its on-request
data, accepted on-request data is handed to the service of its channel, that of another reply to
no event readout, and none is handed on that is not due; only service calls of the event handler
come in between. -/
def discharges (config : Config) (o : Obs) : Duty → Bool
  | .free => !o.handsOn
  | .asked _ =>
    match o with
    | .accept st data od => od == some (data.take (readWidth config st))
    | _ => !o.handsOn
  | .owed c od => o == c.deliver od || o.ofService
  | .spare od => o == .isduOd od || o == .dropOd od || o.ofService

/-- Whatever is due is done. -/
def Delivered (config : Config) (log : List Obs) (o : Obs) : Prop :=
  discharges config o (duty log) = true

instance (config : Config) (log : List Obs) (o : Obs) : Decidable (Delivered config log o) :=
  inferInstanceAs (Decidable (_ = true))

/-- No on-request data waits to be handed on. -/
def Settled (log : List Obs) : Prop := duty log = .free ∨ ∃ c, duty log = .asked c

/-! ### Undisturbed runs -/

/-- The duty concerns the ISDU channel. -/
def Duty.ofIsdu : Duty → Bool
  | .asked .isdu | .owed .isdu _ => true
  | _ => false

/-- DeviceOperate has been written in this visit to PREOPERATE. -/
def ackPending : List Obs → Bool
  | .enter _ :: _ => false
  | .sent .preoperate frame :: l =>
    frame.getD 0 0 == encodeMasterCommand false .page (UInt8.ofNat DPP1_OFF_MASTER_COMMAND)
      || ackPending l
  | _ :: l => ackPending l
  | [] => false

/-- An acyclic read goes out in PREOPERATE. -/
def Obs.readsInPreoperate : Obs → Bool
  | .sent .preoperate frame => (acyclicRead frame).isSome
  | _ => false

/-- A readout waits for on-request data: its last read has not been answered, though the port may
have lost communication since. -/
def readoutWaits : List Obs → Bool
  | [] => false
  | o :: log =>
    match o with
    | .sent _ frame => acyclicRead frame == some .diagnosis || readoutWaits log
    | .eventOd _ | .eventStart => false
    | .enter st => !initializes log (.enter st) && readoutWaits log
    | _ => readoutWaits log

/-- The on-request data of an accepted reply. -/
def Obs.acceptedOd : Obs → Option (List UInt8)
  | .accept _ _ od => od
  | _ => none

/-- No event readout starts while the on-request data of an ISDU read is outstanding, no acyclic
read goes out while the acknowledge of DeviceOperate is, and on-request data that answers no acyclic
read comes neither to a readout that waits nor to a transfer that takes octets of it. -/
def Undisturbed (config : Config) (log : List Obs) (o : Obs) : Prop :=
  (o = .eventStart → (duty log).ofIsdu = false) ∧
    (o.readsInPreoperate = true → ackPending log = false) ∧
    ∀ od ∈ o.acceptedOd, duty log = .free → readoutWaits log = false ∧
      ∀ t ∈ transfer (odLenForType config.mSeqType) log, t.takes od = false

instance (config : Config) (log : List Obs) (o : Obs) : Decidable (Undisturbed config log o) :=
  inferInstanceAs (Decidable (_ ∧ _ ∧ _))

/-! ### The invariant -/

/-- The event state routes on-request data to where it is due. -/
def Routable (d : Duty) (p : PortState) : Prop :=
  match d with
  | .free => True
  | .asked .isdu | .owed .isdu _ => p.event.phase = .none
  | .asked .diagnosis | .owed .diagnosis _ =>
    p.event.phase = .read ∧ p.event.odExpected = true
  | .spare _ => ¬ (p.event.phase = .read ∧ p.event.odExpected = true)

/-- On-request data has been delivered so far, and will be. -/
structure Routed (config : Config) (w : World) : Prop where
  always : Trace.Always (Delivered config) w.log
  settled : Settled w.log
  routable : Routable (duty w.log) w.port
  waits : w.port.event.phase = .read → w.port.event.odExpected = true → readoutWaits w.log = true
  available : ∀ c, duty w.log = .asked c → acyclicAvailable w.port.state = true
  read : ∀ c, duty w.log = .asked c → w.port.rxOdExpected = true
  unacked : ∀ c, duty w.log = .asked c → ¬ awaitsAck w.port
  acked : awaitsAck w.port → ackPending w.log = true

/-- An observation that brings on-request data or hands it on. -/
def Obs.ofOd : Obs → Bool
  | .accept _ _ _ | .isduOd _ | .eventOd _ | .dropOd _ => true
  | _ => false

/-- Other observations do what is due, since nothing is. -/
theorem delivered_of_settled {config : Config} {log : List Obs} {o : Obs} (h : Settled log)
    (ho : o.ofOd = false) :
  Delivered config log o
  := by
  rw [Delivered]
  rcases h with hduty | ⟨c, hduty⟩
  · rw [hduty]
    cases o <;> first | rfl | contradiction
  · rw [hduty]
    cases o <;> first | rfl | contradiction

/-- What a frame of PREOPERATE or OPERATE asks for. -/
def askedBy (frame : List UInt8) : Duty :=
  match acyclicRead frame with
  | some c => .asked c
  | none => .free

/-- A frame of PREOPERATE or OPERATE asks for what it reads. -/
theorem duty_sent {st : MasterState} (hstate : acyclicAvailable st = true) (frame : List UInt8)
    (log : List Obs) :
  duty (.sent st frame :: log) = askedBy frame
  := by
  cases st <;> first | rfl | contradiction

/-- Other observations leave nothing due. -/
theorem settled_cons {log : List Obs} {o : Obs} (h : Settled log) (ho : o.ofOd = false) :
  Settled (o :: log)
  := by
  have hasked : ∀ frame, askedBy frame = .free ∨ ∃ c, askedBy frame = .asked c := by
    intro frame
    rw [askedBy]
    split
    · exact .inr ⟨_, rfl⟩
    · exact .inl rfl
  rw [Settled, duty_cons]
  cases o with
  | accept | isduOd | eventOd | dropOd => contradiction
  | sent st frame =>
      cases st with
      | preoperate | operate => apply hasked frame
      | inactive | startup | error => exact .inl rfl
  | enter => exact .inl rfl
  | _ => exact h

/-- The duty is as before after an observation of a service call. -/
theorem dutyStep_service {o : Obs} (ho : o.ofService = true) (d : Duty) :
  dutyStep o d = d
  := by
  cases o <;> first | rfl | contradiction

/-- A service call may come in between. -/
theorem delivered_service {config : Config} {log : List Obs} {o : Obs}
    (ho : o.ofService = true) :
  Delivered config log o
  := by
  have hnone : o.handsOn = false := by
    cases o <;> first | rfl | contradiction
  rw [Delivered]
  cases duty log with
  | free => rw [discharges, hnone, Bool.not_false]
  | asked c => cases o <;> first | rfl | contradiction
  | owed c od => rw [discharges, ho, Bool.or_true]
  | spare od => rw [discharges, ho, Bool.or_true]

/-- A service call leaves a readout waiting, unless it starts one. -/
theorem readoutWaits_service {o : Obs} (ho : o.ofService = true) (hne : o ≠ .eventStart)
    (log : List Obs) :
  readoutWaits (o :: log) = readoutWaits log
  := by
  cases o with
  | eventStart => exact absurd rfl hne
  | sent | eventOd | enter => contradiction
  | _ => rfl

/-- Nothing is due. -/
theorem Routed.of_free {config : Config} {w : World}
    (halways : Trace.Always (Delivered config) w.log) (hduty : duty w.log = .free)
    (hwaits : w.port.event.phase = .read → w.port.event.odExpected = true →
      readoutWaits w.log = true)
    (hack : awaitsAck w.port → ackPending w.log = true) :
  Routed config w
  := by
  constructor
  · apply halways
  · exact .inl hduty
  · rw [hduty]
    trivial
  · apply hwaits
  · rw [hduty]
    intro c hc
    contradiction
  · rw [hduty]
    intro c hc
    contradiction
  · rw [hduty]
    intro c hc
    contradiction
  · apply hack

/-- A step that leaves the exchanges as they are. -/
theorem Routed.quiet {config : Config} {w v : World} (h : Routed config w)
    (halways : Trace.Always (Delivered config) v.log) (hduty : duty v.log = duty w.log)
    (hwaits : readoutWaits v.log = readoutWaits w.log)
    (hevent : v.port.event = w.port.event) (hstate : v.port.state = w.port.state)
    (hread : v.port.rxOdExpected = w.port.rxOdExpected)
    (hack : awaitsAck v.port → awaitsAck w.port) (hpending : ackPending v.log = ackPending w.log) :
  Routed config v
  := by
  constructor
  · apply halways
  · rw [Settled, hduty]
    apply h.settled
  · rw [hduty]
    have hroutable := h.routable
    simp only [Routable, hevent] at hroutable ⊢
    apply hroutable
  · rw [hevent, hwaits]
    apply h.waits
  · rw [hduty, hstate]
    apply h.available
  · rw [hduty, hread]
    apply h.read
  · rw [hduty]
    intro c hc hv
    apply h.unacked c hc (hack hv)
  · rw [hpending]
    intro hv
    apply h.acked (hack hv)

/-- An observation that neither brings on-request data nor hands it on. -/
theorem Routed.observe {config : Config} {w : World} (h : Routed config w) {o : Obs}
    (ho : o.ofOd = false) :
  Trace.Always (Delivered config) (o :: w.log)
  := ⟨h.always, delivered_of_settled h.settled ho⟩

/-- The acceptance of a reply that carries no on-request data, when none is due. -/
theorem Routed.unasked {config : Config} {w : World} (h : Routed config w)
    (hfree : ∀ c, duty w.log ≠ .asked c) {st : MasterState} {data : List UInt8} :
  Trace.Always (Delivered config) (.accept st data none :: w.log)
  := by
  refine ⟨h.always, ?_⟩
  rw [Delivered]
  rcases h.settled with hduty | ⟨c, hduty⟩
  · rw [hduty]
    rfl
  · exact absurd hduty (hfree c)

/-- A reply without on-request data leaves nothing due. -/
theorem settled_unasked (log : List Obs) (st : MasterState) (data : List UInt8) :
  Settled (.accept st data none :: log)
  := by
  left
  rw [duty_cons]
  cases hduty : duty log <;> rfl

/-- A change of the communication state ends every exchange, but not the wait of a readout. -/
theorem Routed.enter {config : Config} {log : List Obs} {p : PortState}
    (halways : Trace.Always (Delivered config) log) (hsettled : Settled log) (st : MasterState)
    (hwaits : p.event.phase = .read → p.event.odExpected = true →
      readoutWaits (.enter st :: log) = true)
    (hack : ¬ awaitsAck p) :
  Routed config ⟨p, .enter st :: log⟩
  := by
  apply Routed.of_free
  · exact ⟨halways, delivered_of_settled hsettled rfl⟩
  · rfl
  · apply hwaits
  · intro hv
    exact absurd hv hack

/-- Giving up communication ends every exchange, but not the wait of a readout. -/
theorem Routed.comlost {config : Config} {w : World} (h : Routed config w) {o : Obs}
    (ho : o.ofOd = false) (hsame : readoutWaits (o :: w.log) = readoutWaits w.log)
    {p : PortState} (hevent : p.event = w.port.event) (hstate : p.state = .startup) :
  Routed config ⟨p, .enter .startup :: comlostObs w.port :: o :: w.log⟩
  := by
  have hsettled := settled_cons h.settled ho
  apply Routed.enter
  · exact ⟨h.observe ho, delivered_of_settled hsettled rfl⟩
  · apply settled_cons hsettled rfl
  · intro hread hexpected
    rw [hevent] at hread hexpected
    change readoutWaits (o :: w.log) = true
    rw [hsame]
    apply h.waits hread hexpected
  · rintro ⟨hpre, -⟩
    rw [hstate] at hpre
    contradiction

/-! ### Service calls -/

section

variable {config : Config} {w v : World}

/-- Service calls leave it open whether an acknowledge is out. -/
theorem ackPending_service {o : Obs} (log : List Obs) (ho : o.ofService = true) :
  ackPending (o :: log) = ackPending log
  := by
  cases o <;> first | rfl | contradiction

/-- Service calls leave the duty of the next reply alone. -/
theorem duty_service (hstep : ServiceStep w v) :
  duty v.log = duty w.log
  := unaffected_by_service (fun _ l ho => dutyStep_service ho (duty l)) hstep

/-- So do all calls of an event handler. -/
theorem duty_servicePath (hpath : ServicePath w v) :
  duty v.log = duty w.log
  := by
  apply hpath.keeps (I := fun v => duty v.log = duty w.log) _ rfl
  intro x y hstep hx
  rw [duty_service hstep, hx]

/-- A service call that does not disturb a duty leaves it routable. -/
theorem routable_service (hstep : ServiceStep w v) (h : Routable (duty w.log) w.port)
    (hC : Trace.Always (Undisturbed config) v.log) :
  Routable (duty w.log) v.port
  := by
  cases hstep with
  | tune hp =>
      simp only [Routable, World.put_port, hp.event]
      apply h
  | startEvent request hstate hphase =>
      have hisdu : (duty w.log).ofIsdu = false := hC.1.2.1 rfl
      revert h hisdu
      cases duty w.log with
      | free =>
          intro _ _
          trivial
      | spare od =>
          rintro _ _ ⟨-, hexpected⟩
          contradiction
      | asked c | owed c od =>
          cases c with
          | isdu =>
              intro _ hisdu
              contradiction
          | diagnosis =>
              rintro ⟨hread, -⟩
              rw [hphase] at hread
              contradiction
  | _ => apply h

/-- A service call makes no readout wait. -/
theorem waits_service (hstep : ServiceStep w v)
    (h : w.port.event.phase = .read → w.port.event.odExpected = true →
      readoutWaits w.log = true) :
  v.port.event.phase = .read → v.port.event.odExpected = true → readoutWaits v.log = true
  := by
  have hsame : ∀ {os : List Obs}, (∀ o ∈ os, o.ofService = true ∧ o ≠ .eventStart) →
      readoutWaits (os ++ w.log) = readoutWaits w.log := by
    intro os hos
    apply Trace.unaffected_append (q := fun o => o.ofService = true ∧ o ≠ .eventStart) _ hos
    rintro o l ⟨ho, hne⟩
    apply readoutWaits_service ho hne
  cases hstep with
  | tune hp =>
      rw [World.put_port, hp.event]
      apply h
  | @note o ho =>
      rw [World.emit_port, World.emit_log, readoutWaits_service]
      · apply h
      · cases o <;> first | rfl | contradiction
      · rintro rfl
        contradiction
  | startEvent =>
      intro _ hexpected
      contradiction
  | _ => exact h

/-- Service calls route nothing. -/
theorem routed_service (hstep : ServiceStep w v) (h : Routed config w)
    (hC : Trace.Always (Undisturbed config) v.log) :
  Routed config v
  := by
  have hduty := duty_service hstep
  have huntouched := untouched_of_step hstep
  have hack : awaitsAck v.port ↔ awaitsAck w.port := by
    rw [awaitsAck, awaitsAck, huntouched.state, huntouched.step]
  constructor
  · apply always_of_service (fun o l ho => delivered_service ho) hstep h.always
  · rw [Settled, hduty]
    apply h.settled
  · rw [hduty]
    apply routable_service hstep h.routable hC
  · apply waits_service hstep h.waits
  · rw [hduty, huntouched.state]
    apply h.available
  · rw [hduty, huntouched.rxOdExpected]
    apply h.read
  · rw [hduty, hack]
    apply h.unacked
  · rw [hack, unaffected_by_service (fun o l ho => ackPending_service l ho) hstep]
    apply h.acked

/-- What a service or a failed hook does routes nothing. -/
theorem routed_control (hstep : ControlStep w v) (h : Routed config w)
    (hC : Trace.Always (Undisturbed config) v.log) :
  Routed config v
  := by
  cases hstep with
  | service hstep => apply routed_service hstep h hC
  | fail =>
      apply Routed.enter h.always h.settled
      · exact h.waits
      · rintro ⟨hstate, -⟩
        contradiction

/-! ### Judged replies -/

/-- The width of the on-request data of a read is the one the configuration gives. -/
theorem odWidth_read {p : PortState} (h : WellFormed config p)
    (hstate : acyclicAvailable p.state = true) (hread : p.rxOdExpected = true) :
  odWidth p = readWidth config p.state
  := by
  obtain ⟨mode, hmode⟩ := h.configured
  have hod := h.odLen
  cases hs : p.state with
  | inactive | startup | error =>
      rw [hs] at hstate
      contradiction
  | preoperate => simp [odWidth, readWidth, hs]
  | operate =>
      cases htype : type0Operate p with
      | false => simp [odWidth, readWidth, hs, htype, hread, hod]
      | true =>
          simp only [type0Operate, Bool.and_eq_true, beq_iff_eq, hmode] at htype
          have hwidth : odLenForType config.mSeqType = 1 := by
            rw [htype.1.1]
            rfl
          have htype' : type0Operate p = true := by
            simp only [type0Operate, Bool.and_eq_true, beq_iff_eq, hmode]
            apply htype
          simp [odWidth, readWidth, hs, htype', hwidth]

/-- Handing on-request data to the ISDU transport leaves nothing due. -/
theorem isduObserved_delivers {config : Config} {log : List Obs} (s : IsduState)
    (od : List UInt8) (halways : Trace.Always (Delivered config) log)
    (hdelivered : Delivered config log (.isduOd od)) :
  Trace.Always (Delivered config) (isduObserved s od ++ log) ∧
    duty (isduObserved s od ++ log) = .free
  := by
  have hod : Trace.Always (Delivered config) (.isduOd od :: log) := ⟨halways, hdelivered⟩
  simp only [isduObserved]
  split
  · refine ⟨⟨hod, ?_⟩, rfl⟩
    rfl
  · exact ⟨hod, rfl⟩

/-- The on-request data of `u` has been handed on as it is due. -/
structure HandedOn (config : Config) (u v : World) : Prop where
  always : Trace.Always (Delivered config) v.log
  free : duty v.log = .free
  waits : v.port.event.phase = .read → v.port.event.odExpected = true → readoutWaits v.log = true
  state : v.port.state = u.port.state
  startup : v.port.startup = u.port.startup

/-- While no readout is in progress on-request data goes to the ISDU transport. -/
theorem routeOd_transport {u : World} (od : List UInt8) (hphase : u.port.event.phase = .none)
    (halways : Trace.Always (Delivered config) u.log)
    (hdelivered : Delivered config u.log (.isduOd od)) :
  HandedOn config u (routeOd u od)
  := by
  obtain ⟨hobserved, hfree⟩ := isduObserved_delivers u.port.isdu od halways hdelivered
  simp only [routeOd, eventChannelAccess, hphase]
  refine ⟨hobserved, hfree, ?_, rfl, rfl⟩
  intro hread
  rw [hphase] at hread
  contradiction

/-- A readout in progress that expects no on-request data makes the port drop it. -/
theorem routeOd_drops {u : World} (od : List UInt8) (hphase : u.port.event.phase ≠ .none)
    (h : ¬ (u.port.event.phase = .read ∧ u.port.event.odExpected = true)) :
  routeOd u od = u.emit (.dropOd od)
  := by
  simp only [routeOd, eventChannelAccess]
  split
  · next haccess =>
    split at haccess
    · contradiction
    · next hread =>
      cases haccess
      cases hexpected : u.port.event.odExpected with
      | true => exact absurd ⟨hread, hexpected⟩ h
      | false => rfl
    · cases haccess
      rfl
  · next haccess =>
    split at haccess
    · next hnone => exact absurd hnone hphase
    · contradiction
    · contradiction

/-- On-request data that is due goes to the service of its channel, other to no readout. -/
theorem routeOd_delivers {u : World} {d : Duty} (od : List UInt8) (hduty : duty u.log = d)
    (hd : d = .spare od ∨ ∃ c, d = .owed c od) (h : Routable d u.port)
    (halways : Trace.Always (Delivered config) u.log)
    (hwaits : u.port.event.phase = .read → u.port.event.odExpected = true →
      readoutWaits u.log = true) :
  HandedOn config u (routeOd u od)
  := by
  rcases hd with rfl | ⟨c, rfl⟩
  · by_cases hphase : u.port.event.phase = .none
    · apply routeOd_transport od hphase halways
      rw [Delivered, hduty]
      simp [discharges]
    · rw [routeOd_drops od hphase h]
      refine ⟨⟨halways, ?_⟩, rfl, hwaits, rfl, rfl⟩
      rw [Delivered, hduty]
      simp [discharges]
  · have hdelivered : Delivered config u.log (c.deliver od) := by
      rw [Delivered, hduty]
      simp [discharges]
    cases c with
    | isdu => apply routeOd_transport od h halways hdelivered
    | diagnosis =>
        have hphase : u.port.event.phase = .read ∧ u.port.event.odExpected = true := h
        simp only [routeOd, eventChannelAccess, hphase.1, hphase.2, Bool.and_self, if_true]
        refine ⟨⟨halways, hdelivered⟩, rfl, ?_, rfl, rfl⟩
        intro _ hexpected
        rw [World.putEvent, World.put_port, eventOnOd_odExpected rfl] at hexpected
        contradiction

/-- An accepted reply brings the on-request data that was asked for. -/
theorem accepted_delivers {data : List UInt8} (hformed : WellFormed config w.port)
    (h : Routed config w) :
  Trace.Always (Delivered config) (accepted w data).log
  := by
  refine ⟨h.always, ?_⟩
  rw [Delivered]
  rcases h.settled with hw | ⟨c, hw⟩
  · rw [hw]
    rfl
  · have hod := odWidth_read hformed (h.available c hw) (h.read c hw)
    rw [hw]
    simp [discharges, hod]

/-- The duty while the handler makes its calls: the on-request data of the accepted reply is owed to
the channel that asked for it, or to none. -/
theorem accepted_duty {data : List UInt8} (h : Routed config w)
    (hC : Trace.Always (Undisturbed config) (accepted w data).log) :
  (duty (accepted w data).log = .spare (data.take (odWidth w.port)) ∨
      ∃ c, duty (accepted w data).log = .owed c (data.take (odWidth w.port))) ∧
    Routable (duty (accepted w data).log) (accepted w data).port
  := by
  have hroutable := h.routable
  have hundisturbed := hC.2.2.2
  simp only [accepted, duty_cons]
  rcases h.settled with hw | ⟨c, hw⟩
  · rw [hw]
    refine ⟨.inl rfl, ?_⟩
    rintro ⟨hread, hexpected⟩
    have hwaits := (hundisturbed _ rfl hw).1
    rw [h.waits hread hexpected] at hwaits
    contradiction
  · rw [hw] at hroutable ⊢
    refine ⟨.inr ⟨c, rfl⟩, ?_⟩
    cases c with
    | isdu => apply hroutable
    | diagnosis => apply hroutable

/-- The calls of the event handler leave the duty of an accepted reply routable. -/
theorem handled_routable (hpath : ServicePath w v) (h : Routable (duty w.log) w.port)
    (hC : Trace.Always (Undisturbed config) v.log) :
  Routable (duty w.log) v.port
  := by
  have hkept : duty v.log = duty w.log ∧ Routable (duty w.log) v.port := by
    apply Trace.invariant_of_path
      (I := fun v => duty v.log = duty w.log ∧ Routable (duty w.log) v.port)
      extends_service (Trace.closed_always (Undisturbed config)) _ hpath ⟨rfl, h⟩ hC
    rintro x y hstep ⟨hx, hxr⟩ hCy
    refine ⟨(duty_service hstep).trans hx, ?_⟩
    rw [← hx] at hxr ⊢
    apply routable_service hstep hxr hCy
  exact hkept.2

/-- An accepted reply is routed where its duty says. -/
theorem routed_judge {K : Iolinki} {data : List UInt8} (hstep : JudgeStep K data w v)
    (hformed : WellFormed config w.port) (h : Routed config w)
    (hC : Trace.Always (Undisturbed config) v.log) :
  Routed config v
  := by
  cases hstep with
  | unframed | rejectTest | rejectRetry =>
      exact h.quiet (h.observe rfl) rfl rfl rfl rfl rfl id rfl
  | rejectLost => exact h.comlost rfl rfl rfl rfl
  | acceptTest hstate hstep hlen =>
      have hfree : ∀ c, duty w.log ≠ .asked c := by
        intro c hc
        have havail := h.available c hc
        rw [hstate] at havail
        contradiction
      apply Routed.enter (h.unasked hfree) (settled_unasked _ _ _)
      · exact h.waits
      · rintro ⟨-, hack⟩
        rw [show w.port.startup.step = _ from hack] at hstep
        contradiction
  | acceptAck hack hlen =>
      have hfree : ∀ c, duty w.log ≠ .asked c := by
        intro c hc
        apply h.unacked c hc hack
      apply Routed.enter (h.unasked hfree) (settled_unasked _ _ _)
      · exact h.waits
      · rintro ⟨hpre, -⟩
        contradiction
  | @accept u pdIn pdInLen pdValid hstate hack hwidth hcks hhandler hpd =>
      have hhandled : Trace.Always (Undisturbed config) u.log :=
        Trace.closed_always _ (routeOd_extends _ _) hC
      obtain ⟨hd, hroutable⟩ := accepted_duty h
        (Trace.closed_always _ (extends_service.path hhandler) hhandled)
      have hdelivered : Trace.Always (Delivered config) u.log :=
        hhandler.keeps (I := fun u => Trace.Always (Delivered config) u.log)
          (fun _ _ => always_of_service fun _ _ => delivered_service) (accepted_delivers hformed h)
      have hwaits : u.port.event.phase = .read → u.port.event.odExpected = true →
          readoutWaits u.log = true :=
        hhandler.keeps (I := fun u => u.port.event.phase = .read →
          u.port.event.odExpected = true → readoutWaits u.log = true)
          (fun _ _ => waits_service) h.waits
      have hsame := untouched_of_path hhandler
      have hhanded := routeOd_delivers (data.take (odWidth w.port)) (duty_servicePath hhandler) hd
        (handled_routable hhandler hroutable hhandled) hdelivered hwaits
      apply Routed.of_free (w := (routeOd u _).setPd pdIn pdInLen pdValid) hhanded.always
        hhanded.free hhanded.waits
      rintro ⟨hpre, hstep⟩
      rw [World.setPd, World.put_port, hhanded.state, hsame.state] at hpre
      rw [World.setPd, World.put_port, hhanded.startup, hsame.step] at hstep
      exact absurd ⟨hpre, hstep⟩ hack

/-- Receiving routes what it accepts where its duty says. -/
theorem routed_receive {K : Iolinki} {judged : World → List UInt8 → Prop}
    (hstep : ReceiveStep K judged w v) (hformed : WellFormed config w.port)
    (h : Routed config w) (hC : Trace.Always (Undisturbed config) v.log) :
  Routed config v
  := by
  cases hstep with
  | control hstep => apply routed_control hstep h hC
  | recv => exact h.quiet (h.observe rfl) rfl rfl rfl rfl rfl id rfl
  | clearRx => exact h.quiet h.always rfl rfl rfl rfl rfl id rfl
  | judge data hjudged hstep => apply routed_judge hstep hformed h hC

/-! ### Slots and timeouts -/

/-- A frame that asks for on-request data is a read of its channel. -/
theorem askedBy_read {frame : List UInt8} {c : Acyclic} (h : askedBy frame = .asked c) :
  acyclicRead frame = some c ∧ mcIsRead (frame.getD 0 0) = true
  := by
  have hread : acyclicRead frame = some c := by
    simp only [askedBy] at h
    split at h
    · next hc =>
      rw [hc, Duty.asked.inj h]
    · contradiction
  refine ⟨hread, ?_⟩
  by_contra hwrite
  simp only [acyclicRead] at hread
  rw [if_neg hwrite] at hread
  contradiction

/-- A write asks for nothing. -/
theorem askedBy_write {frame : List UInt8} (h : mcIsRead (frame.getD 0 0) = false) :
  askedBy frame = .free
  := by
  simp only [askedBy, acyclicRead, h, Bool.false_eq_true, if_false]

/-- What a slot asks for, the event state it leaves routes. -/
theorem emission_routable {K : Iolinki} (hK : K.Lawful) {p : PortState} {frame : List UInt8}
    {s : IsduState} {e : EventState} {step : StartupStep} (h : Emission K p frame s e step)
    (hformed : WellFormed config p) {q : PortState} (he : q.event = e) :
  Routable (askedBy frame) q
  := by
  cases h with
  | readEvent addr haccess =>
      have hasked : askedBy (eventFrame K p true addr) = .asked .diagnosis := by
        simp only [askedBy, acyclicRead, eventFrame_command hK, mcIsRead_encode,
          mcChannel_encode, if_true]
      rw [hasked]
      simp only [eventChannelAccess] at haccess
      split at haccess
      · contradiction
      · next hphase =>
        simp only [Routable, he]
        exact ⟨hphase, trivial⟩
      · simp at haccess
  | writeEvent addr haccess =>
      rw [askedBy_write (by rw [eventFrame_command hK, mcIsRead_encode])]
      trivial
  | isdu f s hevent hnext =>
      cases hread : f.read with
      | false =>
          rw [askedBy_write (by rw [octets_command hK, mcIsRead_encode, hread])]
          trivial
      | true =>
          have hasked : askedBy (f.octets K p) = .asked .isdu := by
            simp only [askedBy, acyclicRead, octets_command hK, mcIsRead_encode,
              mcChannel_encode, hread, if_true]
          rw [hasked]
          simp only [Routable, he]
          apply hevent
  | deviceOperate =>
      rw [askedBy_write (by rw [deviceOperateMessage_command hK, mcIsRead_encode])]
      trivial
  | cyclicType0 hstate hevent hnext htype =>
      rw [askedBy_write]
      · trivial
      · rw [type0CyclicFrame_command hK, isduFillOd_idle hformed.completed hnext]
        exact (by decide : mcIsRead 0 = false)
  | cyclic hstate hevent hnext htype =>
      rw [askedBy_write]
      · trivial
      · simp only [cyclicFrame, message, List.getD_cons_zero, mcIsRead_encode]

/-- A readout goes on waiting when a frame goes out. -/
theorem readoutWaits_sent {log : List Obs} (h : readoutWaits log = true) (st : MasterState)
    (frame : List UInt8) :
  readoutWaits (.sent st frame :: log) = true
  := by
  simp only [readoutWaits, h, Bool.or_true]

/-- A readout that has confirmed the StatusCode waits for nothing. -/
theorem waits_written {e : EventState} {log : List Obs}
    (h : e.phase = .read → e.odExpected = true → readoutWaits log = true) :
  (eventOnWritten e).phase = .read → (eventOnWritten e).odExpected = true →
    readoutWaits log = true
  := by
  by_cases hwrite : e.phase = .write
  · rw [eventOnWritten, if_pos hwrite]
    intro hread
    contradiction
  · rw [eventOnWritten_of_ne hwrite]
    apply h

/-- A readout that waits has been asked for octets. -/
theorem emission_waits {K : Iolinki} (hK : K.Lawful) {p : PortState} {frame : List UInt8}
    {s : IsduState} {e : EventState} {step : StartupStep} (h : Emission K p frame s e step)
    {log : List Obs}
    (hp : p.event.phase = .read → p.event.odExpected = true → readoutWaits log = true)
    (st : MasterState) (hread : e.phase = .read) (hexpected : e.odExpected = true) :
  readoutWaits (.sent st frame :: log) = true
  := by
  cases h with
  | readEvent addr =>
      simp only [readoutWaits, acyclicRead, eventFrame_command hK, mcIsRead_encode,
        mcChannel_encode, if_true, beq_self_eq_true, Bool.true_or]
  | writeEvent addr =>
      apply readoutWaits_sent (waits_written hp hread hexpected)
  | isdu | deviceOperate | cyclicType0 | cyclic => apply readoutWaits_sent (hp hread hexpected)

/-- An acknowledge that is awaited stays so when a frame goes out. -/
theorem ackPending_sent {log : List Obs} (h : ackPending log = true) (st : MasterState)
    (frame : List UInt8) :
  ackPending (.sent st frame :: log) = true
  := by
  cases st with
  | preoperate => simp only [ackPending, h, Bool.or_true]
  | _ => exact h

/-- A frame that goes out gives its reply a duty. -/
theorem routed_send {K : Iolinki} (hK : K.Lawful) {frame : List UInt8} {s : IsduState}
    {e : EventState} {step : StartupStep} (hemit : Emission K w.port frame s e step)
    (hstate : acyclicAvailable w.port.state = true) (hformed : WellFormed config w.port)
    (h : Routed config w) (hC : Undisturbed config w.log (.sent w.port.state frame)) :
  Routed config ⟨{ w.port with
      isdu := s
      event := e
      startup := { w.port.startup with step := step }
      rxOdExpected := mcIsRead (frame.getD 0 0) }, .sent w.port.state frame :: w.log⟩
  := by
  have hduty := duty_sent hstate frame w.log
  constructor
  · apply h.observe rfl
  · apply settled_cons h.settled rfl
  · rw [hduty]
    apply emission_routable hK hemit hformed rfl
  · apply emission_waits hK hemit h.waits
  · intro _ _
    apply hstate
  · intro c hc
    rw [hduty] at hc
    apply (askedBy_read hc).2
  · rintro c hc ⟨hpre, hack⟩
    rw [hduty] at hc
    -- The frame is a read, so it is not DeviceOperate, and the port waited before it.
    have hwaited : awaitsAck w.port := by
      refine ⟨hpre, ?_⟩
      cases hemit with
      | deviceOperate =>
          have hread := (askedBy_read hc).2
          rw [deviceOperateMessage_command hK, mcIsRead_encode] at hread
          contradiction
      | _ => apply hack
    have hnone := hC.2.1
    rw [hpre] at hnone
    simp only [Obs.readsInPreoperate, (askedBy_read hc).1, Option.isSome_some] at hnone
    rw [h.acked hwaited] at hnone
    exact absurd (hnone trivial) (by decide)
  · rintro ⟨hpre, hack⟩
    cases hemit with
    | deviceOperate =>
        rw [show w.port.state = _ from hpre]
        simp only [ackPending, deviceOperateMessage_command hK, beq_self_eq_true, Bool.true_or]
    | _ => apply ackPending_sent (h.acked ⟨hpre, hack⟩)

/-- A slot gives the reply to its frame a duty. -/
theorem routed_slot {K : Iolinki} (hK : K.Lawful) {ready : World → Prop}
    (hstep : SlotStep K ready w v) (hformed : WellFormed config w.port) (h : Routed config w)
    (hC : Trace.Always (Undisturbed config) v.log) :
  Routed config v
  := by
  have herror : ∀ {p : PortState}, p.state = .error → ¬ awaitsAck p := by
    rintro p hp ⟨hpre, -⟩
    rw [hp] at hpre
    contradiction
  cases hstep with
  | control hstep => apply routed_control hstep h hC
  | slot =>
      have hview : Routed config (w.emit (.view w.port)) :=
        h.quiet (h.observe rfl) rfl rfl rfl rfl rfl id rfl
      exact hview.quiet (hview.observe rfl) rfl rfl rfl rfl rfl id rfl
  | callWakeUp => exact h.quiet (h.observe rfl) rfl rfl rfl rfl rfl id rfl
  | send hstate hopen hemit => apply routed_send hK hemit hstate hformed h hC.2
  | sendFailed sent e' hstate hopen hemit hview hevent =>
      have hwaits : e'.phase = .read → e'.odExpected = true → readoutWaits w.log = true := by
        rw [hevent]
        apply waits_written h.waits
      cases sent with
      | false => exact Routed.enter h.always h.settled _ hwaits (herror rfl)
      | true =>
          apply Routed.enter (h.observe rfl) (settled_cons h.settled rfl) .error _ (herror rfl)
          intro hread hexpected
          exact readoutWaits_sent (hwaits hread hexpected) w.port.state _
  | restep step hstate hstep =>
      refine h.quiet h.always rfl rfl rfl rfl rfl ?_ rfl
      rintro ⟨hpre, -⟩
      rw [show w.port.state = _ from hpre] at hstate
      contradiction
  | wake hstate | test deadline awaiting hstate =>
      apply Routed.of_free (h.observe rfl) rfl
      · intro hread hexpected
        apply readoutWaits_sent (h.waits hread hexpected)
      rintro ⟨hpre, -⟩
      rw [show w.port.state = _ from hpre] at hstate
      contradiction
  | startupFailed frame hstate =>
      apply Routed.enter (h.observe rfl) (settled_cons h.settled rfl) .error _ (herror rfl)
      intro hread hexpected
      exact readoutWaits_sent (h.waits hread hexpected) .startup _
  | count hstate => exact h.quiet h.always rfl rfl rfl rfl rfl id rfl
  | arm deadline hstate => exact h.quiet (h.observe rfl) rfl rfl rfl rfl rfl id rfl

/-- A response timeout routes nothing. -/
theorem routed_timeout {due : World → Bool → Bool → Prop} (hstep : TimeoutStep due w v)
    (h : Routed config w) (hC : Trace.Always (Undisturbed config) v.log) :
  Routed config v
  := by
  cases hstep with
  | control hstep => apply routed_control hstep h hC
  | clearRx => exact h.quiet h.always rfl rfl rfl rfl rfl id rfl
  | ignored | count => exact h.quiet (h.observe rfl) rfl rfl rfl rfl rfl id rfl
  | broken =>
      apply Routed.enter (h.observe rfl) (settled_cons h.settled rfl)
      · exact h.waits
      · rintro ⟨hpre, -⟩
        contradiction
  | lost => exact h.comlost rfl rfl rfl rfl
  | restep step hstate hstep =>
      refine h.quiet h.always rfl rfl rfl rfl rfl ?_ rfl
      rintro ⟨hpre, -⟩
      rw [show w.port.state = _ from hpre] at hstate
      contradiction

end

/-- An initialized port waits for no acknowledge. -/
theorem not_awaitsAck_zeroPort (phy : PhyApi) (config : Config) :
  ¬ awaitsAck (zeroPort phy config)
  := by
  rintro ⟨-, hstep⟩
  contradiction

/-- An initialized port owes nothing. -/
theorem routed_zeroPort {config : Config} {log : List Obs}
    (halways : Trace.Always (Delivered config) log) (hsettled : Settled log) (phy : PhyApi)
    (config' : Config) :
  Routed config ⟨zeroPort phy config', .enter (zeroPort phy config').state :: log⟩
  := by
  apply Routed.enter halways hsettled
  · intro hread
    contradiction
  · apply not_awaitsAck_zeroPort

end IolinkMaster
