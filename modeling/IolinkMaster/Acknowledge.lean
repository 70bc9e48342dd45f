import IolinkMaster.WellFormed

/-!
# Event acknowledges

A call of `ack_event` that succeeds is preceded by the write that confirms the readout it
reports exactly when this readout was started by `ack_event` and its confirmation went out.
A readout started by another service is never confirmed.
-/

namespace IolinkMaster

open Relation

/-! ### Confirmations -/

/-- The write of the StatusCode, at address 0 of the diagnosis channel. -/
def isStatusWrite (frame : List UInt8) : Bool :=
  frame.getD 0 0 == encodeMasterCommand false .diagnosis 0

/-- The event service that started the last readout. -/
def readoutFor : List Obs → EventReq
  | .eventFor request :: _ => request
  | _ :: l => readoutFor l
  | [] => .none

/-- The StatusCode was written since octets of the event memory were collected last, and no
`ack_event` succeeded since. -/
def confirmed : List Obs → Bool
  | .sent _ frame :: l => isStatusWrite frame || confirmed l
  | .eventOd _ :: _ | .eventStart :: _ => false
  | .returned .ackEvent ret :: l => ret != STATUS_OK && confirmed l
  | _ :: l => confirmed l
  | [] => false

/-- A slot is open in which a readout is to be confirmed. -/
def confirming (log : List Obs) : Bool :=
  slotOpen log && (viewed log).any (·.event.phase == .write)

/-- The port was put into ERROR instead of sending the confirmation of the last readout. -/
def confirmationFailed : List Obs → Bool
  | .enter .error :: l => confirming l || confirmationFailed l
  | .sent _ frame :: l => !isStatusWrite frame && confirmationFailed l
  | .eventStart :: _ => false
  | _ :: l => confirmationFailed l
  | [] => false

/-- A successful `ack_event` follows a confirmation of its own, and only readouts for
`ack_event` are confirmed. -/
def AckConfirms (log : List Obs) (o : Obs) : Prop :=
  (o = .returned .ackEvent STATUS_OK → confirmed log = true) ∧
    ∀ frame ∈ o.frame, isStatusWrite frame = true → readoutFor log = .ack

/-- A successful `ack_event` takes a readout that `ack_event` started and whose confirmation
did not fail. -/
def TakesOwn (log : List Obs) (o : Obs) : Prop :=
  o = .returned .ackEvent STATUS_OK → readoutFor log = .ack ∧ confirmationFailed log = false

/-- Whether a successful `ack_event` is confirmed is decided by the readout it takes. -/
def AckExact (log : List Obs) (o : Obs) : Prop := AckConfirms log o ↔ TakesOwn log o

instance (log : List Obs) : DecidablePred (AckConfirms log) :=
  fun _ => inferInstanceAs (Decidable ((_ → _) ∧ _))

instance (log : List Obs) : DecidablePred (TakesOwn log) :=
  fun _ => inferInstanceAs (Decidable (_ → _))

/-! ### The readout of a port -/

/-- What the observations tell of the event readout of a port. -/
structure Readout (w : World) : Prop where
  started : w.port.event.phase ≠ .none ∨ w.port.event.request ≠ .none →
    readoutFor w.log = w.port.event.request
  active : w.port.event.phase ≠ .none → confirmed w.log = false
  writing : w.port.event.phase = .write → w.port.event.request = .ack ∧ w.port.event.addr = 0
  finished : w.port.event.phase = .none → w.port.event.request ≠ .none →
    confirmed w.log = (w.port.event.request == .ack && !confirmationFailed w.log)
  settled : w.port.event.phase = .none → w.port.event.request = .ack →
    confirmationFailed w.log = false → confirming w.log = false
  exact : Trace.Always AckExact w.log

/-- An observation that is about no readout. -/
@[simp]
def Obs.readoutNeutral : Obs → Bool
  | .sent _ _ | .eventOd _ | .eventStart | .eventFor _ => false
  | .returned call ret => call != .ackEvent || ret != STATUS_OK
  | .view _ | .slot | .enter .error => false
  | _ => true

section

variable {w v : World} {o : Obs} {log : List Obs}

theorem readoutFor_neutral (ho : o.readoutNeutral = true) :
  readoutFor (o :: log) = readoutFor log
  := by
  cases o with
  | eventFor => contradiction
  | _ => rfl

theorem confirmed_neutral (ho : o.readoutNeutral = true) :
  confirmed (o :: log) = confirmed log
  := by
  cases o with
  | sent | eventOd | eventStart => contradiction
  | returned call ret =>
      cases call with
      | ackEvent =>
          have hret : (ret != STATUS_OK) = true := ho
          rw [confirmed, hret, Bool.true_and]
      | _ => rfl
  | _ => rfl

theorem confirming_neutral (ho : o.readoutNeutral = true) :
  confirming (o :: log) = confirming log
  := by
  cases o with
  | sent | slot | view => contradiction
  | _ => rfl

theorem confirmationFailed_neutral (ho : o.readoutNeutral = true) :
  confirmationFailed (o :: log) = confirmationFailed log
  := by
  cases o with
  | sent | eventStart => contradiction
  | enter st =>
      cases st with
      | error => contradiction
      | _ => rfl
  | _ => rfl

/-- An observation that is neither a frame nor a successful `ack_event`. -/
theorem exact_other (hne : o ≠ .returned .ackEvent STATUS_OK) (hframe : o.frame = none) :
  AckExact log o
  := by
  constructor
  · intro _ h
    contradiction
  · intro _
    refine ⟨fun h => absurd h hne, ?_⟩
    rw [hframe]
    simp

theorem exact_neutral (ho : o.readoutNeutral = true) :
  AckExact log o
  := by
  apply exact_other
  · rintro rfl
    contradiction
  · cases o with
    | sent => contradiction
    | _ => rfl

/-- A frame confirms readouts for `ack_event` only. -/
theorem exact_sent_status {st : MasterState} {frame : List UInt8}
    (h : isStatusWrite frame = true → readoutFor log = .ack) :
  AckExact log (.sent st frame)
  := by
  constructor
  · intro _ h
    contradiction
  · intro _
    refine ⟨fun h => absurd h (by simp), ?_⟩
    intro f hf
    cases hf
    apply h

/-- A step that observes nothing about readouts and leaves the readout alone. -/
theorem Readout.quiet (h : Readout w) (os : List Obs)
    (hos : ∀ o ∈ os, o.readoutNeutral = true) (hlog : v.log = os ++ w.log)
    (hevent : v.port.event = w.port.event) :
  Readout v
  := by
  have hfor : readoutFor v.log = readoutFor w.log := by
    rw [hlog]
    exact Trace.unaffected_append (fun o l ho => readoutFor_neutral ho) hos w.log
  have hconfirmed : confirmed v.log = confirmed w.log := by
    rw [hlog]
    exact Trace.unaffected_append (fun o l ho => confirmed_neutral ho) hos w.log
  have hconfirming : confirming v.log = confirming w.log := by
    rw [hlog]
    exact Trace.unaffected_append (fun o l ho => confirming_neutral ho) hos w.log
  have hfailed : confirmationFailed v.log = confirmationFailed w.log := by
    rw [hlog]
    exact Trace.unaffected_append (fun o l ho => confirmationFailed_neutral ho) hos w.log
  constructor
  · rw [hevent, hfor]
    apply h.started
  · rw [hevent, hconfirmed]
    apply h.active
  · rw [hevent]
    apply h.writing
  · rw [hevent, hconfirmed, hfailed]
    apply h.finished
  · rw [hevent, hconfirming, hfailed]
    apply h.settled
  · rw [hlog]
    apply Trace.always_append _ hos h.exact
    intro o l ho
    apply exact_neutral ho

/-- The port of a slot that opens is the port of the world. -/
theorem Readout.slot (h : Readout w) :
  Readout ⟨w.port, .slot :: .view w.port :: w.log⟩
  := by
  constructor
  · apply h.started
  · apply h.active
  · apply h.writing
  · apply h.finished
  · intro hphase _ _
    change (true && (w.port.event.phase == .write)) = false
    rw [hphase]
    rfl
  · exact ⟨⟨h.exact, exact_other (by simp) rfl⟩, exact_other (by simp) rfl⟩

/-- Entering ERROR leaves a completed readout alone. -/
theorem Readout.enterError (h : Readout w) (hevent : v.port.event = w.port.event)
    (hlog : v.log = .enter .error :: w.log) :
  Readout v
  := by
  have hfailed : confirmationFailed v.log = (confirming w.log || confirmationFailed w.log) := by
    rw [hlog]
    rfl
  constructor
  · rw [hevent, hlog]
    apply h.started
  · rw [hevent, hlog]
    apply h.active
  · rw [hevent]
    apply h.writing
  · intro hphase hrequest
    rw [hevent] at hphase hrequest
    have hfinished := h.finished hphase hrequest
    rw [hevent, hfailed]
    rw [hlog]
    change confirmed w.log = _
    rw [hfinished]
    cases hack : w.port.event.request == .ack with
    | false => rfl
    | true =>
        cases hf : confirmationFailed w.log with
        | true => simp
        | false =>
            rw [h.settled hphase (beq_iff_eq.mp hack) hf]
            rfl
  · intro hphase hrequest hnone
    rw [hevent] at hphase hrequest
    rw [hfailed, Bool.or_eq_false_iff] at hnone
    rw [hlog]
    apply hnone.1
  · rw [hlog]
    exact ⟨h.exact, exact_other (by simp) rfl⟩

/-- A frame that confirms nothing. -/
theorem Readout.send (h : Readout w) {st : MasterState} {frame : List UInt8}
    (hframe : isStatusWrite frame = false)
    (hphase : v.port.event.phase = w.port.event.phase)
    (hrequest : v.port.event.request = w.port.event.request)
    (haddr : v.port.event.addr = w.port.event.addr) (hlog : v.log = .sent st frame :: w.log) :
  Readout v
  := by
  have hconfirmed : confirmed v.log = confirmed w.log := by
    rw [hlog, confirmed, hframe, Bool.false_or]
  have hfailed : confirmationFailed v.log = confirmationFailed w.log := by
    rw [hlog, confirmationFailed, hframe, Bool.not_false, Bool.true_and]
  constructor
  · rw [hphase, hrequest, hlog]
    apply h.started
  · rw [hphase, hconfirmed]
    apply h.active
  · rw [hphase, hrequest, haddr]
    apply h.writing
  · rw [hphase, hrequest, hconfirmed, hfailed]
    apply h.finished
  · intro _ _ _
    rw [hlog]
    rfl
  · rw [hlog]
    refine ⟨h.exact, exact_sent_status fun hstatus => ?_⟩
    rw [hframe] at hstatus
    contradiction

/-- The confirmation of a readout completes it. -/
theorem Readout.confirm (h : Readout w) (hwrite : w.port.event.phase = .write)
    {st : MasterState} {frame : List UInt8} (hframe : isStatusWrite frame = true)
    (hevent : v.port.event = eventOnWritten w.port.event)
    (hlog : v.log = .sent st frame :: w.log) :
  Readout v
  := by
  obtain ⟨hack, -⟩ := h.writing hwrite
  rw [eventOnWritten, if_pos hwrite] at hevent
  have hphase : v.port.event.phase = .none := by
    rw [hevent]
    rfl
  have hrequest : v.port.event.request = .ack := by
    rw [hevent]
    apply hack
  constructor
  · intro _
    rw [hrequest, hlog, ← hack]
    apply h.started (.inl (by simp [hwrite]))
  · intro hne
    contradiction
  · intro hne
    rw [hphase] at hne
    contradiction
  · intro _ _
    rw [hrequest, hlog, confirmed, confirmationFailed, hframe]
    rfl
  · intro _ _ _
    rw [hlog]
    rfl
  · rw [hlog]
    refine ⟨h.exact, exact_sent_status fun _ => ?_⟩
    rw [h.started (.inl (by simp [hwrite])), hack]

/-- The confirmation of a readout that fails completes it, too. -/
theorem Readout.confirmFails (h : Readout w) (hwrite : w.port.event.phase = .write)
    (hconfirming : confirming w.log = true)
    (hevent : v.port.event = eventOnWritten w.port.event)
    (hlog : v.log = .enter .error :: w.log) :
  Readout v
  := by
  obtain ⟨hack, -⟩ := h.writing hwrite
  rw [eventOnWritten, if_pos hwrite] at hevent
  have hphase : v.port.event.phase = .none := by
    rw [hevent]
    rfl
  have hrequest : v.port.event.request = .ack := by
    rw [hevent]
    apply hack
  have hfailed : confirmationFailed v.log = true := by
    rw [hlog, confirmationFailed, hconfirming, Bool.true_or]
  constructor
  · intro _
    rw [hrequest, hlog, ← hack]
    apply h.started (.inl (by simp [hwrite]))
  · intro hne
    contradiction
  · intro hne
    rw [hphase] at hne
    contradiction
  · intro _ _
    rw [hfailed, hlog]
    change confirmed w.log = _
    rw [h.active (by simp [hwrite]), Bool.not_true, Bool.and_false]
  · intro _ _ hnone
    rw [hfailed] at hnone
    contradiction
  · rw [hlog]
    exact ⟨h.exact, exact_other (by simp) rfl⟩

/-- A readout that starts. -/
theorem Readout.start (h : Readout w) (request : EventReq) :
  Readout ⟨{ w.port with event := eventStart request },
    .eventFor request :: .eventStart :: w.log⟩
  := by
  constructor
  · intro _
    rfl
  · intro _
    rfl
  · intro h
    contradiction
  · intro h
    contradiction
  · intro h
    contradiction
  · exact ⟨⟨h.exact, exact_other (by simp) rfl⟩, exact_other (by simp) rfl⟩

/-- No readout is left when a port starts, or once a readout was consumed. -/
theorem readout_idle (hphase : w.port.event.phase = .none)
    (hrequest : w.port.event.request = .none) (hexact : Trace.Always AckExact w.log) :
  Readout w
  := by
  constructor
  · rintro (h | h)
    · contradiction
    · contradiction
  · intro h
    contradiction
  · intro h
    rw [hphase] at h
    contradiction
  · intro _ h
    contradiction
  · intro _ h
    rw [hrequest] at h
    contradiction
  · apply hexact

/-- A completed readout that is consumed. -/
theorem Readout.consume (h : Readout w) (call : Service) (hphase : w.port.event.phase = .none)
    (hrequest : w.port.event.request ≠ .none) :
  Readout ⟨{ w.port with event := { w.port.event with request := .none } },
    .returned call STATUS_OK :: .eventTaken w.port.event.request :: w.log⟩
  := by
  have hfor := h.started (.inr hrequest)
  have hfinished := h.finished hphase hrequest
  refine readout_idle hphase rfl ?_
  refine ⟨⟨h.exact, exact_other (by simp) rfl⟩, ?_⟩
  by_cases hcall : call = .ackEvent
  · subst hcall
    have hiff : confirmed w.log = true ↔
        readoutFor w.log = .ack ∧ confirmationFailed w.log = false := by
      rw [hfinished, hfor, Bool.and_eq_true, beq_iff_eq, Bool.not_eq_true']
    constructor
    · intro hconfirms _
      apply hiff.mp (hconfirms.1 rfl)
    · intro hown
      refine ⟨fun _ => hiff.mpr (hown rfl), ?_⟩
      simp [Obs.frame]
  · apply exact_other _ rfl
    simpa using hcall

/-! ### Steps -/

/-- Collecting an octet goes on with the readout. -/
theorem eventOnOctet_keeps (e : EventState) (byte : UInt8) :
  (eventOnOctet e byte).phase = e.phase ∧ (eventOnOctet e byte).request = e.request
  := by
  simp only [eventOnOctet]
  split <;> split <;> exact ⟨rfl, rfl⟩

theorem foldl_eventOnOctet_keeps (od : List UInt8) (e : EventState) :
  (od.foldl eventOnOctet e).phase = e.phase ∧ (od.foldl eventOnOctet e).request = e.request
  := by
  induction od generalizing e with
  | nil => exact ⟨rfl, rfl⟩
  | cons byte od ih =>
      obtain ⟨hphase, hrequest⟩ := eventOnOctet_keeps e byte
      rw [List.foldl_cons, (ih _).1, (ih _).2]
      exact ⟨hphase, hrequest⟩

/-- The octets of a diagnosis read leave the readout in progress, or complete it: a readout
for `ack_event` has to be confirmed then, another one is over. -/
theorem eventOnOd_cases {e : EventState} (h : e.phase = .read) (od : List UInt8) :
  (eventOnOd e od).request = e.request ∧
    ((eventOnOd e od).phase = .read ∨
      (eventOnOd e od).phase = .write ∧ (eventOnOd e od).addr = 0 ∧ e.request = .ack ∨
      (eventOnOd e od).phase = .none ∧ e.request ≠ .ack)
  := by
  obtain ⟨hphase, hrequest⟩ := foldl_eventOnOctet_keeps od e
  simp only [eventOnOd, h, ne_eq, not_true, if_false]
  split
  · split
    · next hack =>
      rw [hrequest] at hack
      exact ⟨hrequest, .inr (.inl ⟨rfl, rfl, hack⟩)⟩
    · next hack =>
      rw [hrequest] at hack
      exact ⟨hrequest, .inr (.inr ⟨rfl, hack⟩)⟩
  · exact ⟨hrequest, .inl (by rw [hphase, h])⟩

/-- Handing on on-request data. -/
theorem Readout.routeOd (h : Readout w) (od : List UInt8) :
  Readout (routeOd w od)
  := by
  rcases routeOd_cases w od with ⟨hphase, -, heq⟩ | ⟨-, heq⟩ | ⟨-, heq⟩
  · rw [heq]
    have hfor := h.started (.inl (by simp [hphase]))
    have hkeeps := eventOnOd_cases (e := { w.port.event with odExpected := false }) hphase od
    revert hkeeps
    generalize eventOnOd { w.port.event with odExpected := false } od = e
    rintro ⟨hrequest, hcases⟩
    constructor
    · intro _
      change readoutFor w.log = e.request
      rw [hrequest, hfor]
    · intro _
      rfl
    · intro hwrite
      change e.phase = .write at hwrite
      rcases hcases with hp | ⟨-, haddr, hack⟩ | ⟨hp, -⟩
      · rw [hp] at hwrite
        contradiction
      · exact ⟨hrequest.trans hack, haddr⟩
      · rw [hp] at hwrite
        contradiction
    · intro hnone _
      change e.phase = .none at hnone
      rcases hcases with hp | ⟨hp, -⟩ | ⟨-, hack⟩
      · rw [hp] at hnone
        contradiction
      · rw [hp] at hnone
        contradiction
      · change false = (e.request == .ack && _)
        rw [hrequest, beq_eq_false_iff_ne.mpr hack, Bool.false_and]
    · intro hnone hack
      change e.phase = .none at hnone
      change e.request = .ack at hack
      rcases hcases with hp | ⟨hp, -⟩ | ⟨-, hne⟩
      · rw [hp] at hnone
        contradiction
      · rw [hp] at hnone
        contradiction
      · exact absurd (hrequest.symm.trans hack) hne
    · exact ⟨h.exact, exact_other (by simp) rfl⟩
  · rw [heq]
    exact h.quiet [_] (by simp) rfl rfl
  · rw [heq]
    refine h.quiet (v := ⟨_, _⟩) (isduObserved w.port.isdu od) ?_ rfl rfl
    intro o ho
    simp only [isduObserved, List.mem_append, List.mem_singleton] at ho
    rcases ho with ho | rfl
    · split at ho
      · rw [List.mem_singleton.mp ho]
        rfl
      · contradiction
    · rfl


/-! ### Frames -/

/-- A frame that is read, or goes to another channel, is no write of the StatusCode. -/
theorem isStatusWrite_false {frame : List UInt8} {read : Bool} {channel : McChannel}
    {address : UInt8} (h : frame.getD 0 0 = encodeMasterCommand read channel address)
    (hne : read = true ∨ channel ≠ .diagnosis) :
  isStatusWrite frame = false
  := by
  rw [isStatusWrite, h, beq_eq_false_iff_ne]
  intro heq
  have hread := congrArg mcIsRead heq
  have hchannel := congrArg mcChannel heq
  rw [mcIsRead_encode, mcIsRead_encode] at hread
  rw [mcChannel_encode, mcChannel_encode] at hchannel
  rcases hne with hne | hne
  · rw [hread] at hne
    contradiction
  · apply hne hchannel

/-- No frame of STARTUP writes the StatusCode. -/
theorem isStatusWrite_startup {K : Iolinki} (hK : K.Lawful) {frame : List UInt8}
    (h : frame = [WAKEUP_BYTE] ∨ frame = testMessage K) :
  isStatusWrite frame = false
  := by
  rcases h with rfl | rfl
  · decide
  · have hcommand : (testMessage K).getD 0 0
        = encodeMasterCommand true .page (UInt8.ofNat DPP1_OFF_MIN_CYCLE_TIME) := by
      rw [testMessage, hK.encodeType0_eq]
      rfl
    apply isStatusWrite_false hcommand (.inl rfl)

/-- What goes out in a slot writes the StatusCode if and only if a readout is to be
confirmed. -/
theorem Emission.status {K : Iolinki} (hK : K.Lawful) {p : PortState} {frame : List UInt8}
    {s : IsduState} {e : EventState} {step : StartupStep} (h : Emission K p frame s e step)
    (hrests : p.isdu.RestsWhenDone) :
  p.event.phase = .write ∧ (p.event.addr = 0 → isStatusWrite frame = true) ∧
      e = eventOnWritten p.event ∨
    p.event.phase ≠ .write ∧ isStatusWrite frame = false ∧ e.phase = p.event.phase ∧
      e.request = p.event.request ∧ e.addr = p.event.addr
  := by
  cases h with
  | readEvent addr haccess =>
      right
      refine ⟨?_, isStatusWrite_false (eventFrame_command hK p true addr) (.inl rfl), rfl, rfl,
        rfl⟩
      intro hphase
      simp [eventChannelAccess, hphase] at haccess
  | writeEvent addr haccess =>
      left
      simp only [eventChannelAccess] at haccess
      split at haccess
      · contradiction
      · cases haccess
      · next hphase =>
        cases haccess
        refine ⟨hphase, fun hzero => ?_, rfl⟩
        rw [isStatusWrite, eventFrame_command hK, hzero]
        rfl
  | isdu f s hevent =>
      right
      refine ⟨by simp [hevent], ?_, rfl, rfl, rfl⟩
      apply isStatusWrite_false (octets_command hK p f) (.inr (by decide))
  | deviceOperate hstate hevent =>
      right
      refine ⟨by simp [hevent], ?_, rfl, rfl, rfl⟩
      apply isStatusWrite_false (deviceOperateMessage_command hK) (.inr (by decide))
  | cyclicType0 hstate hevent hisdu =>
      right
      refine ⟨by simp [hevent], ?_, rfl, rfl, rfl⟩
      rw [isStatusWrite, type0CyclicFrame_command hK, isduFillOd_idle hrests hisdu]
      rfl
  | cyclic hstate hevent =>
      right
      refine ⟨by simp [hevent], ?_, rfl, rfl, rfl⟩
      have hcommand : (cyclicFrame K p (isduFillOd p.isdu p.odLen).1).getD 0 0
        = encodeMasterCommand false .process 0 := rfl
      apply isStatusWrite_false hcommand (.inr (by decide))

/-! ### Steps -/

/-- Service calls keep what is known of the readout. -/
theorem readout_service (hstep : ServiceStep w v) (h : Readout w) :
  Readout v
  := by
  cases hstep with
  | tune hp => exact h.quiet [] (by simp) rfl hp.event
  | @note o ho =>
      refine h.quiet [o] ?_ rfl rfl
      intro o' ho'
      rw [List.mem_singleton.mp ho']
      cases o with
      | returned call ret =>
          cases call with
          | ackEvent => apply ho
          | _ => rfl
      | flushRx | setMode | setBaudrate | eventPending | event => rfl
      | _ => contradiction
  | startEvent request => apply h.start
  | consumeEvent call hphase hrequest => apply h.consume call hphase hrequest
  | setPdOut => exact h.quiet [_] (by simp) rfl rfl
  | startWrite => exact h.quiet [_, _, _] (by simp) rfl rfl
  | startRead | collectPage | giveUpWrite | collectWrite =>
      exact h.quiet [_, _] (by simp) rfl rfl
  | giveUpRead | collectRead | refuseWrite | pendingWrite =>
      exact h.quiet [_] (by simp) rfl rfl

theorem readout_servicePath (hpath : ServicePath w v) (h : Readout w) :
  Readout v
  := hpath.keeps (fun _ _ => readout_service) h

theorem readout_control (hstep : ControlStep w v) (h : Readout w) :
  Readout v
  := by
  cases hstep with
  | service hstep => apply readout_service hstep h
  | fail => exact h.enterError rfl rfl

/-- The judgement of a reply. -/
theorem readout_judge {K : Iolinki} {data : List UInt8} (hstep : JudgeStep K data w v)
    (h : Readout w) :
  Readout v
  := by
  cases hstep with
  | accept hstate hack hwidth hcks hhandler hpd =>
      have haccepted : Readout (accepted w data) :=
        h.quiet [_] (by simp) rfl rfl
      have hrouted := (readout_servicePath hhandler haccepted).routeOd
        (data.take (odWidth w.port))
      exact hrouted.quiet [] (by simp) rfl rfl
  | rejectLost =>
      exact h.quiet [_, _, _] (by simp [comlostObs]) rfl rfl
  | acceptTest | acceptAck => exact h.quiet [_, _] (by simp) rfl rfl
  | unframed | rejectTest | rejectRetry =>
      exact h.quiet [_] (by simp) rfl rfl

theorem readout_receive {K : Iolinki} {judged : World → List UInt8 → Prop}
    (hstep : ReceiveStep K judged w v) (h : Readout w) :
  Readout v
  := by
  cases hstep with
  | control hstep => apply readout_control hstep h
  | recv byte => exact h.quiet [_] (by simp) rfl rfl
  | clearRx => exact h.quiet [] (by simp) rfl rfl
  | judge data hjudged hstep => apply readout_judge hstep h

/-- A response timeout. -/
theorem readout_timeout {due : World → Bool → Bool → Prop} (hstep : TimeoutStep due w v)
    (h : Readout w) :
  Readout v
  := by
  cases hstep with
  | control hstep => apply readout_control hstep h
  | clearRx | restep => exact h.quiet [] (by simp) rfl rfl
  | ignored | count => exact h.quiet [_] (by simp) rfl rfl
  | broken d awaiting =>
      have htimeout : Readout (w.emit (.timeout w.port.state d)) :=
        h.quiet [_] (by simp) rfl rfl
      exact htimeout.enterError rfl rfl
  | lost => exact h.quiet [_, _, _] (by simp [comlostObs]) rfl rfl

/-- A transmission slot. -/
theorem readout_slot {K : Iolinki} (hK : K.Lawful) {ready : World → Prop}
    (hstep : SlotStep K ready w v) (hrests : w.port.isdu.RestsWhenDone) (h : Readout w) :
  Readout v
  := by
  cases hstep with
  | control hstep => apply readout_control hstep h
  | slot => apply h.slot
  | send hstate hopen hemit =>
      rcases hemit.status hK hrests with ⟨hwrite, hframe, he⟩ | ⟨-, hframe, hphase, hreq, haddr⟩
      · exact h.confirm hwrite (hframe (h.writing hwrite).2) he rfl
      · exact h.send hframe hphase hreq haddr rfl
  | @sendFailed sent frame s e step e' hstate hopen hemit hview he =>
      rcases hemit.status hK hrests with ⟨hwrite, hframe, -⟩ | ⟨hwrite, hframe, -⟩
      · have hstatus := hframe (h.writing hwrite).2
        cases sent with
        | true =>
            -- The frame went out, and the readout is over.
            have hsent : Readout ⟨{ w.port with isdu := s, event := e' },
                .sent w.port.state frame :: w.log⟩ := h.confirm hwrite hstatus he rfl
            exact hsent.enterError rfl rfl
        | false =>
            refine h.confirmFails hwrite ?_ he rfl
            obtain ⟨p, hp, -, -, ⟨-, hevent, -⟩ | ⟨hoperate, -⟩⟩ := hview
            · rw [confirming, hopen, hp]
              simp [hevent, hwrite]
            · have hcommand := deviceOperateMessage_command hK
              rw [← hoperate] at hcommand
              rw [isStatusWrite_false hcommand (.inr (by decide))] at hstatus
              contradiction
      · rw [eventOnWritten_of_ne hwrite] at he
        cases sent with
        | true =>
            have hsent : Readout ⟨{ w.port with isdu := s, event := e' },
                .sent w.port.state frame :: w.log⟩ := by
              refine h.send hframe ?_ ?_ ?_ rfl
              all_goals rw [he]
            exact hsent.enterError rfl rfl
        | false => exact h.enterError he rfl
  | wake => exact h.send (isStatusWrite_startup hK (.inl rfl)) rfl rfl rfl rfl
  | test => exact h.send (isStatusWrite_startup hK (.inr rfl)) rfl rfl rfl rfl
  | startupFailed frame hstate hframe =>
      have hsent : Readout ⟨w.port, .sent .startup frame :: w.log⟩ :=
        h.send (isStatusWrite_startup hK hframe) rfl rfl rfl rfl
      exact hsent.enterError rfl rfl
  | callWakeUp | arm => exact h.quiet [_] (by simp) rfl rfl
  | restep | count => exact h.quiet [] (by simp) rfl rfl

end

/-! ### Runs -/

/-- A readout of an event memory without events, started by `start` and collected by
`ack_event`. -/
def acknowledging (start : Service) : List (Env × Call) :=
  connecting ++ [(.quiet [], .service start), (.quiet (reply 0 []), .tickAt .cycleDue 14),
    (.quiet (reply 0 [0x00]), .tickAt .cycleDue 16), (.quiet [], .service .ackEvent)]

end IolinkMaster
