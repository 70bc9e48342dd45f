import IolinkMaster.Conclusion
import IolinkMaster.Framing

/-!
# The layout of typed frames

Three builders make the frames of a TYPE_1 or TYPE_2 port in OPERATE: the cyclic one, that of
the ISDU channel and that of the diagnosis channel.  They agree on one layout: Master Command,
CKT, the staged output process data, and on-request data in a write.  A cyclic frame finds the
ISDU transport at rest and leaves it so.
-/

namespace IolinkMaster

/-! ### Staged process data -/

/-- The process data staged last by a successful call since the initialization, zeros before;
a restart of communication is no initialization. -/
def staged (n : Nat) : List Obs → List UInt8
  | .returned (.setPdOut data) ret :: l => if ret = STATUS_OK then data else staged n l
  | .enter .startup :: .comlost _ _ _ _ _ :: l => staged n l
  | .enter .startup :: _ | .enter .inactive :: _ => List.replicate n 0
  | _ :: l => staged n l
  | [] => List.replicate n 0

/-! ### Typed frames -/

/-- The layout of a frame of the configured M-sequence type with the process data `pdOut`: the
CKT octet has the type bits and the checksum over the frame with its checksum bits zero,
on-request data is there in a write only, and a frame of the process channel has zeros for
it. -/
def LaidOut (K : Iolinki) (config : Config) (pdOut frame : List UInt8) : Prop :=
  ∃ mc ckt od, frame = mc :: ckt :: (pdOut ++ od) ∧
    od.length = (if mcIsRead mc then 0 else odLenForType config.mSeqType) ∧
    (mcChannel mc = .process → od = List.replicate od.length 0) ∧
    ckt &&& 0xC0 = cktTypeBits config.mSeqType ∧
    ckt &&& 0x3F = K.checksum6 (mc :: (ckt &&& 0xC0) :: (pdOut ++ od))

/-- A frame sent in OPERATE has the layout of the configured type and the process data staged
before, and fits the frame buffer of the longest configuration. -/
def TypedLayout (K : Iolinki) (config : Config) (log : List Obs) : Obs → Prop
  | .sent .operate frame =>
    LaidOut K config (staged config.pdOutLen log) frame ∧
      frame.length
        = 2 + config.pdOutLen
          + (if mcIsRead (frame.getD 0 0) then 0 else odLenForType config.mSeqType) ∧
      frame.length ≤ 42
  | _ => True

section

variable {K : Iolinki} (hK : K.Lawful) {config : Config}
include hK

/-- A message has the layout of its type. -/
theorem laidOut_message {mc : UInt8} {pdOut od : List UInt8}
    (hod : od.length = if mcIsRead mc then 0 else odLenForType config.mSeqType)
    (hprocess : mcChannel mc = .process → od = List.replicate od.length 0) :
  LaidOut K config pdOut (message K mc (cktTypeBits config.mSeqType) (pdOut ++ od))
  := by
  have hmask := hK.checksum6_mask (mc :: cktTypeBits config.mSeqType :: (pdOut ++ od))
  -- The type bits and the checksum share no bit.
  have hsplit : ∀ c : UInt8, c &&& 0xC0 = 0 →
      (cktTypeBits config.mSeqType ||| c) &&& 0xC0 = cktTypeBits config.mSeqType ∧
        (cktTypeBits config.mSeqType ||| c) &&& 0x3F = c := by
    apply forall_octet
    cases config.mSeqType <;> decide +kernel
  obtain ⟨hbits, hsum⟩ := hsplit _ hmask
  refine ⟨mc, _, od, rfl, hod, hprocess, hbits, ?_⟩
  rw [hbits]
  apply hsum

/-- The frames of the three builders in OPERATE are laid out alike. -/
theorem Emission.laidOut {p : PortState} {frame : List UInt8} {s : IsduState} {e : EventState}
    {step : StartupStep} (h : Emission K p frame s e step) (hformed : WellFormed config p)
    (htype : config.mSeqType ≠ .type0) (hop : p.state = .operate) :
  LaidOut K config (pdOutOctets p) frame
  := by
  obtain ⟨mode, hconfig⟩ := hformed.configured
  have hptype : p.config.mSeqType = config.mSeqType := by rw [hconfig]
  have hread : ∀ channel addr, LaidOut K config (pdOutOctets p)
      (message K (encodeMasterCommand true channel addr) (cktTypeBits config.mSeqType)
        (pdOutOctets p ++ [])) := by
    intro channel addr
    apply laidOut_message hK
    · rw [mcIsRead_encode]
      rfl
    · intro _
      rfl
  have hwrite : ∀ channel addr od, od.length = p.odLen →
      (channel = .process → od = List.replicate od.length 0) →
      LaidOut K config (pdOutOctets p)
        (message K (encodeMasterCommand false channel addr) (cktTypeBits config.mSeqType)
          (pdOutOctets p ++ od)) := by
    intro channel addr od hod hprocess
    apply laidOut_message hK
    · rw [mcIsRead_encode, hod, hformed.odLen]
      rfl
    · rw [mcChannel_encode]
      apply hprocess
  have hevent : ∀ read addr, LaidOut K config (pdOutOctets p) (eventFrame K p read addr) := by
    intro read addr
    rw [eventFrame, if_neg (by rw [hptype]; apply htype), hptype]
    cases read with
    | true => apply hread
    | false =>
        apply hwrite _ _ _ (by rw [if_neg Bool.false_ne_true, List.length_replicate])
        intro hprocess
        contradiction
  cases h with
  | readEvent | writeEvent => apply hevent
  | isdu f s _ hnext =>
      have hmulti : isduMulti p = true := by
        simp [isduMulti, hop, hptype, htype]
      simp only [IsduFrame.octets, buildIsduFrame, hmulti, Bool.not_true, Bool.false_eq_true,
        if_false, hptype]
      obtain ⟨-, ⟨hfread, hod, -⟩ | ⟨hfread, ⟨od, hod, hlen⟩, -⟩⟩ := isduNext_asks hnext
      · rw [hfread, hod]
        apply hread
      · rw [hfread, hod]
        apply hwrite _ _ _ hlen
        intro hprocess
        contradiction
  | deviceOperate hpre =>
      rw [hop] at hpre
      contradiction
  | cyclicType0 _ _ _ hzero =>
      simp [type0Operate, hptype, htype] at hzero
  | cyclic _ _ hisdu =>
      rw [isduFillOd_idle hformed.completed hisdu, cyclicFrame, hptype]
      apply hwrite
      · apply List.length_replicate
      · intro _
        rw [List.length_replicate]

omit hK in
/-- The length of a typed frame. -/
theorem length_laidOut {pdOut frame : List UInt8} (h : LaidOut K config pdOut frame)
    (hpd : pdOut.length = config.pdOutLen) :
  frame.length
    = 2 + config.pdOutLen
      + (if mcIsRead (frame.getD 0 0) then 0 else odLenForType config.mSeqType)
  := by
  obtain ⟨mc, ckt, od, rfl, hod, -⟩ := h
  simp only [List.length_cons, List.length_append, List.getD_cons_zero, hod, hpd]
  omega

end

/-! ### Runs -/

/-- The observation neither stages process data nor forgets them, and is no frame of
OPERATE. -/
@[simp]
def Obs.layoutNeutral : Obs → Bool
  | .returned (.setPdOut _) ret => ret != STATUS_OK
  | .enter .startup | .enter .inactive | .comlost _ _ _ _ _ | .sent .operate _ => false
  | _ => true

/-- The port holds the process data staged last, and its frames are laid out with them. -/
structure Staged (K : Iolinki) (config : Config) (w : World) : Prop where
  pdOut : w.port.pdOut = staged config.pdOutLen w.log
  width : w.port.pdOut.length = config.pdOutLen
  idle : w.port.isdu.op = .none → w.port.isdu.phase = .none
  calm : ∀ o ∈ w.log.head?, o.isComlost = false
  frames : Trace.Always (TypedLayout K config) w.log

theorem staged_neutral {o : Obs} (ho : o.layoutNeutral = true) (n : Nat) (log : List Obs) :
  staged n (o :: log) = staged n log
  := by
  cases o with
  | returned call ret =>
      cases call with
      | setPdOut data =>
          have hne : ret ≠ STATUS_OK := bne_iff_ne.mp ho
          rw [staged, if_neg hne]
      | _ => rfl
  | enter st =>
      cases st with
      | startup | inactive => contradiction
      | _ => rfl
  | _ => rfl

theorem typedLayout_neutral {K : Iolinki} {config : Config} {o : Obs}
    (ho : o.layoutNeutral = true) (log : List Obs) :
  TypedLayout K config log o
  := by
  cases o with
  | sent st frame =>
      cases st with
      | operate => contradiction
      | _ => trivial
  | _ => trivial

section

variable {K : Iolinki} {config : Config} {w v : World}

/-- A step that stages nothing and sends no frame of OPERATE. -/
theorem Staged.quiet (h : Staged K config w) (os : List Obs)
    (hos : ∀ o ∈ os, o.layoutNeutral = true) (hlog : v.log = os ++ w.log)
    (hpd : v.port.pdOut = w.port.pdOut)
    (hidle : v.port.isdu.op = .none → v.port.isdu.phase = .none) :
  Staged K config v
  := by
  have hstaged : staged config.pdOutLen v.log = staged config.pdOutLen w.log := by
    rw [hlog]
    exact Trace.unaffected_append (fun o l ho => staged_neutral ho _ l) hos w.log
  constructor
  · rw [hpd, hstaged]
    apply h.pdOut
  · rw [hpd]
    apply h.width
  · apply hidle
  · rw [hlog]
    cases os with
    | nil => apply h.calm
    | cons o os =>
        simp only [List.cons_append, List.head?_cons, Option.mem_some_iff, forall_eq']
        have ho := hos o List.mem_cons_self
        cases o <;> first | rfl | contradiction
  · rw [hlog]
    exact Trace.always_append (fun o l ho => typedLayout_neutral ho l) hos h.frames

/-- A restart of communication keeps the staged process data. -/
theorem Staged.comlost (h : Staged K config w) (o : Obs) (ho : o.layoutNeutral = true)
    (p : PortState) (hlog : v.log = .enter .startup :: comlostObs p :: o :: w.log)
    (hpd : v.port.pdOut = w.port.pdOut) (hisdu : v.port.isdu = w.port.isdu) :
  Staged K config v
  := by
  constructor
  · have hstaged : staged config.pdOutLen v.log = staged config.pdOutLen w.log := by
      rw [hlog]
      exact staged_neutral ho _ w.log
    rw [hpd, hstaged]
    apply h.pdOut
  · rw [hpd]
    apply h.width
  · rw [hisdu]
    apply h.idle
  · rw [hlog]
    simp [Obs.isComlost]
  · rw [hlog]
    exact ⟨⟨⟨h.frames, typedLayout_neutral ho _⟩, trivial⟩, trivial⟩

theorem staged_service (hstep : ServiceStep w v) (hformed : WellFormed config w.port)
    (h : Staged K config w) :
  Staged K config v
  := by
  cases hstep with
  | tune hp =>
      refine h.quiet [] (by simp) rfl hp.pdOut ?_
      rw [World.put_port, hp.isdu]
      apply h.idle
  | @note o ho =>
      refine h.quiet [o] ?_ rfl rfl h.idle
      intro o' ho'
      rw [List.mem_singleton.mp ho']
      cases o with
      | returned call ret =>
          cases call with
          | setPdOut data => apply ho
          | _ => rfl
      | flushRx | setMode | setBaudrate | eventPending | event => rfl
      | _ => contradiction
  | setPdOut data hlen =>
      obtain ⟨mode, hconfig⟩ := hformed.configured
      rw [hconfig] at hlen
      exact ⟨rfl, hlen, h.idle, by simp [Obs.isComlost], h.frames, trivial⟩
  | consumeEvent call hphase hrequest hstages =>
      refine h.quiet [_, _] ?_ rfl rfl h.idle
      simp only [List.mem_cons, List.not_mem_nil, or_false, forall_eq_or_imp, forall_eq]
      constructor
      · cases call with
        | setPdOut => contradiction
        | _ => rfl
      · rfl
  | startRead =>
      exact h.quiet [_, _] (by simp) rfl rfl (by intro hop; contradiction)
  | startWrite =>
      exact h.quiet [_, _, _] (by simp) rfl rfl (by intro hop; contradiction)
  | giveUpRead | collectRead =>
      exact h.quiet [_] (by simp) rfl rfl (fun _ => rfl)
  | giveUpWrite | collectPage | collectWrite =>
      exact h.quiet [_, _] (by simp) rfl rfl (fun _ => rfl)
  | refuseWrite | pendingWrite =>
      exact h.quiet [_] (by simp) rfl rfl h.idle
  | startEvent => exact h.quiet [_, _] (by simp) rfl rfl h.idle

theorem staged_control (hstep : ControlStep w v) (hformed : WellFormed config w.port)
    (h : Staged K config w) :
  Staged K config v
  := by
  cases hstep with
  | service hstep => apply staged_service hstep hformed h
  | fail => exact h.quiet [.enter .error] (by simp) rfl rfl h.idle

/-- Received on-request data does not touch a transport at rest. -/
theorem isduOnOd_rests {s : IsduState} (od : List UInt8) (h : s.op = .none → s.phase = .none) :
  (isduOnOd s od).op = .none → (isduOnOd s od).phase = .none
  := by
  intro hop
  rw [(sameRequest_onOd s od).1] at hop
  rw [isduOnOd_of_not_receiving]
  · apply h hop
  · simp [isduReceiving, hop]

theorem staged_routeOd (od : List UInt8) (h : Staged K config w) :
  Staged K config (routeOd w od)
  := by
  obtain ⟨os, hos, hlog⟩ := log_of_routeOd w od
  refine h.quiet os ?_ hlog ?_ ?_
  · intro o ho
    have hroute := hos o ho
    cases o <;> first | rfl | contradiction
  · obtain ⟨-, -, heq⟩ | ⟨-, heq⟩ | ⟨-, heq⟩ := routeOd_cases w od <;> rw [heq]
    rfl
  · obtain ⟨-, -, heq⟩ | ⟨-, heq⟩ | ⟨-, heq⟩ := routeOd_cases w od
    · rw [heq]
      apply h.idle
    · rw [heq]
      apply h.idle
    · rw [heq]
      apply isduOnOd_rests od h.idle

theorem staged_judge {data : List UInt8} (hstep : JudgeStep K data w v)
    (hformed : WellFormed config w.port) (h : Staged K config w) :
  Staged K config v
  := by
  cases hstep with
  | unframed | rejectTest | rejectRetry =>
      exact h.quiet [_] (by simp) rfl rfl h.idle
  | rejectLost => exact h.comlost _ rfl _ rfl rfl rfl
  | acceptTest | acceptAck =>
      exact h.quiet [_, _] (by simp) rfl rfl h.idle
  | @accept u pdIn pdInLen pdValid hstate hack hwidth hcks hhandler hpd =>
      have haccepted : WellFormed config (accepted w data).port ∧
          Staged K config (accepted w data) :=
        ⟨⟨hformed.configured, hformed.odLen, hformed.pdOutLen, hformed.completed⟩,
          h.quiet [_] (by simp) rfl rfl h.idle⟩
      have hu := hhandler.keeps (I := fun u => WellFormed config u.port ∧ Staged K config u)
        (fun _ _ hstep hboth =>
          ⟨wellFormed_service hstep hboth.1, staged_service hstep hboth.1 hboth.2⟩) haccepted
      have hrouted := staged_routeOd (data.take (odWidth w.port)) hu.2
      exact hrouted.quiet [] (by simp) rfl rfl hrouted.idle

theorem staged_receive {judged : World → List UInt8 → Prop} (hstep : ReceiveStep K judged w v)
    (hformed : WellFormed config w.port) (h : Staged K config w) :
  Staged K config v
  := by
  cases hstep with
  | control hstep => apply staged_control hstep hformed h
  | recv => exact h.quiet [_] (by simp) rfl rfl h.idle
  | clearRx => exact h.quiet [] (by simp) rfl rfl h.idle
  | judge data hjudged hstep => apply staged_judge hstep hformed h

/-- What a port puts on the wire is laid out with the staged process data. -/
theorem Staged.sends (hK : K.Lawful) (htype : config.mSeqType ≠ .type0)
    (hvalid : configRefused config = false) {frame : List UInt8} {s : IsduState} {e : EventState}
    {step : StartupStep} (hemit : Emission K w.port frame s e step)
    (hformed : WellFormed config w.port) (h : Staged K config w) :
  TypedLayout K config w.log (.sent w.port.state frame)
  := by
  cases hop : w.port.state with
  | operate =>
      have hlaid := hemit.laidOut hK hformed htype hop
      have hoctets : pdOutOctets w.port = staged config.pdOutLen w.log := by
        rw [pdOutOctets, hformed.pdOutLen, ← h.pdOut]
        apply List.take_of_length_le
        rw [h.width]
      rw [hoctets] at hlaid
      have hlength := length_laidOut hlaid (by rw [← h.pdOut, h.width])
      refine ⟨hlaid, hlength, ?_⟩
      have hod := odLenForType_le config.mSeqType
      have hpd : config.pdOutLen ≤ 32 := by
        simp only [configRefused, Bool.or_eq_false_iff, decide_eq_false_iff_not, not_lt] at hvalid
        apply hvalid.1.2
      split at hlength <;> omega
  | _ => trivial

/-- A frame leaves a transport at rest alone. -/
theorem Emission.rests {p : PortState} {frame : List UInt8} {s : IsduState} {e : EventState}
    {step : StartupStep} (h : Emission K p frame s e step)
    (hidle : p.isdu.op = .none → p.isdu.phase = .none) :
  s.op = .none → s.phase = .none
  := by
  obtain ⟨pos, phase, flowctrl, abort, idle, hphase, rfl⟩ := h.moves
  intro hop
  have hnone := hidle hop
  obtain rfl | ⟨hrequest, -⟩ := hphase
  · apply hnone
  · rw [hnone] at hrequest
    contradiction

/-- A frame on the wire, in the port it leaves. -/
theorem Staged.sent (h : Staged K config w) {frame : List UInt8}
    (hframe : TypedLayout K config w.log (.sent w.port.state frame)) {p : PortState}
    (hpd : p.pdOut = w.port.pdOut) (hidle : p.isdu.op = .none → p.isdu.phase = .none) :
  Staged K config ⟨p, .sent w.port.state frame :: w.log⟩
  := by
  constructor
  · rw [hpd]
    apply h.pdOut
  · rw [hpd]
    apply h.width
  · apply hidle
  · simp [Obs.isComlost]
  · exact ⟨h.frames, hframe⟩

theorem staged_slot (hK : K.Lawful) (htype : config.mSeqType ≠ .type0)
    (hvalid : configRefused config = false) {ready : World → Prop}
    (hstep : SlotStep K ready w v) (hformed : WellFormed config w.port)
    (h : Staged K config w) :
  Staged K config v
  := by
  cases hstep with
  | control hstep => apply staged_control hstep hformed h
  | send hstate hopen hemit =>
      exact h.sent (h.sends hK htype hvalid hemit hformed) rfl (hemit.rests h.idle)
  | sendFailed sent e' hstate hopen hemit =>
      cases sent with
      | false =>
          exact h.quiet [_] (by simp) rfl rfl (hemit.rests h.idle)
      | true =>
          have hsent := h.sent (h.sends hK htype hvalid hemit hformed) rfl h.idle
          exact hsent.quiet [_] (by simp) rfl rfl (hemit.rests h.idle)
  | slot | startupFailed => exact h.quiet [_, _] (by simp) rfl rfl h.idle
  | restep | count => exact h.quiet [] (by simp) rfl rfl h.idle
  | _ => exact h.quiet [_] (by simp) rfl rfl h.idle

theorem staged_timeout {due : World → Bool → Bool → Prop} (hstep : TimeoutStep due w v)
    (hformed : WellFormed config w.port) (h : Staged K config w) :
  Staged K config v
  := by
  cases hstep with
  | control hstep => apply staged_control hstep hformed h
  | clearRx | restep => exact h.quiet [] (by simp) rfl rfl h.idle
  | broken => exact h.quiet [_, _] (by simp) rfl rfl h.idle
  | lost => exact h.comlost _ rfl _ rfl rfl rfl
  | _ => exact h.quiet [_] (by simp) rfl rfl h.idle

end

/-- An initialized port has staged zeros. -/
theorem staged_init {K : Iolinki} {config : Config} (phy : PhyApi) {config' : Config}
    (hconfig : config'.pdOutLen = config.pdOutLen) {log : List Obs}
    (hcalm : ∀ o ∈ log.head?, o.isComlost = false)
    (hframes : Trace.Always (TypedLayout K config) log) :
  Staged K config ⟨zeroPort phy config', .enter (zeroPort phy config').state :: log⟩
  := by
  have hstate := zeroPort_state phy config'
  have hzeros : (zeroPort phy config').pdOut = List.replicate config.pdOutLen 0 := by
    rw [← hconfig]
    rfl
  constructor
  · change (zeroPort phy config').pdOut = staged config.pdOutLen (.enter _ :: log)
    rw [hzeros]
    obtain hs | hs := hstate
    · rw [hs]
      cases log with
      | nil => rfl
      | cons o log =>
          have ho := hcalm o rfl
          cases o <;> first | rfl | contradiction
    · rw [hs]
      rfl
  · change (zeroPort phy config').pdOut.length = config.pdOutLen
    rw [hzeros, List.length_replicate]
  · intro _
    rfl
  · simp [Obs.isComlost]
  · exact ⟨hframes, trivial⟩

/-- Every step keeps the frames of a typed port laid out. -/
theorem kept_staged {K : Iolinki} (hK : K.Lawful) {config : Config}
    (htype : config.mSeqType ≠ .type0) (hvalid : configRefused config = false) :
  KeptFormed K config (fun _ => True) (Staged K config)
  := by
  constructor
  · intro _ _ _ _
    trivial
  · intro w v hstep hformed h _
    apply staged_control hstep hformed h
  · intro w v hstep hformed h _
    apply staged_receive hstep hformed h
  · intro w v hstep hformed h _
    apply staged_slot hK htype hvalid hstep hformed h
  · intro w v hstep hformed h _
    apply staged_timeout hstep hformed h

/-- The frames of a reachable typed port are laid out. -/
theorem reachable_staged {K : Iolinki} (hK : K.Lawful) {phy : PhyApi} {config : Config}
    (htype : config.mSeqType ≠ .type0) {allowed : Env → World → Call → Prop} {w : World}
    (hw : Reach K allowed phy config w) :
  WellFormed config w.port ∧ Staged K config w
  := by
  apply (kept_staged hK htype hw.accepted).reachable hK _ _ _ hw trivial
  · apply staged_init phy rfl
    · simp
    · apply Trace.always_nil
  · intro w now h
    exact h.quiet [_] (by simp) rfl rfl h.idle
  · intro w mode hformed h
    obtain ⟨mode', hmode⟩ := hformed.configured
    apply staged_init _ _ h.calm h.frames
    rw [hmode]

/-! ### The cyclic frame and the ISDU transport -/

/-- A slot of OPERATE in which neither a readout nor a service has a frame to send, so that the
cyclic frame goes out, leaves the ISDU state alone. -/
def CyclicHarmless (K : Iolinki) (w : World) : Prop :=
  ∀ env, w.port.state = .operate → (sendEvent K env w).2 = false →
    (sendIsdu K env (sendEvent K env w).1).2 = false →
      (processOperate K env w).port.isdu = w.port.isdu

/-- Whether a frame goes out or fails, the ISDU state is left alone. -/
theorem sendFull_isdu (env : Env) (w : World) (frame : List UInt8) :
  (sendFull env w frame).1.port.isdu = w.port.isdu
  := by
  simp only [sendFull, sendFailed]
  split
  · rfl
  · split
    · rfl
    · split <;> rfl

/-- The cyclic exchange of a port whose transport is at rest. -/
theorem processCyclic_isdu {K : Iolinki} {env : Env} {w : World}
    (hrests : w.port.isdu.RestsWhenDone) (hnext : isduNext w.port.isdu w.port.odLen = none) :
  (processCyclic K env w).port.isdu = w.port.isdu
  := by
  have hfull : ∀ frame, (if frame = [] then w.putIsdu w.port.isdu
      else if (sendFull env (w.putIsdu w.port.isdu) frame).2
        then (sendFull env (w.putIsdu w.port.isdu) frame).1.put
          (countCycle (sendFull env (w.putIsdu w.port.isdu) frame).1.port)
        else (sendFull env (w.putIsdu w.port.isdu) frame).1).port.isdu = w.port.isdu := by
    intro frame
    have hsent := sendFull_isdu env (w.putIsdu w.port.isdu) frame
    split
    · rfl
    · split
      · apply hsent
      · apply hsent
  simp only [processCyclic, isduFillOd_idle hrests hnext]
  apply hfull

/-- A readout without a frame to send does nothing. -/
theorem sendEvent_unsent_eq {K : Iolinki} (hK : K.Lawful) {env : Env} {w : World}
    (h : (sendEvent K env w).2 = false) :
  (sendEvent K env w).1 = w
  := by
  revert h
  simp only [sendEvent]
  split
  · intro _
    rfl
  · intro h
    exact absurd (of_decide_eq_false h) (not_not.mpr (eventFrame_ne_nil hK _ _ _))

/-- A service without a frame to send does nothing. -/
theorem sendIsdu_unsent_eq {K : Iolinki} (hK : K.Lawful) {env : Env} {w : World}
    (h : (sendIsdu K env w).2 = false) :
  isduNext w.port.isdu w.port.odLen = none
  := by
  rw [sendIsdu_eq] at h
  cases hnext : isduNext w.port.isdu w.port.odLen with
  | none => rfl
  | some next =>
      obtain ⟨f, s⟩ := next
      obtain ⟨rest, hhead⟩ := f.octets_head hK w.port
      rw [hnext] at h
      simp [sendFrame, hhead] at h

/-- In every reachable state a cyclic frame finds the ISDU transport at rest. -/
theorem cyclicHarmless {K : Iolinki} (hK : K.Lawful) {w : World}
    (hrests : w.port.isdu.RestsWhenDone) :
  CyclicHarmless K w
  := by
  intro env _ hevent hisdu
  have hkept := sendEvent_unsent_eq hK hevent
  rw [hkept] at hisdu
  have hnext := sendIsdu_unsent_eq hK hisdu
  have hsame : (sendIsdu K env w).1 = w := by
    rw [sendIsdu_eq, hnext]
  simp only [processOperate, hevent, hkept, hisdu, hsame, Bool.false_eq_true, if_false]
  apply processCyclic_isdu hrests hnext

/-- Every frame a TYPE_1 or TYPE_2 port sends in OPERATE has the one layout, with the process
data staged last; and in every reachable state the transport is in no phase exactly when no
service is active or the service is done, so that a cyclic frame changes no ISDU state. -/
theorem operate_layout {K : Iolinki} (hK : K.Lawful) {phy : PhyApi} {config : Config}
    (htype : config.mSeqType ≠ .type0) {allowed : Env → World → Call → Prop} {w : World}
    (hw : Reach K allowed phy config w) :
  w.port.odLen = odLenForType config.mSeqType ∧
  Trace.Always (TypedLayout K config) w.log ∧
  (w.port.isdu.phase = .none ↔ w.port.isdu.op = .none ∨ w.port.isdu.done = true) ∧
  CyclicHarmless K w
  := by
  obtain ⟨hformed, hstaged⟩ := reachable_staged hK htype hw
  have hsound := (reachable_concluded hK hw).2.sound
  refine ⟨hformed.odLen, hstaged.frames, ?_, cyclicHarmless hK hformed.completed⟩
  constructor
  · intro hphase
    by_contra hnot
    rw [not_or, Bool.not_eq_true] at hnot
    exact (hsound.clean hnot.1 hnot.2).2.2 hphase
  · rintro (hop | hdone)
    · apply hstaged.idle hop
    · apply hformed.completed hdone

/-- A port of type 2.1 stages process data, writes an index and exchanges process data. -/
def writingIndex : List (Env × Call) :=
  connecting ++ [(.quiet [], .service (.setPdOut [0x2A])),
    (.quiet (reply 0 []), .tickAt .cycleDue 14),
    (.quiet [], .service (.writeIsdu 0x10 0 [0x55])),
    (.quiet (reply 0 [0x00]), .tickAt .cycleDue 16),
    (.quiet (reply 0 [0x00]), .tickAt .cycleDue 18)]

/-- Its frames carry the staged octet. -/
theorem operate_layout_writing :
  (run .reference (started (.quiet []) .full (.bare .type2_1 1 1)) writingIndex).port.state
      = .operate ∧
    Trace.Always (TypedLayout .reference (.bare .type2_1 1 1))
      (run .reference (started (.quiet []) .full (.bare .type2_1 1 1)) writingIndex).log
  := by
  have hreach : Reach .reference ticksAndServices .full (.bare .type2_1 1 1)
      (run .reference (started (.quiet []) .full (.bare .type2_1 1 1)) writingIndex) := by
    apply (Reach.start _ (by decide)).run
    decide +kernel
  constructor
  · decide +kernel
  · apply (operate_layout Iolinki.lawful_reference (by decide) hreach).2.1

end IolinkMaster
