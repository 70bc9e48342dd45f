import IolinkMaster.WellFormed

/-!
# The frames of M-sequence type 0

A frame of STARTUP, of PREOPERATE and of a TYPE_0 port in OPERATE is a TYPE_0 frame exactly
when the slot opened in a state that asks for one: no event readout in PREOPERATE on a port
of another type, no ISDU request in PREOPERATE on a port with wider on-request data, and on
a TYPE_0 port in OPERATE some acyclic frame to send.
-/

namespace IolinkMaster

/-! ### TYPE_0 frames -/

/-- A TYPE_0 frame: the Master Command of a read and the CKT octet, or the Master Command of
a write, the CKT octet and one octet of on-request data.  The CKT octet has the type bits of
TYPE_0 and the checksum of the frame. -/
def IsType0 (K : Iolinki) : List UInt8 → Prop
  | [mc, ckt] => mcIsRead mc = true ∧ ckt &&& 0xC0 = 0 ∧ ckt = K.checksum6 [mc, 0]
  | [mc, ckt, od] => mcIsRead mc = false ∧ ckt &&& 0xC0 = 0 ∧ ckt = K.checksum6 [mc, 0, od]
  | _ => False

instance (K : Iolinki) : DecidablePred (IsType0 K)
  | [mc, ckt] =>
    inferInstanceAs (Decidable
      (mcIsRead mc = true ∧ ckt &&& 0xC0 = 0 ∧ ckt = K.checksum6 [mc, 0]))
  | [mc, ckt, od] =>
    inferInstanceAs (Decidable
      (mcIsRead mc = false ∧ ckt &&& 0xC0 = 0 ∧ ckt = K.checksum6 [mc, 0, od]))
  | [] | [_] | _ :: _ :: _ :: _ :: _ => isFalse id

/-- The frame of an observation that must be a TYPE_0 frame: every frame of STARTUP but the
wake-up byte, every frame of PREOPERATE, every frame of a TYPE_0 port in OPERATE. -/
def mustBeType0 (config : Config) : Obs → Option (List UInt8)
  | .sent .startup frame => if frame = [WAKEUP_BYTE] then none else some frame
  | .sent .preoperate frame => some frame
  | .sent .operate frame => if config.mSeqType = .type0 then some frame else none
  | _ => none

/-- A frame that must be a TYPE_0 frame is one. -/
def Type0Shaped (K : Iolinki) (config : Config) (o : Obs) : Prop :=
  ∀ frame ∈ mustBeType0 config o, IsType0 K frame

instance (K : Iolinki) (config : Config) : DecidablePred (Type0Shaped K config) :=
  fun o => inferInstanceAs (Decidable (∀ frame ∈ mustBeType0 config o, IsType0 K frame))

/-! ### States that ask for TYPE_0 frames -/

/-- The next frame of the ISDU channel carries request octets. -/
def sendsRequest (s : IsduState) : Bool :=
  !s.abortPending && !s.idlePending && isduBusy s && s.phase == .request

/-- No frame of the ISDU channel is due. -/
def isduSilent (s : IsduState) : Bool := !s.abortPending && !s.idlePending && !isduBusy s

/-- A port asks for a TYPE_0 frame.  In PREOPERATE an event readout is active on a TYPE_0
port only, and ISDU request octets go out one by one; in OPERATE an acyclic service has a
frame to send. -/
def asksType0 (p : PortState) : Bool :=
  match p.state with
  | .preoperate =>
    if p.event.phase = .none then !sendsRequest p.isdu || p.odLen == 1
    else p.config.mSeqType == .type0
  | .operate => p.event.phase != .none || !isduSilent p.isdu
  | _ => true

/-- The slot in which a frame of PREOPERATE or OPERATE goes out, if it must be a TYPE_0
frame, opened in a state that asks for one. -/
def AskedType0 (config : Config) (log : List Obs) : Obs → Prop
  | .sent .preoperate _ => ∃ p ∈ viewed log, asksType0 p = true
  | .sent .operate _ => config.mSeqType = .type0 → ∃ p ∈ viewed log, asksType0 p = true
  | _ => True

/-- Whether a frame is a TYPE_0 frame, if it must be, is decided by the slot. -/
def Type0Exact (K : Iolinki) (config : Config) (log : List Obs) (o : Obs) : Prop :=
  Type0Shaped K config o ↔ AskedType0 config log o

/-- An observation that is no frame. -/
theorem exact_of_none {K : Iolinki} {config : Config} {log : List Obs} {o : Obs}
    (hnone : mustBeType0 config o = none) (hasked : AskedType0 config log o) :
  Type0Exact K config log o
  := by
  refine ⟨fun _ => hasked, fun _ => ?_⟩
  intro frame hframe
  rw [hnone] at hframe
  contradiction

/-! ### Frames -/

section

variable {K : Iolinki} (hK : K.Lawful)
include hK

/-- The encoder of TYPE_0 reads builds TYPE_0 frames. -/
theorem isType0_encodeType0 (mc : UInt8) :
  IsType0 K (K.encodeType0 mc) ↔ mcIsRead mc = true
  := by
  rw [hK.encodeType0_eq]
  constructor
  · intro h
    apply h.1
  · intro h
    exact ⟨h, hK.checksum6_mask _, rfl⟩

/-- The encoder of TYPE_0 writes builds TYPE_0 frames. -/
theorem isType0_encodeType0Write {mc : UInt8} (od : UInt8) (h : mcIsRead mc = false) :
  IsType0 K (K.encodeType0Write mc od)
  := by
  rw [hK.encodeType0Write_eq]
  exact ⟨h, hK.checksum6_mask _, rfl⟩

/-- A message without type bits is a TYPE_0 frame if it writes one octet. -/
theorem isType0_message {mc : UInt8} (od : List UInt8) (h : mcIsRead mc = false)
    (hlen : 1 ≤ od.length) :
  IsType0 K (message K mc 0x00 od) ↔ od.length = 1
  := by
  match od, hlen with
  | [b], _ =>
      refine ⟨fun _ => rfl, fun _ => ?_⟩
      refine ⟨h, ?_, ?_⟩
      · rw [UInt8.zero_or]
        apply hK.checksum6_mask
      · rw [UInt8.zero_or]
  | b :: c :: od, _ =>
      constructor
      · intro hframe
        exact hframe.elim
      · intro hone
        simp at hone

omit hK in
/-- A message with the type bits of another type is no TYPE_0 frame. -/
theorem not_isType0_message {type : MSeqType} (h : type ≠ .type0) (mc : UInt8)
    (body : List UInt8) :
  ¬ IsType0 K (message K mc (cktTypeBits type) body)
  := by
  have hbits : ∀ c : UInt8, (cktTypeBits type ||| c) &&& 0xC0 ≠ 0 := by
    apply forall_octet
    cases type with
    | type0 => contradiction
    | _ => decide +kernel
  intro hframe
  match body with
  | [] => exact hbits _ hframe.2.1
  | [od] => exact hbits _ hframe.2.1
  | _ :: _ :: _ => exact hframe

end

/-- The on-request data of a frame has the width of the port. -/
theorem length_isduFillOd (s : IsduState) (n : Nat) :
  (isduFillOd s n).1.length = n
  := by
  have hpad : ∀ l : List UInt8, l.length ≤ n → (padOd n l).length = n := by
    intro l hl
    simp only [padOd, List.length_append, List.length_replicate]
    omega
  simp only [isduFillOd]
  split
  · apply hpad
    apply Nat.zero_le
  · split
    · have hm : (if (s.requestLen + 65536 - s.requestPos) % 65536 < n then
          (s.requestLen + 65536 - s.requestPos) % 65536 else n) ≤ n := by
        split
        · omega
        · apply le_refl
      revert hm
      generalize (if (s.requestLen + 65536 - s.requestPos) % 65536 < n then
        (s.requestLen + 65536 - s.requestPos) % 65536 else n) = m
      intro hm
      have hsegment : (padOd n ((s.request.drop s.requestPos).take m)).length = n := by
        apply hpad
        rw [List.length_take]
        omega
      split
      · apply hsegment
      · split
        · apply hsegment
        · apply hsegment
    · apply hpad
      apply Nat.zero_le
    · split
      · apply hpad
        apply Nat.zero_le
      · apply hpad
        apply Nat.zero_le
    · apply hpad
      apply Nat.zero_le

/-- The next frame of the ISDU channel, by what the service asks for. -/
theorem isduNext_asks {s t : IsduState} {n : Nat} {f : IsduFrame}
    (h : isduNext s n = some (f, t)) :
  isduSilent s = false ∧
    (f.read = true ∧ f.od = none ∧ sendsRequest s = false ∨
      f.read = false ∧ (∃ od, f.od = some od ∧ od.length = n) ∧ sendsRequest s = true)
  := by
  simp only [isduNext] at h
  split at h
  · next habort =>
    cases h
    refine ⟨?_, .inl ⟨rfl, rfl, ?_⟩⟩
    · simp [isduSilent, habort]
    · simp [sendsRequest, habort]
  · next habort =>
    split at h
    · next hidle =>
      cases h
      refine ⟨?_, .inl ⟨rfl, rfl, ?_⟩⟩
      · simp [isduSilent, hidle]
      · simp [sendsRequest, hidle]
    · next hidle =>
      split at h
      · contradiction
      · next hbusy =>
        rw [not_or] at hbusy
        split at h
        · next hphase =>
          cases h
          refine ⟨?_, .inr ⟨rfl, ⟨_, rfl, length_isduFillOd s n⟩, ?_⟩⟩
          · simp [isduSilent, isduBusy, hbusy.1, hbusy.2]
          · simp [sendsRequest, isduBusy, habort, hidle, hbusy.1, hbusy.2, hphase]
        · next hphase =>
          cases h
          refine ⟨?_, .inl ⟨rfl, rfl, ?_⟩⟩
          · simp [isduSilent, isduBusy, hbusy.1, hbusy.2]
          · simp [sendsRequest, hphase]

/-- When no frame of the ISDU channel is due, none is asked for. -/
theorem isduNext_none {s : IsduState} {n : Nat} (h : isduNext s n = none) :
  isduSilent s = true ∧ sendsRequest s = false
  := by
  simp only [isduNext] at h
  split at h
  · contradiction
  · next habort =>
    split at h
    · contradiction
    · next hidle =>
      split at h
      · next hdone =>
        have hbusy : isduBusy s = false := by
          rcases hdone with hop | hdone
          · simp [isduBusy, hop]
          · simp [isduBusy, hdone]
        simp [isduSilent, sendsRequest, habort, hidle, hbusy]
      · split at h
        · contradiction
        · contradiction

/-! ### Slots -/

/-- A configuration of TYPE_0 has no process data. -/
theorem pdLen_of_type0 {config : Config} (hvalid : configRefused config = false)
    (htype : config.mSeqType = .type0) :
  config.pdInLen = 0 ∧ config.pdOutLen = 0
  := by
  simp only [configRefused, htype, Bool.or_eq_false_iff] at hvalid
  simp only [decide_eq_false_iff_not] at hvalid
  simpa using hvalid.2

/-- A port of TYPE_0 exchanges no process data in OPERATE. -/
theorem WellFormed.type0Operate {config : Config} {p : PortState}
    (h : WellFormed config p) (hvalid : configRefused config = false)
    (htype : config.mSeqType = .type0) :
  type0Operate p = true
  := by
  obtain ⟨mode, hconfig⟩ := h.configured
  obtain ⟨hin, hout⟩ := pdLen_of_type0 hvalid htype
  simp [IolinkMaster.type0Operate, h.pdOutLen, hconfig, htype, hin, hout]

section

variable {K : Iolinki} (hK : K.Lawful) {config : Config} {p : PortState} {frame : List UInt8}
  {s : IsduState} {e : EventState} {step : StartupStep}
include hK

/-- The event readout of a port sends TYPE_0 frames if the port is one of TYPE_0. -/
theorem isType0_eventFrame (p : PortState) (read : Bool) (addr : Nat) :
  IsType0 K (eventFrame K p read addr) ↔ p.config.mSeqType = .type0
  := by
  simp only [eventFrame]
  split
  · next htype =>
    refine ⟨fun _ => htype, fun _ => ?_⟩
    split
    · next hread =>
      rw [isType0_encodeType0 hK, mcIsRead_encode]
      apply hread
    · next hread =>
      apply isType0_encodeType0Write hK
      rw [mcIsRead_encode]
      apply Bool.eq_false_iff.mpr hread
  · next htype =>
    constructor
    · intro hframe
      exact absurd hframe (not_isType0_message htype _ _)
    · intro htype'
      contradiction

/-- A frame of the ISDU channel that is not multiplexed with process data is a TYPE_0 frame
unless it writes request octets, and then if it writes one. -/
theorem isType0_octets {f : IsduFrame} {t : IsduState} (hmulti : isduMulti p = false)
    (hpos : 1 ≤ p.odLen) (hnext : isduNext p.isdu p.odLen = some (f, t)) :
  IsType0 K (f.octets K p) ↔ (!sendsRequest p.isdu || p.odLen == 1) = true
  := by
  obtain ⟨-, hasks⟩ := isduNext_asks hnext
  simp only [IsduFrame.octets, buildIsduFrame, hmulti, Bool.not_false, if_true]
  rcases hasks with ⟨hread, hod, hsends⟩ | ⟨hread, ⟨od, hod, hlen⟩, hsends⟩
  · rw [hod, hsends]
    simp [isType0_encodeType0 hK, hread]
  · rw [hod, hsends, isType0_message hK od (by rw [mcIsRead_encode]; apply hread) (by omega)]
    simp [hlen]

/-- What goes out in a slot, if it must be a TYPE_0 frame, is one exactly when the state
asks for one. -/
theorem Emission.isType0 (h : Emission K p frame s e step) (hformed : WellFormed config p)
    (hvalid : configRefused config = false) (hstate : acyclicAvailable p.state = true)
    (htype : p.state = .operate → config.mSeqType = .type0) :
  IsType0 K frame ↔ asksType0 p = true
  := by
  obtain ⟨mode, hconfig⟩ := hformed.configured
  have hpos : 1 ≤ p.odLen := by
    rw [hformed.odLen]
    apply odLenForType_pos
  have hcases : p.state = .preoperate ∨ p.state = .operate ∧ p.config.mSeqType = .type0 := by
    cases hst : p.state with
    | preoperate => exact .inl rfl
    | operate =>
        right
        rw [hconfig]
        exact ⟨rfl, htype hst⟩
    | _ =>
        rw [hst] at hstate
        contradiction
  have hmulti : isduMulti p = false := by
    rcases hcases with hpre | ⟨-, ht⟩
    · simp [isduMulti, hpre]
    · simp [isduMulti, ht]
  -- An event readout in progress.
  have hreadout : ∀ read addr, eventChannelAccess p.event = some (read, addr) →
      (IsType0 K (eventFrame K p read addr) ↔ asksType0 p = true) := by
    intro read addr haccess
    have hphase : p.event.phase ≠ .none := by
      intro hnone
      simp [eventChannelAccess, hnone] at haccess
    rw [isType0_eventFrame hK]
    rcases hcases with hpre | ⟨hop, ht⟩
    · simp [asksType0, hpre, hphase]
    · simp [asksType0, hop, ht, hphase]
  cases h with
  | readEvent addr haccess => apply hreadout true addr haccess
  | writeEvent addr haccess => apply hreadout false addr haccess
  | isdu f s hevent hnext =>
      rw [isType0_octets hK hmulti hpos hnext]
      rcases hcases with hpre | ⟨hop, ht⟩
      · simp [asksType0, hpre, hevent]
      · have hone : p.odLen = 1 := by
          rw [hformed.odLen, htype hop]
          rfl
        simp [asksType0, hop, hone, (isduNext_asks hnext).1]
  | deviceOperate hpre hevent hisdu hchecked =>
      have hframe : IsType0 K (deviceOperateMessage K) := by
        apply isType0_encodeType0Write hK
        rw [mcIsRead_encode]
      simp [asksType0, hpre, hevent, (isduNext_none hisdu).2, hframe]
  | cyclicType0 hop hevent hisdu =>
      have hframe : ¬ IsType0 K (type0CyclicFrame K (isduFillOd p.isdu 1).1) := by
        rw [isduFillOd_idle hformed.completed hisdu, type0CyclicFrame, isType0_encodeType0 hK]
        change ¬ mcIsRead 0 = true
        decide
      simp [asksType0, hop, hevent, (isduNext_none hisdu).1, hframe]
  | cyclic hop hevent hisdu hcyclic =>
      rw [hformed.type0Operate hvalid (htype hop)] at hcyclic
      contradiction

/-- The write of DeviceOperate goes out in PREOPERATE only. -/
theorem Emission.preoperate (h : Emission K p frame s e step) (hformed : WellFormed config p)
    (hframe : frame = deviceOperateMessage K) :
  p.state = .preoperate
  := by
  have hcommand := congrArg (fun frame => mcChannel (frame.getD 0 0)) hframe
  simp only [deviceOperateMessage_command hK, mcChannel_encode] at hcommand
  cases h with
  | deviceOperate hpre => apply hpre
  | readEvent | writeEvent =>
      rw [eventFrame_command hK, mcChannel_encode] at hcommand
      contradiction
  | isdu f =>
      rw [octets_command hK, mcChannel_encode] at hcommand
      contradiction
  | cyclicType0 hop hevent hisdu =>
      rw [type0CyclicFrame_command hK, isduFillOd_idle hformed.completed hisdu] at hcommand
      exact absurd (show mcChannel 0 = .page from hcommand) (by decide)
  | cyclic =>
      change mcChannel (encodeMasterCommand false .process 0) = .page at hcommand
      rw [mcChannel_encode] at hcommand
      contradiction

/-- The slot in which a frame goes out opened in a state that asks for a TYPE_0 frame exactly
when the state in which it goes out does. -/
theorem Emission.asked {w : World} (h : Emission K w.port frame s e step)
    (hformed : WellFormed config w.port) (hvalid : configRefused config = false)
    (hview : Poised K w frame) :
  (∃ p ∈ viewed w.log, asksType0 p = true) ↔ asksType0 w.port = true
  := by
  obtain ⟨p, hviewed, hconfig, hstate, hsame⟩ := hview
  have hiff : (∃ p ∈ viewed w.log, asksType0 p = true) ↔ asksType0 p = true := by
    rw [hviewed]
    simp
  rw [hiff]
  rcases hsame with ⟨hisdu, hevent, hodLen, -⟩ | ⟨hframe, hevent, hisdu⟩
  · simp only [asksType0, hconfig, hstate, hisdu, hevent, hodLen]
  · -- The port collected a page in the slot, and nothing was due before.
    have hpre := h.preoperate hK hformed hframe
    have hport : asksType0 w.port = true := by
      rw [← h.isType0 hK hformed hvalid (by rw [hpre]; rfl)
        (fun hop => by rw [hpre] at hop; contradiction), hframe]
      apply isType0_encodeType0Write hK
      rw [mcIsRead_encode]
    have hp : asksType0 p = true := by
      simp [asksType0, hstate.trans hpre, hevent, (isduNext_none hisdu).2]
    rw [hp, hport]

/-- A frame that goes out in PREOPERATE or OPERATE. -/
theorem exact_sent {w : World} (h : Emission K w.port frame s e step)
    (hformed : WellFormed config w.port) (hvalid : configRefused config = false)
    (hstate : acyclicAvailable w.port.state = true) (hview : Poised K w frame) :
  Type0Exact K config w.log (.sent w.port.state frame)
  := by
  have hasked := h.asked hK hformed hvalid hview
  have htype0 := h.isType0 hK hformed hvalid hstate
  cases hst : w.port.state with
  | preoperate =>
      simp only [Type0Exact, Type0Shaped, mustBeType0, AskedType0, Option.mem_some_iff,
        forall_eq', hasked]
      apply htype0
      intro hop
      rw [hst] at hop
      contradiction
  | operate =>
      simp only [Type0Exact, Type0Shaped, mustBeType0, AskedType0, hasked]
      split
      · next htype =>
        simp only [Option.mem_some_iff, forall_eq', htype, forall_const]
        exact htype0 fun _ => htype
      · next htype => simp [htype]
  | _ =>
      rw [hst] at hstate
      contradiction

/-- A frame of STARTUP. -/
theorem exact_startup {log : List Obs} (h : frame = [WAKEUP_BYTE] ∨ frame = testMessage K) :
  Type0Exact K config log (.sent .startup frame)
  := by
  refine ⟨fun _ => trivial, fun _ => ?_⟩
  intro f hf
  simp only [mustBeType0] at hf
  split at hf
  · contradiction
  · next hwake =>
    cases hf
    rw [h.resolve_left hwake, testMessage, isType0_encodeType0 hK, mcIsRead_encode]

end

/-! ### Runs -/

/-- What is to hold of every observation is a matter of the frames sent. -/
structure FrameWise (K : Iolinki) (config : Config) (Q : List Obs → Obs → Prop) : Prop where
  unsent : ∀ o log, o.isSent = false → Q log o
  startup : ∀ {frame : List UInt8} log, frame = [WAKEUP_BYTE] ∨ frame = testMessage K →
    Q log (.sent .startup frame)
  emitted : ∀ {w : World} {frame : List UInt8} {s : IsduState} {e : EventState}
    {step : StartupStep}, Emission K w.port frame s e step → WellFormed config w.port →
      acyclicAvailable w.port.state = true → Poised K w frame →
        Q w.log (.sent w.port.state frame)

section

variable {K : Iolinki} {config : Config} {Q : List Obs → Obs → Prop}

/-- A slot sends what a frame may be. -/
theorem FrameWise.slot (hQ : FrameWise K config Q) {ready : World → Prop} {w v : World}
    (hstep : SlotStep K ready w v) (hformed : WellFormed config w.port)
    (h : Trace.Always Q w.log) :
  Trace.Always Q v.log
  := by
  cases hstep with
  | control hstep => apply (unsent_control hstep).always hQ.unsent h
  | send hstate hopen hemit hview =>
      exact ⟨h, hQ.emitted hemit hformed hstate hview⟩
  | sendFailed sent e' hstate hopen hemit hview =>
      refine ⟨?_, hQ.unsent _ _ rfl⟩
      cases sent with
      | false => apply h
      | true => exact ⟨h, hQ.emitted hemit hformed hstate hview⟩
  | wake => exact ⟨h, hQ.startup _ (.inl rfl)⟩
  | test => exact ⟨h, hQ.startup _ (.inr rfl)⟩
  | startupFailed frame hstate hframe =>
      exact ⟨⟨h, hQ.startup _ hframe⟩, hQ.unsent _ _ rfl⟩
  | slot => exact ⟨⟨h, hQ.unsent _ _ rfl⟩, hQ.unsent _ _ rfl⟩
  | callWakeUp | arm => exact ⟨h, hQ.unsent _ _ rfl⟩
  | restep | count => apply h

/-- Every step keeps what holds of the frames sent. -/
theorem FrameWise.kept (hQ : FrameWise K config Q) :
  KeptFormed K config (fun _ => True) (fun w => Trace.Always Q w.log)
  := by
  constructor
  · intro _ _ _ _
    trivial
  · intro w v hstep _ h _
    apply (unsent_control hstep).always hQ.unsent h
  · intro w v hstep _ h _
    apply (unsent_receive hstep).always hQ.unsent h
  · intro w v hstep hformed h _
    apply hQ.slot hstep hformed h
  · intro w v hstep _ h _
    apply (unsent_timeout hstep).always hQ.unsent h

/-- What holds of the frames holds in every run. -/
theorem FrameWise.reachable (hQ : FrameWise K config Q) (hK : K.Lawful) {phy : PhyApi}
    {allowed : Env → World → Call → Prop} {w : World} (hw : Reach K allowed phy config w) :
  Trace.Always Q w.log
  := by
  have h : WellFormed config w.port ∧ Trace.Always Q w.log := by
    apply hQ.kept.reachable hK _ _ _ hw trivial
    · exact ⟨trivial, hQ.unsent _ _ rfl⟩
    · intro w now h
      exact ⟨h, hQ.unsent _ _ rfl⟩
    · intro w mode _ h
      exact ⟨h, hQ.unsent _ _ rfl⟩
  exact h.2

end

/-- An observation that is no frame sent. -/
theorem exact_unsent {K : Iolinki} {config : Config} (o : Obs) (log : List Obs)
    (h : o.isSent = false) :
  Type0Exact K config log o
  := by
  cases o with
  | sent => contradiction
  | _ => exact exact_of_none rfl trivial

/-- The states decide which frames are TYPE_0 frames. -/
theorem frameWise_exact {K : Iolinki} (hK : K.Lawful) {config : Config}
    (hvalid : configRefused config = false) :
  FrameWise K config (Type0Exact K config)
  := by
  constructor
  · apply exact_unsent
  · intro frame log hframe
    apply exact_startup hK hframe
  · intro w frame s e step hemit hformed hstate hview
    apply exact_sent hK hemit hformed hvalid hstate hview

/-- In every run a frame of STARTUP, of PREOPERATE and of a TYPE_0 port in OPERATE is a TYPE_0
frame if and only if its slot opened in a state that asks for one. -/
theorem type0_frames {K : Iolinki} (hK : K.Lawful) {phy : PhyApi} {config : Config}
    {allowed : Env → World → Call → Prop} {w : World} (hw : Reach K allowed phy config w) :
  Trace.Always (Type0Exact K config) w.log
  := by
  apply (frameWise_exact hK hw.accepted).reachable hK hw

/-- Calls that start an event readout in PREOPERATE. -/
def reading : List (Env × Call) :=
  connecting ++ [(.quiet [], .service .readEventCode), (.quiet [], .tickAt .cycleDue 14)]

/-- A TYPE_0 port connects, starts an event readout and sends its first frame. -/
theorem type0_frames_reading :
  Trace.Always (Type0Exact .reference (.bare .type0 0 0))
    (run .reference (started (.quiet []) .full (.bare .type0 0 0)) reading).log
  := by
  have hreach : Reach .reference ticksAndServices .full (.bare .type0 0 0)
      (run .reference (started (.quiet []) .full (.bare .type0 0 0)) reading) := by
    apply (Reach.start _ (by decide)).run
    decide +kernel
  exact type0_frames Iolinki.lawful_reference hreach

/-- A port of type 2.1 sends the first frame of an event readout in PREOPERATE as a typed
frame with its output process data. -/
theorem type0_frames_typed :
  Reach .reference ticksAndServices .full (.bare .type2_1 1 1)
    (run .reference (started (.quiet []) .full (.bare .type2_1 1 1)) reading) ∧
  ¬ Trace.Always (fun _ => Type0Shaped .reference (.bare .type2_1 1 1))
    (run .reference (started (.quiet []) .full (.bare .type2_1 1 1)) reading).log
  := by
  constructor
  · apply (Reach.start _ (by decide)).run
    decide +kernel
  · decide +kernel

end IolinkMaster
