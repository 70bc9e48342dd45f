import IolinkMaster.Layout

/-!
# The width of the on-request data

A device declares the width of its on-request data by the capability code of its OPERATE
M-sequence; the port derives its own from the M-sequence type of its configuration.  The two
agree for some pairs of type and code only, whether the configuration was filled from the
device's page or checked against it.
-/

namespace IolinkMaster

/-! ### The declared width -/

/-- The octets of on-request data an OPERATE capability code declares; two codes are
reserved. -/
def mseqCodeOdLen (code : UInt8) : Option Nat :=
  if code = 0 ∨ code = 4 then some 1
  else if code = 1 ∨ code = 5 then some 2
  else if code = 6 then some 8
  else if code = 7 then some 32
  else none

/-- The direction of the frame sent last is a read. -/
def askedRead : List Obs → Bool
  | .sent _ frame :: _ => mcIsRead (frame.getD 0 0)
  | _ :: l => askedRead l
  | [] => false

/-- The octets of on-request data in a reply, where the device has `n` of them: a write has
none in its reply, except on a port of TYPE_0. -/
def replyOdLen (config : Config) (n : Nat) (log : List Obs) : Nat :=
  if config.mSeqType = .type0 ∨ askedRead log = true then n else 0

/-- A frame of OPERATE has `n` octets of on-request data if it writes, a reply framed in
OPERATE as many as its frame asks for. -/
def CarriesOd (config : Config) (n : Nat) (log : List Obs) : Obs → Prop
  | .sent .operate frame =>
    frame.length = 2 + config.pdOutLen + (if mcIsRead (frame.getD 0 0) then 0 else n)
  | .accept .operate data od =>
    data.length = replyOdLen config n log + config.pdInLen + 1 ∧
      od = some (data.take (replyOdLen config n log))
  | .reject .operate data => data.length = replyOdLen config n log + config.pdInLen + 1
  | _ => True

/-- The slot in which a frame of a TYPE_0 port goes out in OPERATE opened with an acyclic
frame to send. -/
def AskedAcyclic (config : Config) (log : List Obs) : Obs → Prop
  | .sent .operate _ => config.mSeqType = .type0 → ∃ p ∈ viewed log, asksType0 p = true
  | _ => True

/-- The width in use is the one the device declares, and so is the width of every frame and
every reply. -/
def DeclaredWidth (info : DeviceInfo) (config : Config) (w : World) : Prop :=
  mseqCodeOdLen info.operateMseqCode = some w.port.odLen ∧
    mseqCapabilityCode config.mSeqType w.port.odLen = info.operateMseqCode ∧
    Trace.Always (CarriesOd config w.port.odLen) w.log

/-- The pairs of M-sequence type and capability code that agree on the width. -/
def WidthsAgree (type : MSeqType) (code : UInt8) : Prop :=
  code = 0 ∧ type ≠ .type1_2 ∨ code = 1 ∧ type = .type1_2 ∨ code = 5 ∨
    code = 6 ∧ type = .type1V

/-- A code of a suitable type declares the width of the type exactly when the two agree. -/
theorem declares_iff_agree {type : MSeqType} {code : UInt8}
    (h : mseqCodeCompatible type code = true) :
  (mseqCodeOdLen code = some (odLenForType type) ∧
      mseqCapabilityCode type (odLenForType type) = code) ↔ WidthsAgree type code
  := by
  have hall : ∀ code : UInt8, mseqCodeCompatible type code = true →
      ((mseqCodeOdLen code = some (odLenForType type) ∧
        mseqCapabilityCode type (odLenForType type) = code) ↔
          (code = 0 ∧ type ≠ .type1_2 ∨ code = 1 ∧ type = .type1_2 ∨ code = 5 ∨
            code = 6 ∧ type = .type1V)) := by
    apply forall_octet
    cases type <;> decide +kernel
  exact hall code h

/-- Where a configuration passes the check of a page, its type suits the code of the page. -/
theorem compatible_of_validate {info : DeviceInfo} {config : Config}
    (h : validateConfigAgainstDeviceInfo info config = STATUS_OK) :
  mseqCodeCompatible config.mSeqType info.operateMseqCode = true
  := by
  by_contra hnot
  rw [Bool.not_eq_true] at hnot
  revert h
  simp only [validateConfigAgainstDeviceInfo, hnot, Bool.not_false, if_true]
  repeat' split
  all_goals decide

/-- What a configuration filled from a page has of the page. -/
theorem selected_of_ok {info : DeviceInfo} {config : Config}
    (h : (selectConfigFromDeviceInfo info config).2 = STATUS_OK) :
  mseqTypeFromCapabilityCode info.operateMseqCode info.isduSupported info.pdInLen
      info.pdOutLen
    = some (selectConfigFromDeviceInfo info config).1.mSeqType
  := by
  have hpending : STATUS_PENDING ≠ STATUS_OK := by decide
  have hrefused : PARAM_ERR_M_SEQUENCE ≠ STATUS_OK := by decide
  revert h
  simp only [selectConfigFromDeviceInfo]
  split
  · intro h
    exact absurd h hpending
  · split
    · intro h
      exact absurd h hrefused
    · next type htype =>
      intro _
      apply htype

/-- A type chosen for a code declares the width of the code for three kinds of page. -/
theorem declares_iff_selected {code : UInt8} {isduSupported : Bool} {pdInLen pdOutLen : Nat}
    {type : MSeqType}
    (h : mseqTypeFromCapabilityCode code isduSupported pdInLen pdOutLen = some type) :
  (mseqCodeOdLen code = some (odLenForType type) ∧
      mseqCapabilityCode type (odLenForType type) = code) ↔
    code = 0 ∨ code = 1 ∧ isduSupported = true ∨ code = 5
  := by
  have hagrees : ∀ type' code', some type' = some type → code = code' →
      (∀ supported, (mseqCodeOdLen code' = some (odLenForType type') ∧
        mseqCapabilityCode type' (odLenForType type') = code') ↔
          code' = 0 ∨ code' = 1 ∧ supported = true ∨ code' = 5) →
      ((mseqCodeOdLen code = some (odLenForType type) ∧
        mseqCapabilityCode type (odLenForType type) = code) ↔
          code = 0 ∨ code = 1 ∧ isduSupported = true ∨ code = 5) := by
    intro type' code' htype hcode hall
    cases htype
    rw [hcode]
    apply hall
  simp only [mseqTypeFromCapabilityCode] at h
  split at h
  · next hzero =>
    split at h
    · apply hagrees _ _ h hzero (by decide)
    · split at h
      · apply hagrees _ _ h hzero (by decide)
      · apply hagrees _ _ h hzero (by decide)
  · split at h
    · next hone =>
      rw [hone]
      cases isduSupported <;> (cases h; decide)
    · split at h
      · next hcode =>
        obtain hcode | hcode | hcode := hcode
        · apply hagrees _ _ h hcode (by decide)
        · apply hagrees _ _ h hcode (by decide)
        · apply hagrees _ _ h hcode (by decide)
      · split at h
        · next hfive => apply hagrees _ _ h hfive (by decide)
        · contradiction

/-! ### The width on the wire -/

/-- A TYPE_0 frame has an octet of on-request data when it writes. -/
theorem IsType0.length {K : Iolinki} {frame : List UInt8} (h : IsType0 K frame) :
  frame.length = 2 + 0 + (if mcIsRead (frame.getD 0 0) then 0 else 1)
  := by
  unfold IsType0 at h
  split at h
  · simp [h.1]
  · simp [h.1]
  · contradiction

section

variable {K : Iolinki} (hK : K.Lawful) {config : Config}
include hK

/-- A frame a TYPE_0 port sends in OPERATE has its octet of on-request data exactly when an
acyclic service has a frame to send. -/
theorem Emission.width {p : PortState} {frame : List UInt8} {s : IsduState} {e : EventState}
    {step : StartupStep} (h : Emission K p frame s e step) (hformed : WellFormed config p)
    (hvalid : configRefused config = false) (htype : config.mSeqType = .type0)
    (hop : p.state = .operate) :
  CarriesOd config 1 [] (.sent .operate frame) ↔ asksType0 p = true
  := by
  obtain ⟨-, hzero⟩ := pdLen_of_type0 hvalid htype
  rw [← h.isType0 hK hformed hvalid (by rw [hop]; rfl) (fun _ => htype)]
  -- A TYPE_0 frame has the width of its direction, and only the cyclic frame is none.
  constructor
  · intro hcarries
    cases h with
    | readEvent | writeEvent =>
        rw [isType0_eventFrame hK]
        obtain ⟨mode, hconfig⟩ := hformed.configured
        rw [hconfig]
        apply htype
    | isdu f s hevent hnext =>
        have hone : p.odLen = 1 := by
          rw [hformed.odLen, htype]
          rfl
        obtain ⟨mode, hconfig⟩ := hformed.configured
        have hmulti : isduMulti p = false := by
          simp [isduMulti, hconfig, htype]
        rw [isType0_octets hK hmulti (le_of_eq hone.symm) hnext, hone]
        simp
    | deviceOperate hpre =>
        rw [hop] at hpre
        contradiction
    | cyclicType0 _ hevent hisdu =>
        rw [isduFillOd_idle hformed.completed hisdu] at hcarries
        simp only [CarriesOd, type0CyclicFrame, hK.encodeType0_eq, hzero] at hcarries
        -- Two octets, of a Master Command that writes.
        have hshort : ¬ (2 = 2 + 0 + (if mcIsRead 0 then 0 else 1)) := by decide
        exact absurd hcarries hshort
    | cyclic _ _ _ hcyclic =>
        rw [hformed.type0Operate hvalid htype] at hcyclic
        contradiction
  · intro hframe
    simp only [CarriesOd, hzero, hframe.length]

/-- The frames of a TYPE_0 port have their width where an acyclic service asked for them. -/
theorem frameWise_width (hvalid : configRefused config = false)
    (htype : config.mSeqType = .type0) :
  FrameWise K config fun log o =>
    o.isSent = true → (CarriesOd config 1 log o ↔ AskedAcyclic config log o)
  := by
  constructor
  · intro o log ho hsent
    rw [ho] at hsent
    contradiction
  · intro frame log _ _
    apply Iff.rfl
  · intro w frame s e step hemit hformed hstate hview _
    cases hst : w.port.state with
    | operate =>
        have hasked := hemit.asked hK hformed hvalid hview
        simp only [AskedAcyclic, htype, forall_const, hasked]
        apply hemit.width hK hformed hvalid htype hst
    | _ => apply Iff.rfl

/-- In every run the frames of OPERATE have the width of the type, those of a TYPE_0 port where
an acyclic service asked for them. -/
theorem reachable_width {phy : PhyApi} {allowed : Env → World → Call → Prop} {w : World}
    (hw : Reach K allowed phy config w) :
  Trace.Always (fun log o => o.isSent = true →
    (CarriesOd config (odLenForType config.mSeqType) log o ↔ AskedAcyclic config log o)) w.log
  := by
  by_cases htype : config.mSeqType = .type0
  · rw [htype]
    apply (frameWise_width hK hw.accepted htype).reachable hK hw
  · have hframes := (reachable_staged hK htype hw).2.frames
    apply Trace.always_combine _ hframes hframes
    intro log o hlaid _ hsent
    cases o with
    | sent st frame =>
        cases st with
        | operate => simp [AskedAcyclic, htype, CarriesOd, hlaid.2.1]
        | _ => apply Iff.rfl
    | _ => contradiction

end

/-! ### The width of replies -/

/-- The port waits for the reply to the frame it sent last. -/
def expecting (p : PortState) : Bool :=
  acyclicAvailable p.state || p.state == .startup && p.startup.step == .awaitResponse

/-- An observation that is neither a frame nor a judged reply of OPERATE. -/
@[simp]
def Obs.replyNeutral : Obs → Bool
  | .sent _ _ | .accept .operate _ _ | .reject .operate _ => false
  | _ => true

/-- The port knows the direction of the frame sent last, and the replies it framed have the
width of that direction. -/
structure Expects (config : Config) (w : World) : Prop where
  read : expecting w.port = true → w.port.rxOdExpected = askedRead w.log
  replies : Trace.Always (fun log o => o.isSent = false →
    CarriesOd config (odLenForType config.mSeqType) log o) w.log

theorem askedRead_neutral {o : Obs} (ho : o.isSent = false) (log : List Obs) :
  askedRead (o :: log) = askedRead log
  := by
  cases o with
  | sent => contradiction
  | _ => rfl

section

variable {K : Iolinki} {config : Config} {w v : World}

/-- A step that sends nothing and judges no reply of OPERATE. -/
theorem Expects.quiet (h : Expects config w) (os : List Obs)
    (hos : ∀ o ∈ os, o.replyNeutral = true) (hlog : v.log = os ++ w.log)
    (hread : expecting v.port = true →
      expecting w.port = true ∧ v.port.rxOdExpected = w.port.rxOdExpected) :
  Expects config v
  := by
  constructor
  · intro hexpect
    obtain ⟨hbefore, hsame⟩ := hread hexpect
    have hkept : askedRead v.log = askedRead w.log := by
      rw [hlog]
      apply Trace.unaffected_append (q := fun o => o.replyNeutral = true) _ hos w.log
      intro o log ho
      apply askedRead_neutral
      cases o <;> first | rfl | contradiction
    rw [hsame, hkept]
    apply h.read hbefore
  · rw [hlog]
    apply Trace.always_append _ hos h.replies
    intro o log ho _
    cases o with
    | sent => contradiction
    | accept st | reject st =>
        cases st with
        | operate => contradiction
        | _ => trivial
    | _ => trivial

/-- A step that leaves no reply to wait for. -/
theorem Expects.silent (h : Expects config w) (os : List Obs)
    (hos : ∀ o ∈ os, o.isSent = true ∨ o.replyNeutral = true) (hlog : v.log = os ++ w.log)
    (hread : expecting v.port = false) :
  Expects config v
  := by
  constructor
  · intro hexpect
    rw [hread] at hexpect
    contradiction
  · rw [hlog]
    apply Trace.always_append _ hos h.replies
    intro o log ho hsent
    rw [hsent] at ho
    cases o with
    | sent => contradiction
    | accept st | reject st =>
        cases st with
        | operate => simp [Obs.replyNeutral] at ho
        | _ => trivial
    | _ => trivial

theorem expects_service (hstep : ServiceStep w v) (h : Expects config w) :
  Expects config v
  := by
  cases hstep with
  | tune hp =>
      refine h.quiet [] (by simp) rfl ?_
      intro hexpect
      simp only [expecting, World.put_port, hp.state, hp.step] at hexpect
      exact ⟨hexpect, hp.rxOdExpected⟩
  | @note o ho =>
      refine h.quiet [o] ?_ rfl (fun hexpect => ⟨hexpect, rfl⟩)
      intro o' ho'
      rw [List.mem_singleton.mp ho']
      cases o <;> first | rfl | contradiction
  | setPdOut | giveUpRead | collectRead | refuseWrite | pendingWrite =>
      exact h.quiet [_] (by simp) rfl (fun hexpect => ⟨hexpect, rfl⟩)
  | startWrite =>
      exact h.quiet [_, _, _] (by simp) rfl (fun hexpect => ⟨hexpect, rfl⟩)
  | _ => exact h.quiet [_, _] (by simp) rfl (fun hexpect => ⟨hexpect, rfl⟩)

theorem expects_control (hstep : ControlStep w v) (h : Expects config w) :
  Expects config v
  := by
  cases hstep with
  | service hstep => apply expects_service hstep h
  | fail => exact h.silent [_] (by simp) rfl rfl

theorem expects_routeOd (od : List UInt8) (h : Expects config w) :
  Expects config (routeOd w od)
  := by
  obtain ⟨os, hos, hlog⟩ := log_of_routeOd w od
  refine h.quiet os ?_ hlog ?_
  · intro o ho
    have hroute := hos o ho
    cases o <;> first | rfl | contradiction
  · obtain ⟨-, -, heq⟩ | ⟨-, heq⟩ | ⟨-, heq⟩ := routeOd_cases w od <;> rw [heq]
    all_goals exact fun hexpect => ⟨hexpect, rfl⟩

/-- A reply of the length `on_rx` accepts carries the on-request data its frame asked for. -/
theorem Expects.judged (h : Expects config w) (hformed : WellFormed config w.port)
    (hvalid : configRefused config = false) {data : List UInt8}
    (hwidth : replyWidth w.port = some data.length) :
  CarriesOd config (odLenForType config.mSeqType) w.log (.reject w.port.state data) ∧
    CarriesOd config (odLenForType config.mSeqType) w.log
      (.accept w.port.state data (some (data.take (odWidth w.port))))
  := by
  obtain ⟨mode, hconfig⟩ := hformed.configured
  cases hst : w.port.state with
  | operate =>
      have hread : w.port.rxOdExpected = askedRead w.log := by
        apply h.read
        simp [expecting, hst, acyclicAvailable]
      have hlen : data.length
          = replyOdLen config (odLenForType config.mSeqType) w.log + config.pdInLen + 1 ∧
          odWidth w.port = replyOdLen config (odLenForType config.mSeqType) w.log := by
        by_cases htype : config.mSeqType = .type0
        · have hzero := hformed.type0Operate hvalid htype
          obtain ⟨hin, -⟩ := pdLen_of_type0 hvalid htype
          simp only [replyWidth, hst, hzero, if_true, Option.some.injEq] at hwidth
          simp [← hwidth, odWidth, hst, hzero, replyOdLen, htype, hin, M_SEQ_TYPE0_LEN,
            odLenForType]
        · have hzero : type0Operate w.port = false := by
            simp [type0Operate, hconfig, htype]
          have hpd : w.port.config.pdInLen = config.pdInLen := by
            rw [hconfig]
          simp only [replyWidth, hst, hzero, Bool.false_eq_true, if_false,
            Option.some.injEq, hread, hformed.odLen, hpd] at hwidth
          simp [← hwidth, odWidth, hst, hzero, replyOdLen, htype, hread, hformed.odLen]
      simp only [CarriesOd, hlen.2]
      exact ⟨hlen.1, hlen.1, trivial⟩
  | _ => exact ⟨trivial, trivial⟩

theorem expects_judge {data : List UInt8} (hstep : JudgeStep K data w v)
    (hvalid : configRefused config = false) (hformed : WellFormed config w.port)
    (h : Expects config w) :
  Expects config v
  := by
  have hrejected : replyWidth w.port = some data.length →
      Trace.Always (fun log o => o.isSent = false →
        CarriesOd config (odLenForType config.mSeqType) log o)
        (.reject w.port.state data :: w.log) := by
    intro hwidth
    exact ⟨h.replies, fun _ => (h.judged hformed hvalid hwidth).1⟩
  cases hstep with
  | unframed => exact h.quiet [_] (by simp) rfl (fun hexpect => ⟨hexpect, rfl⟩)
  | rejectTest hstate _ hwidth => exact ⟨h.read, hrejected hwidth⟩
  | rejectRetry hstate _ _ hwidth => exact ⟨h.read, hrejected hwidth⟩
  | rejectLost hstate _ _ hwidth =>
      refine ⟨?_, ⟨hrejected hwidth, fun _ => trivial⟩, fun _ => trivial⟩
      intro hexpect
      contradiction
  | acceptTest hstate hwaits =>
      refine h.quiet [_, _] (by simp) rfl ?_
      intro _
      simp [expecting, hstate, hwaits]
  | acceptAck hack =>
      refine h.quiet [_, _] (by simp) rfl ?_
      intro _
      simp [expecting, hack.1, acyclicAvailable]
  | accept hstate hack hwidth hcks hhandler hpd =>
      have haccepted : Expects config (accepted w data) :=
        ⟨h.read, h.replies, fun _ => (h.judged hformed hvalid hwidth).2⟩
      have hu := hhandler.keeps (I := Expects config)
        (fun _ _ hstep hu => expects_service hstep hu) haccepted
      have hrouted := expects_routeOd (data.take (odWidth w.port)) hu
      exact hrouted.quiet [] (by simp) rfl (fun hexpect => ⟨hexpect, rfl⟩)

theorem expects_receive {judged : World → List UInt8 → Prop} (hstep : ReceiveStep K judged w v)
    (hvalid : configRefused config = false) (hformed : WellFormed config w.port)
    (h : Expects config w) :
  Expects config v
  := by
  cases hstep with
  | control hstep => apply expects_control hstep h
  | recv => exact h.quiet [_] (by simp) rfl (fun hexpect => ⟨hexpect, rfl⟩)
  | clearRx => exact h.quiet [] (by simp) rfl (fun hexpect => ⟨hexpect, rfl⟩)
  | judge data hjudged hstep => apply expects_judge hstep hvalid hformed h

theorem expects_slot {ready : World → Prop} (hstep : SlotStep K ready w v)
    (h : Expects config w) :
  Expects config v
  := by
  have hsent : ∀ st frame, Trace.Always (fun log o => o.isSent = false →
      CarriesOd config (odLenForType config.mSeqType) log o) (.sent st frame :: w.log) := by
    intro st frame
    refine ⟨h.replies, fun ho => ?_⟩
    contradiction
  have hrestep : ∀ step : StartupStep, w.port.state = .startup → step ≠ .awaitResponse →
      Expects config (w.setStep step) := by
    intro step hstate hstep
    refine h.silent [] (by simp) rfl ?_
    change expecting { w.port with startup := { w.port.startup with step := step } } = false
    simp [expecting, hstate, acyclicAvailable, hstep]
  cases hstep with
  | control hstep => apply expects_control hstep h
  | send => exact ⟨fun _ => rfl, hsent _ _⟩
  | sendFailed sent =>
      cases sent with
      | false => exact h.silent [_] (by simp) rfl rfl
      | true => exact h.silent [_, _] (by simp [Obs.isSent]) rfl rfl
  | restep step hstate hstep => apply hrestep step hstate hstep.1
  | wake => exact ⟨fun _ => rfl, hsent _ _⟩
  | test => exact ⟨fun _ => rfl, hsent _ _⟩
  | startupFailed => exact h.silent [_, _] (by simp [Obs.isSent]) rfl rfl
  | slot => exact h.quiet [_, _] (by simp) rfl (fun hexpect => ⟨hexpect, rfl⟩)
  | count => exact h.quiet [] (by simp) rfl (fun hexpect => ⟨hexpect, rfl⟩)
  | callWakeUp | arm =>
      exact h.quiet [_] (by simp) rfl (fun hexpect => ⟨hexpect, rfl⟩)

theorem expects_timeout {due : World → Bool → Bool → Prop} (hstep : TimeoutStep due w v)
    (h : Expects config w) :
  Expects config v
  := by
  cases hstep with
  | control hstep => apply expects_control hstep h
  | clearRx => exact h.quiet [] (by simp) rfl (fun hexpect => ⟨hexpect, rfl⟩)
  | ignored | count =>
      exact h.quiet [_] (by simp) rfl (fun hexpect => ⟨hexpect, rfl⟩)
  | broken => exact h.silent [_, _] (by simp) rfl rfl
  | lost => exact h.silent [_, _, _] (by simp [comlostObs]) rfl rfl
  | restep step hstate hstep =>
      refine h.silent [] (by simp) rfl ?_
      change expecting { w.port with startup := { w.port.startup with step := step } } = false
      simp [expecting, hstate, acyclicAvailable, hstep.1]

end

/-- An initialized port waits for no reply. -/
theorem expects_init {config : Config} (phy : PhyApi) (config' : Config) {log : List Obs}
    (h : Trace.Always (fun log o => o.isSent = false →
      CarriesOd config (odLenForType config.mSeqType) log o) log) :
  Expects config ⟨zeroPort phy config', .enter (zeroPort phy config').state :: log⟩
  := by
  refine ⟨fun hexpect => ?_, h, fun _ => trivial⟩
  simp only [expecting, zeroPort] at hexpect
  split at hexpect <;> contradiction

/-- Every step keeps what is known of the reply a port waits for. -/
theorem kept_expects {K : Iolinki} {config : Config} (hvalid : configRefused config = false) :
  KeptFormed K config (fun _ => True) (Expects config)
  := by
  constructor
  · intro _ _ _ _
    trivial
  · intro w v hstep _ h _
    apply expects_control hstep h
  · intro w v hstep hformed h _
    apply expects_receive hstep hvalid hformed h
  · intro w v hstep _ h _
    apply expects_slot hstep h
  · intro w v hstep _ h _
    apply expects_timeout hstep h

section

variable {K : Iolinki} (hK : K.Lawful) {phy : PhyApi} {config : Config}
  {allowed : Env → World → Call → Prop} {w : World} (hw : Reach K allowed phy config w)
include hK hw

/-- The replies of a reachable port carry the on-request data their frames asked for. -/
theorem reachable_expects :
  WellFormed config w.port ∧ Expects config w
  := by
  apply (kept_expects hw.accepted).reachable hK _ _ _ hw trivial
  · exact expects_init phy config trivial
  · intro w now h
    exact h.quiet [_] (by simp) rfl (fun hexpect => ⟨hexpect, rfl⟩)
  · intro w mode _ h
    apply expects_init _ _ h.replies

/-- What goes over the wire in OPERATE carries the on-request data of the configured type,
where the frames of a TYPE_0 port go out for an acyclic service. -/
theorem reachable_carries :
  Trace.Always (CarriesOd config (odLenForType config.mSeqType)) w.log ↔
    Trace.Always (AskedAcyclic config) w.log
  := by
  apply Trace.always_congr
  apply Trace.always_combine _ (reachable_width hK hw) (reachable_expects hK hw).2.replies
  intro log o hsent hreply
  cases ho : o.isSent with
  | true => apply hsent ho
  | false =>
      refine ⟨fun _ => ?_, fun _ => hreply ho⟩
      cases o with
      | sent => contradiction
      | _ => trivial

/-- A port uses the declared width exactly when its type and the code declare it and every
frame of a TYPE_0 port is asked for. -/
theorem declaredWidth_iff {info : DeviceInfo} :
  DeclaredWidth info config w ↔
    (mseqCodeOdLen info.operateMseqCode = some (odLenForType config.mSeqType) ∧
      mseqCapabilityCode config.mSeqType (odLenForType config.mSeqType)
        = info.operateMseqCode) ∧
      Trace.Always (AskedAcyclic config) w.log
  := by
  rw [DeclaredWidth, (reachable_expects hK hw).1.odLen, reachable_carries hK hw, and_assoc]

end

/-- A port uses the width of on-request data its device declares for some pages and
configurations only: a configuration filled from the page, where the page has capability code
0 or 5, or 1 with ISDU support; a configuration checked against it, where its type has the
width of the code.  A TYPE_0 port does so as long as an acyclic service asks for its frames. -/
theorem declared_width_exact {K : Iolinki} (hK : K.Lawful) (info : DeviceInfo) :
  (∀ (base : Config) (phy : PhyApi) (allowed : Env → World → Call → Prop) (w : World),
    (selectConfigFromDeviceInfo info base).2 = STATUS_OK →
    Reach K allowed phy (selectConfigFromDeviceInfo info base).1 w →
      (DeclaredWidth info (selectConfigFromDeviceInfo info base).1 w ↔
        (info.operateMseqCode = 0 ∨ info.operateMseqCode = 1 ∧ info.isduSupported = true ∨
            info.operateMseqCode = 5) ∧
          Trace.Always (AskedAcyclic (selectConfigFromDeviceInfo info base).1) w.log)) ∧
  (∀ (config : Config) (phy : PhyApi) (allowed : Env → World → Call → Prop) (w : World),
    validateConfigAgainstDeviceInfo info config = STATUS_OK →
    Reach K allowed phy config w →
      (DeclaredWidth info config w ↔
        WidthsAgree config.mSeqType info.operateMseqCode ∧
          Trace.Always (AskedAcyclic config) w.log))
  := by
  constructor
  · intro base phy allowed w hselected hw
    rw [declaredWidth_iff hK hw, declares_iff_selected (selected_of_ok hselected)]
  · intro config phy allowed w hvalidated hw
    rw [declaredWidth_iff hK hw, declares_iff_agree (compatible_of_validate hvalidated)]

/-- A page with ISDU support, an octet of process data either way and an OPERATE capability
code. -/
def pageOfCode (code : UInt8) : List UInt8 :=
  [0x00, 0x00, 0x00, (code <<< 1) ||| 0x01, 0x11, 0x08, 0x08, 0x01, 0x23, 0x00, 0x00, 0x01,
    0x00, 0x00, 0x00, 0x00]

/-- What a page says, if it is accepted. -/
def decoded (page : List UInt8) : DeviceInfo :=
  (parseDirectParameterPage1 page).toOption.getD DeviceInfo.zero

/-- The configuration filled from a page. -/
def filled (page : List UInt8) : Config :=
  (selectConfigFromDeviceInfo (decoded page) (.bare .type0 0 0)).1

/-- A run into OPERATE with one cyclic exchange. -/
def exchanging : List (Env × Call) :=
  connecting ++ [(.quiet (reply 0 []), .tickAt .cycleDue 14),
    (.quiet (reply 0 [0x00]), .tickAt .cycleDue 16)]

/-- A typed port sends no TYPE_0 frame in OPERATE. -/
theorem askedAcyclic_typed {config : Config} (htype : config.mSeqType ≠ .type0)
    (log : List Obs) :
  Trace.Always (AskedAcyclic config) log
  := by
  induction log with
  | nil => trivial
  | cons o log ih =>
      refine ⟨ih, ?_⟩
      cases o with
      | sent st frame =>
          cases st with
          | operate =>
              intro hzero
              contradiction
          | _ => trivial
      | _ => trivial

/-- Two octets, declared by code 5, are exchanged with a configuration filled from the page,
which passes the check. -/
theorem declared_width_two :
  DeclaredWidth (decoded (pageOfCode 5)) (filled (pageOfCode 5))
      (run .reference (started (.quiet []) .full (filled (pageOfCode 5))) exchanging) ∧
    WidthsAgree (filled (pageOfCode 5)).mSeqType (decoded (pageOfCode 5)).operateMseqCode
  := by
  have hreach : Reach .reference ticksAndServices .full (filled (pageOfCode 5))
      (run .reference (started (.quiet []) .full (filled (pageOfCode 5))) exchanging) := by
    apply (Reach.start _ (by decide)).run
    decide +kernel
  obtain ⟨hfilled, hchecked⟩ :=
    declared_width_exact Iolinki.lawful_reference (decoded (pageOfCode 5))
  have hwidth := (hfilled (.bare .type0 0 0) _ _ _ (by decide) hreach).mpr
    ⟨.inr (.inr (by decide)), askedAcyclic_typed (by decide) _⟩
  exact ⟨hwidth, ((hchecked _ _ _ _ (by decide) hreach).mp hwidth).1⟩

/-- A device with eight octets, declared by code 6, gets a port that uses two, though the
configuration is filled from its page and passes the check. -/
theorem declared_width_eight :
  parseDirectParameterPage1 (pageOfCode 6) = .ok (decoded (pageOfCode 6)) ∧
    (selectConfigFromDeviceInfo (decoded (pageOfCode 6)) (.bare .type0 0 0)).2 = STATUS_OK ∧
    validateConfigAgainstDeviceInfo (decoded (pageOfCode 6)) (filled (pageOfCode 6))
      = STATUS_OK ∧
    Reach .reference ticksAndServices .full (filled (pageOfCode 6))
      (run .reference (started (.quiet []) .full (filled (pageOfCode 6))) exchanging) ∧
    (.sent .operate [0x00, 0x85, 0x00, 0x00, 0x00]) ∈
      (run .reference (started (.quiet []) .full (filled (pageOfCode 6))) exchanging).log ∧
    ¬ DeclaredWidth (decoded (pageOfCode 6)) (filled (pageOfCode 6))
      (run .reference (started (.quiet []) .full (filled (pageOfCode 6))) exchanging)
  := by
  refine ⟨rfl, by decide, by decide, ?_, ?_, ?_⟩
  · apply (Reach.start _ (by decide)).run
    decide +kernel
  · decide +kernel
  · intro hwidth
    exact absurd hwidth.1 (by decide +kernel)

end IolinkMaster
