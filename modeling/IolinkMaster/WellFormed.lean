import IolinkMaster.Runs

/-!
# Well-formed ports

What holds of a port in every state: its configuration and the widths derived from it, and
an ISDU service that is completed is in no phase of its transport.  A cyclic frame
therefore carries no octet of a service.
-/

namespace IolinkMaster

/-! ### Well-formed ports -/

/-- A completed service is in no phase of its transport. -/
def IsduState.RestsWhenDone (s : IsduState) : Prop := s.done = true → s.phase = .none

/-- A port set up for a configuration. -/
structure WellFormed (config : Config) (p : PortState) : Prop where
  configured : ∃ mode, p.config = { config with portMode := mode }
  odLen : p.odLen = odLenForType config.mSeqType
  pdOutLen : p.pdOutLen = config.pdOutLen
  completed : p.isdu.RestsWhenDone

/-- A port that has just been initialized is well formed. -/
theorem wellFormed_zeroPort (phy : PhyApi) {config config' : Config}
    (h : ∃ mode, config' = { config with portMode := mode }) :
  WellFormed config (zeroPort phy config')
  := by
  refine ⟨h, ?_, ?_, ?_⟩
  · obtain ⟨mode, rfl⟩ := h
    rfl
  · obtain ⟨mode, rfl⟩ := h
    rfl
  · intro hdone
    contradiction

/-- A response that is complete leaves the transport at rest. -/
theorem restsWhenDone_checkComplete {s : IsduState} (h : s.RestsWhenDone) :
  (isduCheckComplete s).1.RestsWhenDone
  := by
  simp only [isduCheckComplete, isduDecodeResponse]
  repeat' split
  all_goals first
    | apply h
    | intro _
      rfl

/-- Collecting an octet leaves a completed service at rest. -/
theorem restsWhenDone_collect {s : IsduState} (byte : UInt8) (h : s.RestsWhenDone) :
  (isduCollect s byte).1.RestsWhenDone
  := by
  simp only [isduCollect]
  repeat' split
  all_goals first
    | (apply restsWhenDone_checkComplete
       apply h)
    | apply h
    | intro _
      rfl

/-- Receiving leaves a completed service in no phase. -/
theorem restsWhenDone_onOd {s : IsduState} (od : List UInt8) (h : s.RestsWhenDone) :
  (isduOnOd s od).RestsWhenDone
  := by
  apply Scan.guarded_preserves (P := IsduState.RestsWhenDone) _ h
  intro t byte ht
  simp only [isduOnOctet]
  split
  · next hwait =>
    split
    · apply ht
    · apply restsWhenDone_collect
      intro hdone
      rw [ht hdone] at hwait
      contradiction
  · apply restsWhenDone_collect byte ht

section

variable {config : Config} {w v : World}

/-- Service calls keep a port well formed. -/
theorem wellFormed_service (hstep : ServiceStep w v) (h : WellFormed config w.port) :
  WellFormed config v.port
  := by
  have hcleared : ∀ s : IsduState, s.done = false → s.RestsWhenDone := by
    intro s hs hdone
    rw [hs] at hdone
    contradiction
  cases hstep with
  | tune hp =>
      refine ⟨?_, hp.odLen.trans h.odLen, hp.pdOutLen.trans h.pdOutLen, ?_⟩
      · rw [World.put_port, hp.config]
        apply h.configured
      · rw [World.put_port, hp.isdu]
        apply h.completed
  | startRead | startWrite | giveUpRead | giveUpWrite | collectRead | collectPage
  | collectWrite =>
      exact ⟨h.configured, h.odLen, h.pdOutLen, hcleared _ rfl⟩
  | setPdOut data hlen =>
      refine ⟨h.configured, h.odLen, ?_, h.completed⟩
      obtain ⟨mode, hmode⟩ := h.configured
      rw [hmode] at hlen
      apply hlen
  | note | refuseWrite | pendingWrite | startEvent | consumeEvent =>
      exact ⟨h.configured, h.odLen, h.pdOutLen, h.completed⟩

/-- What a service or a failed hook does keeps a port well formed. -/
theorem wellFormed_control (hstep : ControlStep w v) (h : WellFormed config w.port) :
  WellFormed config v.port
  := by
  cases hstep with
  | service hstep => apply wellFormed_service hstep h
  | fail => exact ⟨h.configured, h.odLen, h.pdOutLen, h.completed⟩

/-- Routing on-request data keeps a port well formed. -/
theorem wellFormed_routeOd (od : List UInt8) (h : WellFormed config w.port) :
  WellFormed config (routeOd w od).port
  := by
  simp only [routeOd]
  split
  · split
    · exact ⟨h.configured, h.odLen, h.pdOutLen, h.completed⟩
    · exact ⟨h.configured, h.odLen, h.pdOutLen, h.completed⟩
  · exact ⟨h.configured, h.odLen, h.pdOutLen, restsWhenDone_onOd od h.completed⟩

/-- The judgement of a reply keeps a port well formed. -/
theorem wellFormed_judge {K : Iolinki} {data : List UInt8} (hstep : JudgeStep K data w v)
    (h : WellFormed config w.port) :
  WellFormed config v.port
  := by
  cases hstep with
  | @accept u pdIn pdInLen pdValid hstate hack hwidth hcks hhandler hpd =>
      have haccepted : WellFormed config (accepted w data).port :=
        ⟨h.configured, h.odLen, h.pdOutLen, h.completed⟩
      have hu : WellFormed config u.port :=
        hhandler.keeps (I := fun u => WellFormed config u.port)
          (fun _ _ => wellFormed_service) haccepted
      have hrouted := wellFormed_routeOd (data.take (odWidth w.port)) hu
      exact ⟨hrouted.configured, hrouted.odLen, hrouted.pdOutLen, hrouted.completed⟩
  | _ => exact ⟨h.configured, h.odLen, h.pdOutLen, h.completed⟩

/-- Receiving keeps a port well formed. -/
theorem wellFormed_receive {K : Iolinki} {judged : World → List UInt8 → Prop}
    (hstep : ReceiveStep K judged w v) (h : WellFormed config w.port) :
  WellFormed config v.port
  := by
  cases hstep with
  | control hstep => apply wellFormed_control hstep h
  | recv | clearRx => exact ⟨h.configured, h.odLen, h.pdOutLen, h.completed⟩
  | judge data hjudged hstep => apply wellFormed_judge hstep h

/-- Any reception keeps a port well formed. -/
theorem wellFormed_receivePath {K : Iolinki} {judged : World → List UInt8 → Prop}
    (hpath : ReceivePath K judged w v) (h : WellFormed config w.port) :
  WellFormed config v.port
  := by
  induction hpath with
  | refl => apply h
  | tail _ hstep ih => apply wellFormed_receive hstep ih

/-- A frame leaves a completed service in no phase. -/
theorem Emission.completed {K : Iolinki} {p : PortState} {frame : List UInt8} {s : IsduState}
    {e : EventState} {step : StartupStep} (h : Emission K p frame s e step)
    (hp : p.isdu.RestsWhenDone) :
  s.RestsWhenDone
  := by
  obtain ⟨pos, phase, flowctrl, abort, idle, hphase, rfl⟩ := h.moves
  intro hdone
  have hnone := hp hdone
  rcases hphase with rfl | ⟨hrequest, -⟩
  · apply hnone
  · rw [hnone] at hrequest
    contradiction

/-- A slot keeps a port well formed. -/
theorem wellFormed_slot {K : Iolinki} {ready : World → Prop} (hstep : SlotStep K ready w v)
    (h : WellFormed config w.port) :
  WellFormed config v.port
  := by
  cases hstep with
  | control hstep => apply wellFormed_control hstep h
  | send hstate hopen hemit =>
      exact ⟨h.configured, h.odLen, h.pdOutLen, hemit.completed h.completed⟩
  | sendFailed sent e' hstate hopen hemit =>
      exact ⟨h.configured, h.odLen, h.pdOutLen, hemit.completed h.completed⟩
  | _ => exact ⟨h.configured, h.odLen, h.pdOutLen, h.completed⟩

/-- A response timeout keeps a port well formed. -/
theorem wellFormed_timeout {due : World → Bool → Bool → Prop} (hstep : TimeoutStep due w v)
    (h : WellFormed config w.port) :
  WellFormed config v.port
  := by
  cases hstep with
  | control hstep => apply wellFormed_control hstep h
  | _ => exact ⟨h.configured, h.odLen, h.pdOutLen, h.completed⟩

end

/-! ### Runs of well-formed ports -/

/-- Every step of a well-formed port keeps the invariant `I` as long as the observations satisfy
`C`. -/
structure KeptFormed (K : Iolinki) (config : Config) (C : List Obs → Prop) (I : World → Prop) :
    Prop where
  closed : Trace.Closed C
  control : ∀ ⦃w v : World⦄, ControlStep w v → WellFormed config w.port → I w → C v.log → I v
  receive : ∀ ⦃w v : World⦄, ReceiveStep K (fun _ _ => True) w v → WellFormed config w.port →
    I w → C v.log → I v
  slot : ∀ ⦃w v : World⦄, SlotStep K (fun _ => True) w v → WellFormed config w.port →
    I w → C v.log → I v
  timeout : ∀ ⦃w v : World⦄, TimeoutStep (fun _ _ _ => True) w v → WellFormed config w.port →
    I w → C v.log → I v

section

variable {K : Iolinki} {config : Config} {C : List Obs → Prop} {I : World → Prop}
  (h : KeptFormed K config C I)
include h

/-- Every step keeps the invariant together with the form of the port. -/
theorem KeptFormed.kept :
  Kept K (fun _ _ => True) (fun _ => True) (fun _ _ _ => True) C
    (fun w => WellFormed config w.port ∧ I w)
  := by
  constructor
  · apply h.closed
  · rintro w v hstep ⟨hformed, hI⟩ hC
    exact ⟨wellFormed_control hstep hformed, h.control hstep hformed hI hC⟩
  · rintro w v hstep ⟨hformed, hI⟩ hC
    exact ⟨wellFormed_receive hstep hformed, h.receive hstep hformed hI hC⟩
  · rintro w v hstep ⟨hformed, hI⟩ hC
    exact ⟨wellFormed_slot hstep hformed, h.slot hstep hformed hI hC⟩
  · rintro w v hstep ⟨hformed, hI⟩ hC
    exact ⟨wellFormed_timeout hstep hformed, h.timeout hstep hformed hI hC⟩

/-- What every step of a well-formed port keeps, and every initialization establishes, holds
after every run whose observations satisfy the condition. -/
theorem KeptFormed.reachable (hK : K.Lawful) {phy : PhyApi}
    (hinit : I (initialWorld phy config))
    (htick : ∀ (w : World) (now : UInt32), I w → I (w.emit (.tick now)))
    (hrenew : ∀ (w : World) (mode : PortMode), WellFormed config w.port → I w →
      I (renewed w mode))
    {allowed : Env → World → Call → Prop} {w : World} (hw : Reach K allowed phy config w)
    (hC : C w.log) :
  WellFormed config w.port ∧ I w
  := by
  apply h.kept.reachCalls hK _ _ _ hw hC
  · intro _ _
    exact ⟨wellFormed_zeroPort phy ⟨config.portMode, rfl⟩, hinit⟩
  · rintro w now ⟨hformed, hI⟩
    exact ⟨hformed, htick w now hI⟩
  · rintro w mode ⟨hformed, hI⟩
    obtain ⟨mode', hmode⟩ := hformed.configured
    exact ⟨wellFormed_zeroPort _ ⟨mode, by rw [hmode]⟩, hrenew w mode hformed hI⟩

end

/-! ### The Master Command of a frame -/

section

variable {K : Iolinki} (hK : K.Lawful) (p : PortState)
include hK

/-- The Master Command of a frame of the diagnosis channel. -/
theorem eventFrame_command (read : Bool) (addr : Nat) :
  (eventFrame K p read addr).getD 0 0 = encodeMasterCommand read .diagnosis (UInt8.ofNat addr)
  := by
  simp only [eventFrame]
  split
  · split
    · next hread => rw [hK.encodeType0_eq]; rfl
    · next hread => rw [hK.encodeType0Write_eq]; rfl
  · rfl

/-- The Master Command of a frame of the ISDU channel. -/
theorem octets_command (f : IsduFrame) :
  (f.octets K p).getD 0 0 = encodeMasterCommand f.read .isdu f.flowctrl
  := by
  obtain ⟨rest, hrest⟩ := f.octets_head hK p
  rw [hrest]
  rfl

/-- The Master Command of the write of DeviceOperate. -/
theorem deviceOperateMessage_command :
  (deviceOperateMessage K).getD 0 0
    = encodeMasterCommand false .page (UInt8.ofNat DPP1_OFF_MASTER_COMMAND)
  := by
  rw [deviceOperateMessage, hK.encodeType0Write_eq]
  rfl

/-- The cyclic frame of a TYPE_0 port is an idle octet in place of a Master Command. -/
theorem type0CyclicFrame_command (od : List UInt8) :
  (type0CyclicFrame K od).getD 0 0 = od.getD 0 0
  := by
  rw [type0CyclicFrame, hK.encodeType0_eq]
  rfl

end

/-- A cyclic frame carries no octet of a service and does not move the transport. -/
theorem isduFillOd_idle {s : IsduState} {n : Nat} (h : s.RestsWhenDone)
    (hnext : isduNext s n = none) (k : Nat) :
  isduFillOd s k = (List.replicate k 0, s)
  := by
  have hidle : s.op = .none ∨ s.done = true := by
    simp only [isduNext] at hnext
    split at hnext
    · contradiction
    · split at hnext
      · contradiction
      · split at hnext
        · next hidle => apply hidle
        · split at hnext
          · contradiction
          · contradiction
  rw [isduFillOd]
  rcases hidle with hop | hdone
  · rw [if_pos hop]
    simp [padOd]
  · rw [h hdone]
    split
    · simp [padOd]
    · simp [padOd]

end IolinkMaster
