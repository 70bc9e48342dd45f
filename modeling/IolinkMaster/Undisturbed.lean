import IolinkMaster.PowerOn
import IolinkMaster.ProcessData

/-!
# Undisturbed links

A port in OPERATE and a device on a link that loses nothing, while the application of the master
makes any calls at any time and the application of the device goes on by itself.  Every reply of the
device is accepted, once and in order, none is refused or missed, the port stays in OPERATE, and the
process data it reports are those of the last valid reply.
-/

namespace IolinkMaster

section

variable {μ : Type} (K : Iolinki) (A : Application μ) (config : Config)

/-! ### Runs of the system -/

/-- A tick, a service call of the application of the master, or a change of the memory of the
application of the device. -/
inductive Move (μ : Type) where
  | tick
  | service (call : Service)
  | device (m : μ)

/-- The system after a move. -/
def System.move (s : System μ) : Move μ → System μ
  | .tick => s.tick K A config
  | .service call => { s with world := runService s.world call }
  | .device m => { s with device := { s.device with memory := m } }

/-- The system after the moves `moves`. -/
def System.moves (s : System μ) (moves : List (Move μ)) : System μ :=
  moves.foldl (System.move K A config) s

/-- The system after each tick, the first one first. -/
def System.history (s : System μ) : List (Move μ) → List (System μ)
  | [] => []
  | .tick :: moves => s.tick K A config :: System.history (s.tick K A config) moves
  | move :: moves => System.history (s.move K A config move) moves

/-- The process data that are reported to a caller with a sufficient buffer. -/
def reportedPd (p : PortState) : Option (List UInt8) :=
  if (getPdIn p p.pdInLen).1 = STATUS_OK then some (getPdIn p p.pdInLen).2.2 else none

/-- The process data reported once a reply with those of the memory `m` has been accepted. -/
def Application.latest (pd : Option (List UInt8)) (m : μ) : Option (List UInt8) :=
  if A.pdValid m then some (A.pdIn m) else pd

end

section

variable {μ : Type} {K : Iolinki} {A : Application μ} {config : Config}

/-! ### Replies to any frame -/

/-- Only a readout has access to the diagnosis channel. -/
theorem phase_of_access {e : EventState} (h : eventChannelAccess e = none) :
  e.phase = .none
  := by
  rw [eventChannelAccess] at h
  split at h
  · assumption
  · contradiction
  · contradiction

/-- The frames of a slot, and what they leave. -/
theorem slotFrame_emission {p : PortState} (hstate : p.state = .operate) :
  Emission K p (slotFrame K p).1 (slotFrame K p).2.1 (slotFrame K p).2.2 p.startup.step
  := by
  rw [slotFrame]
  cases haccess : eventChannelAccess p.event with
  | some access =>
      obtain ⟨read, addr⟩ := access
      cases read with
      | true => exact .readEvent addr haccess
      | false => exact .writeEvent addr haccess
  | none =>
      have hphase := phase_of_access haccess
      cases hnext : isduNext p.isdu p.odLen with
      | some next => exact .isdu next.1 next.2 hphase hnext
      | none =>
          dsimp only
          split
          · next htype => exact .cyclicType0 hstate hphase hnext htype
          · next htype => exact .cyclic hstate hphase hnext (Bool.eq_false_iff.mpr htype)

/-- No frame of OPERATE is on the page channel. -/
theorem slotFrame_channel (hK : K.Lawful) {p : PortState} (hrests : p.isdu.RestsWhenDone) :
  mcChannel ((slotFrame K p).1.getD 0 0) ≠ .page
  := by
  cases haccess : eventChannelAccess p.event with
  | some access =>
      rw [slotFrame, haccess]
      dsimp only
      rw [(eventFrame_head hK p access.1 access.2).1, mcChannel_encode]
      decide
  | none =>
      have hphase := phase_of_access haccess
      cases hnext : isduNext p.isdu p.odLen with
      | some next =>
          obtain ⟨rest, hhead⟩ := IsduFrame.octets_head hK p next.1
          rw [slotFrame_isdu hphase (f := next.1) (s := next.2) hnext]
          dsimp only
          rw [hhead, List.getD_cons_zero, mcChannel_encode]
          decide
      | none =>
          obtain ⟨hprocess, -⟩ := slotFrame_cyclic hK hphase hnext hrests
          rw [hprocess]
          decide

/-- A reply to a frame has the width that the port frames. -/
theorem Device.respond_reply (d : Device μ) {frame : List UInt8}
    (hchannel : mcChannel (frame.getD 0 0) ≠ .page) :
  ∃ d' od, d.respond A K config frame = (d', A.reply K config d'.memory od) ∧
    ∀ p : PortState, p.rxOdExpected = mcIsRead (frame.getD 0 0) → od.length = odExpected config p
  := by
  have hnone : ∀ read, mcIsRead (frame.getD 0 0) = read → ∀ p : PortState,
      p.rxOdExpected = mcIsRead (frame.getD 0 0) →
      (noService config read).length = odExpected config p := by
    intro read hread p hp
    rw [← length_noService config p, hp, hread]
  rw [Device.respond]
  dsimp only
  cases hmc : mcChannel (frame.getD 0 0) with
  | page => contradiction
  | process => exact ⟨_, _, rfl, hnone _ rfl⟩
  | isdu =>
      dsimp only
      split
      · next hdirection =>
        refine ⟨_, _, rfl, ?_⟩
        intro p hp
        rw [d.length_onRead _ (odLenForType_pos _), odExpected, if_pos (.inr (by rw [hp, hdirection]))]
      · next hdirection =>
        exact ⟨_, _, rfl, hnone false (Bool.eq_false_iff.mpr hdirection)⟩
  | diagnosis =>
      dsimp only
      split
      · next hdirection =>
        refine ⟨_, _, rfl, ?_⟩
        intro p hp
        rw [length_padOd, odExpected, if_pos (.inr (by rw [hp, hdirection]))]
        rw [List.length_take]
        apply Nat.min_le_left
      · next hdirection =>
        exact ⟨_, _, rfl, hnone false (Bool.eq_false_iff.mpr hdirection)⟩

/-! ### Process data -/

/-- What is reported depends on the process data only. -/
theorem reportedPd_eq (p : PortState) :
  reportedPd p = if p.pdValid then some (p.pdIn.take p.pdInLen) else none
  := by
  rw [reportedPd, getPdIn, if_neg (Nat.lt_irrefl _)]
  cases p.pdValid <;> rfl

theorem reportedPd_congr {p q : PortState}
    (h : q.pdIn = p.pdIn ∧ q.pdInLen = p.pdInLen ∧ q.pdValid = p.pdValid) :
  reportedPd q = reportedPd p
  := by
  rw [reportedPd_eq, reportedPd_eq, h.1, h.2.1, h.2.2]

/-- The CKS octet of a reply tells whether its process data are valid. -/
theorem Application.cks_pdInvalid (A : Application μ) (hK : K.Lawful) (m : μ) (body : List UInt8) :
  (K.cks (A.flags m) body &&& CKS_PD_INVALID == 0) = A.pdValid m
  := by
  have hhigh := (cks_masked hK (A.flags_masked m) body).1
  have hmask : CKS_PD_INVALID = 0xC0 &&& CKS_PD_INVALID := by decide
  rw [hmask, ← UInt8.and_assoc, hhigh, flags]
  cases A.eventFlag m <;> cases A.pdValid m <;> decide

/-- An accepted reply brings the process data of the application. -/
theorem reportedPd_takes (hK : K.Lawful) (hflag : K.ReportsPdValid) (hfits : A.Fits config)
    (htype : config.mSeqType ≠ .type0) {p q : PortState} (h : Operating config p)
    (hcarries : carriesPd p = true) {m : μ} {od : List UInt8} (hod : od.length = odWidth p)
    (htakes : TakesPd K p (A.reply K config m od) p q.pdIn q.pdInLen q.pdValid) :
  reportedPd q = A.latest (reportedPd p) m
  := by
  rw [TakesPd, if_pos hcarries] at htakes
  obtain ⟨r, hr, hpd⟩ := htakes
  have hlen : p.config.pdInLen = (A.pdIn m).length := by rw [h.configured, hfits m]
  rw [hlen, ← hod, Application.reply, if_neg htype] at hr
  have hvalid : r.pdValid = A.pdValid m := by
    rw [hflag od (A.pdIn m) _ r hr, A.cks_pdInvalid hK]
  rw [reportedPd_congr (p := takePdIn p r) hpd, takePdIn, hvalid, Application.latest]
  cases hm : A.pdValid m with
  | false => rfl
  | true =>
      obtain ⟨-, -, -, hbody⟩ := decodeOperateResponse_some hK hr
      have hpdIn : r.pd = A.pdIn m := by
        rw [hbody (by rw [hvalid, hm]), deviceReply, List.append_assoc, List.drop_left,
          List.dropLast_concat]
      rw [if_pos rfl, reportedPd_eq]
      dsimp only
      rw [if_pos rfl, hpdIn, List.take_length, if_pos rfl]

/-! ### One move -/

/-- The system on an undisturbed link; the reply on the wire was made from the memory `answering`. -/
structure Live (K : Iolinki) (A : Application μ) (config : Config) (s : System μ)
    (answering : Option μ) : Prop where
  linked : ∃ od, Linked K config s od ∧ s.wire = answering.elim [] fun m => A.reply K config m od
  rests : s.world.port.isdu.RestsWhenDone

/-- Taking the on-request data of a reply leaves a completed service in no phase. -/
theorem restsWhenDone_takeOd {p : PortState} (od : List UInt8) (h : p.isdu.RestsWhenDone) :
  (takeOd p od).1.RestsWhenDone
  := by
  rw [takeOd]
  split
  · exact h
  · exact restsWhenDone_onOd od h

/-- The on-request data of a reply has the width that the port expects. -/
theorem Carries.length {p : PortState} {wire od : List UInt8} (h : Carries K config p wire od)
    (hne : wire ≠ []) :
  od.length = odExpected config p
  := by
  cases h with
  | silent => contradiction
  | reply flags od pd hflags hod hpd => exact hod

/-- A tick takes the reply on the wire, and the device answers the frame of its slot. -/
theorem Linked.tick (hK : K.Lawful) (hvalid : configRefused config = false) (hfits : A.Fits config)
    {s : System μ} {od : List UInt8} (hs : Linked K config s od)
    (hrests : s.world.port.isdu.RestsWhenDone) :
  Live K A config (s.tick K A config) (some (s.tick K A config).device.memory) ∧
    Smooth (onWire s.wire) s.world (s.tick K A config).world ∧
    ∃ u, Listened K s.wire od s.world u ∧
      reportedPd (s.tick K A config).world.port = reportedPd u.port
  := by
  obtain ⟨u, hheard, hpasses, hinput⟩ := hs.passes (A := A) hK hvalid
  have hoperating := hs.operating.ticked hheard.ticked
  have hisdu : u.port.isdu = (takeOd s.world.port od).1 := congrArg Prod.fst hheard.taken
  have hurests : u.port.isdu.RestsWhenDone := by
    rw [hisdu]
    exact restsWhenDone_takeOd od hrests
  have hchannel := slotFrame_channel hK hurests
  obtain ⟨d, od', hreceive, hod'⟩ := s.device.respond_reply (K := K) (A := A) hchannel
  obtain ⟨hlinked, hdevice, hwire⟩ := hpasses.linked hvalid hfits hs.operating hreceive hod'
  refine ⟨⟨⟨od', hlinked, ?_⟩, ?_⟩, hpasses.smooth, u, hheard, reportedPd_congr hinput⟩
  · rw [hwire, hdevice]
    rfl
  · rw [hpasses.isdu]
    exact (slotFrame_emission hoperating.state).completed hurests

/-- A tick on an undisturbed link reports the process data of the reply on the wire. -/
theorem Live.tick (hK : K.Lawful) (hvalid : configRefused config = false) (hfits : A.Fits config)
    {s : System μ} {answering : Option μ} (h : Live K A config s answering) :
  Live K A config (s.tick K A config) (some (s.tick K A config).device.memory) ∧
    Smooth (onWire s.wire) s.world (s.tick K A config).world ∧
    (K.ReportsPdValid → config.mSeqType ≠ .type0 →
      reportedPd (s.tick K A config).world.port
        = answering.toList.foldl A.latest (reportedPd s.world.port))
  := by
  obtain ⟨⟨od, hs, hwire⟩, hrests⟩ := h
  obtain ⟨hlive, hsmooth, u, hheard, hpd⟩ := hs.tick (A := A) hK hvalid hfits hrests
  refine ⟨hlive, hsmooth, ?_⟩
  intro hflag htype
  have htype0 : ¬ type0Operate s.world.port = true := by
    rw [hs.operating.type0_iff hvalid]
    exact htype
  have hcarries : carriesPd s.world.port = true := by
    simp [carriesPd, hs.operating.state, htype0]
  have hheld := hheard.input
  rw [hpd]
  cases answering with
  | none =>
      rw [if_pos (show s.wire = [] from hwire)] at hheld
      exact reportedPd_congr hheld
  | some m =>
      have hreply : s.wire = A.reply K config m od := hwire
      have hwidth : odWidth s.world.port
          = if s.world.port.rxOdExpected then s.world.port.odLen else 0 := by
        rw [odWidth, if_neg (by simp [hs.operating.state, htype0])]
      have hod : od.length = odWidth s.world.port := by
        rw [hs.carries.length (by rw [hreply]; exact A.reply_ne_nil m od), hwidth, odExpected,
          hs.operating.odLen]
        simp [htype]
      rw [hreply, if_neg (A.reply_ne_nil m od)] at hheld
      exact reportedPd_takes hK hflag hfits htype hs.operating hcarries hod hheld

/-- What a service observes is no reply and no disturbance. -/
theorem smooth_ofService {o : Obs} (h : o.ofService = true) :
  (!o.disturbed) = true ∧ o.reply = none
  := by
  cases o <;> first | exact ⟨rfl, rfl⟩ | contradiction

/-- A service step leaves the staged process data as long as the configuration demands, and expects
no answer to a diagnosis read that was not sent. -/
theorem linkFields_service {w v : World} (hstep : ServiceStep w v)
    (hconfig : w.port.config = config)
    (hpd : (pdOutOctets w.port).length = config.pdOutLen ∧ w.port.pdOutLen = config.pdOutLen) :
  ((pdOutOctets v.port).length = config.pdOutLen ∧ v.port.pdOutLen = config.pdOutLen) ∧
    (w.port.event.odExpected = false → v.port.event.odExpected = false)
  := by
  cases hstep with
  | tune h =>
      rw [World.put_port, pdOutOctets, h.pdOut, h.pdOutLen, h.event]
      exact ⟨hpd, id⟩
  | setPdOut data hlen =>
      rw [hconfig] at hlen
      refine ⟨⟨?_, hlen⟩, id⟩
      rw [pdOutOctets, List.take_length, hlen]
  | startEvent => exact ⟨hpd, fun _ => rfl⟩
  | _ => exact ⟨hpd, id⟩

/-- A service call leaves the link alone. -/
theorem Live.service {s : System μ} {answering : Option μ} (h : Live K A config s answering)
    (call : Service) :
  Live K A config { s with world := runService s.world call } answering ∧
    Smooth [] s.world (runService s.world call) ∧
    reportedPd (runService s.world call).port = reportedPd s.world.port
  := by
  have hpath := runService_path s.world call
  have huntouched := untouched_of_path hpath
  obtain ⟨os, hos, hlog⟩ := log_of_servicePath hpath
  obtain ⟨⟨od, hs, hwire⟩, hrests⟩ := h
  have hoperating := hs.operating
  have hkept : ∀ v, ServicePath s.world v →
      ((pdOutOctets v.port).length = config.pdOutLen ∧ v.port.pdOutLen = config.pdOutLen) ∧
      (s.world.port.event.odExpected = false → v.port.event.odExpected = false) ∧
      WellFormed config v.port := by
    intro v hv
    induction hv with
    | refl =>
        exact ⟨⟨hoperating.pdOutLen, hoperating.pdOutLen'⟩, id,
          ⟨config.portMode, hoperating.configured⟩, hoperating.odLen, hoperating.pdOutLen', hrests⟩
    | tail hpath' hstep ih =>
        obtain ⟨hpd, hexpected, hformed⟩ := ih
        have hconfig := (untouched_of_path hpath').config.trans hoperating.configured
        obtain ⟨hpd', hexpected'⟩ := linkFields_service hstep hconfig hpd
        exact ⟨hpd', fun h => hexpected' (hexpected h), wellFormed_service hstep hformed⟩
  obtain ⟨⟨hpdOut, hpdOutLen⟩, hexpected, hformed⟩ := hkept _ hpath
  refine ⟨⟨⟨od, ⟨⟨?_, ?_, ?_, ?_, ?_, hpdOut, hpdOutLen⟩, ?_, ?_, ?_, ?_⟩, hwire⟩, hformed.completed⟩,
    ?_, reportedPd_congr huntouched.pdIn⟩
  · exact huntouched.config.trans hoperating.configured
  · exact (congrArg PhyApi.send huntouched.phy).trans hoperating.send
  · exact (congrArg PhyApi.recvByte huntouched.phy).trans hoperating.recvByte
  · exact huntouched.state.trans hoperating.state
  · exact huntouched.odLen.trans hoperating.odLen
  · exact huntouched.rx.trans hs.drained
  · exact huntouched.awaiting.trans hs.answered
  · exact hs.carries.direction huntouched.rxOdExpected
  · intro hnil
    exact hexpected (hs.expected hnil)
  · rw [Smooth, hlog]
    exact Trace.adds_nothing (fun o ho => smooth_ofService (hos o ho)) _

/-- The memory of the device is no part of the link. -/
theorem Live.device {s : System μ} {answering : Option μ} (h : Live K A config s answering) (m : μ) :
  Live K A config { s with device := { s.device with memory := m } } answering
  := by
  obtain ⟨⟨od, ⟨hoperating, hdrained, hanswered, hcarries, hexpected⟩, hwire⟩, hrests⟩ := h
  exact ⟨⟨od, ⟨hoperating, hdrained, hanswered, hcarries, hexpected⟩, hwire⟩, hrests⟩

/-! ### Whole runs -/

/-- What a run on an undisturbed link does: the port stays in OPERATE; the replies it accepts, with
the one on the wire, are those of the device in order, and nothing is refused or missed; the process
data it reports are those of the last valid reply. -/
structure RunsUndisturbed (K : Iolinki) (A : Application μ) (config : Config) (s t : System μ)
    (answering : Option μ) (ticks : List (System μ)) : Prop where
  state : t.world.port.state = .operate
  replies : ∃ replies, Smooth replies s.world t.world ∧
    replies.reverse ++ onWire t.wire = onWire s.wire ++ ticks.map System.wire
  reported : K.ReportsPdValid → config.mSeqType ≠ .type0 →
    reportedPd t.world.port = (answering.toList ++ ticks.map fun s => s.device.memory).dropLast.foldl
      A.latest (reportedPd s.world.port)

/-- A move without a tick, before a run. -/
theorem RunsUndisturbed.after {s u t : System μ} {answering : Option μ} {ticks : List (System μ)}
    (h : RunsUndisturbed K A config u t answering ticks) (hwire : u.wire = s.wire)
    (hsmooth : Smooth [] s.world u.world)
    (hpd : reportedPd u.world.port = reportedPd s.world.port) :
  RunsUndisturbed K A config s t answering ticks
  := by
  obtain ⟨hstate, ⟨replies, hreplies, heq⟩, hreported⟩ := h
  refine ⟨hstate, ⟨replies, ?_, ?_⟩, ?_⟩
  · have hboth := hsmooth.trans hreplies
    rw [List.append_nil] at hboth
    exact hboth
  · rw [heq, hwire]
  · rw [← hpd]
    exact hreported

/-- Whatever the application of the master calls and whenever it does, and whatever the application
of the device does meanwhile: an undisturbed link stays so. -/
theorem link_undisturbed (hK : K.Lawful) (hvalid : configRefused config = false)
    (hfits : A.Fits config) {s : System μ} {answering : Option μ} (h : Live K A config s answering)
    (moves : List (Move μ)) :
  RunsUndisturbed K A config s (s.moves K A config moves) answering (s.history K A config moves)
  := by
  induction moves generalizing s answering with
  | nil =>
      obtain ⟨⟨od, hs, hwire⟩, -⟩ := h
      refine ⟨hs.operating.state, ⟨[], Trace.Adds.refl _ _ _, ?_⟩, fun _ _ => ?_⟩
      · exact (List.append_nil _).symm
      · cases answering <;> rfl
  | cons move moves ih =>
      cases move with
      | service call =>
          obtain ⟨hlive, hsmooth, hpd⟩ := h.service call
          exact (ih hlive).after rfl hsmooth hpd
      | device m => exact (ih (h.device m)).after rfl (Trace.Adds.refl _ _ _) rfl
      | tick =>
          obtain ⟨hlive, hsmooth, hpd⟩ := h.tick hK hvalid hfits
          obtain ⟨hstate, ⟨replies, hreplies, heq⟩, hreported⟩ := ih hlive
          refine ⟨hstate, ⟨replies ++ onWire s.wire, hsmooth.trans hreplies, ?_⟩, ?_⟩
          · have hone : (onWire s.wire).reverse = onWire s.wire := by
              rw [onWire]
              split <;> rfl
            obtain ⟨⟨od, -, hwire⟩, -⟩ := hlive
            have hnext : onWire (s.tick K A config).wire = [(s.tick K A config).wire] := by
              rw [onWire, if_neg]
              rw [hwire]
              exact A.reply_ne_nil _ _
            rw [List.reverse_append, hone, List.append_assoc, System.moves, List.foldl_cons]
            rw [hnext] at heq
            exact congrArg (onWire s.wire ++ ·) heq
          · intro hflag htype
            rw [System.moves, List.foldl_cons]
            refine (hreported hflag htype).trans ?_
            rw [hpd hflag htype, ← List.foldl_append, System.history, List.map_cons]
            congr 1
            rw [List.dropLast_append_of_ne_nil (List.cons_ne_nil _ _)]
            rfl

/-- Power-on leads to an undisturbed link. -/
theorem live_powerOn (hK : K.Lawful) (hvalid : configRefused config = false)
    (hmode : config.portMode = .iolink) (hchecks : startupValidationRequired config = false)
    (hfits : A.Fits config) {phy : PhyApi} (hsend : phy.send = true) (hrecv : phy.recvByte = true)
    (m : μ) :
  ∃ m', Live K A config ((System.tick K A config)^[5] (System.powerOn phy config m)) (some m')
  := by
  obtain ⟨⟨⟨od, hbetween⟩, hcleared, -⟩, -⟩ :=
    powerOn_rests (K := K) (A := A) hK hvalid hmode hchecks hfits hsend hrecv m
  have hrests : ((System.tick K A config)^[4]
      (System.powerOn phy config m)).world.port.isdu.RestsWhenDone := by
    intro hdone
    rw [hcleared.notDone] at hdone
    contradiction
  rw [Function.iterate_succ_apply']
  exact ⟨_, (hbetween.toLinked.tick hK hvalid hfits hrests).1⟩

end

/-- After power-on, calls of any kind between the ticks, and process data that are reported. -/
theorem link_undisturbed_calls :
  let s := (System.tick .reference parameterMemory (.bare .type2_1 1 1))^[5]
    (System.powerOn .full (.bare .type2_1 1 1) fun _ _ => [])
  let t := s.moves .reference parameterMemory (.bare .type2_1 1 1)
    [.tick, .service (.readIsdu 0x0010 0 16), .tick, .service .ackEvent, .tick,
      .service (.setPdOut [3]), .device (fun _ _ => [7]), .service (.verifyDataStorage [1]), .tick]
  t.world.port.state = .operate ∧ reportedPd t.world.port = some [0]
  := by
  have hvalid : configRefused (.bare .type2_1 1 1) = false := by decide
  have hsend : PhyApi.full.send = true := rfl
  obtain ⟨m, hlive⟩ := live_powerOn (A := parameterMemory) Iolinki.lawful_reference hvalid rfl rfl
    (fun _ => rfl) hsend rfl fun _ _ => []
  have hruns := link_undisturbed Iolinki.lawful_reference (by decide) (fun _ => rfl) hlive
    [.tick, .service (.readIsdu 0x0010 0 16), .tick, .service .ackEvent, .tick,
      .service (.setPdOut [3]), .device (fun _ _ => [7]), .service (.verifyDataStorage [1]), .tick]
  exact ⟨hruns.state, hruns.reported Iolinki.reportsPdValid_reference (by decide)⟩

end IolinkMaster
