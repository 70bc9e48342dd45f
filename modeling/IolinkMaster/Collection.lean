import IolinkMaster.Routing

/-!
# What an ISDU transfer collects

In an undisturbed run on-request data reaches the acyclic service whose read it answers and
nothing else, and an ISDU transfer collects the on-request data of the accepted replies to its own
reads and no other octets, whatever event services run beside it.
-/

namespace IolinkMaster

/-- The transport collects for the transfer in progress, and the read it waits for is one of the
transfer. -/
structure Tuned (config : Config) (w : World) : Prop where
  attuned : w.port.isdu.Attuned (transfer (odLenForType config.mSeqType) w.log)
  own : duty w.log = .asked .isdu → isduReceiving w.port.isdu = true →
    ∀ t ∈ transfer (odLenForType config.mSeqType) w.log, t.polled = true

section

variable {K : Iolinki} {config : Config} {w v : World}

/-! ### Quiet steps -/

/-- A step that leaves the transport and the transfer alone. -/
theorem Tuned.quiet (h : Tuned config w) (hisdu : v.port.isdu = w.port.isdu)
    (htransfer : transfer (odLenForType config.mSeqType) v.log
      = transfer (odLenForType config.mSeqType) w.log)
    (hduty : duty v.log = .asked .isdu → duty w.log = .asked .isdu) :
  Tuned config v
  := by
  constructor
  · rw [hisdu, htransfer]
    apply h.attuned
  · rw [hisdu, htransfer]
    intro hasked
    apply h.own (hduty hasked)

/-- A transport whose octets count as sent still follows its transfer. -/
theorem IsduState.Follows.lost {s : IsduState} {t r : Transfer} (h : s.Follows t)
    (hpolled : r.polled = true → t.polled = true) (hreplied : r.replied = t.replied) :
  s.Follows { r with unsent := 0 }
  := by
  refine ⟨h.sound, ?_, ?_, fun _ _ => rfl, fun hr => h.polled (hpolled hr), h.fresh⟩
  · change s.Collected (responseOctets r.replied)
    rw [hreplied]
    apply h.collected
  · intro hdone hphase
    obtain ⟨hpos, hlen, -⟩ := h.sending hdone hphase
    exact ⟨hpos, hlen, Nat.zero_le _⟩

/-- A transfer whose request is lost goes on without it. -/
theorem IsduState.Attuned.lost {s : IsduState} {t : Option Transfer} (h : s.Attuned t) :
  s.Attuned (t.map fun r => { r with unsent := 0 })
  := by
  intro hop
  obtain ⟨r, rfl, hfollows⟩ := h hop
  exact ⟨_, rfl, hfollows.lost id rfl⟩

/-- The error state is latched. -/
theorem Tuned.fail {log : List Obs} {p : PortState}
    (h : p.isdu.Attuned (transfer (odLenForType config.mSeqType) log)) :
  Tuned config ⟨p, .enter .error :: log⟩
  := by
  constructor
  · exact h.lost
  · intro hasked
    contradiction

/-! ### Service calls -/

/-- A transport that takes octets after a step of a service call took them before. -/
theorem receiving_service (odLen : Nat) (hstep : ServiceStep w v)
    (hrecv : isduReceiving v.port.isdu = true) :
  v.port.isdu = w.port.isdu ∧ transfer odLen v.log = transfer odLen w.log
  := by
  cases hstep with
  | tune hp => exact ⟨hp.isdu, rfl⟩
  | @note o ho =>
      refine ⟨rfl, transfer_service ?_ ?_ ?_⟩
      · cases o <;> first | rfl | contradiction
      · rintro s rfl
        contradiction
      · rintro op i j d r rfl
        contradiction
  | startRead | startWrite | giveUpRead | giveUpWrite | collectRead | collectPage
  | collectWrite => contradiction
  | refuseWrite | pendingWrite | startEvent | consumeEvent | setPdOut => exact ⟨rfl, rfl⟩

/-- Service calls start and end transfers with their service. -/
theorem tuned_service (hstep : ServiceStep w v) (h : Tuned config w) :
  Tuned config v
  := by
  constructor
  · exact attuned_service (f := id) (fun _ _ => rfl) hstep h.attuned
  · intro hasked hrecv
    obtain ⟨hisdu, htransfer⟩ := receiving_service (odLenForType config.mSeqType) hstep hrecv
    rw [duty_service hstep] at hasked
    rw [hisdu] at hrecv
    rw [htransfer]
    apply h.own hasked hrecv

/-- What a service or a failed hook does keeps a transfer with its service. -/
theorem tuned_control (hstep : ControlStep w v) (h : Tuned config w) :
  Tuned config v
  := by
  cases hstep with
  | service hstep => apply tuned_service hstep h
  | fail => exact Tuned.fail h.attuned

/-! ### Judged replies -/

/-- On-request data goes to the ISDU transport, or leaves it alone. -/
theorem routeOd_isdu (u : World) (od : List UInt8) :
  (routeOd u od).port.isdu = isduOnOd u.port.isdu od ∧
      (routeOd u od).log = isduObserved u.port.isdu od ++ u.log ∨
    (routeOd u od).port.isdu = u.port.isdu ∧
      ∃ o, (o = .eventOd od ∨ o = .dropOd od) ∧ (routeOd u od).log = o :: u.log
  := by
  simp only [routeOd]
  split
  · split
    · exact .inr ⟨rfl, _, .inl rfl, rfl⟩
    · exact .inr ⟨rfl, _, .inr rfl, rfl⟩
  · exact .inl ⟨rfl, rfl⟩

/-- Handing octets to the transport leaves the transfer as it is. -/
theorem transfer_observed (odLen : Nat) (s : IsduState) (od : List UInt8) (log : List Obs) :
  transfer odLen (isduObserved s od ++ log) = transfer odLen log ∧
    duty (isduObserved s od ++ log) = .free
  := by
  simp only [isduObserved]
  split <;> exact ⟨rfl, rfl⟩

/-- The delivery of on-request data to the transport is among the observations. -/
theorem delivered_observed {s : IsduState} {od : List UInt8} {log : List Obs}
    (h : Trace.Always (Delivered config) (isduObserved s od ++ log)) :
  Delivered config log (.isduOd od)
  := by
  simp only [isduObserved] at h
  split at h
  · exact h.1.2
  · exact h.2

/-- The reply to a read of the transfer adds to what the transport collects. -/
theorem attuned_reply (h : Tuned config w) (hasked : duty w.log = .asked .isdu)
    (od : List UInt8) :
  (isduOnOd w.port.isdu od).Attuned
    ((transfer (odLenForType config.mSeqType) w.log).map (Transfer.reply od))
  := by
  intro hop
  rw [(sameRequest_onOd w.port.isdu od).1] at hop
  obtain ⟨t, ht, hfollows⟩ := h.attuned hop
  refine ⟨t.reply od, by rw [ht]; rfl, ?_⟩
  rw [Transfer.reply]
  cases hpolled : t.polled with
  | true =>
      have hheard := hfollows.hear hop (hfollows.polled hpolled) od
      rw [hpolled] at hheard
      rw [if_pos rfl]
      apply hheard
  | false =>
      have hdeaf : isduReceiving w.port.isdu = false := by
        by_contra hrecv
        rw [Bool.not_eq_false] at hrecv
        rw [h.own hasked hrecv t ht] at hpolled
        contradiction
      rw [isduOnOd_of_not_receiving od hdeaf, if_neg (by decide)]
      apply hfollows

/-- The calls of an event handler start and end transfers with their service. -/
theorem attuned_servicePath {odLen : Nat} {f : IsduState → IsduState}
    (hf : ∀ s, isduReceiving s = false → f s = s) (hpath : ServicePath w v)
    (h : (f w.port.isdu).Attuned (transfer odLen w.log)) :
  (f v.port.isdu).Attuned (transfer odLen v.log)
  := by
  apply hpath.keeps (I := fun v => (f v.port.isdu).Attuned (transfer odLen v.log)) _ h
  intro x y hstep hx
  apply attuned_service hf hstep hx

/-- An accepted reply extends the transfer exactly as it extends the response. -/
theorem tuned_accept {data : List UInt8} {u : World} (hhandler : ServicePath (accepted w data) u)
    (hrouted : Routed config w) (h : Tuned config w)
    (hdelivered : Trace.Always (Delivered config) (routeOd u (data.take (odWidth w.port))).log)
    (hC : Trace.Always (Undisturbed config) (accepted w data).log) :
  Tuned config (routeOd u (data.take (odWidth w.port)))
  := by
  generalize hod : data.take (odWidth w.port) = od at *
  have haccepted : (accepted w data).log = .accept w.port.state data (some od) :: w.log := by
    rw [accepted, hod]
  have hduty : duty u.log = dutyStep (.accept w.port.state data (some od)) (duty w.log) := by
    rw [duty_servicePath hhandler, haccepted, duty_cons]
  have hdeaf : ∀ s, isduReceiving s = false → isduOnOd s od = s := by
    intro s hs
    apply isduOnOd_of_not_receiving od hs
  rw [haccepted] at hC
  rcases routeOd_isdu u od with ⟨hisdu, hlog⟩ | ⟨hisdu, o, ho, hlog⟩
  · -- The transport gets the octets, so they answer no diagnosis read.
    rw [hlog] at hdelivered
    have hdue := delivered_observed hdelivered
    rw [Delivered, hduty] at hdue
    obtain ⟨htransfer, hfree⟩ :=
      transfer_observed (odLenForType config.mSeqType) u.port.isdu od u.log
    constructor
    · rw [hisdu, hlog, htransfer]
      apply attuned_servicePath hdeaf hhandler
      rw [haccepted]
      change (isduOnOd w.port.isdu od).Attuned _
      rcases hrouted.settled with hnone | ⟨c, hasked⟩
      · have hspare := (hC.2.2.2 od rfl hnone).2
        simp only [transfer, hnone, reduceCtorEq, if_false]
        intro hop
        rw [(sameRequest_onOd w.port.isdu od).1] at hop
        obtain ⟨t, ht, hfollows⟩ := h.attuned hop
        exact ⟨t, ht, hfollows.ignore hop (hspare t ht)⟩
      · cases c with
        | isdu =>
            simp only [transfer, hasked, if_true]
            apply attuned_reply h hasked
        | diagnosis =>
            rw [hasked] at hdue
            contradiction
    · rw [hlog, hfree]
      intro hasked
      contradiction
  · -- The transport gets nothing, so the octets answer none of its reads.
    rw [hlog] at hdelivered
    have hdue := hdelivered.2
    rw [Delivered, hduty] at hdue
    have hsame : transfer (odLenForType config.mSeqType) (o :: u.log)
        = transfer (odLenForType config.mSeqType) u.log := by
      rcases ho with rfl | rfl <;> rfl
    have hfree : duty (o :: u.log) = .free := by
      rcases ho with rfl | rfl <;> rfl
    constructor
    · rw [hisdu, hlog, hsame]
      apply attuned_servicePath (f := id) (fun _ _ => rfl) hhandler
      rw [haccepted]
      have hnot : duty w.log ≠ .asked .isdu := by
        intro hasked
        rw [hasked] at hdue
        rcases ho with rfl | rfl
        · simp [dutyStep, discharges, Acyclic.deliver, Obs.ofService, Obs.neutral] at hdue
        · simp [dutyStep, discharges, Acyclic.deliver, Obs.ofService, Obs.neutral] at hdue
      simp only [transfer, hnot, if_false]
      apply h.attuned
    · rw [hlog, hfree]
      intro hasked
      contradiction

/-- The judgement of a reply keeps a transfer with its service. -/
theorem tuned_judge {data : List UInt8} (hstep : JudgeStep K data w v)
    (hrouted : Routed config w) (hv : Routed config v) (h : Tuned config w)
    (hC : Trace.Always (Undisturbed config) v.log) :
  Tuned config v
  := by
  cases hstep with
  | unframed | rejectTest | rejectRetry => exact h.quiet rfl rfl id
  | rejectLost => exact h.quiet rfl rfl (fun hasked => by contradiction)
  | acceptTest | acceptAck => exact h.quiet rfl rfl (fun hasked => by contradiction)
  | @accept u pdIn pdInLen pdValid hstate hack hwidth hcks hhandler hpd =>
      have haccept : Trace.Always (Undisturbed config) (accepted w data).log :=
        Trace.closed_always _ ((extends_service.path hhandler).trans (routeOd_extends _ _)) hC
      exact (tuned_accept hhandler hrouted h hv.always haccept).quiet rfl rfl id

/-- Receiving keeps a transfer with its service. -/
theorem tuned_receive {judged : World → List UInt8 → Prop} (hstep : ReceiveStep K judged w v)
    (hrouted : Routed config w) (hv : Routed config v) (h : Tuned config w)
    (hC : Trace.Always (Undisturbed config) v.log) :
  Tuned config v
  := by
  cases hstep with
  | control hstep => apply tuned_control hstep h
  | recv | clearRx => exact h.quiet rfl rfl id
  | judge data hjudged hstep => apply tuned_judge hstep hrouted hv h hC

/-! ### Slots and timeouts -/

/-- A frame that is none of the ISDU channel is not one of the transfer. -/
theorem transfer_other {odLen : Nat} {st : MasterState} {frame : List UInt8}
    (hframe : isduAccess frame = none) (log : List Obs) :
  transfer odLen (.sent st frame :: log) = transfer odLen log
  := by
  have hsame : Transfer.send odLen frame = id := by
    funext t
    rw [Transfer.send, hframe]
    rfl
  rw [transfer, hsame, Option.map_id_fun, id_eq]

/-- A frame that goes out in a slot leaves the transport in step with the transfer. -/
theorem attuned_emission (hK : K.Lawful) {frame : List UInt8} {s : IsduState} {e : EventState}
    {step : StartupStep} (hemit : Emission K w.port frame s e step)
    (hformed : WellFormed config w.port) (h : Tuned config w) (st : MasterState) :
  s.Attuned (transfer (odLenForType config.mSeqType) (.sent st frame :: w.log))
  := by
  rcases hemit.channel hK hformed.completed with ⟨f, rfl, hnext⟩ | ⟨hother, rfl⟩
  · obtain ⟨pos, phase, flowctrl, abort, idle, -, hmoves⟩ := isduNext_moves hnext
    intro hop
    rw [hmoves] at hop
    obtain ⟨t, ht, hfollows⟩ := h.attuned hop
    rw [hformed.odLen] at hnext
    refine ⟨_, ?_, hfollows.next hK hop hnext w.port⟩
    rw [transfer, ht]
    rfl
  · rw [transfer_other hother]
    apply h.attuned

/-- A read on the ISDU channel is one of the transfer. -/
theorem polled_sent {st : MasterState} {frame : List UInt8} {log : List Obs} {odLen : Nat}
    (hasked : askedBy frame = .asked .isdu) :
  ∀ t ∈ transfer odLen (.sent st frame :: log), t.polled = true
  := by
  have hread : isduAccess frame = some (true, mcAddress (frame.getD 0 0)) := by
    obtain ⟨hacyclic, hdirection⟩ := askedBy_read hasked
    simp only [acyclicRead, hdirection, if_true] at hacyclic
    cases hchannel : mcChannel (frame.getD 0 0) with
    | isdu => simp only [isduAccess, hchannel, hdirection, if_true]
    | diagnosis | process | page =>
        rw [hchannel] at hacyclic
        contradiction
  intro t ht
  rw [transfer, Option.mem_map] at ht
  obtain ⟨r, -, rfl⟩ := ht
  rw [Transfer.send, hread]

/-- A frame of a slot goes on with the transfer as it goes on with its service. -/
theorem tuned_slot (hK : K.Lawful) {ready : World → Prop} (hstep : SlotStep K ready w v)
    (hformed : WellFormed config w.port) (h : Tuned config w) :
  Tuned config v
  := by
  cases hstep with
  | control hstep => apply tuned_control hstep h
  | slot | callWakeUp | restep | count | arm => exact h.quiet rfl rfl id
  | @send frame s e step hstate hopen hemit =>
      refine ⟨attuned_emission hK hemit hformed h _, ?_⟩
      intro hasked _
      rw [duty_sent hstate] at hasked
      exact polled_sent hasked
  | @sendFailed sent frame s e step e' hstate hopen hemit =>
      have hsent := attuned_emission hK hemit hformed h w.port.state
      cases sent with
      | true => exact Tuned.fail hsent
      | false =>
          refine ⟨?_, fun hasked => by contradiction⟩
          -- The transport has moved on although nothing was sent.
          intro hop
          obtain ⟨r, hr, hfollows⟩ := hsent hop
          rw [transfer, Option.map_eq_some_iff] at hr
          obtain ⟨t, ht, rfl⟩ := hr
          refine ⟨{ t with unsent := 0 }, ?_, hfollows.lost ?_ ?_⟩
          · change (transfer (odLenForType config.mSeqType) w.log).map _ = _
            rw [ht]
            rfl
          · intro hpolled
            rw [Transfer.send]
            split <;> first | rfl | apply hpolled
          · rw [Transfer.send]
            split <;> rfl
  | wake =>
      exact h.quiet rfl (transfer_other (isduAccess_startup hK (.inl rfl)) _)
        (fun hasked => by contradiction)
  | test =>
      exact h.quiet rfl (transfer_other (isduAccess_startup hK (.inr rfl)) _)
        (fun hasked => by contradiction)
  | startupFailed frame hstate hframe =>
      apply Tuned.fail
      rw [transfer_other (isduAccess_startup hK hframe)]
      apply h.attuned

/-- A response timeout keeps a transfer with its service. -/
theorem tuned_timeout {due : World → Bool → Bool → Prop} (hstep : TimeoutStep due w v)
    (h : Tuned config w) :
  Tuned config v
  := by
  cases hstep with
  | control hstep => apply tuned_control hstep h
  | clearRx | ignored | count | restep => exact h.quiet rfl rfl id
  | broken => exact Tuned.fail h.attuned
  | lost => exact h.quiet rfl rfl (fun hasked => by contradiction)

end

/-! ### Runs -/

/-- Undisturbed runs deliver, and collect for the transfer in progress. -/
theorem kept_tuned {K : Iolinki} (hK : K.Lawful) (config : Config) :
  KeptFormed K config (Trace.Always (Undisturbed config))
    (fun w => Routed config w ∧ Tuned config w)
  := by
  constructor
  · apply Trace.closed_always
  · rintro w v hstep _ ⟨hrouted, h⟩ hC
    exact ⟨routed_control hstep hrouted hC, tuned_control hstep h⟩
  · rintro w v hstep hformed ⟨hrouted, h⟩ hC
    have hv := routed_receive hstep hformed hrouted hC
    exact ⟨hv, tuned_receive hstep hrouted hv h hC⟩
  · rintro w v hstep hformed ⟨hrouted, h⟩ hC
    exact ⟨routed_slot hK hstep hformed hrouted hC, tuned_slot hK hstep hformed h⟩
  · rintro w v hstep _ ⟨hrouted, h⟩ hC
    exact ⟨routed_timeout hstep hrouted hC, tuned_timeout hstep h⟩

/-- An initialized port has no service. -/
theorem tuned_zeroPort (phy : PhyApi) (config config' : Config) (st : MasterState)
    (log : List Obs) :
  Tuned config ⟨zeroPort phy config', .enter st :: log⟩
  := by
  constructor
  · intro hop
    exact absurd rfl hop
  · intro hasked
    contradiction

/-- In every undisturbed run the on-request data of the accepted reply to a read on the ISDU
channel reaches the ISDU transport and that of a read on the diagnosis channel reaches the
event memory, as a whole, alone and without delay, no other reaches the event memory, and an ISDU
transfer has collected the on-request data of the accepted replies to its own reads and nothing
else. -/
theorem acyclic_od_delivered {K : Iolinki} (hK : K.Lawful) {phy : PhyApi} {config : Config}
    {allowed : Env → World → Call → Prop} {w : World} (hw : Reach K allowed phy config w)
    (hC : Trace.Always (Undisturbed config) w.log) :
  Trace.Always (Delivered config) w.log ∧ Settled w.log ∧
    (w.port.isdu.op ≠ .none → ∃ t, transfer (odLenForType config.mSeqType) w.log = some t ∧
      w.port.isdu.Collected (responseOctets t.replied))
  := by
  have htuned : WellFormed config w.port ∧ Routed config w ∧ Tuned config w := by
    apply (kept_tuned hK config).reachable hK _ _ _ hw hC
    · refine ⟨routed_zeroPort (Trace.always_nil _) (.inl rfl) phy config, ?_⟩
      exact tuned_zeroPort phy config config _ _
    · rintro w now ⟨hrouted, h⟩
      exact ⟨hrouted.quiet (hrouted.observe rfl) rfl rfl rfl rfl rfl id rfl, h.quiet rfl rfl id⟩
    · rintro w mode _ ⟨hrouted, h⟩
      refine ⟨routed_zeroPort hrouted.always hrouted.settled _ _, ?_⟩
      exact tuned_zeroPort _ config _ _ _
  refine ⟨htuned.2.1.always, htuned.2.1.settled, fun hop => ?_⟩
  obtain ⟨t, ht, hfollows⟩ := htuned.2.2.attuned hop
  exact ⟨t, ht, hfollows.collected⟩

/-- Calls that bring a port into OPERATE, start an ISDU read and send its first poll; `body` is what
the replies carry. -/
def polling (body : List UInt8) : List (Env × Call) :=
  connecting ++ [(.quiet (reply 0 []), .tickAt .cycleDue 14),
    (.quiet [], .service (.readIsdu 0x10 0 32)), (.quiet (reply 0 body), .tickAt .cycleDue 16),
    (.quiet (reply 0 body), .tickAt .cycleDue 18), (.quiet (reply 0 body), .tickAt .cycleDue 20),
    (.quiet (reply 0 body), .tickAt .cycleDue 22)]

/-- The poll is answered, and an event readout starts when nothing is due. -/
def interleaved : List (Env × Call) :=
  polling [0x55] ++ [(.quiet (reply 0 [0xD3, 0x55]), .pollRx),
    (.quiet [], .service .readEventCode), (.quiet [], .tickAt .cycleDue 24),
    (.quiet (reply 0 [0x00, 0x55]), .tickAt .cycleDue 26),
    (.quiet (reply 0 [0x07, 0x55]), .tickAt .cycleDue 28)]

/-- In a run with both services at work the on-request data reaches the right one. -/
theorem acyclic_od_delivered_interleaved :
  (Trace.Always (Delivered (.bare .type2_1 1 1))
      (run .reference (started (.quiet []) .full (.bare .type2_1 1 1)) interleaved).log ∧
    Settled (run .reference (started (.quiet []) .full (.bare .type2_1 1 1)) interleaved).log ∧
    ((run .reference (started (.quiet []) .full (.bare .type2_1 1 1)) interleaved).port.isdu.op
        ≠ .none →
      ∃ t, transfer 1
          (run .reference (started (.quiet []) .full (.bare .type2_1 1 1)) interleaved).log
            = some t ∧
        (run .reference (started (.quiet []) .full (.bare .type2_1 1 1))
          interleaved).port.isdu.Collected (responseOctets t.replied))) ∧
    (run .reference (started (.quiet []) .full (.bare .type2_1 1 1)) interleaved).port.isdu.response
      = [0xD3, 0x07]
  := by
  have hreach : Reach .reference (fun _ _ _ => True) .full (.bare .type2_1 1 1)
      (run .reference (started (.quiet []) .full (.bare .type2_1 1 1)) interleaved) := by
    apply (Reach.start _ (by decide)).run
    decide +kernel
  refine ⟨?_, by decide +kernel⟩
  apply acyclic_od_delivered Iolinki.lawful_reference hreach
  decide +kernel

/-- A poll is answered, and a readout runs to its end, whose confirming write is answered, too. -/
def confirmingRead : List (Env × Call) :=
  polling [0x00] ++ [(.quiet (reply 0 [0xD3]), .pollRx), (.quiet [], .service .ackEvent),
    (.quiet [], .tickAt .cycleDue 24), (.quiet (reply 0 [0x00]), .tickAt .cycleDue 26),
    (.quiet (reply 0 [0x00]), .tickAt .cycleDue 28)]

/-- An event readout that starts while a poll of the ISDU channel is on its way makes the
port drop the on-request data of the reply, and one that ends with a write on a TYPE_0 port adds the
octet of the reply to that write to what the ISDU transfer collects. -/
theorem acyclic_od_delivered_stolen :
  (Reach .reference ticksAndServices .full (.bare .type2_1 1 1)
    (run .reference (started (.quiet []) .full (.bare .type2_1 1 1))
      (polling [0x55] ++ [(.quiet [], .service .readEventCode),
        (.quiet (reply 0 [0xD3, 0x55]), .tickAt .cycleDue 24)])) ∧
  ¬ Trace.Always (Delivered (.bare .type2_1 1 1))
    (run .reference (started (.quiet []) .full (.bare .type2_1 1 1))
      (polling [0x55] ++ [(.quiet [], .service .readEventCode),
        (.quiet (reply 0 [0xD3, 0x55]), .tickAt .cycleDue 24)])).log) ∧
  Reach .reference (fun _ _ _ => True) .full (.bare .type0 0 0)
    (run .reference (started (.quiet []) .full (.bare .type0 0 0)) confirmingRead) ∧
  transfer 1 (run .reference (started (.quiet []) .full (.bare .type0 0 0)) confirmingRead).log
    = some ⟨0, true, [0xD3]⟩ ∧
  (run .reference (started (.quiet []) .full (.bare .type0 0 0)) confirmingRead).port.isdu.response
    = [0xD3, 0x00]
  := by
  refine ⟨⟨?_, ?_⟩, ?_, ?_, ?_⟩
  · apply (Reach.start _ (by decide)).run
    decide +kernel
  · decide +kernel
  · apply (Reach.start _ (by decide)).run
    decide +kernel
  · decide +kernel
  · decide +kernel

end IolinkMaster
