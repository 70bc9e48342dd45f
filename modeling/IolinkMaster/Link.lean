import IolinkMaster.Comlost
import IolinkMaster.Device
import IolinkMaster.Library.Extension
import IolinkMaster.Watchdog

/-!
# The link

A port in OPERATE and a device, ticked together: each tick takes the reply that is waiting on the
wire and sends a frame, and the device answers it.  The on-request data of a tick goes to the event
memory while it is read out and to the ISDU transport otherwise, and the frame of a tick is the one
that the event readout or the transport asks for next, or a cyclic frame.
-/

namespace IolinkMaster

/-- A port, a device, and the reply on the wire between them. -/
structure System (μ : Type) where
  world : World
  device : Device μ
  wire : List UInt8

/-- The frames put on the wire between two worlds, oldest first. -/
def framesSince (w v : World) : List (List UInt8) :=
  ((v.log.take (v.log.length - w.log.length)).filterMap Obs.frame).reverse

section

variable {μ : Type} (K : Iolinki) (A : Application μ) (config : Config)

/-- A tick of the port; the device answers each frame the port sends, the last answer staying on
the wire. -/
def System.tick (s : System μ) : System μ :=
  let w := (tickEvent K (.quiet s.wire) s.world .cycleDue).1
  let (device, wire) := (framesSince s.world w).foldl
    (fun r frame => r.1.receive A K config frame) (s.device, [])
  ⟨w, device, wire⟩

end

/-! ### Ports in OPERATE -/

/-- A port in OPERATE. -/
structure Operating (config : Config) (p : PortState) : Prop where
  configured : p.config = config
  send : p.phy.send = true
  recvByte : p.phy.recvByte = true
  state : p.state = .operate
  odLen : p.odLen = odLenForType config.mSeqType
  pdOutLen : (pdOutOctets p).length = config.pdOutLen
  pdOutLen' : p.pdOutLen = config.pdOutLen

/-- The port `q` is the port `p` some ticks later: what it was set up with is the same. -/
structure Ticked (p q : PortState) : Prop where
  config : q.config = p.config
  phy : q.phy = p.phy
  state : q.state = p.state
  block : q.block = p.block
  odLen : q.odLen = p.odLen
  pdOut : q.pdOut = p.pdOut
  pdOutLen : q.pdOutLen = p.pdOutLen
  deviceInfo : q.deviceInfo = p.deviceInfo

theorem Ticked.refl (p : PortState) :
  Ticked p p
  := ⟨rfl, rfl, rfl, rfl, rfl, rfl, rfl, rfl⟩

theorem Ticked.trans {p q r : PortState} (h : Ticked p q) (h' : Ticked q r) :
  Ticked p r
  := by
  constructor
  · rw [h'.config, h.config]
  · rw [h'.phy, h.phy]
  · rw [h'.state, h.state]
  · rw [h'.block, h.block]
  · rw [h'.odLen, h.odLen]
  · rw [h'.pdOut, h.pdOut]
  · rw [h'.pdOutLen, h.pdOutLen]
  · rw [h'.deviceInfo, h.deviceInfo]

/-- What leaves the fields of `Ticked` alone comes later. -/
theorem Ticked.later {p q r : PortState} (h : Ticked p q) (hconfig : r.config = q.config)
    (hphy : r.phy = q.phy) (hstate : r.state = q.state) (hblock : r.block = q.block)
    (hodLen : r.odLen = q.odLen) (hpdOut : r.pdOut = q.pdOut)
    (hpdOutLen : r.pdOutLen = q.pdOutLen) (hdeviceInfo : r.deviceInfo = q.deviceInfo) :
  Ticked p r
  := h.trans ⟨hconfig, hphy, hstate, hblock, hodLen, hpdOut, hpdOutLen, hdeviceInfo⟩

theorem Operating.ticked {config : Config} {p q : PortState} (h : Operating config p)
    (hq : Ticked p q) :
  Operating config q
  := by
  constructor
  · rw [hq.config, h.configured]
  · rw [hq.phy, h.send]
  · rw [hq.phy, h.recvByte]
  · rw [hq.state, h.state]
  · rw [hq.odLen, h.odLen]
  · rw [pdOutOctets, hq.pdOut, hq.pdOutLen]
    apply h.pdOutLen
  · rw [hq.pdOutLen, h.pdOutLen']

/-- The number of on-request data octets in the reply to the frame last sent. -/
def odExpected (config : Config) (p : PortState) : Nat :=
  if config.mSeqType = .type0 ∨ p.rxOdExpected then odLenForType config.mSeqType else 0

/-- The wire carries a reply to the frame last sent, with the on-request data `od`, or nothing. -/
inductive Carries (K : Iolinki) (config : Config) (p : PortState) :
    List UInt8 → List UInt8 → Prop where
  | silent : Carries K config p [] []
  | reply (flags : UInt8) (od pd : List UInt8) (hflags : flags &&& CKS_CHECKSUM_MASK = 0)
      (hod : od.length = odExpected config p) (hpd : pd.length = config.pdInLen) :
      Carries K config p (deviceReply K flags od pd) od

/-! ### Replies -/

/-- A reply is refused or missed, or the communication state changes. -/
@[simp]
def Obs.disturbed : Obs → Bool
  | .reject _ _ | .badFrame _ | .timeout _ _ | .comlost _ _ _ _ _ | .enter _ => true
  | _ => false

/-- The reply that is accepted. -/
@[simp]
def Obs.reply : Obs → Option (List UInt8)
  | .accept _ data _ => some data
  | _ => none

/-- Between the worlds `w` and `v` the replies `replies` were accepted, the latest first, and
nothing was refused or missed. -/
def Smooth (replies : List (List UInt8)) (w v : World) : Prop :=
  Trace.Adds (fun o => !o.disturbed) Obs.reply replies w.log v.log

/-- The reply on the wire. -/
def onWire (wire : List UInt8) : List (List UInt8) := if wire = [] then [] else [wire]

/-- Where the on-request data `od` of a reply goes: the ISDU state and the event state after it. -/
def takeOd (p : PortState) (od : List UInt8) : IsduState × EventState :=
  match eventChannelAccess p.event with
  | some (read, _) =>
    (p.isdu,
      if read && p.event.odExpected then eventOnOd { p.event with odExpected := false } od
      else p.event)
  | none => (isduOnOd p.isdu od, p.event)

/-- No on-request data goes nowhere. -/
theorem takeOd_idle (p : PortState) (hevent : p.event.odExpected = false) :
  takeOd p [] = (p.isdu, p.event)
  := by
  rw [takeOd]
  split
  · rw [hevent, Bool.and_false, if_neg Bool.false_ne_true]
  · rw [isduOnOd, Scan.guarded_nil]

section

variable {K : Iolinki} {config : Config} {w : World}

/-- A TYPE_0 port has no process data. -/
theorem Operating.type0_iff (h : Operating config w.port) (hvalid : configRefused config = false) :
  type0Operate w.port = true ↔ config.mSeqType = .type0
  := by
  simp only [configRefused, Bool.or_eq_false_iff, Bool.and_eq_false_iff, decide_eq_false_iff_not,
    beq_eq_false_iff_ne] at hvalid
  simp only [type0Operate, h.configured, h.pdOutLen', Bool.and_eq_true, beq_iff_eq]
  constructor
  · intro htype
    exact htype.1.1
  · intro htype
    have hpd := hvalid.2
    refine ⟨⟨htype, ?_⟩, ?_⟩
    · rcases hpd with hne | hpd
      · contradiction
      · omega
    · rcases hpd with hne | hpd
      · contradiction
      · omega

/-- A reply is being accepted: so far only the exchange is over. -/
structure Accepting (data : List UInt8) (w v : World) : Prop where
  ticked : Ticked w.port v.port
  isdu : v.port.isdu = w.port.isdu
  event : v.port.event = w.port.event
  answered : v.port.awaitingResponse = false
  direction : v.port.rxOdExpected = w.port.rxOdExpected
  smooth : Smooth [data] w v

theorem accepting_replyAccepted (w : World) (data : List UInt8) (od : Option (List UInt8)) :
  Accepting data w (replyAccepted w data od)
  := by
  refine ⟨⟨rfl, rfl, rfl, rfl, rfl, rfl, rfl, rfl⟩, rfl, rfl, rfl, rfl, ?_⟩
  exact (Trace.Adds.refl _ _ w.log).bring rfl rfl

/-- The Event flag of a reply leaves the services alone. -/
theorem Accepting.notify {data : List UInt8} {u : World} (h : Accepting data w u) (raised : Bool) :
  Accepting data w (notifyEventPending u raised [])
  := by
  obtain ⟨hticked, hisdu, hevent, hanswered, hdirection, hsmooth⟩ := h
  simp only [notifyEventPending, List.foldl_nil]
  split
  · exact ⟨hticked.later rfl rfl rfl rfl rfl rfl rfl rfl, hisdu, hevent, hanswered, hdirection,
      Trace.Adds.cons hsmooth rfl rfl⟩
  · exact ⟨hticked.later rfl rfl rfl rfl rfl rfl rfl rfl, hisdu, hevent, hanswered, hdirection,
      hsmooth⟩

/-- A reply has been judged and accepted: its on-request data `od` has gone to the services. -/
structure Accepts (data od : List UInt8) (w v : World) : Prop where
  ticked : Ticked w.port v.port
  taken : (v.port.isdu, v.port.event) = takeOd w.port od
  answered : v.port.awaitingResponse = false
  direction : v.port.rxOdExpected = w.port.rxOdExpected
  smooth : Smooth [data] w v

theorem Accepting.route {data : List UInt8} {u : World} (h : Accepting data w u)
    (od : List UInt8) :
  Accepts data od w (routeOd u od)
  := by
  obtain ⟨hticked, hisdu, hevent, hanswered, hdirection, hsmooth⟩ := h
  have htake : takeOd w.port od = takeOd u.port od := by
    simp only [takeOd, hisdu, hevent]
  rw [routeOd]
  cases haccess : eventChannelAccess u.port.event with
  | none =>
      refine ⟨hticked.later rfl rfl rfl rfl rfl rfl rfl rfl, ?_, hanswered, hdirection, ?_⟩
      · rw [htake, takeOd, haccess]
      · refine Trace.Adds.trans hsmooth (Trace.adds_nothing ?_ _)
        intro o ho
        rw [isduObserved, List.mem_append] at ho
        rcases ho with ho | ho
        · split at ho
          · rw [List.mem_singleton.mp ho]
            exact ⟨rfl, rfl⟩
          · contradiction
        · rw [List.mem_singleton.mp ho]
          exact ⟨rfl, rfl⟩
  | some access =>
      obtain ⟨read, addr⟩ := access
      dsimp only
      split
      · next hexpected =>
        refine ⟨hticked.later rfl rfl rfl rfl rfl rfl rfl rfl, ?_, hanswered, hdirection,
          Trace.Adds.cons hsmooth rfl rfl⟩
        rw [htake, takeOd, haccess]
        dsimp only
        rw [if_pos hexpected]
        rfl
      · next hexpected =>
        refine ⟨hticked.later rfl rfl rfl rfl rfl rfl rfl rfl, ?_, hanswered, hdirection,
          Trace.Adds.cons hsmooth rfl rfl⟩
        rw [htake, takeOd, haccess]
        dsimp only
        rw [if_neg hexpected]
        rfl

/-- The reply of a device is judged and accepted; its on-request data goes to the services, its
process data to the port. -/
theorem Operating.onRx (hK : K.Lawful) (hvalid : configRefused config = false)
    (h : Operating config w.port) (env : Env) {flags : UInt8}
    (hflags : flags &&& CKS_CHECKSUM_MASK = 0) {od pd : List UInt8}
    (hod : od.length = odExpected config w.port) (hpd : pd.length = config.pdInLen) :
  ∃ v, onRx K env w (deviceReply K flags od pd) [] = (v, STATUS_OK) ∧
    Accepts (deviceReply K flags od pd) od w v ∧
    TakesPd K w.port (deviceReply K flags od pd) w.port v.port.pdIn v.port.pdInLen v.port.pdValid
  := by
  have hcks : K.CksOk (deviceReply K flags od pd) := cksOk_deviceReply hK hflags od pd
  have hne : deviceReply K flags od pd ≠ [] := by simp [deviceReply]
  have hcarries : carriesPd w.port = !type0Operate w.port := by
    simp [carriesPd, h.state]
  simp only [IolinkMaster.onRx, hne, if_false, h.state, reduceCtorEq, true_and]
  by_cases htype : config.mSeqType = .type0
  · have htype0 := (h.type0_iff hvalid).mpr htype
    have hone : od.length = 1 := by
      rw [hod, odExpected, if_pos (.inl htype), htype]
      rfl
    have hnone : pd = [] := by
      apply List.eq_nil_of_length_eq_zero
      rw [hpd, ← h.configured]
      simp only [type0Operate, Bool.and_eq_true, beq_iff_eq] at htype0
      exact htype0.1.2
    subst hnone
    have hlen : (deviceReply K flags od []).length = M_SEQ_TYPE0_LEN := by
      simp [deviceReply, hone, M_SEQ_TYPE0_LEN]
    have htake : (deviceReply K flags od []).take 1 = od := by
      rw [deviceReply, List.append_nil, ← hone, List.take_left]
    have hok := (type0ReplyOk_iff hlen).mpr hcks
    rw [if_pos htype0, onRxType0, if_neg (not_not.mpr hlen), if_neg (by simp [hok]), htake]
    have haccepting := accepting_replyAccepted w (deviceReply K flags od []) (some od)
    refine ⟨_, rfl, haccepting.route od, ?_⟩
    rw [TakesPd, hcarries, htype0, Bool.not_true, if_neg Bool.false_ne_true, routeOd]
    split
    · split <;> exact ⟨rfl, rfl, rfl⟩
    · exact ⟨rfl, rfl, rfl⟩
  · have htype0 : ¬ type0Operate w.port = true := by
      rw [h.type0_iff hvalid]
      exact htype
    have hwidth : (if w.port.rxOdExpected then w.port.odLen else 0) = od.length := by
      rw [hod, odExpected, h.odLen]
      simp [htype]
    have hodWidth : odWidth w.port = od.length := by
      rw [odWidth, if_neg (by simp [h.state, htype0]), hwidth]
    rw [if_neg htype0, onRxOperate, hwidth]
    split
    · next hnone =>
      rw [hK.decode_none_iff] at hnone
      simp only [deviceReply, List.length_append, List.length_singleton, h.configured, hpd] at hnone
      omega
    · next r hsome =>
      obtain ⟨-, hrod, hok, -⟩ := decodeOperateResponse_some hK hsome
      have hrod' : r.od = od := by
        rw [hrod, deviceReply, List.append_assoc, List.take_left]
      rw [if_neg (by simp [hok.mpr hcks]), hrod']
      obtain ⟨u, hu⟩ : ∃ u : World, u = notifyEventPending
          ((replyAccepted w (deviceReply K flags od pd) (some od)).put
            { (replyAccepted w (deviceReply K flags od pd) (some od)).port with
              diagnostics :=
                { (replyAccepted w (deviceReply K flags od pd) (some od)).port.diagnostics with
                  odStatus := r.status } }) r.eventPending [] := ⟨_, rfl⟩
      have haccepting : Accepting (deviceReply K flags od pd) w u := by
        obtain ⟨hticked, hisdu, hevent, hanswered, hdirection, hsmooth⟩ :=
          accepting_replyAccepted w (deviceReply K flags od pd) (some od)
        rw [hu]
        apply Accepting.notify
        exact ⟨hticked.later rfl rfl rfl rfl rfl rfl rfl rfl, hisdu, hevent, hanswered, hdirection,
          hsmooth⟩
      have hpdKept : u.port.pdIn = w.port.pdIn ∧ u.port.pdInLen = w.port.pdInLen ∧
          u.port.pdValid = w.port.pdValid := by
        rw [hu]
        simp only [notifyEventPending, List.foldl_nil]
        split <;> exact ⟨rfl, rfl, rfl⟩
      obtain ⟨hticked, htaken, hanswered, hdirection, hsmooth⟩ := haccepting.route od
      refine ⟨_, rfl, ?_⟩
      rw [← hu, put_takePdIn, routeOd_setPd]
      refine ⟨⟨hticked.later rfl rfl rfl rfl rfl rfl rfl rfl, htaken, hanswered, hdirection,
        hsmooth⟩, ?_⟩
      rw [TakesPd, hcarries, Bool.eq_false_iff.mpr htype0]
      refine ⟨r, by rw [hodWidth]; exact hsome, ?_⟩
      simp only [World.setPd, World.put_port, takePdIn]
      split
      · exact ⟨rfl, rfl, rfl⟩
      · exact hpdKept

/-- The width of the reply the port polls for. -/
theorem Operating.expectedLen_eq (h : Operating config w.port)
    (hvalid : configRefused config = false) :
  expectedLen w.port = some (odExpected config w.port + config.pdInLen + 1) ∧
    odExpected config w.port + config.pdInLen + 1 ≤ FRAME_BUF_SIZE
  := by
  have hod := odLenForType_le config.mSeqType
  have hpd : config.pdInLen ≤ 32 := by
    simp only [configRefused, Bool.or_eq_false_iff, decide_eq_false_iff_not] at hvalid
    have := hvalid.1.1
    simp only [PD_IN_MAX_SIZE] at this
    omega
  have hle : odExpected config w.port ≤ 8 := by
    rw [odExpected]
    split
    · apply hod
    · apply Nat.zero_le
  have hodOctets : (if type0Operate w.port || w.port.rxOdExpected then w.port.odLen else 0)
      = odExpected config w.port := by
    rw [odExpected, h.odLen]
    simp only [Bool.or_eq_true, h.type0_iff hvalid]
  simp only [expectedLen, h.state, h.configured, hodOctets, Option.some.injEq, FRAME_BUF_SIZE]
  omega

/-- The port has taken what was on the wire, with the on-request data `od`; nothing is buffered. -/
structure Listened (K : Iolinki) (wire od : List UInt8) (w v : World) : Prop where
  ticked : Ticked w.port v.port
  taken : (v.port.isdu, v.port.event) = takeOd w.port od
  answered : v.port.awaitingResponse = false
  direction : v.port.rxOdExpected = w.port.rxOdExpected
  drained : v.port.rx = []
  smooth : Smooth (onWire wire) w v
  input : if wire = [] then
      v.port.pdIn = w.port.pdIn ∧ v.port.pdInLen = w.port.pdInLen ∧ v.port.pdValid = w.port.pdValid
    else TakesPd K w.port wire w.port v.port.pdIn v.port.pdInLen v.port.pdValid

/-- A reply that arrives as a whole is judged, and if it is accepted the poll is over. -/
theorem pollLoop_accepted {env : Env} (hfails : env.recvFails = false) {expected : Nat}
    (hbuf : expected ≤ FRAME_BUF_SIZE) {body : List UInt8} {last : UInt8} (hrx : w.port.rx = [])
    (hlen : body.length + 1 = expected) {v : World}
    (hjudged : onRx K env (received w ((body ++ [last]).map fun b => (b, []))) (body ++ [last]) []
      = (v, STATUS_OK)) :
  pollLoop K env expected w 0 ((body ++ [last]).map fun b => (b, []))
    = (v.put { v.port with rx := [] }, 1)
  := by
  have hshort : w.port.rx.length + (body.map fun b => (b, ([] : List Service))).length
      < expected := by
    rw [hrx, List.length_nil, List.length_map]
    omega
  have hu : ((received w (body.map fun b => (b, []))).emit (.recv last)).put
      { ((received w (body.map fun b => (b, []))).emit (.recv last)).port with
        rx := ((received w (body.map fun b => (b, []))).emit (.recv last)).port.rx ++ [last] }
      = received w ((body ++ [last]).map fun b => (b, [])) := by
    simp [received, World.put, World.emit]
  have hbuffered : (received w ((body ++ [last]).map fun b => (b, []))).port.rx
      = body ++ [last] := by
    have hfst : (Prod.fst ∘ fun b : UInt8 => (b, ([] : List Service))) = id := rfl
    rw [received, hrx, List.nil_append, List.map_map, hfst, List.map_id]
  have hroom : ¬ ((received w (body.map fun b => (b, []))).emit (.recv last)).port.rx.length
      ≥ FRAME_BUF_SIZE := by
    simp only [World.emit_port, received, hrx, List.nil_append, List.length_map]
    omega
  have hfull : (body ++ [last]).length ≥ expected := by
    rw [List.length_append, List.length_singleton]
    omega
  rw [List.map_append, pollLoop_received env hbuf _ 0 hshort, List.map_singleton, pollLoop]
  dsimp only
  rw [if_neg hroom, hu, hbuffered, if_pos hfull, hjudged]
  dsimp only
  rw [if_neg (by decide), pollLoop, hfails]
  rfl

/-- Octets in the buffer are no process data. -/
theorem takesPd_received {u : World} {octets : List (UInt8 × List Service)} {data : List UInt8}
    {pdIn : List UInt8} {pdInLen : Nat} {pdValid : Bool}
    (h : TakesPd K (received u octets).port data (received u octets).port pdIn pdInLen pdValid) :
  TakesPd K u.port data u.port pdIn pdInLen pdValid
  := by
  rw [TakesPd] at h ⊢
  split at h
  · next hcarries =>
    rw [if_pos (show carriesPd u.port = true from hcarries)]
    obtain ⟨r, hr, hpd⟩ := h
    refine ⟨r, hr, ?_⟩
    cases hvalid : r.pdValid with
    | true =>
        rw [takePdIn, hvalid, if_pos rfl] at hpd ⊢
        exact hpd
    | false =>
        rw [takePdIn, hvalid, if_neg Bool.false_ne_true] at hpd ⊢
        exact hpd
  · next hcarries =>
    rw [if_neg (show ¬ carriesPd u.port = true from hcarries)]
    exact h

/-- A poll takes the reply on the wire. -/
theorem Operating.polled (hK : K.Lawful) (hvalid : configRefused config = false)
    (h : Operating config w.port) (hrx : w.port.rx = []) (hidle : w.port.awaitingResponse = false)
    {wire od : List UInt8} (hwire : Carries K config w.port wire od)
    (hexpected : wire = [] → w.port.event.odExpected = false) :
  ∃ v ret, pollRx K (.quiet wire) w = (v, ret) ∧ ¬ ret < 0 ∧ Listened K wire od w v ∧ Unsent w v
  := by
  have hunsent : Unsent w (pollRx K (.quiet wire) w).1 :=
    (Slotless.path (fun _ _ => slotless_receive) (pollRx_path hK _ w)).unsent
  cases hwire with
  | silent =>
      rw [pollRx_quiet] at hunsent
      exact ⟨w, 0, pollRx_quiet w, by decide, ⟨Ticked.refl _, (takeOd_idle _ (hexpected rfl)).symm,
        hidle, rfl, hrx, Trace.Adds.refl _ _ _, rfl, rfl, rfl⟩, hunsent⟩
  | reply flags od pd hflags hod hpd =>
      obtain ⟨hexpected, hroom⟩ := h.expectedLen_eq hvalid
      have hreceived : Ticked w.port
          (received w ((deviceReply K flags od pd).map fun b => (b, []))).port :=
        ⟨rfl, rfl, rfl, rfl, rfl, rfl, rfl, rfl⟩
      have hrecv : Smooth [] w (received w ((deviceReply K flags od pd).map fun b => (b, []))) := by
        apply Trace.adds_nothing
        intro o ho
        rw [List.mem_reverse, List.map_map, List.mem_map] at ho
        obtain ⟨b, -, rfl⟩ := ho
        exact ⟨rfl, rfl⟩
      obtain ⟨v, hjudged, haccepts, hinput⟩ := (h.ticked hreceived).onRx hK hvalid
        (.quiet (deviceReply K flags od pd)) hflags hod hpd
      have hloop := pollLoop_accepted
        (show (Env.quiet (deviceReply K flags od pd)).recvFails = false from rfl) hroom hrx
        (by simp [hod, hpd]) hjudged
      refine ⟨v.put { v.port with rx := [] }, 1, ?_, by decide, ?_, ?_⟩
      · rw [pollRx, h.recvByte, hexpected]
        apply hloop
      · obtain ⟨hticked, htaken, hanswered, hdirection, hsmooth⟩ := haccepts
        have hne : deviceReply K flags od pd ≠ [] := by simp [deviceReply]
        refine ⟨hreceived.trans (hticked.later rfl rfl rfl rfl rfl rfl rfl rfl), htaken, hanswered,
          hdirection, rfl, ?_, ?_⟩
        · rw [onWire, if_neg hne]
          exact hrecv.trans hsmooth
        · rw [if_neg hne]
          exact takesPd_received hinput
      · rw [pollRx, h.recvByte, hexpected] at hunsent
        rw [← show _ = v.put { v.port with rx := [] } from congrArg Prod.fst hloop]
        apply hunsent

/-- The frame that goes out in a slot of OPERATE, and the ISDU state and the event state it leaves. -/
def slotFrame (K : Iolinki) (p : PortState) : List UInt8 × IsduState × EventState :=
  match eventChannelAccess p.event with
  | some (read, addr) =>
    (eventFrame K p read addr, p.isdu,
      if read then { p.event with odExpected := true } else eventOnWritten p.event)
  | none =>
    match isduNext p.isdu p.odLen with
    | some (f, s) => (f.octets K p, s, p.event)
    | none =>
      if type0Operate p then
        (type0CyclicFrame K (isduFillOd p.isdu 1).1, (isduFillOd p.isdu 1).2, p.event)
      else (cyclicFrame K p (isduFillOd p.isdu p.odLen).1, (isduFillOd p.isdu p.odLen).2, p.event)

/-- The port has sent the frame of a slot, and left the ISDU state and the event state with it. -/
structure Sends (slot : List UInt8 × IsduState × EventState) (w v : World) : Prop where
  ticked : Ticked w.port v.port
  isdu : v.port.isdu = slot.2.1
  event : v.port.event = slot.2.2
  drained : v.port.rx = w.port.rx
  answered : v.port.awaitingResponse = w.port.awaitingResponse
  direction : v.port.rxOdExpected = mcIsRead (slot.1.getD 0 0)
  input : v.port.pdIn = w.port.pdIn ∧ v.port.pdInLen = w.port.pdInLen ∧
    v.port.pdValid = w.port.pdValid
  log : v.log = .sent w.port.state slot.1 :: w.log

/-- A frame of the diagnosis channel starts with its Master Command. -/
theorem eventFrame_head (hK : K.Lawful) (p : PortState) (read : Bool) (addr : Nat) :
  (eventFrame K p read addr).getD 0 0 = encodeMasterCommand read .diagnosis (UInt8.ofNat addr) ∧
    ¬ (eventFrame K p read addr).length < M_SEQ_HEADER_LEN
  := by
  simp only [eventFrame]
  split
  · split
    · rw [hK.encodeType0_eq]
      exact ⟨rfl, Nat.lt_irrefl _⟩
    · rw [hK.encodeType0Write_eq]
      exact ⟨rfl, by simp [M_SEQ_HEADER_LEN]⟩
  · exact ⟨rfl, by simp [message, M_SEQ_HEADER_LEN]⟩

/-- A diagnosis M-sequence that goes out is recorded, and with it its direction. -/
theorem sendEvent_transmits (hK : K.Lawful) {env : Env} (henv : env.Transmits) (w : World) :
  sendEvent K env w
    = match eventChannelAccess w.port.event with
      | none => (w, false)
      | some (read, addr) =>
        (⟨{ w.port with
            event :=
              if read then { w.port.event with odExpected := true } else eventOnWritten w.port.event
            rxOdExpected := mcIsRead ((eventFrame K w.port read addr).getD 0 0) },
          .sent w.port.state (eventFrame K w.port read addr) :: w.log⟩, true)
  := by
  rw [sendEvent]
  cases eventChannelAccess w.port.event with
  | none => rfl
  | some access =>
      obtain ⟨read, addr⟩ := access
      have hne : eventFrame K w.port read addr ≠ [] := by
        intro hnil
        have hlength := (eventFrame_head hK w.port read addr).2
        rw [hnil] at hlength
        exact hlength (by decide)
      dsimp only
      rw [if_neg hne, sendFull_transmits henv, decide_eq_true hne]
      cases read <;> rfl

/-- A slot of OPERATE sends its frame. -/
theorem processOperate_slot (hK : K.Lawful) {env : Env} (henv : env.Transmits) (w : World) :
  Sends (slotFrame K w.port) w (processOperate K env w)
  := by
  rw [processOperate, sendEvent_transmits hK henv]
  cases haccess : eventChannelAccess w.port.event with
  | some access =>
      obtain ⟨read, addr⟩ := access
      have hframe : slotFrame K w.port = (eventFrame K w.port read addr, w.port.isdu,
          if read then { w.port.event with odExpected := true } else eventOnWritten w.port.event) := by
        rw [slotFrame, haccess]
      dsimp only
      rw [if_pos rfl]
      rw [hframe]
      exact ⟨⟨rfl, rfl, rfl, rfl, rfl, rfl, rfl, rfl⟩, rfl, rfl, rfl, rfl, rfl, ⟨rfl, rfl, rfl⟩, rfl⟩
  | none =>
      dsimp only
      rw [if_neg Bool.false_ne_true, sendIsdu_transmits hK henv]
      cases hnext : isduNext w.port.isdu w.port.odLen with
      | some next =>
          obtain ⟨f, s⟩ := next
          have hframe : slotFrame K w.port = (f.octets K w.port, s, w.port.event) := by
            rw [slotFrame, haccess]
            dsimp only
            rw [hnext]
          obtain ⟨rest, hhead⟩ := IsduFrame.octets_head hK w.port f
          dsimp only
          rw [if_pos rfl]
          rw [hframe]
          refine ⟨⟨rfl, rfl, rfl, rfl, rfl, rfl, rfl, rfl⟩, rfl, rfl, rfl, rfl, ?_, ⟨rfl, rfl, rfl⟩,
            rfl⟩
          rw [hhead, List.getD_cons_zero, mcIsRead_encode]
      | none =>
          dsimp only
          rw [if_neg Bool.false_ne_true, processCyclic]
          dsimp only
          by_cases htype : type0Operate w.port = true
          · have hframe : slotFrame K w.port = (type0CyclicFrame K (isduFillOd w.port.isdu 1).1,
                (isduFillOd w.port.isdu 1).2, w.port.event) := by
              rw [slotFrame, haccess]
              dsimp only
              rw [hnext]
              dsimp only
              rw [if_pos htype]
            have hne : type0CyclicFrame K (isduFillOd w.port.isdu 1).1 ≠ [] := by
              rw [type0CyclicFrame, hK.encodeType0_eq]
              apply List.cons_ne_nil
            simp only [htype, if_true, if_neg hne, sendFull_transmits henv]
            rw [hframe]
            exact ⟨⟨rfl, rfl, rfl, rfl, rfl, rfl, rfl, rfl⟩, rfl, rfl, rfl, rfl, rfl, ⟨rfl, rfl, rfl⟩,
              rfl⟩
          · have hframe : slotFrame K w.port
                = (cyclicFrame K w.port (isduFillOd w.port.isdu w.port.odLen).1,
                  (isduFillOd w.port.isdu w.port.odLen).2, w.port.event) := by
              rw [slotFrame, haccess]
              dsimp only
              rw [hnext]
              dsimp only
              rw [if_neg htype]
            have hsame : cyclicFrame K (w.putIsdu (isduFillOd w.port.isdu w.port.odLen).2).port
                (isduFillOd w.port.isdu w.port.odLen).1
                = cyclicFrame K w.port (isduFillOd w.port.isdu w.port.odLen).1 := rfl
            have hne : cyclicFrame K w.port (isduFillOd w.port.isdu w.port.odLen).1 ≠ [] :=
              List.cons_ne_nil _ _
            simp only [htype, Bool.false_eq_true, if_false, hsame, if_neg hne,
              sendFull_transmits henv, if_true]
            rw [hframe]
            exact ⟨⟨rfl, rfl, rfl, rfl, rfl, rfl, rfl, rfl⟩, rfl, rfl, rfl, rfl, rfl, ⟨rfl, rfl, rfl⟩,
              rfl⟩

/-- What sends no frame has none. -/
theorem frames_unsent {os : List Obs} (hos : ∀ o ∈ os, o.isSent = false) :
  os.filterMap Obs.frame = []
  := by
  rw [List.filterMap_eq_nil_iff]
  intro o ho
  have hsent := hos o ho
  cases o with
  | sent => contradiction
  | _ => rfl

theorem framesSince_unsent {w v : World} (hunsent : Unsent w v) :
  framesSince w v = []
  := by
  obtain ⟨os, hos, hlog⟩ := hunsent
  rw [framesSince, hlog, List.length_append, Nat.add_sub_cancel, List.take_left, frames_unsent hos]
  rfl

/-- The frames of a slot that sends one. -/
theorem framesSince_sent {w u v : World} (hunsent : Unsent w u) {os : List Obs}
    (hos : ∀ o ∈ os, o.frame = none) {st : MasterState} {frame : List UInt8}
    (hlog : v.log = .sent st frame :: (os ++ u.log)) :
  framesSince w v = [frame]
  := by
  obtain ⟨os', hos', hlog'⟩ := hunsent
  have hnone := frames_unsent hos'
  have hnone' : os.filterMap Obs.frame = [] := by
    rw [List.filterMap_eq_nil_iff]
    apply hos
  have htake : v.log.take (v.log.length - w.log.length) = .sent st frame :: (os ++ os') := by
    rw [hlog, hlog', ← List.append_assoc, ← List.cons_append]
    have hlen : (.sent st frame :: (os ++ os') ++ w.log).length - w.log.length
        = (Obs.sent st frame :: (os ++ os')).length := by
      rw [List.length_append]
      omega
    rw [hlen, List.take_left]
  have hframe : (Obs.sent st frame).frame = some frame := rfl
  rw [framesSince, htake, List.filterMap_cons_some hframe, List.filterMap_append, hnone, hnone']
  rfl

/-- A tick whose poll goes well runs a slot. -/
theorem tickEvent_slot {env : Env} {w u : World} {ret : Int} (hpoll : pollRx K env w = (u, ret))
    (hret : ¬ ret < 0) (hanswered : u.port.awaitingResponse = false) :
  (tickEvent K env w .cycleDue).1 = processAt K env u 0 false
  := by
  rw [tickEvent, tickCommon, hpoll]
  dsimp only
  rw [if_neg hret, hanswered]
  simp only [Bool.false_eq_true, if_false, Bool.false_and, processSlot]

/-- A tick that finds the port in OPERATE after its poll sends the frame of its slot. -/
theorem Operating.tick_polled (hK : K.Lawful) {wire : List UInt8} {w u : World} {ret : Int}
    (hpoll : pollRx K (.quiet wire) w = (u, ret)) (hret : ¬ ret < 0) (hunsent : Unsent w u)
    (h : Operating config u.port) (hanswered : u.port.awaitingResponse = false) :
  Sends (slotFrame K u.port) u.openSlot (tickEvent K (.quiet wire) w .cycleDue).1 ∧
    framesSince w (tickEvent K (.quiet wire) w .cycleDue).1 = [(slotFrame K u.port).1]
  := by
  have hslot := processOperate_slot hK (Env.transmits_quiet wire) u.openSlot
  have hopened : processAt K (.quiet wire) u 0 false
      = processOperate K (.quiet wire) u.openSlot := by
    simp only [processAt, h.send, sendGated, Bool.not_true, Bool.false_and, Bool.or_self,
      Bool.false_eq_true, if_false, h.state]
  rw [tickEvent_slot hpoll hret hanswered, hopened]
  refine ⟨hslot, ?_⟩
  have hlog : (processOperate K (.quiet wire) u.openSlot).log
      = .sent u.port.state (slotFrame K u.port).1 :: ([.slot, .view u.port] ++ u.log) := hslot.log
  refine framesSince_sent hunsent ?_ hlog
  simp [Obs.frame]

/-- What a tick of a port in OPERATE does: the reply on the wire is taken, and one frame goes out. -/
structure Cycled (K : Iolinki) (wire od : List UInt8) (w v : World) : Prop where
  ticked : Ticked w.port v.port
  drained : v.port.rx = []
  answered : v.port.awaitingResponse = false
  smooth : Smooth (onWire wire) w v
  sends : ∃ u : World, Listened K wire od w u ∧ Sends (slotFrame K u.port) u.openSlot v ∧
    framesSince w v = [(slotFrame K u.port).1]

theorem Operating.tick (hK : K.Lawful) (hvalid : configRefused config = false)
    (h : Operating config w.port) (hrx : w.port.rx = []) (hidle : w.port.awaitingResponse = false)
    {wire od : List UInt8} (hwire : Carries K config w.port wire od)
    (hexpected : wire = [] → w.port.event.odExpected = false) :
  Cycled K wire od w (tickEvent K (.quiet wire) w .cycleDue).1
  := by
  obtain ⟨u, ret, hpoll, hret, hheard, hunsent⟩ := h.polled hK hvalid hrx hidle hwire hexpected
  obtain ⟨hslot, hframes⟩ :=
    (h.ticked hheard.ticked).tick_polled hK hpoll hret hunsent hheard.answered
  refine ⟨hheard.ticked.trans hslot.ticked, ?_, ?_, ?_, u, hheard, hslot, hframes⟩
  · rw [hslot.drained]
    exact hheard.drained
  · rw [hslot.answered]
    exact hheard.answered
  · rw [Smooth, hslot.log]
    apply Trace.Adds.cons _ rfl rfl
    apply Trace.Adds.cons _ rfl rfl
    exact Trace.Adds.cons hheard.smooth rfl rfl

end

/-! ### Ticks of the system -/

section

variable {μ : Type} {K : Iolinki} {A : Application μ} {config : Config}

/-- The system between two ticks, with the on-request data `od` waiting on the wire. -/
structure Linked (K : Iolinki) (config : Config) (s : System μ) (od : List UInt8) : Prop where
  operating : Operating config s.world.port
  drained : s.world.port.rx = []
  answered : s.world.port.awaitingResponse = false
  carries : Carries K config s.world.port s.wire od
  expected : s.wire = [] → s.world.port.event.odExpected = false

/-- What the wire carries depends on the direction of the last frame only. -/
theorem Carries.direction {p q : PortState} {wire od : List UInt8} (h : Carries K config p wire od)
    (hdirection : q.rxOdExpected = p.rxOdExpected) :
  Carries K config q wire od
  := by
  cases h with
  | silent => exact .silent
  | reply flags od pd hflags hod hpd =>
      refine .reply flags od pd hflags ?_ hpd
      rw [hod, odExpected, odExpected, hdirection]

/-- A call leaves what the link needs alone, unless it waits for the answer to a diagnosis read. -/
theorem Linked.called {s : System μ} {od : List UInt8} (h : Linked K config s od) {w : World}
    {t : IsduState} {e : EventState} {d : Diagnostics} {b : BlockState}
    (hw : w.port = { s.world.port with isdu := t, event := e, diagnostics := d, block := b })
    (he : s.wire = [] → e.odExpected = false) :
  Linked K config { s with world := w } od
  := by
  obtain ⟨world, device, wire⟩ := s
  obtain ⟨⟨configured, send, recvByte, state, odLen, pdOutLen, pdOutLen'⟩, hdrained, hanswered,
    hcarries, hexpected⟩ := h
  obtain ⟨port, log⟩ := w
  obtain rfl : port = { world.port with isdu := t, event := e, diagnostics := d, block := b } := hw
  exact ⟨⟨configured, send, recvByte, state, odLen, pdOutLen, pdOutLen'⟩, hdrained, hanswered,
    hcarries.direction rfl, he⟩

/-- The application has as much process data as the port expects. -/
def Application.Fits (A : Application μ) (config : Config) : Prop :=
  ∀ m, (A.pdIn m).length = config.pdInLen

theorem length_padOd {k : Nat} {od : List UInt8} (h : od.length ≤ k) :
  (padOd k od).length = k
  := by
  rw [padOd, List.length_append, List.length_replicate]
  omega

/-- A read has as many octets as the M-sequence. -/
theorem Device.length_onRead (d : Device μ) (flowctrl : UInt8) {k : Nat} (hk : 1 ≤ k) :
  (d.onRead flowctrl k).2.length = k
  := by
  rw [Device.onRead]
  split
  · apply length_padOd (Nat.zero_le _)
  · split
    · apply length_padOd hk
    · apply length_padOd
      rw [List.length_take]
      apply Nat.min_le_left

theorem length_noService (config : Config) (p : PortState) :
  (noService config p.rxOdExpected).length = odExpected config p
  := by
  rw [noService, odExpected]
  split
  · apply length_padOd (Nat.zero_le _)
  · rfl

/-- A TYPE_0 port is accepted without process data only. -/
theorem noPd_of_type0 (hvalid : configRefused config = false) (htype : config.mSeqType = .type0) :
  config.pdInLen = 0 ∧ config.pdOutLen = 0
  := by
  simp only [configRefused, Bool.or_eq_false_iff, Bool.and_eq_false_iff, decide_eq_false_iff_not,
    beq_eq_false_iff_ne] at hvalid
  rcases hvalid.2 with hne | hpd
  · contradiction
  · omega

/-- The reply of an application is one the port waits for. -/
theorem Application.carries_reply (hvalid : configRefused config = false) (hfits : A.Fits config)
    {p : PortState} (m : μ) {od : List UInt8} (hod : od.length = odExpected config p) :
  Carries K config p (A.reply K config m od) od
  := by
  apply Carries.reply (A.flags m) od _ (A.flags_masked m) hod
  split
  · next htype => rw [(noPd_of_type0 hvalid htype).1, List.length_nil]
  · exact hfits m

/-- A reply has octets. -/
theorem Application.reply_ne_nil (m : μ) (od : List UInt8) :
  A.reply K config m od ≠ []
  := by simp [Application.reply, deviceReply]

/-- A device answers the frames of a port in OPERATE with its M-sequence type. -/
theorem Device.receive_operate (hvalid : configRefused config = false) (d : Device μ)
    {frame : List UInt8} (hlength : ¬ frame.length < M_SEQ_HEADER_LEN)
    (htype : isType0Frame frame = (config.mSeqType == .type0)) :
  d.receive A K config frame = d.respond A K config frame
  := by
  rw [Device.receive, if_neg hlength, htype]
  split
  · next hzero =>
    have hzero' : config.mSeqType = .type0 := beq_iff_eq.mp hzero
    obtain ⟨-, hpdOut⟩ := noPd_of_type0 hvalid hzero'
    simp only [Device.respond, Application.reply, noService, Config.asType0, hzero', hpdOut]
  · rfl

/-- A frame of a port in OPERATE starts with its Master Command, and its on-request data follows
the process data. -/
theorem Operating.octets_eq (hK : K.Lawful) (hvalid : configRefused config = false)
    {p : PortState} (h : Operating config p) (f : IsduFrame) :
  (f.octets K p).getD 0 0 = encodeMasterCommand f.read .isdu f.flowctrl ∧
    ∀ od, f.od = some od → (f.octets K p).drop (M_SEQ_HEADER_LEN + config.pdOutLen) = od
  := by
  constructor
  · obtain ⟨rest, hhead⟩ := IsduFrame.octets_head hK p f
    rw [hhead, List.getD_cons_zero]
  · intro od hod
    rw [IsduFrame.octets, hod, buildIsduFrame]
    by_cases htype : config.mSeqType = .type0
    · have hmulti : isduMulti p = false := by
        simp [isduMulti, h.configured, htype]
      have hzero : config.pdOutLen = 0 := by
        simp only [configRefused, Bool.or_eq_false_iff, Bool.and_eq_false_iff,
          decide_eq_false_iff_not, beq_eq_false_iff_ne] at hvalid
        rcases hvalid.2 with hne | hpd
        · contradiction
        · omega
      rw [hmulti, hzero]
      rfl
    · have hmulti : isduMulti p = true := by
        simp [isduMulti, h.configured, h.state, htype]
      have hbody : (pdOutOctets p ++ od).drop config.pdOutLen = od := by
        rw [← h.pdOutLen, List.drop_left]
      rw [hmulti, Bool.not_true, if_neg Bool.false_ne_true, ← List.drop_drop]
      exact hbody

/-- A frame has a Master Command and a CKT octet. -/
theorem IsduFrame.length_octets (hK : K.Lawful) (f : IsduFrame) (p : PortState) :
  ¬ (f.octets K p).length < M_SEQ_HEADER_LEN
  := by
  simp only [IsduFrame.octets, buildIsduFrame]
  split
  · split
    · rw [hK.encodeType0_eq]
      exact Nat.lt_irrefl _
    · simp [message, M_SEQ_HEADER_LEN]
  · simp [message, M_SEQ_HEADER_LEN]

/-- The frame of a slot of OPERATE has the M-sequence type of the port. -/
theorem Operating.slotFrame_typed (hK : K.Lawful) (hvalid : configRefused config = false)
    {p : PortState} (h : Operating config p) :
  ¬ (slotFrame K p).1.length < M_SEQ_HEADER_LEN ∧
    isType0Frame (slotFrame K p).1 = (config.mSeqType == .type0)
  := by
  have hmessage : ∀ (mc : UInt8) (type : MSeqType) (body : List UInt8),
      ¬ (message K mc (cktTypeBits type) body).length < M_SEQ_HEADER_LEN := by
    intro mc type body
    simp [message, M_SEQ_HEADER_LEN]
  rw [slotFrame]
  cases haccess : eventChannelAccess p.event with
  | some access =>
      obtain ⟨read, addr⟩ := access
      refine ⟨(eventFrame_head hK p read addr).2, ?_⟩
      simp only [eventFrame, h.configured]
      split
      · next htype =>
        rw [htype]
        split
        · exact isType0Frame_encodeType0 hK _
        · exact isType0Frame_encodeType0Write hK _ _
      · exact isType0Frame_message hK _ _ _
  | none =>
      dsimp only
      cases hnext : isduNext p.isdu p.odLen with
      | some next =>
          refine ⟨IsduFrame.length_octets hK next.1 p, ?_⟩
          simp only [IsduFrame.octets, buildIsduFrame]
          by_cases htype : config.mSeqType = .type0
          · have hmulti : isduMulti p = false := by
              simp [isduMulti, h.configured, htype]
            rw [hmulti, htype, Bool.not_false, if_pos rfl]
            split
            · exact isType0Frame_encodeType0 hK _
            · exact isType0Frame_message hK _ .type0 _
          · have hmulti : isduMulti p = true := by
              simp [isduMulti, h.configured, h.state, htype]
            rw [hmulti, Bool.not_true, if_neg Bool.false_ne_true, h.configured]
            exact isType0Frame_message hK _ _ _
      | none =>
          dsimp only
          by_cases htype : type0Operate p = true
          · have hzero : config.mSeqType = .type0 :=
              (show Operating config (World.port ⟨p, []⟩) from h).type0_iff hvalid |>.mp htype
            rw [if_pos htype, type0CyclicFrame, hzero]
            refine ⟨?_, isType0Frame_encodeType0 hK _⟩
            rw [hK.encodeType0_eq]
            exact Nat.lt_irrefl _
          · rw [if_neg htype, cyclicFrame, h.configured]
            exact ⟨hmessage _ _ _, isType0Frame_message hK _ _ _⟩

/-- A read on the ISDU channel reaches the device. -/
theorem Device.respond_read (d : Device μ) {frame : List UInt8} {flowctrl : UInt8}
    (hflow : flowctrl &&& MC_ADDR_MASK = flowctrl)
    (hmc : frame.getD 0 0 = encodeMasterCommand true .isdu flowctrl) :
  d.respond A K config frame
    = ((d.onRead flowctrl (odLenForType config.mSeqType)).1,
        A.reply K config (d.onRead flowctrl (odLenForType config.mSeqType)).1.memory
          (d.onRead flowctrl (odLenForType config.mSeqType)).2)
  := by
  simp only [Device.respond, hmc, mcChannel_encode, mcIsRead_encode, mcAddress_encode, hflow,
    if_true]

/-- A write on the ISDU channel reaches the device. -/
theorem Device.respond_write (d : Device μ) {frame od : List UInt8} {flowctrl : UInt8}
    (hflow : flowctrl &&& MC_ADDR_MASK = flowctrl)
    (hmc : frame.getD 0 0 = encodeMasterCommand false .isdu flowctrl)
    (hod : frame.drop (M_SEQ_HEADER_LEN + config.pdOutLen) = od) :
  d.respond A K config frame
    = (d.onWrite A flowctrl od,
        A.reply K config (d.onWrite A flowctrl od).memory (noService config false))
  := by
  simp only [Device.respond, hmc, mcChannel_encode, mcIsRead_encode, mcAddress_encode, hflow, hod,
    Bool.false_eq_true, if_false]

/-- A frame of the process channel leaves the device alone. -/
theorem Device.respond_process (d : Device μ) {frame : List UInt8}
    (hchannel : mcChannel (frame.getD 0 0) = .process) :
  d.respond A K config frame
    = (d, A.reply K config d.memory (noService config (mcIsRead (frame.getD 0 0))))
  := by
  simp only [Device.respond, hchannel]

/-- A read of the event memory reaches the device. -/
theorem Device.respond_events (hK : K.Lawful) (p : PortState) (d : Device μ) {addr : Nat}
    (haddr : addr < EVENT_MEMORY_LEN) :
  d.respond A K config (eventFrame K p true addr)
    = (d, A.reply K config d.memory (padOd (odLenForType config.mSeqType)
        (((A.events d.memory).drop addr).take (odLenForType config.mSeqType))))
  := by
  obtain ⟨hmc, -⟩ := eventFrame_head hK p true addr
  simp only [Device.respond, hmc, mcChannel_encode, mcIsRead_encode, mcAddress_encode,
    toNat_readAddr haddr, if_true]

/-- The confirmation of the events reaches the device. -/
theorem Device.respond_confirm (hK : K.Lawful) (p : PortState) (d : Device μ) :
  d.respond A K config (eventFrame K p false 0)
    = ({ d with memory := A.confirm d.memory },
        A.reply K config (A.confirm d.memory) (noService config false))
  := by
  obtain ⟨hmc, -⟩ := eventFrame_head hK p false 0
  have haddr : UInt8.ofNat 0 &&& MC_ADDR_MASK = 0 := by decide
  simp only [Device.respond, hmc, mcChannel_encode, mcIsRead_encode, mcAddress_encode,
    haddr, Device.onConfirm, Bool.false_eq_true, if_false, if_true]

/-- A tick that hands the frame of the slot `slot` to the device. -/
structure Passes (K : Iolinki) (A : Application μ) (config : Config) (s : System μ)
    (slot : List UInt8 × IsduState × EventState) : Prop where
  device : (s.tick K A config).device = (s.device.respond A K config slot.1).1
  wire : (s.tick K A config).wire = (s.device.respond A K config slot.1).2
  isdu : (s.tick K A config).world.port.isdu = slot.2.1
  event : (s.tick K A config).world.port.event = slot.2.2
  direction : (s.tick K A config).world.port.rxOdExpected = mcIsRead (slot.1.getD 0 0)
  ticked : Ticked s.world.port (s.tick K A config).world.port
  drained : (s.tick K A config).world.port.rx = []
  answered : (s.tick K A config).world.port.awaitingResponse = false
  smooth : Smooth (onWire s.wire) s.world (s.tick K A config).world

/-- Each tick takes the reply on the wire and passes one frame, the one that is due then. -/
theorem Linked.passes (hK : K.Lawful) (hvalid : configRefused config = false) {s : System μ}
    {od : List UInt8} (hs : Linked K config s od) :
  ∃ u, Listened K s.wire od s.world u ∧ Passes K A config s (slotFrame K u.port) ∧
    (s.tick K A config).world.port.pdIn = u.port.pdIn ∧
    (s.tick K A config).world.port.pdInLen = u.port.pdInLen ∧
    (s.tick K A config).world.port.pdValid = u.port.pdValid
  := by
  obtain ⟨hticked, hdrained, hanswered, hsmooth, u, hheard, hsends, hframes⟩ :=
    hs.operating.tick hK hvalid hs.drained hs.answered hs.carries hs.expected
  obtain ⟨hlength, htype⟩ := (hs.operating.ticked hheard.ticked).slotFrame_typed hK hvalid
  have htick : s.tick K A config
      = ⟨(tickEvent K (.quiet s.wire) s.world .cycleDue).1,
          (s.device.respond A K config (slotFrame K u.port).1).1,
          (s.device.respond A K config (slotFrame K u.port).1).2⟩ := by
    rw [System.tick, hframes, List.foldl_cons, List.foldl_nil,
      Device.receive_operate hvalid s.device hlength htype]
  refine ⟨u, hheard, ?_, ?_⟩
  · constructor <;> rw [htick]
    · exact hsends.isdu
    · exact hsends.event
    · exact hsends.direction
    · exact hticked
    · exact hdrained
    · exact hanswered
    · exact hsmooth
  · rw [htick]
    exact hsends.input

/-- After a tick the reply of the device waits on the wire. -/
theorem Passes.linked (hvalid : configRefused config = false) (hfits : A.Fits config) {s : System μ}
    {slot : List UInt8 × IsduState × EventState} (h : Passes K A config s slot)
    (hoperating : Operating config s.world.port) {d : Device μ} {od : List UInt8}
    (hreceive : s.device.respond A K config slot.1 = (d, A.reply K config d.memory od))
    (hod : ∀ p : PortState, p.rxOdExpected = mcIsRead (slot.1.getD 0 0) →
      od.length = odExpected config p) :
  Linked K config (s.tick K A config) od ∧ (s.tick K A config).device = d ∧
    (s.tick K A config).wire = A.reply K config d.memory od
  := by
  have hdevice := h.device
  have hwire := h.wire
  rw [hreceive] at hdevice hwire
  refine ⟨⟨hoperating.ticked h.ticked, h.drained, h.answered, ?_, ?_⟩, hdevice, hwire⟩
  · rw [hwire]
    exact A.carries_reply hvalid hfits _ (hod _ h.direction)
  · intro hnil
    rw [hwire] at hnil
    exact absurd hnil (A.reply_ne_nil _ _)

/-! ### Ticks without an event readout -/

/-- The system between two ticks while no event service is in progress or uncollected. -/
structure Between (K : Iolinki) (config : Config) (s : System μ) (od : List UInt8) : Prop
    extends Linked K config s od where
  phase : s.world.port.event.phase = .none
  request : s.world.port.event.request = .none

/-- The frame the ISDU transport asks for. -/
theorem slotFrame_isdu {p : PortState} (hphase : p.event.phase = .none) {f : IsduFrame}
    {s : IsduState} (hnext : isduNext p.isdu p.odLen = some (f, s)) :
  slotFrame K p = (f.octets K p, s, p.event)
  := by
  rw [slotFrame, eventChannelAccess, hphase]
  dsimp only
  rw [hnext]

/-- The frame that goes out while neither the event readout nor the transport asks for one. -/
theorem slotFrame_cyclic (hK : K.Lawful) {p : PortState} (hphase : p.event.phase = .none)
    (hnext : isduNext p.isdu p.odLen = none) (hrests : p.isdu.RestsWhenDone) :
  mcChannel ((slotFrame K p).1.getD 0 0) = .process ∧ (slotFrame K p).2 = (p.isdu, p.event)
  := by
  rw [slotFrame, eventChannelAccess, hphase]
  dsimp only
  rw [hnext]
  dsimp only
  split
  · have hprocess : mcChannel ((List.replicate 1 (0 : UInt8)).getD 0 0) = .process := by decide
    rw [isduFillOd_idle hrests hnext, type0CyclicFrame, hK.encodeType0_eq, List.getD_cons_zero]
    exact ⟨hprocess, rfl⟩
  · rw [isduFillOd_idle hrests hnext, cyclicFrame, message, List.getD_cons_zero, mcChannel_encode]
    exact ⟨rfl, rfl⟩

/-- Without an event readout the on-request data goes to the transport. -/
theorem Between.passes (hK : K.Lawful) (hvalid : configRefused config = false) {s : System μ}
    {od : List UInt8} (hs : Between K config s od) :
  ∃ u, Ticked s.world.port u ∧ u.isdu = isduOnOd s.world.port.isdu od ∧
    u.event = s.world.port.event ∧ Passes K A config s (slotFrame K u)
  := by
  obtain ⟨u, hheard, hpasses, -⟩ := hs.toLinked.passes (A := A) hK hvalid
  have htaken := hheard.taken
  rw [takeOd, eventChannelAccess, hs.phase] at htaken
  obtain ⟨hisdu, hevent⟩ := Prod.mk.inj htaken
  exact ⟨u.port, hheard.ticked, hisdu, hevent, hpasses⟩

/-- The transport asks for a read: the device hands out on-request data. -/
theorem Between.tick_read (hK : K.Lawful) (hvalid : configRefused config = false)
    (hfits : A.Fits config) {s : System μ} {od : List UInt8} (hs : Between K config s od)
    {flowctrl : UInt8} {isdu : IsduState} (hflow : flowctrl &&& MC_ADDR_MASK = flowctrl)
    (hnext : isduNext (isduOnOd s.world.port.isdu od) (odLenForType config.mSeqType)
      = some (.poll flowctrl, isdu)) :
  Between K config (s.tick K A config)
      (s.device.onRead flowctrl (odLenForType config.mSeqType)).2 ∧
    (s.tick K A config).device = (s.device.onRead flowctrl (odLenForType config.mSeqType)).1 ∧
    (s.tick K A config).world.port.isdu = isdu
  := by
  obtain ⟨u, hu, hisdu, hevent, hpasses⟩ := hs.passes (A := A) hK hvalid
  have hoperating := hs.operating.ticked hu
  have hslot : slotFrame K u = ((IsduFrame.poll flowctrl).octets K u, isdu, u.event) := by
    apply slotFrame_isdu (by rw [hevent, hs.phase])
    rw [hisdu, hoperating.odLen, hnext]
  rw [hslot] at hpasses
  have hwidth := s.device.length_onRead flowctrl (odLenForType_pos config.mSeqType)
  have hmc := (hoperating.octets_eq hK hvalid (.poll flowctrl)).1
  obtain ⟨hlinked, hdevice, -⟩ := hpasses.linked hvalid hfits hs.operating
    (Device.respond_read s.device hflow hmc) (by
      intro p hp
      rw [hmc, mcIsRead_encode] at hp
      rw [hwidth, odExpected, if_pos (.inr hp)])
  refine ⟨⟨hlinked, ?_, ?_⟩, hdevice, hpasses.isdu⟩
  · rw [hpasses.event, hevent, hs.phase]
  · rw [hpasses.event, hevent, hs.request]

/-- The transport asks for a write: the device takes a segment. -/
theorem Between.tick_write (hK : K.Lawful) (hvalid : configRefused config = false)
    (hfits : A.Fits config) {s : System μ} {od : List UInt8} (hs : Between K config s od)
    {flowctrl : UInt8} {segment : List UInt8} {isdu : IsduState}
    (hflow : flowctrl &&& MC_ADDR_MASK = flowctrl)
    (hnext : isduNext (isduOnOd s.world.port.isdu od) (odLenForType config.mSeqType)
      = some (⟨false, flowctrl, some segment⟩, isdu)) :
  Between K config (s.tick K A config) (noService config false) ∧
    (s.tick K A config).device = s.device.onWrite A flowctrl segment ∧
    (s.tick K A config).world.port.isdu = isdu
  := by
  obtain ⟨u, hu, hisdu, hevent, hpasses⟩ := hs.passes (A := A) hK hvalid
  have hoperating := hs.operating.ticked hu
  have hslot : slotFrame K u
      = ((⟨false, flowctrl, some segment⟩ : IsduFrame).octets K u, isdu, u.event) := by
    apply slotFrame_isdu (by rw [hevent, hs.phase])
    rw [hisdu, hoperating.odLen, hnext]
  rw [hslot] at hpasses
  obtain ⟨hmc, hdrop⟩ := hoperating.octets_eq hK hvalid ⟨false, flowctrl, some segment⟩
  obtain ⟨hlinked, hdevice, -⟩ := hpasses.linked hvalid hfits hs.operating
    (Device.respond_write s.device hflow hmc (hdrop segment rfl)) (by
      intro p hp
      rw [hmc, mcIsRead_encode] at hp
      rw [← length_noService config p, hp])
  refine ⟨⟨hlinked, ?_, ?_⟩, hdevice, hpasses.isdu⟩
  · rw [hpasses.event, hevent, hs.phase]
  · rw [hpasses.event, hevent, hs.request]

/-- The transport asks for nothing: a cyclic frame leaves the device and the transport alone. -/
theorem Between.tick_cyclic (hK : K.Lawful) (hvalid : configRefused config = false)
    (hfits : A.Fits config) {s : System μ} {od : List UInt8} (hs : Between K config s od)
    (hnext : isduNext (isduOnOd s.world.port.isdu od) (odLenForType config.mSeqType) = none)
    (hrests : (isduOnOd s.world.port.isdu od).RestsWhenDone) :
  (∃ read, Between K config (s.tick K A config) (noService config read)) ∧
    (s.tick K A config).device = s.device ∧
    (s.tick K A config).world.port.isdu = isduOnOd s.world.port.isdu od
  := by
  obtain ⟨u, hu, hisdu, hevent, hpasses⟩ := hs.passes (A := A) hK hvalid
  have hoperating := hs.operating.ticked hu
  have hphase : u.event.phase = .none := by rw [hevent, hs.phase]
  rw [← hisdu, ← hoperating.odLen] at hnext
  rw [← hisdu] at hrests
  obtain ⟨hchannel, hleft⟩ := slotFrame_cyclic hK hphase hnext hrests
  obtain ⟨hlinked, hdevice, -⟩ := hpasses.linked hvalid hfits hs.operating
    (Device.respond_process s.device hchannel) (by
      intro p hp
      rw [← length_noService config p, hp])
  refine ⟨⟨_, hlinked, ?_, ?_⟩, hdevice, ?_⟩
  · rw [hpasses.event, hleft, hphase]
  · rw [hpasses.event, hleft, hevent, hs.request]
  · rw [hpasses.isdu, hleft, hisdu]

end

end IolinkMaster
