import IolinkMaster.Download
import IolinkMaster.EventDetails

/-!
# Events over the link

The event services, repeated with ticks in between, against the event memory of the device: each
call reports what the event memory holds, and `ack_event` confirms it exactly once.  With the reads,
the writes and the parameter blocks these are all acyclic services, and any sequence of them has the
results of the application behind the device.
-/

namespace IolinkMaster

/-! ### Calls -/

/-- A call of `read_event_code`, of `read_event_details` with room for `maxEvents` events, or of
`ack_event`. -/
inductive EventCall where
  | code
  | details (maxEvents : Nat)
  | ack

/-- The readout a call asks for. -/
def EventCall.request : EventCall → EventReq
  | .code => .code
  | .details _ => .details
  | .ack => .ack

/-- The result of a service that leaves the EventCode in the diagnostics. -/
def codeResult (r : World × Int) : World × Option Result :=
  (r.1,
    if r.2 = STATUS_PENDING then none
    else if r.2 = STATUS_OK then some (.code r.1.port.diagnostics.lastEventCode)
    else some (.refused r.2))

/-- Make a call; no result as long as the readout is pending. -/
def EventCall.make : EventCall → World → World × Option Result
  | .code, w => codeResult (readEventCode w)
  | .ack, w => codeResult (ackEvent w)
  | .details maxEvents, w =>
    let (w, r) := readEventDetailsInto w (fun _ => ⟨0, .unknown, 0⟩) maxEvents
    (w,
      if r.ret = STATUS_PENDING then none
      else if r.ret = STATUS_OK then
        some (.events ((List.range (r.outCount.getD 0)).map r.events))
      else some (.refused r.ret))

/-- The events stored in an event memory. -/
def storedEvents (M : List UInt8) : List Event := (activeSlots M).map (eventAt M)

section

variable {μ : Type} (A : Application μ)

/-- The event memory behind the device, looked at directly; at least one event is delivered, even
without room for it. -/
def Application.report (m : μ) : EventCall → μ × Result
  | .code => (m, .code ((storedEvents (A.events m)).head?.elim 0 Event.code))
  | .details maxEvents => (m, .events ((storedEvents (A.events m)).take (max 1 maxEvents)))
  | .ack => (A.confirm m, .code ((storedEvents (A.events m)).head?.elim 0 Event.code))

end

/-! ### What a call does -/

section

variable {w : World} {M : List UInt8} {e : EventState} {n : Nat}

/-- What is held of an event memory once all octets asked for are collected. -/
theorem Gathered.stored (h : Gathered M e n) (hn : readoutLen M ≤ n) :
  (eventActiveSlots e.memory).map (eventAt e.memory) = storedEvents M
  := by
  have hoctets := h.octets hn
  rw [(h.slots hn).1, storedEvents]
  apply List.map_congr_left
  intro slot hslot
  have hlt : 3 + 3 * slot < readoutLen M := entry_lt_lenOf _ slot hslot
  simp only [eventAt, eventCodeAt, EVENT_ENTRY_LEN]
  rw [hoctets (1 + 3 * slot) (by omega), hoctets (1 + 3 * slot + 1) (by omega),
    hoctets (1 + 3 * slot + 2) (by omega)]

/-- The first EventCode is that of the first event. -/
theorem eventFirstCode_eq (memory : List UInt8) :
  eventFirstCode memory
    = ((eventActiveSlots memory).map (eventAt memory)).head?.elim 0 Event.code
  := by
  rw [eventFirstCode]
  cases eventActiveSlots memory <;> rfl

/-- The array holds what was placed in it. -/
theorem map_range_placed (events : Nat → Event) (xs : List Event) :
  (List.range xs.length).map (placed events 0 xs) = xs
  := by
  apply List.ext_getElem
  · rw [List.length_map, List.length_range]
  · intro i hi hx
    rw [List.getElem_map, List.getElem_range, placed_lt hx]

theorem codeResult_pending (w : World) :
  codeResult (w, STATUS_PENDING) = (w, none)
  := rfl

theorem codeResult_ok (w : World) :
  codeResult (w, STATUS_OK) = (w, some (.code w.port.diagnostics.lastEventCode))
  := rfl

/-- While a readout is in progress a call changes nothing. -/
theorem EventCall.make_pending (hstate : acyclicAvailable w.port.state = true)
    (hphase : w.port.event.phase ≠ .none) (c : EventCall) :
  c.make w = (w, none)
  := by
  have hservice : ∀ request consume, eventService w request consume = (w, STATUS_PENDING) := by
    intro request consume
    simp [eventService, hstate, hphase]
  cases c with
  | code => rw [make, readEventCode, hservice, codeResult_pending]
  | ack => rw [make, ackEvent, hservice, codeResult_pending]
  | details maxEvents =>
      rw [make, readEventDetailsInto, hservice]
      rfl

/-- A call without a readout starts one. -/
theorem EventCall.make_started (hstate : acyclicAvailable w.port.state = true)
    (hphase : w.port.event.phase = .none) (hrequest : w.port.event.request = .none)
    (c : EventCall) :
  (c.make w).2 = none ∧ (c.make w).1.port = { w.port with event := eventStart c.request }
  := by
  have hservice : ∀ request consume, eventService w request consume
      = (((w.put { w.port with event := eventStart request }).emit .eventStart).emit
          (.eventFor request), STATUS_PENDING) := by
    intro request consume
    simp [eventService, hstate, hphase, eventComplete, hrequest]
  cases c with
  | code =>
      rw [make, readEventCode, hservice]
      exact ⟨rfl, rfl⟩
  | ack =>
      rw [make, ackEvent, hservice]
      exact ⟨rfl, rfl⟩
  | details maxEvents =>
      rw [make, readEventDetailsInto, hservice]
      exact ⟨rfl, rfl⟩

/-- The call after the readout has its result and gives the readout up. -/
theorem EventCall.make_collected (hstate : acyclicAvailable w.port.state = true)
    (hcomplete : eventComplete w.port.event = true) (c : EventCall) {μ : Type} (A : Application μ)
    (m : μ) (hstored : (eventActiveSlots w.port.event.memory).map (eventAt w.port.event.memory)
      = storedEvents (A.events m)) :
  (c.make w).2 = some (A.report m c).2 ∧
    ∃ d, (c.make w).1.port
      = { w.port with diagnostics := d, event := { w.port.event with request := .none } }
  := by
  have hcode := eventFirstCode_eq w.port.event.memory
  rw [hstored] at hcode
  cases c with
  | code =>
      rw [make, readEventCode, eventService_takes hstate hcomplete, codeResult_ok]
      refine ⟨?_, _, rfl⟩
      dsimp only [World.put, World.emit, Application.report]
      rw [← hcode]
      split <;> rfl
  | ack =>
      rw [make, ackEvent, eventService_takes hstate hcomplete, codeResult_ok]
      refine ⟨?_, _, rfl⟩
      rw [Application.report, ← hcode]
      rfl
  | details maxEvents =>
      have hret : (readEventDetails w maxEvents).2 = STATUS_OK := by
        rw [readEventDetails, eventService_takes hstate hcomplete]
      have hport : ∃ d, (readEventDetails w maxEvents).1.port
          = { w.port with diagnostics := d, event := { w.port.event with request := .none } } := by
        rw [readEventDetails, eventService_takes hstate hcomplete]
        dsimp only
        split
        · exact ⟨_, congrArg (fun p : PortState => { p with
            event := { p.event with request := .none } }) (foldl_event _ _).1⟩
        · exact ⟨_, rfl⟩
      have hdetails : eventDetails w.port.event.memory maxEvents
          = (storedEvents (A.events m)).take (max 1 maxEvents) := by
        rw [eventDetails, hstored]
      rw [make, readEventDetailsInto_eq, hret, if_pos rfl, hdetails]
      refine ⟨?_, hport⟩
      dsimp only [Option.getD_some]
      rw [map_range_placed]
      rfl

end

/-! ### Readouts over the link -/

section

variable {μ : Type} {K : Iolinki} {A : Application μ} {config : Config}

/-- The readout for `request` goes on, has to be confirmed, or is over. -/
structure Underway (request : EventReq) (e : EventState) : Prop where
  asks : e.request = request
  phase : e.phase = .read ∨ e.phase = .write ∧ e.addr = 0 ∧ request = .ack ∨
    e.phase = .none ∧ request ≠ .ack

/-- The on-request data of a diagnosis read from the octet `i` of the event memory `M` on. -/
def diagnosisOd (config : Config) (M : List UInt8) (i : Nat) : List UInt8 :=
  padOd (odLenForType config.mSeqType) ((M.drop i).take (odLenForType config.mSeqType))

/-- The port and the device during the readout for the call `c`, with at most `n` ticks left. -/
inductive ReadingOut (K : Iolinki) (A : Application μ) (config : Config) (c : EventCall) (m : μ) :
    Nat → System μ → Prop where
  /-- With the reply on the wire, `i` octets of the event memory have arrived. -/
  | reading {s : System μ} {od : List UInt8} {i : Nat} (linked : Linked K config s od)
      (cleared : Cleared s.world.port.isdu) (memory : s.device.memory = m)
      (phase : s.world.port.event.phase = .read)
      (underway : Underway c.request (takeOd s.world.port od).2)
      (advanced : Advanced (A.events m) (takeOd s.world.port od).2 i) :
      ReadingOut K A config c m (readoutLen (A.events m) - i + 1) s
  /-- The readout is over, and confirmed where the call asks for it. -/
  | finished {s : System μ} {od : List UInt8} {i : Nat} (linked : Linked K config s od)
      (cleared : Cleared s.world.port.isdu) (memory : s.device.memory = (A.report m c).1)
      (phase : s.world.port.event.phase = .none) (request : s.world.port.event.request = c.request)
      (gathered : Gathered (A.events m) s.world.port.event i) (all : readoutLen (A.events m) ≤ i) :
      ReadingOut K A config c m 0 s

/-- The answer to a diagnosis read leaves the readout on its way. -/
theorem Underway.onOd {request : EventReq} {e : EventState} (h : e.request = request)
    (hread : e.phase = .read) (od : List UInt8) :
  Underway request (eventOnOd e od)
  := by
  obtain ⟨hrequest, hphase⟩ := eventOnOd_cases hread od
  rw [h] at hrequest hphase
  exact ⟨hrequest, hphase⟩

theorem length_diagnosisOd (config : Config) (M : List UInt8) (i : Nat) :
  (diagnosisOd config M i).length = odLenForType config.mSeqType
  := by
  apply length_padOd
  rw [List.length_take]
  apply Nat.min_le_left

/-- The on-request data of a diagnosis read are octets of the event memory, then zero octets. -/
theorem take_diagnosisOd (config : Config) (M : List UInt8) (i : Nat) :
  (diagnosisOd config M i).take (M.length - i) <+: M.drop i
  := by
  rw [diagnosisOd, ← List.length_drop]
  generalize M.drop i = octets
  by_cases hk : odLenForType config.mSeqType ≤ octets.length
  · rw [padOd, List.length_take, Nat.min_eq_left hk, Nat.sub_self, List.replicate_zero,
      List.append_nil]
    exact (List.take_prefix _ _).trans (List.take_prefix _ _)
  · rw [List.take_of_length_le (Nat.le_of_not_le hk), padOd, List.take_left]

/-- During a readout the on-request data leave the transport alone. -/
theorem takeOd_reading {p : PortState} (hphase : p.event.phase = .read) (od : List UInt8) :
  takeOd p od = (p.isdu,
    if p.event.odExpected then eventOnOd { p.event with odExpected := false } od else p.event)
  := by
  rw [takeOd, eventChannelAccess, hphase]
  rfl

/-- The on-request data of an expected reply extend the readout. -/
theorem takeOd_expected {p : PortState} {e : EventState} (hphase : e.phase = .read)
    (hunexpected : e.odExpected = false) (hevent : p.event = { e with odExpected := true })
    (od : List UInt8) :
  (takeOd p od).2 = eventOnOd e od
  := by
  have hread : p.event.phase = .read := by
    rw [hevent]
    exact hphase
  rw [takeOd_reading hread, hevent]
  dsimp only
  rw [if_pos rfl, ← hunexpected]

/-- During a readout a tick takes the on-request data on the wire for the event memory. -/
theorem Linked.passes_reading (hK : K.Lawful) (hvalid : configRefused config = false)
    {s : System μ} {od : List UInt8} (hs : Linked K config s od)
    (hphase : s.world.port.event.phase = .read) :
  ∃ u : PortState, u.isdu = s.world.port.isdu ∧ u.event = (takeOd s.world.port od).2 ∧
    Passes K A config s (slotFrame K u)
  := by
  obtain ⟨u, hheard, hpasses, -⟩ := hs.passes (A := A) hK hvalid
  have htaken := hheard.taken
  have hevent : u.port.event = (takeOd s.world.port od).2 := congrArg Prod.snd htaken
  rw [takeOd_reading hphase] at htaken
  exact ⟨u.port, congrArg Prod.fst htaken, hevent, hpasses⟩

/-- The tick that reads the next octets of the event memory. -/
theorem ReadingOut.tick_read (hK : K.Lawful) (hvalid : configRefused config = false)
    (hfits : A.Fits config) {c : EventCall} {m : μ} {s : System μ} {od : List UInt8} {i : Nat}
    (hs : Linked K config s od) (hcleared : Cleared s.world.port.isdu)
    (hmemory : s.device.memory = m) (hphase : s.world.port.event.phase = .read)
    (hunderway : Underway c.request (takeOd s.world.port od).2)
    (hadvanced : Advanced (A.events m) (takeOd s.world.port od).2 i)
    (hread : (takeOd s.world.port od).2.phase = .read) :
  ReadingOut K A config c m (readoutLen (A.events m) - (i + odLenForType config.mSeqType) + 1)
    (s.tick K A config)
  := by
  obtain ⟨u, hisdu, hevent, hpasses⟩ := hs.passes_reading (A := A) hK hvalid hphase
  rw [← hevent] at hunderway hadvanced hread
  obtain ⟨hgathered, hends, haligned, hunexpected⟩ := hadvanced
  have hlt : i < EVENT_MEMORY_LEN := Nat.lt_of_lt_of_le (hends.mp hread) (lenOf_le _)
  have haddr : u.event.addr = i := by
    rw [haligned hread, hgathered.len]
    omega
  have hslot : slotFrame K u = (eventFrame K u true i, s.world.port.isdu,
      { u.event with odExpected := true }) := by
    rw [slotFrame, eventChannelAccess, hread, haddr, hisdu]
    rfl
  rw [hslot] at hpasses
  have hmc := (eventFrame_head hK u true i).1
  have hreceive : s.device.respond A K config (eventFrame K u true i)
      = (s.device, A.reply K config s.device.memory (diagnosisOd config (A.events m) i)) := by
    rw [Device.respond_events hK u s.device hlt, hmemory, diagnosisOd]
  obtain ⟨hlinked, hdevice, -⟩ := hpasses.linked hvalid hfits hs.operating hreceive (by
      intro p hp
      rw [hmc, mcIsRead_encode] at hp
      rw [length_diagnosisOd, odExpected, if_pos (.inr hp)])
  have htake := takeOd_expected hread (hunexpected hread) hpasses.event
    (diagnosisOd config (A.events m) i)
  have honOd := hgathered.onOd (A.length_events m) hread (haligned hread)
    (take_diagnosisOd config (A.events m) i) (hunexpected hread)
  rw [length_diagnosisOd] at honOd
  refine .reading hlinked ?_ (by rw [hdevice, hmemory]) ?_ ?_ ?_
  · rw [hpasses.isdu]
    exact hcleared
  · rw [hpasses.event]
    exact hread
  · rw [htake]
    exact Underway.onOd hunderway.asks hread _
  · rw [htake]
    exact honOd

/-- The tick after the last octets: it writes the confirmation where the call asks for it. -/
theorem ReadingOut.tick_over (hK : K.Lawful) (hvalid : configRefused config = false)
    (hfits : A.Fits config) {c : EventCall} {m : μ} {s : System μ} {od : List UInt8} {i : Nat}
    (hs : Linked K config s od) (hcleared : Cleared s.world.port.isdu)
    (hmemory : s.device.memory = m) (hphase : s.world.port.event.phase = .read)
    (hunderway : Underway c.request (takeOd s.world.port od).2)
    (hadvanced : Advanced (A.events m) (takeOd s.world.port od).2 i)
    (hread : (takeOd s.world.port od).2.phase ≠ .read) :
  ReadingOut K A config c m 0 (s.tick K A config)
  := by
  obtain ⟨u, hisdu, hevent, hpasses⟩ := hs.passes_reading (A := A) hK hvalid hphase
  rw [← hevent] at hunderway hadvanced hread
  obtain ⟨hgathered, hends, -, -⟩ := hadvanced
  have hall : readoutLen (A.events m) ≤ i := by
    by_contra hlt
    exact hread (hends.mpr (Nat.lt_of_not_le hlt))
  obtain ⟨hrequest, hcases⟩ := hunderway
  rcases hcases with hcontra | ⟨hwrite, haddr, hack⟩ | ⟨hnone, hack⟩
  · exact absurd hcontra hread
  · have hslot : slotFrame K u
        = (eventFrame K u false 0, s.world.port.isdu, eventOnWritten u.event) := by
      rw [slotFrame, eventChannelAccess, hwrite, haddr, hisdu]
      rfl
    rw [hslot] at hpasses
    have hmc := (eventFrame_head hK u false 0).1
    obtain ⟨hlinked, hdevice, -⟩ := hpasses.linked hvalid hfits hs.operating
      (Device.respond_confirm hK u s.device) (by
        intro p hp
        rw [hmc, mcIsRead_encode] at hp
        rw [← length_noService config p, hp])
    have hwritten := hpasses.event
    rw [eventOnWritten, if_pos hwrite] at hwritten
    have hcall : c = .ack := by
      cases c with
      | ack => rfl
      | code | details => cases hack
    refine .finished hlinked ?_ ?_ ?_ ?_ (i := i) ?_ hall
    · rw [hpasses.isdu]
      exact hcleared
    · rw [hdevice, hcall, ← hmemory]
      rfl
    · rw [hwritten]
      rfl
    · rw [hwritten]
      exact hrequest
    · rw [hwritten]
      exact ⟨⟨hgathered.width, hgathered.len, hgathered.memory⟩, hgathered.seen, hgathered.needed⟩
  · have hidle : isduNext u.isdu u.odLen = none := by
      rw [hisdu]
      simp [isduNext, hcleared.op, hcleared.noIdle, hcleared.noAbort]
    have hrests : u.isdu.RestsWhenDone := by
      rw [hisdu]
      intro hdone
      rw [hcleared.notDone] at hdone
      contradiction
    obtain ⟨hchannel, hleft⟩ := slotFrame_cyclic hK hnone hidle hrests
    obtain ⟨hlinked, hdevice, -⟩ := hpasses.linked hvalid hfits hs.operating
      (Device.respond_process s.device hchannel) (by
        intro p hp
        rw [← length_noService config p, hp])
    have hkept := hpasses.event
    rw [hleft] at hkept
    dsimp only at hkept
    refine .finished hlinked ?_ ?_ ?_ ?_ (i := i) ?_ hall
    · rw [hpasses.isdu, hleft, hisdu]
      exact hcleared
    · rw [hdevice, hmemory]
      cases c with
      | ack => exact absurd rfl hack
      | code | details => rfl
    · rw [hkept]
      exact hnone
    · rw [hkept]
      exact hrequest
    · rw [hkept]
      exact hgathered

/-- A tick during a readout brings it closer to its end, and leaves the parameter block alone. -/
theorem ReadingOut.tick (hK : K.Lawful) (hvalid : configRefused config = false)
    (hfits : A.Fits config) {c : EventCall} {m : μ} {s : System μ} {n : Nat}
    (h : ReadingOut K A config c m n s) (hphase : s.world.port.event.phase ≠ .none) :
  (∃ n' < n, ReadingOut K A config c m n' (s.tick K A config)) ∧
    (s.tick K A config).world.port.block = s.world.port.block
  := by
  cases h with
  | @finished _ od i linked cleared memory phase request gathered all => contradiction
  | @reading _ od i linked cleared memory phase underway advanced =>
      obtain ⟨u, -, -, hpasses⟩ := linked.passes_reading (A := A) hK hvalid phase
      refine ⟨?_, hpasses.ticked.block⟩
      by_cases hread : (takeOd s.world.port od).2.phase = .read
      · have hlt : i < readoutLen (A.events m) := advanced.ends.mp hread
        have hk := odLenForType_pos config.mSeqType
        refine ⟨_, ?_, tick_read hK hvalid hfits linked cleared memory phase underway advanced hread⟩
        omega
      · exact ⟨0, Nat.succ_pos _,
          tick_over hK hvalid hfits linked cleared memory phase underway advanced hread⟩

/-! ### Calls over the link -/

/-- The first attempt to make a call, on a system at rest, starts its readout. -/
theorem AtRest.start {s : System μ} {m : μ} (h : AtRest K config s m) (c : EventCall) :
  ∃ t, System.call c.make s = (t, none) ∧
    ReadingOut K A config c m (readoutLen (A.events m) + 1) t ∧
    t.world.port.event.phase ≠ .none ∧ t.world.port.block = s.world.port.block
  := by
  obtain ⟨⟨od, hs⟩, hcleared, hmemory⟩ := h
  obtain ⟨hresult, hport⟩ := EventCall.make_started hs.available hs.phase hs.request c
  obtain ⟨w, hw⟩ : ∃ w, c.make s.world = (w, none) := ⟨_, Prod.ext rfl hresult⟩
  rw [hw] at hport
  dsimp only at hport
  have hevent : w.port.event = eventStart c.request := by rw [hport]
  have hreading : w.port.event.phase = .read := by
    rw [hevent]
    rfl
  have htake : (takeOd w.port od).2 = eventStart c.request := by
    rw [takeOd_reading hreading, hevent]
    rfl
  rw [System.call, hw]
  refine ⟨{ s with world := w }, rfl, ?_, ?_, ?_⟩
  · refine .reading (i := 0) (hs.toLinked.called (t := s.world.port.isdu)
      (d := s.world.port.diagnostics) (b := s.world.port.block) hport fun _ => rfl)
      ?_ hmemory hreading ?_ ?_
    · dsimp only
      rw [hport]
      exact hcleared
    · dsimp only
      rw [htake]
      exact ⟨rfl, .inl rfl⟩
    · dsimp only
      rw [htake]
      apply advanced_start
  · dsimp only
    rw [hreading]
    decide
  · dsimp only
    rw [hport]

/-- An attempt to make a call whose readout has started. -/
theorem ReadingOut.attempt (hK : K.Lawful) (hvalid : configRefused config = false)
    (hfits : A.Fits config) {c : EventCall} {m : μ} {s : System μ} {n : Nat}
    (h : ReadingOut K A config c m n s) :
  (∃ t r, System.call c.make s = (t, some r) ∧ r = (A.report m c).2 ∧
      AtRest K config t (A.report m c).1 ∧ t.world.port.block = s.world.port.block) ∨
    ∃ n' < n, ∃ t, System.call c.make s = (t, none) ∧
      ReadingOut K A config c m n' (t.tick K A config) ∧
      (t.tick K A config).world.port.block = s.world.port.block
  := by
  rw [System.call]
  by_cases hnone : s.world.port.event.phase = .none
  · cases h with
    | reading linked cleared memory phase underway advanced =>
        rw [phase] at hnone
        contradiction
    | @finished _ od i linked cleared memory phase request gathered all =>
        have havailable : acyclicAvailable s.world.port.state = true := by
          rw [linked.operating.state]
          rfl
        have hcomplete : eventComplete s.world.port.event = true := by
          rw [eventComplete, phase, request]
          cases c with
          | code | details | ack => rfl
        obtain ⟨hresult, d, hport⟩ := EventCall.make_collected havailable hcomplete c A m
          (gathered.stored all)
        obtain ⟨w, hw⟩ : ∃ w, c.make s.world = (w, some (A.report m c).2) := ⟨_, Prod.ext rfl hresult⟩
        rw [hw] at hport
        dsimp only at hport
        rw [hw]
        refine .inl ⟨{ s with world := w }, _, rfl, rfl, ⟨⟨od, ?_, ?_, ?_⟩, ?_, memory⟩, ?_⟩
        · exact linked.called (t := s.world.port.isdu) (b := s.world.port.block) hport linked.expected
        · dsimp only
          rw [hport]
          exact phase
        · dsimp only
          rw [hport]
        · dsimp only
          rw [hport]
          exact cleared
        · dsimp only
          rw [hport]
  · have havailable : acyclicAvailable s.world.port.state = true := by
      cases h with
      | reading linked | finished linked =>
          rw [linked.operating.state]
          rfl
    obtain ⟨⟨n', hn', hnext⟩, hblock⟩ := h.tick hK hvalid hfits hnone
    rw [EventCall.make_pending havailable hnone]
    exact .inr ⟨n', hn', s, rfl, hnext, hblock⟩

/-- A call on a system at rest, repeated with ticks in between, reports what the event memory holds;
the system is at rest again, and the parameter block is the same. -/
theorem AtRest.report (hK : K.Lawful) (hvalid : configRefused config = false)
    (hfits : A.Fits config) {s : System μ} {m : μ} (h : AtRest K config s m) (c : EventCall) :
  ∃ t, Retry.Ends (System.tick K A config) (fun _ => True) (System.call c.make)
      (EVENT_MEMORY_LEN + 1) s (t, (A.report m c).2) ∧
    AtRest K config t (A.report m c).1 ∧ t.world.port.block = s.world.port.block
  := by
  obtain ⟨t, hlater, hreading, hphase, hblock⟩ := h.start c
  obtain ⟨⟨n, hn, hnext⟩, hkept⟩ := hreading.tick hK hvalid hfits hphase
  obtain ⟨⟨u, r⟩, hends, hr, hu, hleft⟩ := Retry.ends_of_rank
    (I := fun _ : System μ => True)
    (P := fun n u => ReadingOut K A config c m n u ∧ u.world.port.block = s.world.port.block)
    (Q := fun r => r.2 = (A.report m c).2 ∧ AtRest K config r.1 (A.report m c).1 ∧
      r.1.world.port.block = s.world.port.block)
    (fun _ _ _ => trivial) (by
      rintro n u ⟨hu, hub⟩
      rcases hu.attempt hK hvalid hfits with ⟨t, r, hnow, hr, ht, hb⟩ | ⟨n', hn', t, hlater, ht, hb⟩
      · exact .inl ⟨t, r, hnow, hr, ht, by rw [hb, hub]⟩
      · exact .inr ⟨n', hn', t, hlater, ht, by rw [hb, hub]⟩)
    ⟨hnext, by rw [hkept, hblock]⟩
  obtain rfl : r = (A.report m c).2 := hr
  have hle : readoutLen (A.events m) ≤ EVENT_MEMORY_LEN := lenOf_le _
  exact ⟨u, (Retry.Ends.later trivial hlater hends).mono (fun _ h => h) (by omega), hu, hleft⟩

/-! ### Any services over the link -/

/-- A call of an acyclic service. -/
inductive RemoteOp where
  | isdu (call : IsduCall)
  | block (index : UInt16) (subindex : UInt8) (data : List UInt8)
  | event (call : EventCall)

/-- The result of a call that only has a result code. -/
def Result.ofRet (ret : Int) : Result := if ret = STATUS_OK then .done else .refused ret

/-- Make a call; no result as long as it is pending. -/
def RemoteOp.make : RemoteOp → World → World × Option Result
  | .isdu call, w => call.make w
  | .block index subindex data, w =>
    let (w, r) := awaited (fun w => writeParameterBlock w index subindex data) w
    (w, r.map Result.ofRet)
  | .event call, w => call.make w

/-- What a call does to the application behind the device and to the latched transfer. -/
def Application.operate (A : Application μ) (t : μ × BlockState) : RemoteOp → (μ × BlockState) × Result
  | .isdu call =>
    let (m, r) := A.serve t.1 call
    ((m, t.2), r)
  | .block index subindex data =>
    let (t, ret) := A.transfer t (index, subindex, data)
    (t, Result.ofRet ret)
  | .event call =>
    let (m, r) := A.report t.1 call
    ((m, t.2), r)

/-- An application of the master that lets some ticks pass before each of its calls. -/
def System.operate (K : Iolinki) (A : Application μ) (config : Config) (fuel : Nat) (s : System μ)
    (v : Nat × RemoteOp) : Option (System μ × Result) :=
  System.serve K A config fuel ((System.tick K A config)^[v.1] s) v.2.make

/-- A call on a system at rest ends with the result the application gives it. -/
theorem AtRest.operate (hK : K.Lawful) (hvalid : configRefused config = false)
    (hfits : A.Fits config) {s : System μ} {m : μ} (hs : AtRest K config s m) (op : RemoteOp) :
  ∃ t, Retry.Ends (System.tick K A config) (fun _ => True) (System.call op.make) (4 * A.patience) s
      (t, (A.operate (m, s.world.port.block) op).2) ∧
    AtRest K config t (A.operate (m, s.world.port.block) op).1.1 ∧
    t.world.port.block = (A.operate (m, s.world.port.block) op).1.2
  := by
  cases op with
  | isdu call =>
      obtain ⟨t, hends, ht⟩ := hs.ends hK hvalid hfits call rfl
      exact ⟨t, hends.mono (fun _ _ => trivial) (by omega), ht⟩
  | block index subindex data =>
      obtain ⟨t, hends, ht⟩ := hs.transfer hK hvalid hfits (index, subindex, data)
      have hfollows : Retry.Follows (fun _ => True)
          (System.call (μ := μ) (RemoteOp.block index subindex data).make)
          (System.call (awaited fun w => writeParameterBlock w index subindex data))
          (fun ret t => (t, some (Result.ofRet ret))) := by
        intro u _
        simp only [System.call, RemoteOp.make]
        generalize awaited (fun w => writeParameterBlock w index subindex data) u.world = q
        obtain ⟨v, _ | ret⟩ := q
        · rfl
        · rfl
      exact ⟨t, hends.follow_now hfollows rfl, ht⟩
  | event call =>
      obtain ⟨t, hends, ht⟩ := hs.report hK hvalid hfits call
      refine ⟨t, hends.mono (fun _ _ => trivial) ?_, ht⟩
      rw [Application.patience, EVENT_MEMORY_LEN, ISDU_EXT_MAX]
      omega

/-- The port, the link and the device together are the application behind the device, with the
latched transfer beside it: any reads, writes, parameter blocks and event services, in any order and
with any ticks between them, have the results that the application gives to the same calls in the
same order. -/
theorem remote_operations (hK : K.Lawful) (hvalid : configRefused config = false)
    (hfits : A.Fits config) {fuel : Nat} (hfuel : 4 * A.patience < fuel) {s : System μ} {m : μ}
    (h : AtRest K config s m) (visits : List (Nat × RemoteOp)) :
  let r := Refinement.answers A.operate (m, s.world.port.block) (visits.map Prod.snd)
  ∃ s', Refinement.attempts (System.operate K A config fuel) s visits = some (s', r.2) ∧
    AtRest K config s' r.1.1 ∧ s'.world.port.block = r.1.2
  := by
  have hsimulates : Refinement.Simulates
      (fun (s : System μ) (t : μ × BlockState) =>
        AtRest K config s t.1 ∧ s.world.port.block = t.2)
      (System.operate K A config fuel) (fun t (v : Nat × RemoteOp) => A.operate t v.2) := by
    rintro s ⟨m, b⟩ v ⟨hs, rfl⟩
    have hblock := hs.ticks_block hK hvalid hfits v.1
    obtain ⟨t, hends, ht⟩ := (hs.ticks hK hvalid hfits v.1).operate hK hvalid hfits v.2
    rw [hblock] at hends ht
    exact ⟨t, hends.run_eq hfuel, ht⟩
  obtain ⟨s', hattempts, hs'⟩ := hsimulates.attempts_eq visits
    (s := s) (t := (m, s.world.port.block)) ⟨h, rfl⟩
  rw [Refinement.answers_map A.operate Prod.snd] at hattempts hs'
  exact ⟨s', hattempts, hs'⟩

end

/-- A device whose event memory is the parameter 0x1000; a confirmation clears it. -/
def eventfulMemory : Application (UInt16 → UInt8 → List UInt8) :=
  { parameterMemory with
    events := fun m => padOd EVENT_MEMORY_LEN ((m 0x1000 0).take EVENT_MEMORY_LEN)
    confirm := fun m i j => if i = 0x1000 then [] else m i j
    length_events := fun _ => length_padOd (List.length_take_le _ _) }

theorem patience_eventfulMemory :
  eventfulMemory.patience = 481
  := rfl

/-- Two events are raised, reported and confirmed once, between a parameter block and another that
cannot be encoded and stays latched. -/
theorem remote_operations_mixed :
  ∃ s, Refinement.attempts (System.operate .reference eventfulMemory (.bare .type2_1 1 1) 2000)
      restingSystem
      [(2, .block 0x0040 1 [7, 8]), (0, .isdu (.read 0x0040 1)), (1, .event .code),
        (0, .isdu (.write 0x1000 0 [0x05, 0x74, 0x50, 0x00, 0, 0, 0, 0xE4, 0x87, 0x10])),
        (0, .event (.details 6)), (3, .event .ack), (0, .event .code), (0, .isdu (.read 0x1000 0)),
        (0, .block 0x0040 1 (List.replicate 12 0)), (0, .block 0x0041 1 [9])]
    = some (s, [.done, .data [7, 8], .code 0, .done,
        .events [⟨0x74, .error, 0x5000⟩, ⟨0xE4, .warning, 0x8710⟩], .code 0x5000, .code 0, .data [],
        .refused ISDU_ERR_BUFFER_TOO_SMALL, .refused ISDU_ERR_BUSY])
  := by
  have hspec : (Refinement.answers eventfulMemory.operate (fun _ _ => [], BlockState.zero)
      [.block 0x0040 1 [7, 8], .isdu (.read 0x0040 1), .event .code,
        .isdu (.write 0x1000 0 [0x05, 0x74, 0x50, 0x00, 0, 0, 0, 0xE4, 0x87, 0x10]),
        .event (.details 6), .event .ack, .event .code, .isdu (.read 0x1000 0),
        .block 0x0040 1 (List.replicate 12 0), .block 0x0041 1 [9]]).2
      = [.done, .data [7, 8], .code 0, .done,
        .events [⟨0x74, .error, 0x5000⟩, ⟨0xE4, .warning, 0x8710⟩], .code 0x5000, .code 0, .data [],
        .refused ISDU_ERR_BUFFER_TOO_SMALL, .refused ISDU_ERR_BUSY] := by
    decide +kernel
  have hfuel : 4 * eventfulMemory.patience < 2000 := by
    rw [patience_eventfulMemory]
    omega
  obtain ⟨s, hanswers, -⟩ := remote_operations (A := eventfulMemory) Iolinki.lawful_reference
    (by decide) (fun _ => rfl) hfuel atRest_restingSystem
    [(2, .block 0x0040 1 [7, 8]), (0, .isdu (.read 0x0040 1)), (1, .event .code),
      (0, .isdu (.write 0x1000 0 [0x05, 0x74, 0x50, 0x00, 0, 0, 0, 0xE4, 0x87, 0x10])),
      (0, .event (.details 6)), (3, .event .ack), (0, .event .code), (0, .isdu (.read 0x1000 0)),
      (0, .block 0x0040 1 (List.replicate 12 0)), (0, .block 0x0041 1 [9])]
  rw [← hspec]
  exact ⟨s, hanswers⟩

end IolinkMaster
