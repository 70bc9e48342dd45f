import IolinkMaster.Library.Segment
import IolinkMaster.Codec
import IolinkMaster.Encoding
import IolinkMaster.Transport

/-!
# Segmentation of ISDU transfers

The frames of a loss-free transfer, as a list computed from the request octets, the
width of the on-request data and the replies, and the proof that successive calls of
`send_isdu` emit exactly these frames.
-/

namespace IolinkMaster

/-! ### The frames of a transfer -/

/-- FlowCTRL of the `i`-th segment of a stream: START, then COUNT modulo 16. -/
def segmentFlowctrl (i : Nat) : UInt8 :=
  if i = 0 then FLOWCTRL_START else UInt8.ofNat (i % 16)

/-- The `i`-th segment of a request, filled up with zero octets. -/
def segment (request : List UInt8) (k i : Nat) : List UInt8 := Segment.piece 0 k request i

/-- The segment that starts at the cursor `i * k` is what `isdu_fill_od` copies there. -/
theorem segment_eq (request : List UInt8) (k i : Nat) :
  segment request k i = padOd k ((request.drop (i * k)).take k)
  := rfl

/-- The write that carries the `i`-th segment. -/
def requestFrame (request : List UInt8) (k i : Nat) : IsduFrame :=
  ⟨false, segmentFlowctrl i, some (segment request k i)⟩

/-- The writes that carry a request. -/
def requestFrames (request : List UInt8) (k : Nat) : List IsduFrame :=
  (List.range (Segment.count request.length k)).map (requestFrame request k)

/-- The read that concludes a service, if there is one. -/
def concludingFrames (o : Outcome) : List IsduFrame :=
  if o.abort then [.poll FLOWCTRL_ABORT] else if o.idle then [.poll FLOWCTRL_IDLE] else []

/-- The reads that fetch a response and conclude the service, given the response octets
`stream` received so far, the number `j` of the next COUNT and the replies `ods`: START
until a reply carries the first response octet, then COUNT until the response is
complete, then the concluding read. -/
def responseFrames (stream : List UInt8) (j : Nat) : List (List UInt8) → List IsduFrame
  | [] => []
  | od :: ods =>
    match outcome stream with
    | some o => concludingFrames o
    | none =>
      if stream = [] then .poll FLOWCTRL_START :: responseFrames (responseOctets od) 1 ods
      else .poll (segmentFlowctrl j) :: responseFrames (stream ++ od) (j + 1) ods

/-- The frames of as many calls of `send_isdu` as there are replies. -/
def transferFrames (request : List UInt8) (k : Nat) (ods : List (List UInt8)) :
    List IsduFrame :=
  (requestFrames request k).take ods.length ++
    responseFrames [] 0 (ods.drop (Segment.count request.length k))

/-! ### Loss-free runs -/

variable (K : Iolinki) (env : Env)

/-- One call of `send_isdu`.  The on-request data `od` of the reply to a read is
delivered; the reply to a write delivers none. -/
def exchange (w : World) (od : List UInt8) : World :=
  let (w, sent) := sendIsdu K env w
  if sent && w.port.rxOdExpected then w.putIsdu (isduOnOd w.port.isdu od) else w

/-- Calls of `send_isdu`, one for each reply. -/
def lossFree (w : World) (ods : List (List UInt8)) : World := ods.foldl (exchange K env) w

/-- The frames of `fs` recorded as sent by the port, latest first. -/
def sentBy (p : PortState) (fs : List IsduFrame) : List Obs :=
  (fs.map fun f => .sent p.state (f.octets K p)).reverse

variable {K env}

/-! ### The frames on the wire -/

/-- The octets of process data a port puts before the on-request data of a frame of the
ISDU channel. -/
def isduPdLen (p : PortState) : Nat := if isduMulti p then (pdOutOctets p).length else 0

/-- What a device reads off a frame of the ISDU channel that brings `pdLen` octets of
process data: the direction and the FlowCTRL from the Master Command, and the on-request
data from the octets behind the CKT octet and the process data, if there are any. -/
def isduOnWire (pdLen : Nat) : List UInt8 → Option IsduFrame
  | mc :: _ckt :: body =>
    if mcChannel mc = .isdu then
      some ⟨mcIsRead mc, mcAddress mc,
        if body.drop pdLen = [] then none else some (body.drop pdLen)⟩
    else none
  | _ => none

/-- The frame of the ISDU channel an observation put on the wire. -/
def isduEmitted (pdLen : Nat) : Obs → Option IsduFrame
  | .sent _ frame => isduOnWire pdLen frame
  | _ => none

/-- The frames of the ISDU channel in a log, oldest first. -/
def isduSent (pdLen : Nat) (log : List Obs) : List IsduFrame :=
  log.reverse.filterMap (isduEmitted pdLen)

/-- A frame a Master Command can announce: FlowCTRL fits its address bits, and on-request
data goes with a write only. -/
structure IsduFrame.Proper (f : IsduFrame) : Prop where
  fits : f.flowctrl &&& MC_ADDR_MASK = f.flowctrl
  directed : f.od.isSome = !f.read
  filled : f.od ≠ some []

/-- A device reads a frame off the wire as it was sent. -/
theorem isduOnWire_octets (hK : K.Lawful) (p : PortState) {f : IsduFrame} (h : f.Proper) :
  isduOnWire (isduPdLen p) (f.octets K p) = some f
  := by
  obtain ⟨read, flowctrl, od⟩ := f
  have hfits : flowctrl &&& MC_ADDR_MASK = flowctrl := h.fits
  have hbody : ∀ ckt, isduOnWire (isduPdLen p) (encodeMasterCommand read .isdu flowctrl :: ckt ::
      ((if isduMulti p then pdOutOctets p else []) ++ od.getD []))
        = some ⟨read, flowctrl, od⟩ := by
    intro ckt
    have hdrop : ((if isduMulti p then pdOutOctets p else []) ++ od.getD []).drop (isduPdLen p)
        = od.getD [] := by
      apply List.drop_left'
      rw [isduPdLen]
      split <;> rfl
    simp only [isduOnWire, mcChannel_encode, if_true, mcIsRead_encode, mcAddress_encode, hfits, hdrop]
    cases od with
    | none => rfl
    | some od =>
        have hod : od ≠ [] := fun hnil => h.filled (by rw [hnil])
        rw [Option.getD_some, if_neg hod]
  simp only [IsduFrame.octets, buildIsduFrame]
  cases hmulti : isduMulti p with
  | true =>
      rw [hmulti] at hbody
      apply hbody
  | false =>
      rw [hmulti] at hbody
      cases od with
      | none =>
          simp only [Bool.not_false, if_true, hK.encodeType0_eq]
          apply hbody
      | some od => apply hbody

/-- Proper frames a port has sent are read off the wire in their order. -/
theorem isduSent_sentBy (hK : K.Lawful) (p : PortState) {fs : List IsduFrame}
    (h : ∀ f ∈ fs, f.Proper) (log : List Obs) :
  isduSent (isduPdLen p) (sentBy K p fs ++ log) = isduSent (isduPdLen p) log ++ fs
  := by
  have hdecoded : (fs.map fun f => Obs.sent p.state (f.octets K p)).filterMap
      (isduEmitted (isduPdLen p)) = fs := by
    rw [List.filterMap_map]
    calc fs.filterMap (isduEmitted (isduPdLen p) ∘ fun f => Obs.sent p.state (f.octets K p))
        = fs.filterMap some := by
          apply List.filterMap_congr
          intro f hf
          apply isduOnWire_octets hK p (h f hf)
      _ = fs := List.filterMap_some
  rw [isduSent, List.reverse_append, List.filterMap_append, sentBy, List.reverse_reverse, hdecoded]
  rfl

/-- FlowCTRL of a segment fits the address bits. -/
theorem segmentFlowctrl_fits (i : Nat) :
  segmentFlowctrl i &&& MC_ADDR_MASK = segmentFlowctrl i
  := by
  have h : i % 16 < 16 := Nat.mod_lt _ (by decide)
  simp only [segmentFlowctrl]
  split
  · rfl
  · generalize i % 16 = c at h
    interval_cases c <;> rfl

/-- Reads whose FlowCTRL fits the address bits are proper. -/
theorem proper_poll {flowctrl : UInt8} (h : flowctrl &&& MC_ADDR_MASK = flowctrl) :
  (IsduFrame.poll flowctrl).Proper
  := ⟨h, rfl, by simp [IsduFrame.poll]⟩

/-- The writes of a request are proper. -/
theorem proper_requestFrame (request : List UInt8) {k : Nat} (hk : 1 ≤ k) (i : Nat) :
  (requestFrame request k i).Proper
  := by
  constructor
  · apply segmentFlowctrl_fits
  · rfl
  · intro hnil
    have hlength : (segment request k i).length = 0 := by
      simp only [requestFrame, Option.some.injEq] at hnil
      rw [hnil, List.length_nil]
    simp only [segment, Segment.piece, Segment.pad, List.length_append, List.length_replicate]
      at hlength
    omega

/-- The concluding read is proper. -/
theorem proper_concludingFrames (o : Outcome) :
  ∀ f ∈ concludingFrames o, f.Proper
  := by
  intro f hf
  cases o with
  | positive data =>
      rw [List.mem_singleton.mp hf]
      exact proper_poll rfl
  | negative e =>
      rw [List.mem_singleton.mp hf]
      exact proper_poll rfl
  | perturbed =>
      rw [List.mem_singleton.mp hf]
      exact proper_poll rfl
  | malformed => contradiction

/-- The reads of a response are proper. -/
theorem proper_responseFrames (stream : List UInt8) (j : Nat) (ods : List (List UInt8)) :
  ∀ f ∈ responseFrames stream j ods, f.Proper
  := by
  induction ods generalizing stream j with
  | nil =>
      intro f hf
      contradiction
  | cons od ods ih =>
      intro f hf
      simp only [responseFrames] at hf
      split at hf
      · apply proper_concludingFrames _ f hf
      · split at hf
        · rcases List.mem_cons.mp hf with rfl | hf
          · exact proper_poll rfl
          · apply ih _ _ f hf
        · rcases List.mem_cons.mp hf with rfl | hf
          · apply proper_poll (segmentFlowctrl_fits j)
          · apply ih _ _ f hf

/-- The frames of a transfer are proper. -/
theorem proper_transferFrames (request : List UInt8) {k : Nat} (hk : 1 ≤ k)
    (ods : List (List UInt8)) :
  ∀ f ∈ transferFrames request k ods, f.Proper
  := by
  intro f hf
  rcases List.mem_append.mp hf with hf | hf
  · obtain ⟨i, -, rfl⟩ := List.mem_map.mp (List.mem_of_mem_take hf)
    apply proper_requestFrame request hk
  · apply proper_responseFrames _ _ _ f hf

/-! ### One exchange -/

/-- One exchange, by what `isduNext` asks for. -/
theorem exchange_eq (hK : K.Lawful) (henv : env.Transmits) (w : World) (od : List UInt8) :
  exchange K env w od
    = match isduNext w.port.isdu w.port.odLen with
      | none => w
      | some (f, s) =>
        ⟨{ w.port with
            isdu := if f.read then isduOnOd s od else s
            rxOdExpected := f.read },
          .sent w.port.state (f.octets K w.port) :: w.log⟩
  := by
  simp only [exchange, sendIsdu_transmits hK henv]
  cases hnext : isduNext w.port.isdu w.port.odLen with
  | none => rfl
  | some next =>
      obtain ⟨⟨read, flowctrl, odOut⟩, s⟩ := next
      cases read <;> simp [World.putIsdu, World.put]

/-! ### Counters -/

/-- COUNT values are below START. -/
theorem segmentFlowctrl_succ_ne (i : Nat) :
  segmentFlowctrl (i + 1) ≠ FLOWCTRL_START ∧ segmentFlowctrl (i + 1) ≠ FLOWCTRL_IDLE
  := by
  have h : (i + 1) % 16 < 16 := Nat.mod_lt _ (by decide)
  simp only [segmentFlowctrl, Nat.add_one_ne_zero, if_false]
  generalize (i + 1) % 16 = c at h
  interval_cases c <;> decide

/-- The counter after a COUNT value is the next one, 15 being followed by 0. -/
theorem segmentFlowctrl_next (i : Nat) :
  (segmentFlowctrl (i + 1) + 1) &&& FLOWCTRL_COUNT_MASK = segmentFlowctrl (i + 2)
  := by
  have h : (i + 1) % 16 < 16 := Nat.mod_lt _ (by decide)
  have hnext : (i + 2) % 16 = ((i + 1) % 16 + 1) % 16 := by omega
  simp only [segmentFlowctrl, Nat.add_one_ne_zero, if_false, hnext]
  generalize (i + 1) % 16 = c at h
  interval_cases c <;> decide

/-! ### Sending the request -/

/-- The transport has sent `i` segments of the request `request` over on-request data of
width `k` and has more to send. -/
structure SendingRequest (s : IsduState) (request : List UInt8) (k i : Nat) : Prop where
  op : s.op ≠ .none
  phase : s.phase = .request
  len : s.requestLen = request.length
  pos : s.requestPos = i * k
  more : i * k < request.length
  request : s.request = request
  flowctrl : s.flowctrl = segmentFlowctrl i
  notDone : s.done = false
  noIdle : s.idlePending = false
  noAbort : s.abortPending = false
  noError : s.error = ISDU_ERROR_NONE

/-- The transport waits for its response, the next poll carrying START. -/
def Polling (s : IsduState) : Prop := Receives s [] ∧ s.flowctrl = FLOWCTRL_START

/-- A started service is about to send its first segment. -/
theorem sendingRequest_of_accepted {r : IsduRequest} {s : IsduState} (k : Nat)
    (h : AcceptedRequest r s) :
  SendingRequest s (requestOctets s) k 0 ∧ (requestOctets s).length ≤ 238
  := by
  have hencodes := encodes_of_accepted h
  have hoctets : requestOctets s = s.request := by
    rw [requestOctets, ← hencodes.complete, List.take_length]
  have hpos : 0 < s.request.length := by
    rw [← hoctets]
    by_contra hnil
    have hdecodes := hencodes.decodes
    rw [List.eq_nil_of_length_eq_zero (Nat.eq_zero_of_not_pos hnil)] at hdecodes
    contradiction
  have hlen := hencodes.complete
  have hbound := hencodes.bounded
  rw [hoctets]
  constructor
  · cases h with
    | read w index subindex cap idle started =>
        rw [readIsdu_started idle started] at *
        exact ⟨by simp [isduStartRead, isduStart], rfl, hlen.symm, by simp [isduStartRead, isduStart],
          by omega, rfl, rfl, rfl, rfl, rfl, rfl⟩
    | write w index subindex data idle started =>
        rw [(writeIsdu_started idle started).2] at *
        exact ⟨by simp [isduStartWrite, isduStart], rfl, hlen.symm, by simp [isduStartWrite, isduStart],
          by omega, rfl, rfl, rfl, rfl, rfl, rfl⟩
  · omega

/-- Filling the on-request data with the next segment. -/
theorem isduFillOd_request {s : IsduState} {request : List UInt8} {k i : Nat}
    (hs : SendingRequest s request k i) (hlen : request.length ≤ 238) :
  isduFillOd s k = (segment request k i,
    if (i + 1) * k < request.length then
      { s with requestPos := (i + 1) * k, flowctrl := segmentFlowctrl (i + 1) }
    else
      { s with requestPos := request.length, phase := .wait, flowctrl := FLOWCTRL_START })
  := by
  obtain ⟨hop, hphase, hrlen, hpos, hmore, hreq, hflow, -, -, -, -⟩ := hs
  have hrem : (request.length + 65536 - i * k) % 65536 = request.length - i * k := by omega
  have hmul : (i + 1) * k = i * k + k := Nat.succ_mul i k
  simp only [isduFillOd, hop, if_false, hphase, hrlen, hpos, hreq, hrem, hflow, hmul]
  by_cases hlast : i * k + k < request.length
  · -- A full segment, and more to send.
    have hn : ¬ request.length - i * k < k := by omega
    have hnew : (i * k + k) % 65536 = i * k + k := by omega
    have hcont : ¬ i * k + k ≥ request.length := by omega
    simp only [hn, if_false, hnew, hcont, hlast, if_true, segment_eq]
    cases i with
    | zero => simp [segmentFlowctrl, FLOWCTRL_START]
    | succ i =>
        rw [if_neg (segmentFlowctrl_succ_ne i).1, segmentFlowctrl_next]
  · -- The last segment.
    have hmin : (if request.length - i * k < k then request.length - i * k else k)
        = request.length - i * k := by
      split
      · rfl
      · omega
    have hnew : (i * k + (request.length - i * k)) % 65536 = request.length := by omega
    simp only [hmin, hnew, ge_iff_le, le_refl, if_true, hlast, if_false, segment_eq]
    congr 2
    rw [List.take_of_length_le, List.take_of_length_le]
    · rw [List.length_drop]
      omega
    · rw [List.length_drop]

/-- The next segment of a request: it goes out with its counter, and the transport either
has more to send or starts polling. -/
theorem isduNext_request {s : IsduState} {request : List UInt8} {k i : Nat}
    (hs : SendingRequest s request k i) (hlen : request.length ≤ 238) :
  ∃ s', isduNext s k = some (requestFrame request k i, s') ∧
    if (i + 1) * k < request.length then SendingRequest s' request k (i + 1) else Polling s'
  := by
  have hfill := isduFillOd_request hs hlen
  use (isduFillOd s k).2
  constructor
  · simp [isduNext, hs.op, hs.phase, hs.notDone, hs.noIdle, hs.noAbort, requestFrame, hs.flowctrl,
      hfill]
  · rw [hfill]
    split
    · next hmore =>
      exact ⟨hs.op, hs.phase, hs.len, rfl, hmore, hs.request, rfl, hs.notDone, hs.noIdle, hs.noAbort,
        hs.noError⟩
    · constructor
      · rw [receives_nil]
        exact ⟨hs.op, hs.notDone, hs.noIdle, hs.noAbort, hs.noError, rfl⟩
      · rfl

/-! ### Fetching the response -/

/-- The transport has received the response octets `stream` and will poll next with the
counter `j`. -/
def Fetching (s : IsduState) (stream : List UInt8) (j : Nat) : Prop :=
  Receives s stream ∧ (outcome stream = none → s.flowctrl = segmentFlowctrl j) ∧
    (stream = [] → j = 0) ∧ (stream ≠ [] → j ≠ 0)

/-- Collecting an octet does not lead back to waiting. -/
theorem isduCollect_phase {s : IsduState} (byte : UInt8) (h : s.phase ≠ .wait) :
  (isduCollect s byte).1.phase ≠ .wait
  := by
  have hcheck : ∀ response expected,
      (isduCheckComplete { s with response := response, expectedLen := expected }).1.phase
        ≠ .wait := by
    intro response expected
    simp only [isduCheckComplete, isduDecodeResponse]
    repeat' split
    all_goals first
      | apply h
      | simp
  simp only [isduCollect]
  repeat' split
  all_goals first
    | apply hcheck
    | apply h
    | simp [isduSegmentationError]

/-- Once the response has started, receiving leaves the counter alone. -/
theorem flowctrl_onOd {s : IsduState} (h : s.phase ≠ .wait) (od : List UInt8) :
  (isduOnOd s od).flowctrl = s.flowctrl
  := by
  have hinv : ∀ (t : IsduState) (b : UInt8), t.phase ≠ .wait ∧ t.flowctrl = s.flowctrl →
      (isduOnOctet t b).1.phase ≠ .wait ∧ (isduOnOctet t b).1.flowctrl = s.flowctrl := by
    rintro t b ⟨hphase, hflow⟩
    rw [isduOnOctet, if_neg hphase, (sameRequest_collect t b).2]
    exact ⟨isduCollect_phase b hphase, hflow⟩
  apply (Scan.guarded_preserves hinv ⟨h, rfl⟩ od).2

/-- The counter of a polling service turns to 1 with the first response octet. -/
theorem flowctrl_onOd_poll {s : IsduState} (hs : Receives s []) (od : List UInt8) :
  (isduOnOd s od).flowctrl = if responseOctets od = [] then s.flowctrl else 1
  := by
  obtain ⟨-, -, -, -, -, hphase⟩ := receives_nil.mp hs
  induction od with
  | nil => simp [responseOctets]
  | cons b od ih =>
      rw [isduOnOd_cons b od (isduReceiving_of_receives hs outcome_nil)]
      cases hb : isduIdleOctet b with
      | true =>
          have hskip : (isduOnOctet s b).1 = s := by
            simp only [isduIdleOctet, Bool.or_eq_true, beq_iff_eq] at hb
            simp [isduOnOctet, hphase, hb]
          have hskip' : responseOctets (b :: od) = responseOctets od := by
            simp [responseOctets, hb]
          rw [hskip, ih]
          simp only [hskip']
      | false =>
          have hfirst : isduOnOctet s b = isduCollect (isduBeginResponse s) b := by
            simp only [isduIdleOctet, Bool.or_eq_false_iff, beq_eq_false_iff_ne] at hb
            apply isduOnOctet_first hphase hb.1 hb.2
          have hne : (isduCollect (isduBeginResponse s) b).1.phase ≠ .wait :=
            isduCollect_phase b (by simp [isduBeginResponse])
          rw [hfirst, flowctrl_onOd hne, (sameRequest_collect _ b).2]
          simp [responseOctets, hb, isduBeginResponse]

/-- A poll while no response octet has arrived. -/
theorem fetching_poll {s : IsduState} (hs : Fetching s [] 0) (k : Nat) (od : List UInt8) :
  ∃ s', isduNext s k = some (.poll FLOWCTRL_START, s') ∧
    Fetching (isduOnOd s' od) (responseOctets od) (if responseOctets od = [] then 0 else 1)
  := by
  obtain ⟨hrec, hflow, -, -⟩ := hs
  obtain ⟨hop, hdone, hidle, habort, herror, hphase⟩ := receives_nil.mp hrec
  have hstart : s.flowctrl = FLOWCTRL_START := hflow outcome_nil
  have hrec' : Receives { s with flowctrl := FLOWCTRL_START } [] := receives_nil.mpr
    ⟨hop, hdone, hidle, habort, herror, hphase⟩
  use { s with flowctrl := FLOWCTRL_START }
  constructor
  · simp [isduNext, habort, hidle, hop, hdone, hphase, isduFillOd, hstart]
  · constructor
    · apply receives_poll hrec' od
    · rw [flowctrl_onOd_poll hrec' od]
      by_cases hnil : responseOctets od = []
      · simp [hnil, segmentFlowctrl]
      · simp [hnil, segmentFlowctrl]

/-- A read of further response octets. -/
theorem fetching_count {s : IsduState} {stream : List UInt8} {j : Nat}
    (hs : Fetching s stream (j + 1)) (ho : outcome stream = none) (k : Nat) (od : List UInt8) :
  ∃ s', isduNext s k = some (.poll (segmentFlowctrl (j + 1)), s') ∧
    Fetching (isduOnOd s' od) (stream ++ od) (j + 2)
  := by
  obtain ⟨hrec, hflow, hnil, -⟩ := hs
  have hne : stream ≠ [] := by
    intro h
    have := hnil h
    omega
  obtain ⟨hop, hdone, hidle, habort, herror, hphase, hresp, hexp⟩ := (receives_open hne ho).mp hrec
  have hcount := segmentFlowctrl_succ_ne j
  use { s with flowctrl := segmentFlowctrl (j + 2) }
  constructor
  · simp [isduNext, habort, hidle, hop, hdone, hphase, isduFillOd, hflow ho, hcount.1, hcount.2,
      segmentFlowctrl_next]
  · have hrec' : Receives { s with flowctrl := segmentFlowctrl (j + 2) } stream := by
      rw [receives_open hne ho]
      exact ⟨hop, hdone, hidle, habort, herror, hphase, hresp, hexp⟩
    constructor
    · apply receives_append hrec' hne
    · rw [flowctrl_onOd (by simp [hphase])]
      simp [hne]

/-- The conclusion of a service: at most one read, and nothing after it. -/
theorem isduNext_done {s : IsduState} {stream : List UInt8} {o : Outcome} (k : Nat)
    (hs : Receives s stream) (ho : outcome stream = some o) :
  match concludingFrames o with
  | [] => isduNext s k = none
  | f :: _ => f.read = true ∧ ∃ s', isduNext s k = some (f, s') ∧ isduReceiving s' = false ∧
      isduNext s' k = none
  := by
  obtain ⟨hop, hdone, hphase, hidle, habort, -, -⟩ := (receives_done ho).mp hs
  cases o <;>
    simp [concludingFrames, Outcome.abort, Outcome.idle, isduNext, IsduFrame.poll, hidle, habort,
      hdone, isduReceiving]

/-! ### Transfers -/

/-- Where there is nothing to send, a loss-free run changes nothing. -/
theorem lossFree_of_none (hK : K.Lawful) (henv : env.Transmits) {w : World}
    (h : isduNext w.port.isdu w.port.odLen = none) (ods : List (List UInt8)) :
  lossFree K env w ods = w
  := by
  induction ods with
  | nil => rfl
  | cons od ods ih =>
      rw [lossFree, List.foldl_cons, exchange_eq hK henv, h]
      apply ih

/-- Before the first response octet the counter does not matter. -/
theorem responseFrames_counter (j : Nat) (ods : List (List UInt8)) :
  responseFrames [] j ods = responseFrames [] 0 ods
  := by
  cases ods <;> rfl

theorem sentBy_cons (p : PortState) (f : IsduFrame) (fs : List IsduFrame) :
  sentBy K p (f :: fs) = sentBy K p fs ++ [.sent p.state (f.octets K p)]
  := by
  simp [sentBy]

/-- A run that starts with an exchange. -/
theorem lossFree_cons (hK : K.Lawful) (henv : env.Transmits) {w : World} {f : IsduFrame}
    {s : IsduState} (h : isduNext w.port.isdu w.port.odLen = some (f, s)) (od : List UInt8)
    (ods : List (List UInt8)) :
  lossFree K env w (od :: ods)
    = lossFree K env
        ⟨{ w.port with isdu := if f.read then isduOnOd s od else s, rxOdExpected := f.read },
          .sent w.port.state (f.octets K w.port) :: w.log⟩ ods
  := by
  rw [lossFree, List.foldl_cons, exchange_eq hK henv, h]
  rfl

/-- The reads of a transfer are the ones `responseFrames` lists. -/
theorem lossFree_response (hK : K.Lawful) (henv : env.Transmits) {w : World}
    {stream : List UInt8} {j : Nat} (hs : Fetching w.port.isdu stream j)
    (ods : List (List UInt8)) :
  (lossFree K env w ods).log = sentBy K w.port (responseFrames stream j ods) ++ w.log
  := by
  induction ods generalizing w stream j with
  | nil => rfl
  | cons od ods ih =>
      cases ho : outcome stream with
      | some o =>
          have hdone := isduNext_done w.port.odLen hs.1 ho
          simp only [responseFrames, ho]
          cases hconc : concludingFrames o with
          | nil =>
              rw [hconc] at hdone
              rw [lossFree_of_none hK henv hdone]
              rfl
          | cons f fs =>
              rw [hconc] at hdone
              obtain ⟨hread, s', hnext, hrecv, hnone⟩ := hdone
              have hfs : fs = [] := by
                cases o <;> simp [concludingFrames, Outcome.abort, Outcome.idle] at hconc <;>
                  apply hconc.2
              rw [lossFree_cons hK henv hnext, lossFree_of_none hK henv]
              · rw [hfs]
                rfl
              · simp only [hread, if_true, isduOnOd_of_not_receiving od hrecv]
                apply hnone
      | none =>
          by_cases hnil : stream = []
          · subst hnil
            obtain rfl := hs.2.2.1 rfl
            obtain ⟨s', hnext, hs'⟩ := fetching_poll hs w.port.odLen od
            rw [lossFree_cons hK henv hnext, ih hs']
            simp only [responseFrames, outcome_nil, if_true, sentBy_cons, List.append_assoc,
              List.singleton_append]
            by_cases hpolled : responseOctets od = []
            · simp only [hpolled, if_true, responseFrames_counter 1 ods]
              rfl
            · simp only [hpolled, if_false]
              rfl
          · obtain ⟨i, rfl⟩ : ∃ i, j = i + 1 := Nat.exists_eq_succ_of_ne_zero (hs.2.2.2 hnil)
            obtain ⟨s', hnext, hs'⟩ := fetching_count hs ho w.port.odLen od
            rw [lossFree_cons hK henv hnext, ih hs']
            simp only [responseFrames, ho, hnil, if_false, sentBy_cons, List.append_assoc,
              List.singleton_append]
            rfl

/-- A polling transport has fetched nothing yet. -/
theorem fetching_of_polling {s : IsduState} (hs : Polling s) :
  Fetching s [] 0
  := ⟨hs.1, fun _ => hs.2, fun _ => rfl, fun h => absurd rfl h⟩

/-- The frames of a transfer from its `i`-th segment on. -/
theorem lossFree_request (hK : K.Lawful) (henv : env.Transmits) {w : World}
    {request : List UInt8} {i : Nat} (hk : 1 ≤ w.port.odLen)
    (hs : SendingRequest w.port.isdu request w.port.odLen i) (hlen : request.length ≤ 238)
    (ods : List (List UInt8)) :
  (lossFree K env w ods).log
    = sentBy K w.port
        (((List.range' i (Segment.count request.length w.port.odLen - i)).map
            (requestFrame request w.port.odLen)).take ods.length ++
          responseFrames [] 0 (ods.drop (Segment.count request.length w.port.odLen - i)))
      ++ w.log
  := by
  induction ods generalizing w i with
  | nil => simp [lossFree, sentBy, responseFrames]
  | cons od ods ih =>
      obtain ⟨s', hnext, hs'⟩ := isduNext_request hs hlen
      have hi := (Segment.lt_count_iff hk i).mpr hs.more
      obtain ⟨m, hm⟩ : ∃ m, Segment.count request.length w.port.odLen - i = m + 1 :=
        ⟨Segment.count request.length w.port.odLen - i - 1, by omega⟩
      rw [lossFree_cons hK henv hnext, hm, List.range'_succ, List.map_cons, List.length_cons,
        List.take_succ_cons, List.drop_succ_cons, List.cons_append, sentBy_cons,
        List.append_assoc, List.singleton_append]
      split at hs'
      · have hm' : Segment.count request.length w.port.odLen - (i + 1) = m := by omega
        rw [ih (i := i + 1)]
        · simp only [hm']
          rfl
        · apply hk
        · apply hs'
      · next hlast =>
        rw [← Segment.lt_count_iff hk] at hlast
        have hm0 : m = 0 := by omega
        rw [lossFree_response (j := 0) hK henv]
        · simp only [hm0, List.range'_zero, List.map_nil, List.take_nil, List.nil_append,
            List.drop_zero]
          rfl
        · apply fetching_of_polling hs'

/-- The frames of a transfer are the ones `transferFrames` lists. -/
theorem lossFree_transfer (hK : K.Lawful) (henv : env.Transmits) {w : World} {r : IsduRequest}
    (h : AcceptedRequest r w.port.isdu) (hk : 1 ≤ w.port.odLen) (ods : List (List UInt8)) :
  (lossFree K env w ods).log
    = sentBy K w.port (transferFrames (requestOctets w.port.isdu) w.port.odLen ods) ++ w.log
  := by
  obtain ⟨hs, hlen⟩ := sendingRequest_of_accepted w.port.odLen h
  rw [lossFree_request hK henv hk hs hlen, transferFrames, requestFrames, List.range_eq_range']
  rfl

/-! ### Completed responses -/

/-- The response of the service is complete with the outcome `o`.  The read that concludes
the service may be due or have gone out. -/
structure Concludes (s : IsduState) (o : Outcome) : Prop where
  done : s.done = true
  idle : s.idlePending = true → o.idle = true
  abort : s.abortPending = true → o.abort = true
  error : o.abort = true → s.error ≠ ISDU_ERROR_NONE

/-- A transport that has received its response. -/
theorem concludes_of_receives {s : IsduState} {stream : List UInt8} {o : Outcome}
    (hs : Receives s stream) (ho : outcome stream = some o) :
  Concludes s o
  := by
  obtain ⟨-, hdone, -, hidle, habort, herror, -⟩ := (receives_done ho).mp hs
  constructor
  · apply hdone
  · intro h
    rw [← hidle, h]
  · intro h
    rw [← habort, h]
  · intro h
    rw [herror]
    cases o with
    | perturbed => decide
    | _ => contradiction

/-- Once the response is complete, only its conclusion goes out. -/
theorem isduNext_concludes {s s' : IsduState} {o : Outcome} {f : IsduFrame} {k : Nat}
    (hs : Concludes s o) (hnext : isduNext s k = some (f, s')) :
  f.read = true ∧ isduReceiving s' = false ∧ Concludes s' o
  := by
  have hdone := hs.done
  simp only [isduNext] at hnext
  split at hnext
  · cases hnext
    exact ⟨rfl, by simp [isduReceiving, hdone], hdone, hs.idle, by simp, hs.error⟩
  · split at hnext
    · cases hnext
      exact ⟨rfl, by simp [isduReceiving, hdone], hdone, by simp, hs.abort, hs.error⟩
    · simp [hdone] at hnext

/-- A complete response stays complete. -/
theorem concludes_lossFree (hK : K.Lawful) (henv : env.Transmits) {w : World} {o : Outcome}
    (hs : Concludes w.port.isdu o) (ods : List (List UInt8)) :
  Concludes (lossFree K env w ods).port.isdu o
  := by
  induction ods generalizing w with
  | nil => apply hs
  | cons od ods ih =>
      cases hnext : isduNext w.port.isdu w.port.odLen with
      | none =>
          rw [lossFree_of_none hK henv hnext]
          apply hs
      | some next =>
          obtain ⟨f, s'⟩ := next
          obtain ⟨hread, hrecv, hs'⟩ := isduNext_concludes hs hnext
          rw [lossFree_cons hK henv hnext]
          apply ih
          simp only [hread, if_true, isduOnOd_of_not_receiving od hrecv]
          apply hs'

/-- One exchange of a service that waits for response octets: the reply extends what the
replies so far have brought. -/
theorem fetching_next {s : IsduState} {got : List UInt8} {j : Nat}
    (hs : Fetching s (responseOctets got) j) (ho : outcome (responseOctets got) = none) (k : Nat)
    (od : List UInt8) :
  ∃ f s' j', isduNext s k = some (f, s') ∧ f.read = true ∧
    Fetching (isduOnOd s' od) (responseOctets (got ++ od)) j'
  := by
  by_cases hnil : responseOctets got = []
  · rw [hnil] at hs
    obtain rfl := hs.2.2.1 rfl
    obtain ⟨s', hnext, hs'⟩ := fetching_poll hs k od
    rw [responseOctets_idle hnil]
    exact ⟨_, s', _, hnext, rfl, hs'⟩
  · obtain ⟨i, rfl⟩ : ∃ i, j = i + 1 := Nat.exists_eq_succ_of_ne_zero (hs.2.2.2 hnil)
    obtain ⟨s', hnext, hs'⟩ := fetching_count hs ho k od
    rw [responseOctets_append hnil]
    exact ⟨_, s', _, hnext, rfl, hs'⟩

/-- A service whose response the replies complete is concluded. -/
theorem concludes_of_fetching (hK : K.Lawful) (henv : env.Transmits) {w : World}
    {got : List UInt8} {j : Nat} (hs : Fetching w.port.isdu (responseOctets got) j)
    {ods : List (List UInt8)} {o : Outcome}
    (ho : outcome (responseOctets (got ++ ods.flatten)) = some o) :
  Concludes (lossFree K env w ods).port.isdu o
  := by
  induction ods generalizing w got j with
  | nil =>
      rw [List.flatten_nil, List.append_nil] at ho
      apply concludes_of_receives hs.1 ho
  | cons od ods ih =>
      cases hgot : outcome (responseOctets got) with
      | some o' =>
          have hne : responseOctets got ≠ [] := by
            intro hnil
            rw [hnil, outcome_nil] at hgot
            contradiction
          rw [responseOctets_append hne, outcome_append hgot, Option.some.injEq] at ho
          rw [← ho]
          apply concludes_lossFree hK henv (concludes_of_receives hs.1 hgot)
      | none =>
          obtain ⟨f, s', j', hnext, hread, hs'⟩ := fetching_next hs hgot w.port.odLen od
          rw [List.flatten_cons, ← List.append_assoc] at ho
          rw [lossFree_cons hK henv hnext]
          apply ih (j := j') _ ho
          simp only [hread, if_true]
          apply hs'

/-- A service whose request is out and whose response the replies complete is concluded. -/
theorem concludes_of_sending (hK : K.Lawful) (henv : env.Transmits) {w : World}
    {request : List UInt8} {i : Nat} (hk : 1 ≤ w.port.odLen)
    (hs : SendingRequest w.port.isdu request w.port.odLen i) (hlen : request.length ≤ 238)
    {ods : List (List UInt8)} {o : Outcome}
    (ho : outcome (responseOctets
      (ods.drop (Segment.count request.length w.port.odLen - i)).flatten) = some o) :
  Concludes (lossFree K env w ods).port.isdu o
  := by
  induction ods generalizing w i with
  | nil =>
      rw [List.drop_nil] at ho
      contradiction
  | cons od ods ih =>
      obtain ⟨s', hnext, hs'⟩ := isduNext_request hs hlen
      have hi := (Segment.lt_count_iff hk i).mpr hs.more
      obtain ⟨m, hm⟩ : ∃ m, Segment.count request.length w.port.odLen - i = m + 1 :=
        ⟨Segment.count request.length w.port.odLen - i - 1, by omega⟩
      rw [hm, List.drop_succ_cons] at ho
      rw [lossFree_cons hK henv hnext]
      split at hs'
      · have hm' : Segment.count request.length w.port.odLen - (i + 1) = m := by omega
        rw [← hm'] at ho
        apply ih (i := i + 1)
        · apply hk
        · apply hs'
        · apply ho
      · next hlast =>
        rw [← Segment.lt_count_iff hk] at hlast
        have hm0 : m = 0 := by omega
        rw [hm0, List.drop_zero] at ho
        have hpolled : Fetching _ (responseOctets []) 0 := fetching_of_polling hs'
        apply concludes_of_fetching hK henv hpolled ho

/-! ### Collected results -/

/-- What a transport that neither concludes a service with IDLE nor runs one still sends:
a pending ABORT. -/
theorem lossFree_abort (hK : K.Lawful) (henv : env.Transmits) {w : World}
    (hidle : w.port.isdu.idlePending = false)
    (hquiet : w.port.isdu.op = .none ∨ w.port.isdu.done = true) (ods : List (List UInt8)) :
  (lossFree K env w ods).log
    = sentBy K w.port
        ((if w.port.isdu.abortPending then [.poll FLOWCTRL_ABORT] else []).take ods.length)
      ++ w.log
  := by
  cases ods with
  | nil => rfl
  | cons od ods =>
      cases habort : w.port.isdu.abortPending with
      | false =>
          rw [lossFree_of_none hK henv]
          · rfl
          · simp [isduNext, habort, hidle, hquiet]
      | true =>
          have hnext : isduNext w.port.isdu w.port.odLen
              = some (.poll FLOWCTRL_ABORT, { w.port.isdu with abortPending := false }) := by
            simp [isduNext, habort]
          have hrecv : isduReceiving { w.port.isdu with abortPending := false } = false := by
            rcases hquiet with h | h <;> simp [isduReceiving, h]
          rw [lossFree_cons hK henv hnext, lossFree_of_none hK henv]
          · rw [if_pos rfl, List.length_cons, List.take_succ_cons, List.take_nil]
            rfl
          · simp only [IsduFrame.poll, if_true, isduOnOd_of_not_receiving od hrecv]
            simp [isduNext, hidle, hquiet]

/-- A call hands out the result of the service, or the error it carries. -/
def HandsOut (ret : Int) : Prop := ret = STATUS_OK ∨ ret = ISDU_ERR_DEVICE

instance : DecidablePred HandsOut := fun ret =>
  inferInstanceAs (Decidable (ret = STATUS_OK ∨ ret = ISDU_ERR_DEVICE))

/-- A world in which the result of the service in `w` has been collected: the service is
cleared, but for a pending ABORT. -/
structure Collected (w w' : World) : Prop where
  isdu : w'.port.isdu = { isduClear w.port.isdu with abortPending := w.port.isdu.abortPending }
  framing : isduPdLen w'.port = isduPdLen w.port
  sent : ∀ pdLen, isduSent pdLen w'.log = isduSent pdLen w.log

/-- Latching a result leaves the framing of the ISDU channel alone. -/
@[simp]
theorem isduPdLen_serviceResult (p : PortState) (ret : Int) :
  isduPdLen (serviceResult p ret) = isduPdLen p
  := by
  simp only [serviceResult]
  split <;> rfl

/-- A result without an error has no ABORT to send. -/
theorem Concludes.noAbort {s : IsduState} {o : Outcome} (hs : Concludes s o)
    (h : s.error = ISDU_ERROR_NONE) :
  s.abortPending = false
  := by
  rw [Bool.eq_false_iff]
  intro habort
  apply hs.error (hs.abort habort) h

/-- Giving up a completed service with an error keeps a pending ABORT. -/
theorem collected_error (w : World) :
  Collected w (w.collect (isduFinishError w.port))
  := by
  rw [collect_cleared w (by simp [isduFinishError, isduClear])]
  constructor
  · rw [World.leaveIsdu_port, isduFinishError, serviceResult_isdu]
  · rw [World.leaveIsdu_port, isduFinishError, isduPdLen_serviceResult]
    rfl
  · intro pdLen
    simp [isduSent, World.leaveIsdu, World.emit, World.put, isduEmitted]

/-- Handing out a result clears the service. -/
theorem collected_ok {w : World} {o : Outcome} (hs : Concludes w.port.isdu o)
    (h : w.port.isdu.error = ISDU_ERROR_NONE) :
  Collected w (w.collect (serviceResult { w.port with isdu := isduClear w.port.isdu } STATUS_OK))
  := by
  rw [collect_cleared w (by simp [isduClear])]
  constructor
  · rw [World.leaveIsdu_port, serviceResult_isdu, hs.noAbort h]
    rfl
  · rw [World.leaveIsdu_port, isduPdLen_serviceResult]
    rfl
  · intro pdLen
    simp [isduSent, World.leaveIsdu, World.emit, World.put, isduEmitted]

/-- A `read_isdu` that hands out a result or an error has collected the service. -/
theorem collected_readIsdu {w : World} {o : Outcome} (hs : Concludes w.port.isdu o)
    {index : UInt16} {subindex cap : UInt8}
    (h : HandsOut (readIsdu w index subindex cap).2.ret) :
  Collected w (readIsdu w index subindex cap).1
  := by
  have hbusy : isduBusy w.port.isdu = false := by simp [isduBusy, hs.done]
  revert h
  simp only [readIsdu, hbusy, hs.done]
  by_cases hstate : acyclicAvailable w.port.state = true
  · by_cases hmatches : isduMatches w.port.isdu .read index subindex = true
    · simp only [hstate, hmatches, Bool.not_true, Bool.false_eq_true, if_false, if_true,
        isduFinishRead]
      split
      · intro h
        apply collected_error
      · next herror =>
        split
        · rintro (h | h)
          · contradiction
          · exact absurd (show ISDU_ERR_BUFFER_TOO_SMALL = ISDU_ERR_DEVICE from h) (by decide)
        · intro h
          apply collected_ok hs (not_not.mp herror)
    · simp only [hstate, hmatches, Bool.not_true, Bool.false_eq_true, if_false, if_true,
        Bool.not_false]
      rintro (h | h) <;> contradiction
  · simp only [hstate, Bool.not_false, if_true]
    rintro (h | h) <;> contradiction

/-- A `write_isdu` that reports a result or an error has collected the service. -/
theorem collected_writeIsdu {w : World} {o : Outcome} (hs : Concludes w.port.isdu o)
    {index : UInt16} {subindex : UInt8} {data : List UInt8}
    (h : HandsOut (writeIsdu w index subindex data).2) :
  Collected w (writeIsdu w index subindex data).1
  := by
  have hbusy : isduBusy w.port.isdu = false := by simp [isduBusy, hs.done]
  have hbody : Collected w (writeIsduBody w index subindex data).1 := by
    revert h
    simp only [writeIsdu, writeIsduBody, hbusy, hs.done]
    by_cases hstate : acyclicAvailable w.port.state = true
    · by_cases hmatches : isduMatches w.port.isdu .write index subindex = true
      · simp only [hstate, hmatches, Bool.not_true, Bool.false_eq_true, if_false, if_true,
          isduFinishWrite]
        split
        · intro h
          apply collected_error
        · next herror =>
          intro h
          apply collected_ok hs (not_not.mp herror)
      · simp only [hstate, hmatches, Bool.not_true, Bool.false_eq_true, if_false, if_true,
          Bool.not_false]
        rintro (h | h) <;> contradiction
    · simp only [hstate, Bool.not_false, if_true]
      rintro (h | h) <;> contradiction
  constructor
  · apply hbody.isdu
  · apply hbody.framing
  · intro pdLen
    rw [← hbody.sent pdLen]
    simp [writeIsdu, isduSent, World.emit, isduEmitted]

/-- A loss-free run leaves the framing of the ISDU channel alone. -/
theorem isduPdLen_lossFree (hK : K.Lawful) (henv : env.Transmits) (w : World)
    (ods : List (List UInt8)) :
  isduPdLen (lossFree K env w ods).port = isduPdLen w.port
  := by
  induction ods generalizing w with
  | nil => rfl
  | cons od ods ih =>
      cases hnext : isduNext w.port.isdu w.port.odLen with
      | none => rw [lossFree_of_none hK henv hnext]
      | some next =>
          obtain ⟨f, s'⟩ := next
          rw [lossFree_cons hK henv hnext, ih]
          rfl

/-- What remains of a pending ABORT is proper. -/
theorem proper_abort (b : Bool) (n : Nat) :
  ∀ f ∈ (if b then [IsduFrame.poll FLOWCTRL_ABORT] else []).take n, f.Proper
  := by
  intro f hf
  cases b with
  | false => simp at hf
  | true =>
      rw [List.mem_singleton.mp (List.mem_of_mem_take hf)]
      exact proper_poll rfl

/-- After the result of a service is collected, the port sends what it would have sent
otherwise if the service ends with an ABORT, and nothing if it does not. -/
theorem isduSent_collected (hK : K.Lawful) (henv : env.Transmits) {u w : World} {o : Outcome}
    (hs : Concludes u.port.isdu o) (hw : Collected u w) (ods : List (List UInt8)) :
  isduSent (isduPdLen u.port) (lossFree K env w ods).log
    = isduSent (isduPdLen u.port) (if o.abort then lossFree K env u ods else u).log
  := by
  have hlog := lossFree_abort (w := w) hK henv (by rw [hw.isdu]; rfl) (.inl (by rw [hw.isdu]; rfl)) ods
  rw [hlog, ← hw.framing, isduSent_sentBy hK w.port (proper_abort _ _), hw.framing, hw.sent, hw.isdu]
  cases habort : o.abort with
  | false =>
      have hnone : u.port.isdu.abortPending = false := by
        rw [Bool.eq_false_iff]
        intro h
        rw [hs.abort h] at habort
        contradiction
      simp [hnone]
  | true =>
      have hidle : u.port.isdu.idlePending = false := by
        rw [Bool.eq_false_iff]
        intro h
        have := hs.idle h
        cases o <;> contradiction
      rw [if_pos rfl, lossFree_abort hK henv hidle (.inr hs.done),
        isduSent_sentBy hK u.port (proper_abort _ _)]

/-- The segments of a request carry it octet for octet, followed by zero octets. -/
theorem requestFrames_od {request : List UInt8} {k : Nat} (hk : 1 ≤ k) :
  (requestFrames request k).flatMap (fun f => f.od.getD [])
    = request ++ List.replicate (Segment.count request.length k * k - request.length) 0
  := by
  rw [requestFrames, List.flatMap_map, ← Segment.flatMap_pieces 0 hk]
  rfl

/-- A `read_isdu` that hands out a result clears the service. -/
theorem readIsdu_collected {w : World} {index : UInt16} {subindex cap : UInt8}
    (h : (readIsdu w index subindex cap).2.ret = STATUS_OK) :
  (readIsdu w index subindex cap).1.port.isdu = isduClear w.port.isdu
  := by
  rw [readIsdu_ok h, serviceResult_isdu]

/-- A `write_isdu` that reports success clears the service. -/
theorem writeIsdu_collected {w : World} {index : UInt16} {subindex : UInt8} {data : List UInt8}
    (h : (writeIsdu w index subindex data).2 = STATUS_OK) :
  (writeIsdu w index subindex data).1.port.isdu = isduClear w.port.isdu
  := by
  have hcases := writeIsduBody_cases w index subindex data
  simp only [writeIsdu, World.emit_port] at h ⊢
  revert h hcases
  generalize writeIsduBody w index subindex data = r
  rintro h (⟨ret, hret⟩ | _ | _ | _ | _)
  · have hok : ret = STATUS_OK := h
    rw [hok] at hret
    contradiction
  · exact absurd (show STATUS_PENDING = STATUS_OK from h) (by decide)
  · contradiction
  · rw [World.leaveIsdu_port, serviceResult_isdu]
  · exact absurd (show STATUS_PENDING = STATUS_OK from h) (by decide)

/-- A cleared service has nothing to send. -/
theorem sendIsdu_cleared {w : World} {s : IsduState} (h : w.port.isdu = isduClear s) :
  sendIsdu K env w = (w, false)
  := by
  simp [sendIsdu_eq, isduNext, h, isduClear]

/-! ### The segmentation theorem -/

/-- The outcome of the response the replies bring after the request is out, if they
complete it. -/
def transferOutcome (request : List UInt8) (k : Nat) (ods : List (List UInt8)) : Option Outcome :=
  outcome (responseOctets (ods.drop (Segment.count request.length k)).flatten)

/-- The frames of a transfer are read off the wire as they are listed. -/
theorem isduSent_transfer (hK : K.Lawful) (henv : env.Transmits) {w : World} {r : IsduRequest}
    (h : AcceptedRequest r w.port.isdu) (hk : 1 ≤ w.port.odLen) (ods : List (List UInt8)) :
  isduSent (isduPdLen w.port) (lossFree K env w ods).log
    = isduSent (isduPdLen w.port) w.log
      ++ transferFrames (requestOctets w.port.isdu) w.port.odLen ods
  := by
  rw [lossFree_transfer hK henv h hk, isduSent_sentBy hK w.port (proper_transferFrames _ hk ods)]

/-- Collecting the result of a completed transfer ends it, except that a perturbed response
is still answered with its ABORT. -/
theorem isduSent_collectedTransfer (hK : K.Lawful) (henv : env.Transmits) {w w' : World}
    {r : IsduRequest} (h : AcceptedRequest r w.port.isdu) (hk : 1 ≤ w.port.odLen)
    {ods : List (List UInt8)} {o : Outcome}
    (ho : transferOutcome (requestOctets w.port.isdu) w.port.odLen ods = some o)
    (hw' : Concludes (lossFree K env w ods).port.isdu o → Collected (lossFree K env w ods) w')
    (ods' : List (List UInt8)) :
  isduSent (isduPdLen w.port) (lossFree K env w' ods').log
    = isduSent (isduPdLen w.port) w.log
      ++ transferFrames (requestOctets w.port.isdu) w.port.odLen
          (if o.abort then ods ++ ods' else ods)
  := by
  obtain ⟨hs, hlen⟩ := sendingRequest_of_accepted w.port.odLen h
  have hconcludes := concludes_of_sending hK henv hk hs hlen ho
  rw [← isduSent_transfer hK henv h hk, ← isduPdLen_lossFree hK henv w ods,
    isduSent_collected hK henv hconcludes (hw' hconcludes)]
  cases o.abort with
  | false => rfl
  | true =>
      rw [if_pos rfl, if_pos rfl, lossFree, lossFree, lossFree, List.foldl_append]

/-- A port in OPERATE with one octet of on-request data in each reply. -/
def operatingPort : PortState :=
  { zeroPort .full (Config.bare .type2_1 1 1) with state := .operate }

/-- A write of 20 octets over a port with one octet of on-request data. -/
def longWrite : World := (writeIsdu ⟨operatingPort, []⟩ 0x10 0 (List.replicate 20 0xA5)).1

/-- The replies to a write of 24 segments: the response is the octet 0x52 and then `last`. -/
def longReplies (last : UInt8) : List (List UInt8) := List.replicate 24 [] ++ [[0x52], [last]]

/-- A read of index 0x10. -/
def shortRead : World := (readIsdu ⟨operatingPort, []⟩ 0x10 0 8).1

end IolinkMaster
