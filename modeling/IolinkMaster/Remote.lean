import Mathlib.Data.List.TakeWhile
import IolinkMaster.Library.Refinement
import IolinkMaster.Library.Retry
import IolinkMaster.Link

/-!
# Remote calls

An application of the master reads and writes parameters by calling the service and ticking the
port until the service has a result.  Over a device that answers, these calls are calls of the
application behind the device: each request is performed exactly once, and the result is its
answer, whatever the M-sequence type, however long request and response are and however long the
device is busy.
-/

namespace IolinkMaster

/-! ### Calls -/

/-- A call of `read_isdu`, with a buffer of 255 octets, or of `write_isdu`. -/
inductive IsduCall where
  | read (index : UInt16) (subindex : UInt8)
  | write (index : UInt16) (subindex : UInt8) (data : List UInt8)

/-- What a call asks the device for. -/
def IsduCall.request : IsduCall → IsduRequest
  | .read index subindex => ⟨true, index, subindex, []⟩
  | .write index subindex data => ⟨false, index, subindex, data⟩

/-- The result of a service: the octets read, nothing, an EventCode, the events, the ErrorType of the
device, or the result code. -/
inductive Result where
  | data (octets : List UInt8)
  | done
  | code (code : UInt16)
  | events (events : List Event)
  | failed (errorType : UInt16)
  | refused (ret : Int)
  deriving DecidableEq

/-- Make a call; no result as long as the service is pending. -/
def IsduCall.make : IsduCall → World → World × Option Result
  | .read index subindex, w =>
    let (w, r) := readIsdu w index subindex 255
    (w,
      if r.ret = STATUS_PENDING then none
      else if r.ret = STATUS_OK then some (.data r.data)
      else if r.ret = ISDU_ERR_DEVICE then some (.failed w.port.diagnostics.lastIsduError)
      else some (.refused r.ret))
  | .write index subindex data, w =>
    let (w, ret) := writeIsdu w index subindex data
    (w,
      if ret = STATUS_PENDING then none
      else if ret = STATUS_OK then some .done
      else if ret = ISDU_ERR_DEVICE then some (.failed w.port.diagnostics.lastIsduError)
      else some (.refused ret))

/-- The service of a call. -/
def IsduCall.op : IsduCall → IsduOp
  | .read _ _ => .read
  | .write _ _ _ => .write

/-- The active service is the one of the call. -/
structure IsduCall.Owns (c : IsduCall) (s : IsduState) : Prop where
  op : s.op = c.op
  index : s.index = c.request.index
  subindex : s.subindex = c.request.subindex

theorem IsduCall.Owns.matches {c : IsduCall} {s : IsduState} (h : c.Owns s) :
  isduMatches s c.op c.request.index c.request.subindex = true
  := by
  simp [isduMatches, h.op, h.index, h.subindex]

/-- `write_isdu` refuses the payload of the call. -/
def IsduCall.tooLong : IsduCall → Bool
  | .read _ _ => false
  | .write index subindex data => isduWriteTooLong index subindex data.length

/-! ### Systems -/

section

variable {μ : Type} (K : Iolinki) (A : Application μ) (config : Config)

/-- What an answer is for the caller of a read or a write. -/
def Answer.result (read : Bool) : Answer → Result
  | .data octets _ => if read then .data octets else .done
  | .done => if read then .data [] else .done
  | .error errorType _ => .failed errorType

/-- The application behind the device, called directly. -/
def Application.serve (m : μ) (c : IsduCall) : μ × Result :=
  if c.tooLong then (m, .refused ISDU_ERR_BUFFER_TOO_SMALL)
  else ((A.perform m c.request).1, (A.perform m c.request).2.result c.request.read)

/-- A call on the port of a system. -/
def System.call {α : Type} (f : World → World × Option α) (s : System μ) : System μ × Option α :=
  let (w, r) := f s.world
  ({ s with world := w }, r)

/-- Make the call until it has a result, at most `fuel` times, with a tick after each attempt. -/
def System.serve {α : Type} (fuel : Nat) (s : System μ) (f : World → World × Option α) :
    Option (System μ × α) :=
  Retry.run (System.tick K A config) (System.call f) fuel s

end

/-! ### What a call does -/

section

variable {w : World} {c : IsduCall}

/-- While the service is busy, a call changes nothing. -/
theorem IsduCall.make_pending (hstate : acyclicAvailable w.port.state = true)
    (hbusy : isduBusy w.port.isdu = true) (howns : c.Owns w.port.isdu) :
  (c.make w).2 = none ∧ (c.make w).1.port = w.port
  := by
  have hmatches := howns.matches
  cases c with
  | read index subindex =>
      have hread : readIsdu w index subindex 255
          = (w, ⟨STATUS_PENDING, (255 : UInt8).toNat, []⟩) := by
        simp only [readIsdu, hstate, hbusy, Bool.not_true, Bool.false_eq_true, if_false, if_true]
        exact if_pos hmatches
      rw [make, hread]
      exact ⟨rfl, rfl⟩
  | write index subindex data =>
      have hwrite : writeIsduBody w index subindex data = (w, STATUS_PENDING) := by
        simp only [writeIsduBody, hstate, hbusy, Bool.not_true, Bool.false_eq_true, if_false,
          if_true]
        exact if_pos hmatches
      rw [make, writeIsdu, hwrite]
      exact ⟨rfl, rfl⟩

/-- A payload that is too long is refused. -/
theorem IsduCall.make_refused (hfree : Free w.port) (hlong : c.tooLong = true) :
  (c.make w).2 = some (.refused ISDU_ERR_BUFFER_TOO_SMALL) ∧ (c.make w).1.port = w.port
  := by
  cases c with
  | read index subindex => contradiction
  | write index subindex data =>
      have hwrite : writeIsduBody w index subindex data = (w, ISDU_ERR_BUFFER_TOO_SMALL) := by
        simp only [writeIsduBody, hfree.available, hfree.busy, hfree.done, Bool.not_true,
          Bool.false_eq_true, if_false]
        exact if_pos hlong
      rw [make, writeIsdu, hwrite]
      exact ⟨rfl, rfl⟩

/-- A read on a free transport starts. -/
theorem readIsdu_free (hfree : Free w.port) (index : UInt16) (subindex cap : UInt8) :
  readIsdu w index subindex cap
    = (⟨{ w.port with isdu := isduStartRead w.port.isdu index subindex },
        .isduStart .read index subindex [] (isduReadRequest index subindex) ::
          .isduLeft w.port.isdu :: w.log⟩,
      ⟨STATUS_PENDING, cap.toNat, []⟩)
  := by
  simp only [readIsdu, hfree.available, hfree.busy, hfree.done, Bool.not_true, Bool.false_eq_true,
    if_false]
  rfl

/-- A call on a free transport starts its service. -/
theorem IsduCall.make_started (hfree : Free w.port) (hlong : c.tooLong = false) :
  ∃ s, (c.make w).2 = none ∧ (c.make w).1.port = { w.port with isdu := s } ∧
    AcceptedRequest c.request s ∧ c.Owns s ∧ isduBusy s = true
  := by
  cases c with
  | read index subindex =>
      have hread := readIsdu_free hfree index subindex 255
      have haccepted : AcceptedRequest ⟨true, index, subindex, []⟩
          (readIsdu w index subindex 255).1.port.isdu :=
        .read w index subindex 255 hfree.busy (by rw [hread]; rfl)
      rw [hread] at haccepted
      rw [make, hread]
      exact ⟨_, rfl, rfl, haccepted, ⟨rfl, rfl, rfl⟩, rfl⟩
  | write index subindex data =>
      have hwrite : writeIsduBody w index subindex data
          = (⟨{ w.port with isdu := isduStartWrite w.port.isdu index subindex data },
              .isduStart .write index subindex data (isduWriteRequest index subindex data) ::
                .isduLeft w.port.isdu :: w.log⟩, STATUS_PENDING) := by
        simp only [writeIsduBody, hfree.available, hfree.busy, hfree.done, Bool.not_true,
          Bool.false_eq_true, if_false]
        exact if_neg (by simpa [tooLong] using hlong)
      have haccepted : AcceptedRequest ⟨false, index, subindex, data⟩
          (writeIsdu w index subindex data).1.port.isdu :=
        .write w index subindex data hfree.busy (by rw [writeIsdu, hwrite]; rfl)
      rw [writeIsdu, hwrite] at haccepted
      rw [make, writeIsdu, hwrite]
      exact ⟨_, rfl, rfl, haccepted, ⟨rfl, rfl, rfl⟩, rfl⟩

/-- What the service of a call leaves once its result is collected. -/
structure Cleared (s : IsduState) : Prop where
  op : s.op = .none
  notDone : s.done = false
  noIdle : s.idlePending = false
  noAbort : s.abortPending = false

/-- The service has its answer, and the transport has nothing more to send. -/
structure HasAnswer (a : Answer) (s : IsduState) : Prop where
  done : s.done = true
  noIdle : s.idlePending = false
  noAbort : s.abortPending = false
  error : s.error = a.outcome.error
  response : ∀ octets, a.outcome = .positive octets → s.response = octets

/-- A read whose service is complete collects its result. -/
theorem readIsdu_done {index : UInt16} {subindex : UInt8}
    (hstate : acyclicAvailable w.port.state = true) (hdone : w.port.isdu.done = true)
    (hmatches : isduMatches w.port.isdu .read index subindex = true) (cap : UInt8) :
  readIsdu w index subindex cap
    = (w.collect (isduFinishRead w.port cap).1, (isduFinishRead w.port cap).2)
  := by
  have hbusy : isduBusy w.port.isdu = false := by simp [isduBusy, hdone]
  simp only [readIsdu, hstate, hbusy, hdone, hmatches, Bool.not_true, Bool.false_eq_true, if_false,
    if_true]

/-- The call after the answer has its result and gives the service up. -/
theorem IsduCall.make_collected (hstate : acyclicAvailable w.port.state = true)
    (howns : c.Owns w.port.isdu) {a : Answer} (hanswered : HasAnswer a w.port.isdu) :
  (c.make w).2 = some (a.result c.request.read) ∧
    ∃ s d, (c.make w).1.port = { w.port with isdu := s, diagnostics := d } ∧ Cleared s
  := by
  obtain ⟨hdone, hidle, habort, herror, hresponse⟩ := hanswered
  have hbusy : isduBusy w.port.isdu = false := by simp [isduBusy, hdone]
  have hmatches := howns.matches
  cases c with
  | read index subindex =>
      have hread : readIsdu w index subindex 255 = _ := readIsdu_done hstate hdone hmatches 255
      rw [make, hread]
      cases a with
      | data octets h =>
          have hnone : w.port.isdu.error = ISDU_ERROR_NONE := herror
          have hoctets : w.port.isdu.response = octets := hresponse octets rfl
          have hfit : ¬ (255 : UInt8).toNat < w.port.isdu.response.length := by
            rw [hoctets]
            have : octets.length ≤ 235 := h
            have : (255 : UInt8).toNat = 255 := rfl
            omega
          simp only [isduFinishRead, hnone, ne_eq, not_true_eq_false, if_false, hfit]
          exact ⟨by rw [hoctets]; rfl, _, _, rfl, rfl, rfl, rfl, rfl⟩
      | done =>
          have hnone : w.port.isdu.error = ISDU_ERROR_NONE := herror
          have hoctets : w.port.isdu.response = [] := hresponse [] rfl
          have hfit : ¬ (255 : UInt8).toNat < w.port.isdu.response.length := by
            rw [hoctets]
            exact Nat.not_lt_zero _
          simp only [isduFinishRead, hnone, ne_eq, not_true_eq_false, if_false, hfit]
          exact ⟨by rw [hoctets]; rfl, _, _, rfl, rfl, rfl, rfl, rfl⟩
      | error errorType h =>
          obtain rfl : errorType = w.port.isdu.error := herror.symm
          simp only [isduFinishRead, h, ne_eq, not_false_eq_true, if_true, World.collect_port]
          exact ⟨rfl, _, _, rfl, rfl, rfl, rfl, habort⟩
  | write index subindex data =>
      have hwrite : writeIsduBody w index subindex data
          = (w.collect (isduFinishWrite w.port).1, (isduFinishWrite w.port).2) := by
        simp only [writeIsduBody, hstate, hbusy, hdone, Bool.not_true, Bool.false_eq_true, if_false,
          if_true]
        exact if_neg (by simpa [op, request] using hmatches)
      rw [make, writeIsdu, hwrite]
      cases a with
      | data octets h =>
          have hnone : w.port.isdu.error = ISDU_ERROR_NONE := herror
          simp only [isduFinishWrite, hnone, ne_eq, not_true_eq_false, if_false]
          exact ⟨rfl, _, _, rfl, rfl, rfl, rfl, rfl⟩
      | done =>
          have hnone : w.port.isdu.error = ISDU_ERROR_NONE := herror
          simp only [isduFinishWrite, hnone, ne_eq, not_true_eq_false, if_false]
          exact ⟨rfl, _, _, rfl, rfl, rfl, rfl, rfl⟩
      | error errorType h =>
          obtain rfl : errorType = w.port.isdu.error := herror.symm
          simp only [isduFinishWrite, h, ne_eq, not_false_eq_true, if_true]
          exact ⟨rfl, _, _, rfl, rfl, rfl, rfl, habort⟩

end

/-! ### The stages of a service -/

/-- A counter fits the address of a Master Command. -/
theorem segmentFlowctrl_masked (i : Nat) :
  segmentFlowctrl i &&& MC_ADDR_MASK = segmentFlowctrl i
  := by
  cases i with
  | zero => rfl
  | succ i =>
      have h : (i + 1) % 16 < 16 := Nat.mod_lt _ (by decide)
      simp only [segmentFlowctrl, Nat.add_one_ne_zero, if_false]
      generalize (i + 1) % 16 = c at h
      interval_cases c <;> decide

/-- Reading and sending keep the service that is active. -/
theorem IsduCall.Owns.next {c : IsduCall} {s t : IsduState} {od : List UInt8} {k : Nat}
    {f : IsduFrame} (h : c.Owns s) (hnext : isduNext (isduOnOd s od) k = some (f, t)) :
  c.Owns t
  := by
  obtain ⟨hop, hindex, hsubindex, -⟩ := sameRequest_onOd s od
  obtain ⟨pos, phase, flowctrl, abort, idle, -, rfl⟩ := isduNext_moves hnext
  constructor
  · dsimp only
    rw [hop, h.op]
  · dsimp only
    rw [hindex, h.index]
  · dsimp only
    rw [hsubindex, h.subindex]

/-- Sending does not complete a service. -/
theorem isduBusy_next {s t : IsduState} {k : Nat} {f : IsduFrame}
    (hnext : isduNext s k = some (f, t)) :
  isduBusy t = isduBusy s
  := by
  obtain ⟨pos, phase, flowctrl, abort, idle, -, rfl⟩ := isduNext_moves hnext
  rfl

theorem isduBusy_of_receives {s : IsduState} {stream : List UInt8} (h : Receives s stream)
    (ho : outcome stream = none) :
  isduBusy s = true
  := by
  have hreceiving := isduReceiving_of_receives h ho
  simp only [isduReceiving, Bool.not_eq_true', Bool.or_eq_false_iff,
    beq_eq_false_iff_ne] at hreceiving
  simp [isduBusy, hreceiving.1.1.1, hreceiving.1.1.2]

/-- The read that concludes a service after its response. -/
theorem isduNext_concluding {s : IsduState} {stream : List UInt8} {o : Outcome} (k : Nat)
    (hs : Receives s stream) (ho : outcome stream = some o) (hidle : o.idle = true) :
  isduNext s k = some (.poll FLOWCTRL_IDLE, { s with idlePending := false })
  := by
  obtain ⟨-, -, -, hpending, habort, -, -⟩ := (receives_done ho).mp hs
  have hnone : s.abortPending = false := by
    rw [habort]
    cases o with
    | perturbed => contradiction
    | _ => rfl
  rw [isduNext, hnone, hpending, hidle]
  rfl

section

variable {μ : Type} {K : Iolinki} {A : Application μ} {config : Config}

/-- In the states of `B`, with the on-request data `od` waiting on the wire, a tick conveys what the
transport asks for: a write brings the device its segment, and a read fetches `k` octets. -/
structure Conveys (A : Application μ) (config : Config) (k : Nat)
    (B : System μ → List UInt8 → Prop) (step : System μ → System μ) : Prop where
  read : ∀ s od flowctrl isdu, B s od → flowctrl &&& MC_ADDR_MASK = flowctrl →
    isduNext (isduOnOd s.world.port.isdu od) (odLenForType config.mSeqType)
      = some (.poll flowctrl, isdu) →
    B (step s) (s.device.onRead flowctrl k).2 ∧
      (step s).device = (s.device.onRead flowctrl k).1 ∧ (step s).world.port.isdu = isdu
  write : ∀ s od flowctrl segment isdu, B s od → flowctrl &&& MC_ADDR_MASK = flowctrl →
    isduNext (isduOnOd s.world.port.isdu od) (odLenForType config.mSeqType)
      = some (⟨false, flowctrl, some segment⟩, isdu) →
    (∃ od', responseOctets od' = [] ∧ B (step s) od') ∧
      (step s).device = s.device.onWrite A flowctrl segment ∧ (step s).world.port.isdu = isdu

/-- How far the service of the request `r` is, for an application that had the memory `m`: the
ISDU state, the on-request data on the wire, the device, and a bound on the ticks it takes.  The
segments of the request have `k'` octets, those of the response `k`. -/
inductive Serving (A : Application μ) (k' k : Nat) (r : IsduRequest) (m : μ) :
    Nat → IsduState → List UInt8 → Device μ → Prop where
  /-- The device has received `i` segments of the request. -/
  | requesting {s : IsduState} {od : List UInt8} {d : Device μ} {octets : List UInt8} {i : Nat}
      (sending : SendingRequest s octets k' i) (bounded : octets.length ≤ ISDU_EXT_MAX)
      (decodes : decodeRequest octets = some r)
      (declared : ∃ rest, declaredLength octets = some (octets.length, rest))
      (holds : d.Holds octets k' i) (memory : d.memory = m) :
      Serving A k' k r m (octets.length - i + (A.maxBusy + DEVICE_DATA_MAX + 6)) s od d
  /-- The device has performed the request and the master polls for the response. -/
  | polling {s : IsduState} {od : List UInt8} {d : Device μ}
      (fetching : Fetching (isduOnOd s od) [] 0) (memory : d.memory = (A.perform m r).1)
      (response : d.response = (A.perform m r).2.response) :
      Serving A k' k r m (d.busy + d.response.length + 2) s od d
  /-- The master has `j + 1` segments of the response. -/
  | collecting {s : IsduState} {od : List UInt8} {d : Device μ} {j : Nat}
      (reached : j * k < (A.perform m r).2.response.length)
      (fetching : Fetching (isduOnOd s od) (segments (A.perform m r).2.response k (j + 1)) (j + 1))
      (memory : d.memory = (A.perform m r).1) (busy : d.busy = 0)
      (response : d.response = (A.perform m r).2.response.drop ((j + 1) * k)) :
      Serving A k' k r m ((A.perform m r).2.response.length - j) s od d

/-- The port and the device during the service of the call `c`, with at most `n` ticks left. -/
inductive During (A : Application μ) (config : Config) (k : Nat) (B : System μ → List UInt8 → Prop)
    (c : IsduCall) (m : μ) : Nat → System μ → Prop where
  | running {s : System μ} {n : Nat} {od : List UInt8} (linked : B s od)
      (owns : c.Owns s.world.port.isdu) (busy : isduBusy s.world.port.isdu = true)
      (serving : Serving A (odLenForType config.mSeqType) k c.request m n s.world.port.isdu od
        s.device) :
      During A config k B c m n s
  | answered {s : System μ} {od : List UInt8} (linked : B s od) (owns : c.Owns s.world.port.isdu)
      (answered : HasAnswer (A.perform m c.request).2 s.world.port.isdu)
      (memory : s.device.memory = (A.perform m c.request).1) :
      During A config k B c m 0 s

/-! ### Ticks during a service -/

/-- On-request data without a service brings no response octet. -/
theorem responseOctets_noService (config : Config) (read : Bool) :
  responseOctets (noService config read) = []
  := by
  rw [noService]
  split
  · rw [padOd, List.nil_append, responseOctets, List.dropWhile_eq_nil_iff]
    intro b hb
    rw [List.eq_of_mem_replicate hb]
    rfl
  · rfl

/-- The transport waits for its response whatever reply comes to the last segment. -/
theorem fetching_idle {s : IsduState} {od : List UInt8} (hs : Polling s)
    (hod : responseOctets od = []) :
  Fetching (isduOnOd s od) [] 0
  := by
  obtain ⟨hreceives, hflowctrl⟩ := hs
  have hpoll := receives_poll hreceives od
  have hcounter := flowctrl_onOd_poll hreceives od
  rw [hod] at hpoll
  rw [if_pos hod, hflowctrl] at hcounter
  exact ⟨hpoll, fun _ => hcounter, fun _ => rfl, fun h => absurd rfl h⟩

/-- Octets that start with one that is no idle octet are all response octets. -/
theorem responseOctets_eq {od : List UInt8} (hne : od ≠ [])
    (h : isduIdleOctet (od.getD 0 0) = false) :
  responseOctets od = od
  := by
  cases od with
  | nil => contradiction
  | cons b od =>
      rw [List.getD_cons_zero] at h
      rw [responseOctets, List.dropWhile_cons, h]
      rfl

/-- The device is busy: no response octet. -/
theorem responseOctets_busy (k : Nat) :
  responseOctets (padOd k [0x01]) = []
  := by
  rw [padOd, responseOctets, List.dropWhile_eq_nil_iff]
  intro b hb
  rw [List.mem_append, List.mem_singleton] at hb
  rcases hb with rfl | hb
  · rfl
  · rw [List.eq_of_mem_replicate hb]
    rfl

/-- The first segment of a response is all response octets. -/
theorem Conforms.responseOctets {pdu : List UInt8} {o : Outcome} (h : Conforms pdu o) {k : Nat}
    (hk : 1 ≤ k) :
  responseOctets (segment pdu k 0) = segments pdu k 1 ∧ segments pdu k 1 ≠ []
  := by
  have hone : segments pdu k 1 = segment pdu k 0 := by
    rw [segments_succ]
    rfl
  have hne : segment pdu k 0 ≠ [] := by
    rw [Ne, ← List.length_eq_zero_iff, segment_eq, length_padOd]
    · omega
    · rw [List.length_take]
      apply Nat.min_le_left
  have hhead : (segment pdu k 0).getD 0 0 = pdu.getD 0 0 := by
    cases pdu with
    | nil => exact absurd rfl h.ne_nil
    | cons b pdu =>
        obtain ⟨k, rfl⟩ := Nat.exists_eq_add_of_le' hk
        rw [segment_eq, Nat.zero_mul, List.drop_zero, List.take_succ_cons]
        rfl
  rw [hone]
  constructor
  · apply responseOctets_eq hne
    rw [hhead, h.first]
  · apply hne

/-- The counter of a further segment asks for a response. -/
theorem segmentFlowctrl_ne_end (j : Nat) :
  ¬ (segmentFlowctrl (j + 1) = FLOWCTRL_IDLE ∨ segmentFlowctrl (j + 1) = FLOWCTRL_ABORT)
  := by
  have h : (j + 1) % 16 < 16 := Nat.mod_lt _ (by decide)
  simp only [segmentFlowctrl, Nat.add_one_ne_zero, if_false]
  generalize (j + 1) % 16 = c at h
  interval_cases c <;> decide

section

variable {k : Nat} {B : System μ → List UInt8 → Prop} {step : System μ → System μ}
  (hB : Conveys A config k B step)

include hB

/-- A tick while the request goes out. -/
theorem During.tick_requesting {c : IsduCall} {m : μ} {s : System μ} {od octets : List UInt8}
    {i : Nat} (hs : B s od) (howns : c.Owns s.world.port.isdu)
    (hsending : SendingRequest s.world.port.isdu octets (odLenForType config.mSeqType) i)
    (hbounded : octets.length ≤ ISDU_EXT_MAX) (hdecodes : decodeRequest octets = some c.request)
    (hdeclared : ∃ rest, declaredLength octets = some (octets.length, rest))
    (hholds : s.device.Holds octets (odLenForType config.mSeqType) i)
    (hmemory : s.device.memory = m) :
  ∃ n < octets.length - i + (A.maxBusy + DEVICE_DATA_MAX + 6),
    During A config k B c m n (step s)
  := by
  have hk' := odLenForType_pos config.mSeqType
  have hquiet : isduOnOd s.world.port.isdu od = s.world.port.isdu := by
    apply isduOnOd_of_not_receiving
    simp [isduReceiving, hsending.phase]
  obtain ⟨t, hnext, hleft⟩ := isduNext_request hsending hbounded
  rw [← hquiet] at hnext
  obtain ⟨⟨od', hidle, hbetween⟩, hdevice, hisdu⟩ :=
    hB.write s od _ _ _ hs (segmentFlowctrl_masked i) hnext
  have howns' := howns.next hnext
  have hi : i < octets.length := by
    apply Nat.lt_of_le_of_lt _ hsending.more
    apply Nat.le_mul_of_pos_right i hk'
  obtain ⟨rest, hdeclared⟩ := hdeclared
  rw [← hisdu] at hleft howns'
  split at hleft
  · next hmore =>
    rw [Device.onWrite_more hholds hdeclared hk' hmore] at hdevice
    have hbusy : isduBusy (step s).world.port.isdu = true := by
      simp [isduBusy, hleft.op, hleft.notDone]
    refine ⟨_, ?_, .running hbetween howns' hbusy
      (.requesting hleft hbounded hdecodes ⟨rest, hdeclared⟩ ?_ ?_)⟩
    · omega
    · intro _
      rw [hdevice]
    · rw [hdevice]
      apply hmemory
  · next hlast =>
    rw [Device.onWrite_last hholds hdeclared hdecodes (Nat.le_of_not_lt hlast)] at hdevice
    have hbusy := isduBusy_of_receives hleft.1 outcome_nil
    refine ⟨_, ?_, .running hbetween howns' hbusy (.polling
      (fetching_idle hleft hidle) ?_ ?_)⟩
    · have hle := A.busy_le s.device.memory c.request
      have hlength := (A.perform s.device.memory c.request).2.length_response
      rw [hdevice, Device.perform]
      dsimp only
      omega
    · rw [hdevice, ← hmemory]
      rfl
    · rw [hdevice, ← hmemory]
      rfl

/-- A tick while the master polls. -/
theorem During.tick_polling (hk : 1 ≤ k) {c : IsduCall} {m : μ} {s : System μ} {od : List UInt8}
    (hs : B s od) (howns : c.Owns s.world.port.isdu)
    (hfetching : Fetching (isduOnOd s.world.port.isdu od) [] 0)
    (hmemory : s.device.memory = (A.perform m c.request).1)
    (hresponse : s.device.response = (A.perform m c.request).2.response) :
  ∃ n < s.device.busy + s.device.response.length + 2,
    During A config k B c m n (step s)
  := by
  have hconforms := (A.perform m c.request).2.conforms
  obtain ⟨t, hnext, hleft⟩ := fetching_poll hfetching (odLenForType config.mSeqType)
    (s.device.onRead FLOWCTRL_START k).2
  obtain ⟨hbetween, hdevice, hisdu⟩ := hB.read s od _ _ hs (by decide) hnext
  have howns' := howns.next hnext
  have hbusy := isduBusy_next hnext
  rw [isduBusy_of_receives hfetching.1 outcome_nil] at hbusy
  rw [← hisdu] at hleft howns' hbusy
  by_cases hwaits : 0 < s.device.busy
  · have hread : s.device.onRead FLOWCTRL_START k
        = ({ s.device with busy := s.device.busy - 1 },
            padOd k [0x01]) := by
      rw [Device.onRead, if_neg (by decide), if_pos hwaits]
    rw [hread] at hbetween hdevice hleft
    simp only [responseOctets_busy, if_true] at hleft
    refine ⟨_, ?_, .running hbetween howns' hbusy (.polling hleft ?_ ?_)⟩
    · rw [hdevice]
      dsimp only
      omega
    · rw [hdevice]
      apply hmemory
    · rw [hdevice]
      apply hresponse
  · have hread : s.device.onRead FLOWCTRL_START k
        = ({ s.device with
              response := s.device.response.drop k },
            segment s.device.response k 0) := by
      rw [Device.onRead, if_neg (by decide), if_neg hwaits, segment_eq, Nat.zero_mul, List.drop_zero]
    have hpos : 0 < (A.perform m c.request).2.response.length :=
      List.length_pos_iff.mpr hconforms.ne_nil
    obtain ⟨hall, hsome⟩ := hconforms.responseOctets hk
    rw [hread, hresponse] at hbetween hdevice hleft
    rw [hall, if_neg hsome] at hleft
    refine ⟨_, ?_, .running hbetween howns' hbusy
      (.collecting (by rwa [Nat.zero_mul]) hleft ?_ ?_ ?_)⟩
    · rw [hresponse]
      omega
    · rw [hdevice]
      apply hmemory
    · rw [hdevice]
      apply Nat.eq_zero_of_not_pos hwaits
    · rw [hdevice, Nat.zero_add, Nat.one_mul]

/-- A tick while the response comes in. -/
theorem During.tick_collecting (hk : 1 ≤ k) {c : IsduCall} {m : μ} {s : System μ}
    {od : List UInt8} {j : Nat} (hs : B s od) (howns : c.Owns s.world.port.isdu)
    (hreached : j * k < (A.perform m c.request).2.response.length)
    (hfetching : Fetching (isduOnOd s.world.port.isdu od)
      (segments (A.perform m c.request).2.response k (j + 1)) (j + 1))
    (hmemory : s.device.memory = (A.perform m c.request).1) (hidle : s.device.busy = 0)
    (hresponse : s.device.response
      = (A.perform m c.request).2.response.drop ((j + 1) * k)) :
  ∃ n < (A.perform m c.request).2.response.length - j,
    During A config k B c m n (step s)
  := by
  have hconforms := (A.perform m c.request).2.conforms
  have hj : j < (A.perform m c.request).2.response.length := by
    apply Nat.lt_of_le_of_lt _ hreached
    apply Nat.le_mul_of_pos_right j hk
  by_cases hmore : (j + 1) * k
      < (A.perform m c.request).2.response.length
  · have hopen : outcome (segments (A.perform m c.request).2.response
        k (j + 1)) = none := by
      rw [segments_of_lt hmore]
      apply hconforms.outcome_lt hmore
    have hread : s.device.onRead (segmentFlowctrl (j + 1)) k
        = ({ s.device with
              response := s.device.response.drop k },
            segment (A.perform m c.request).2.response k (j + 1)) := by
      rw [Device.onRead, if_neg (segmentFlowctrl_ne_end j), if_neg (by omega), hresponse, segment_eq]
    obtain ⟨t, hnext, hleft⟩ := fetching_count hfetching hopen (odLenForType config.mSeqType)
      (s.device.onRead (segmentFlowctrl (j + 1)) k).2
    obtain ⟨hbetween, hdevice, hisdu⟩ := hB.read s od _ _ hs (segmentFlowctrl_masked _) hnext
    have howns' := howns.next hnext
    have hbusy := isduBusy_next hnext
    rw [isduBusy_of_receives hfetching.1 hopen] at hbusy
    rw [← hisdu] at hleft howns' hbusy
    rw [hread] at hbetween hdevice hleft
    rw [← segments_succ] at hleft
    refine ⟨_, ?_, .running hbetween howns' hbusy (.collecting hmore hleft ?_ ?_ ?_)⟩
    · omega
    · rw [hdevice]
      apply hmemory
    · rw [hdevice]
      apply hidle
    · rw [hdevice, Nat.succ_mul (j + 1), ← List.drop_drop, ← hresponse]
  · have hcomplete : outcome (segments (A.perform m c.request).2.response
        k (j + 1)) = some (A.perform m c.request).2.outcome := by
      rw [segments_of_le (Nat.le_of_not_lt hmore)]
      apply hconforms.outcome_append
    have hnext := isduNext_concluding (odLenForType config.mSeqType) hfetching.1 hcomplete
      hconforms.concluded
    have hread : s.device.onRead FLOWCTRL_IDLE k
        = ({ s.device with request := [], busy := 0, response := [] },
            padOd k []) := by
      rw [Device.onRead, if_pos (.inl rfl)]
    obtain ⟨hbetween, hdevice, hisdu⟩ := hB.read s od _ _ hs (by decide) hnext
    obtain ⟨-, hdone, -, -, habort, herror, hdata⟩ := (receives_done hcomplete).mp hfetching.1
    have howns' := howns.next hnext
    rw [← hisdu] at howns'
    rw [hread] at hdevice
    refine ⟨0, by omega, .answered hbetween howns' ?_ ?_⟩
    · rw [hisdu]
      refine ⟨hdone, rfl, ?_, herror, hdata⟩
      dsimp only
      rw [habort]
      cases (A.perform m c.request).2 with
      | _ => rfl
    · rw [hdevice]
      apply hmemory

/-- A tick during a service brings it closer to its answer. -/
theorem During.tick (hk : 1 ≤ k) {c : IsduCall} {m : μ} {s : System μ} {od : List UInt8} {n : Nat}
    (hs : B s od) (howns : c.Owns s.world.port.isdu)
    (hstage : Serving A (odLenForType config.mSeqType) k c.request m n s.world.port.isdu od
      s.device) :
  ∃ n' < n, During A config k B c m n' (step s)
  := by
  cases hstage with
  | requesting sending bounded decodes declared holds memory =>
      exact tick_requesting hB hs howns sending bounded decodes declared holds memory
  | polling fetching memory response =>
      exact tick_polling hB hk hs howns fetching memory response
  | collecting reached fetching memory busy response =>
      exact tick_collecting hB hk hs howns reached fetching memory busy response

end

/-! ### Calls over the link -/

/-- The port and the device between two services; the application has the memory `m`. -/
structure AtRest (K : Iolinki) (config : Config) (s : System μ) (m : μ) : Prop where
  between : ∃ od, Between K config s od
  cleared : Cleared s.world.port.isdu
  memory : s.device.memory = m

/-- A call leaves what the link needs alone. -/
theorem Between.called {s : System μ} {od : List UInt8} (h : Between K config s od) {w : World}
    {t : IsduState} {d : Diagnostics} {b : BlockState}
    (hw : w.port = { s.world.port with isdu := t, diagnostics := d, block := b }) :
  Between K config { s with world := w } od
  := by
  have hevent : w.port.event = s.world.port.event := by rw [hw]
  refine ⟨h.toLinked.called (e := s.world.port.event) hw h.expected, ?_, ?_⟩
  · rw [← h.phase, ← hevent]
  · rw [← h.request, ← hevent]

/-- In OPERATE a tick conveys what the transport asks for. -/
theorem conveys_operate (hK : K.Lawful) (hvalid : configRefused config = false)
    (hfits : A.Fits config) :
  Conveys A config (odLenForType config.mSeqType) (Between K config) (System.tick K A config)
  := by
  constructor
  · intro s od flowctrl isdu hs hflow hnext
    exact hs.tick_read hK hvalid hfits hflow hnext
  · intro s od flowctrl segment isdu hs hflow hnext
    obtain ⟨hbetween, hdevice, hisdu⟩ := hs.tick_write hK hvalid hfits hflow hnext
    exact ⟨⟨_, responseOctets_noService config false, hbetween⟩, hdevice, hisdu⟩

/-- A tick between two services changes nothing for the next one. -/
theorem AtRest.tick (hK : K.Lawful) (hvalid : configRefused config = false) (hfits : A.Fits config)
    {s : System μ} {m : μ} (h : AtRest K config s m) :
  AtRest K config (s.tick K A config) m
  := by
  obtain ⟨⟨od, hs⟩, hcleared, hmemory⟩ := h
  have hquiet : isduOnOd s.world.port.isdu od = s.world.port.isdu := by
    apply isduOnOd_of_not_receiving
    simp [isduReceiving, hcleared.op]
  have hnext : isduNext (isduOnOd s.world.port.isdu od) (odLenForType config.mSeqType) = none := by
    rw [hquiet]
    simp [isduNext, hcleared.op, hcleared.noIdle, hcleared.noAbort]
  have hrests : (isduOnOd s.world.port.isdu od).RestsWhenDone := by
    rw [hquiet]
    intro hdone
    rw [hcleared.notDone] at hdone
    contradiction
  obtain ⟨⟨read, hbetween⟩, hdevice, hisdu⟩ := hs.tick_cyclic (A := A) hK hvalid hfits hnext hrests
  refine ⟨⟨_, hbetween⟩, ?_, ?_⟩
  · rw [hisdu, hquiet]
    apply hcleared
  · rw [hdevice]
    apply hmemory

/-- The system stays at rest as long as no call is made. -/
theorem AtRest.ticks (hK : K.Lawful) (hvalid : configRefused config = false)
    (hfits : A.Fits config) {s : System μ} {m : μ} (h : AtRest K config s m) (n : Nat) :
  AtRest K config ((System.tick K A config)^[n] s) m
  := by
  induction n with
  | zero => apply h
  | succ n ih =>
      rw [Function.iterate_succ_apply']
      apply ih.tick hK hvalid hfits

theorem Between.available {s : System μ} {od : List UInt8} (h : Between K config s od) :
  acyclicAvailable s.world.port.state = true
  := by
  rw [h.operating.state]
  rfl

/-- A tick leaves the parameter block alone. -/
theorem Between.tick_block (hK : K.Lawful) (hvalid : configRefused config = false) {s : System μ}
    {od : List UInt8} (h : Between K config s od) :
  (s.tick K A config).world.port.block = s.world.port.block
  := by
  obtain ⟨u, -, -, -, hpasses⟩ := h.passes (A := A) hK hvalid
  exact hpasses.ticked.block

/-- An attempt to make a call whose service is active. -/
theorem During.attempt (hK : K.Lawful) (hvalid : configRefused config = false)
    (hfits : A.Fits config) {c : IsduCall} {m : μ} {s : System μ} {n : Nat}
    (h : During A config (odLenForType config.mSeqType) (Between K config) c m n s) :
  (∃ t r, System.call c.make s = (t, some r) ∧
      r = (A.perform m c.request).2.result c.request.read ∧
      AtRest K config t (A.perform m c.request).1 ∧
      t.world.port.block = s.world.port.block) ∨
    ∃ n' < n, ∃ t, System.call c.make s = (t, none) ∧
      During A config (odLenForType config.mSeqType) (Between K config) c m n' (t.tick K A config) ∧
      (t.tick K A config).world.port.block = s.world.port.block
  := by
  rw [System.call]
  cases h with
  | @running _ _ od hs howns hbusy hserving =>
      obtain ⟨hresult, hport⟩ := IsduCall.make_pending hs.available hbusy howns
      obtain ⟨w, hw⟩ : ∃ w, c.make s.world = (w, none) := ⟨_, Prod.ext rfl hresult⟩
      rw [hw] at hport
      dsimp only at hport
      have hcalled : Between K config { s with world := w } od :=
        hs.called (t := s.world.port.isdu) (d := s.world.port.diagnostics)
          (b := s.world.port.block) hport
      obtain ⟨n', hn', hduring⟩ := During.tick (conveys_operate hK hvalid hfits)
        (odLenForType_pos _) hcalled
        (c := c) (m := m) (n := n) (by rwa [hport]) (by rwa [hport])
      have hblock := hcalled.tick_block (A := A) hK hvalid
      rw [hw]
      refine .inr ⟨n', hn', _, rfl, hduring, ?_⟩
      rw [hblock]
      dsimp only
      rw [hport]
  | @answered _ od hs howns hanswered hmemory =>
      obtain ⟨hresult, t, d, hport, hcleared⟩ :=
        IsduCall.make_collected hs.available howns hanswered
      obtain ⟨w, hw⟩ : ∃ w, c.make s.world
          = (w, some ((A.perform m c.request).2.result c.request.read)) := ⟨_, Prod.ext rfl hresult⟩
      rw [hw] at hport
      dsimp only at hport
      rw [hw]
      refine .inl ⟨{ s with world := w }, _, rfl, rfl, ⟨⟨od, hs.called hport⟩, ?_, hmemory⟩, ?_⟩
      · dsimp only
        rw [hport]
        apply hcleared
      · dsimp only
        rw [hport]

/-- The waits a call may take over a device with the application `A`. -/
def Application.patience (A : Application μ) : Nat :=
  ISDU_EXT_MAX + A.maxBusy + DEVICE_DATA_MAX + 6

/-- The first attempt to make a call, on a system at rest. -/
theorem AtRest.attempt (hK : K.Lawful) (hvalid : configRefused config = false)
    (hfits : A.Fits config) {s : System μ} {m : μ} (h : AtRest K config s m) (c : IsduCall) :
  (∃ t r, System.call c.make s = (t, some r) ∧ r = (A.serve m c).2 ∧
      AtRest K config t (A.serve m c).1 ∧ t.world.port.block = s.world.port.block) ∨
    c.tooLong = false ∧ ∃ n < A.patience, ∃ t, System.call c.make s = (t, none) ∧
      During A config (odLenForType config.mSeqType) (Between K config) c m n (t.tick K A config) ∧
      (t.tick K A config).world.port.block = s.world.port.block
  := by
  obtain ⟨⟨od, hs⟩, hcleared, hmemory⟩ := h
  have hfree : Free s.world.port := ⟨hs.available, by simp [isduBusy, hcleared.op], hcleared.notDone⟩
  rw [System.call, Application.serve]
  cases hlong : c.tooLong with
  | true =>
      obtain ⟨hresult, hport⟩ := IsduCall.make_refused hfree hlong
      obtain ⟨w, hw⟩ : ∃ w, c.make s.world = (w, some (.refused ISDU_ERR_BUFFER_TOO_SMALL)) :=
        ⟨_, Prod.ext rfl hresult⟩
      rw [hw] at hport
      dsimp only at hport
      rw [hw]
      refine .inl ⟨{ s with world := w }, _, rfl, rfl, ⟨⟨od, ?_⟩, ?_, hmemory⟩, ?_⟩
      · exact hs.called (t := s.world.port.isdu) (d := s.world.port.diagnostics)
          (b := s.world.port.block) hport
      · dsimp only
        rw [hport]
        apply hcleared
      · dsimp only
        rw [hport]
  | false =>
      obtain ⟨t, hresult, hport, haccepted, howns, -⟩ := IsduCall.make_started hfree hlong
      obtain ⟨w, hw⟩ : ∃ w, c.make s.world = (w, none) := ⟨_, Prod.ext rfl hresult⟩
      rw [hw] at hport
      dsimp only at hport
      obtain ⟨hsending, hbounded⟩ :=
        sendingRequest_of_accepted (odLenForType config.mSeqType) haccepted
      obtain ⟨hdecodes, ⟨rest, hdeclared⟩, hcomplete, -, -⟩ := encodes_of_accepted haccepted
      have hlength : (requestOctets t).length = t.requestLen := by
        rw [requestOctets, List.length_take, hcomplete, Nat.min_self]
      have hcalled : Between K config { s with world := w } od :=
        hs.called (t := t) (d := s.world.port.diagnostics) (b := s.world.port.block) hport
      obtain ⟨n, hn, hduring⟩ := During.tick_requesting (conveys_operate hK hvalid hfits) hcalled
        (c := c) (m := m) (i := 0) (by rwa [hport])
        (show SendingRequest w.port.isdu (requestOctets t) _ 0 by rwa [hport])
        hbounded hdecodes ⟨rest, by rw [hdeclared, hlength]⟩ (fun h => absurd rfl h) hmemory
      have hblock := hcalled.tick_block (A := A) hK hvalid
      rw [hw]
      refine .inr ⟨rfl, n, ?_, _, rfl, hduring, ?_⟩
      · have hle : (requestOctets t).length ≤ ISDU_EXT_MAX := hbounded
        rw [Application.patience]
        omega
      · rw [hblock]
        dsimp only
        rw [hport]

/-- A call on a system at rest, repeated with ticks in between, ends with the result the application
gives it; the system is at rest again, and the parameter block is the same all the time. -/
theorem AtRest.ends (hK : K.Lawful) (hvalid : configRefused config = false)
    (hfits : A.Fits config) {s : System μ} {m : μ} (h : AtRest K config s m) (c : IsduCall)
    {b : BlockState} (hb : s.world.port.block = b) :
  ∃ t, Retry.Ends (System.tick K A config) (fun s => s.world.port.block = b) (System.call c.make)
      A.patience s (t, (A.serve m c).2) ∧
    AtRest K config t (A.serve m c).1 ∧ t.world.port.block = b
  := by
  obtain ⟨t, r, hnow, rfl, ht, hblock⟩ | ⟨hlong, n, hn, t, hlater, hduring, hblock⟩ :=
    h.attempt hK hvalid hfits c
  · exact ⟨t, .now hb hnow, ht, by rw [hblock, hb]⟩
  · have hspec : A.serve m c = ((A.perform m c.request).1,
        (A.perform m c.request).2.result c.request.read) := by
      rw [Application.serve, hlong, if_neg Bool.false_ne_true]
    obtain ⟨⟨u, r⟩, hends, hr, hu, hkept⟩ := Retry.ends_of_rank
      (I := fun s : System μ => s.world.port.block = b)
      (P := fun n s =>
        During A config (odLenForType config.mSeqType) (Between K config) c m n s ∧
          s.world.port.block = b)
      (Q := fun r => r.2 = (A.serve m c).2 ∧ AtRest K config r.1 (A.serve m c).1 ∧
        r.1.world.port.block = b)
      (fun _ _ h => h.2) (by
        rintro n s ⟨hs, hsb⟩
        rw [hspec]
        rcases hs.attempt hK hvalid hfits with ⟨t, r, hnow, hr, ht, hblock⟩
            | ⟨n', hn', t, hlater, ht, hblock⟩
        · exact .inl ⟨t, r, hnow, hr, ht, by rw [hblock, hsb]⟩
        · exact .inr ⟨n', hn', t, hlater, ht, by rw [hblock, hsb]⟩)
      ⟨hduring, by rw [hblock, hb]⟩
    obtain rfl : r = (A.serve m c).2 := hr
    refine ⟨u, ?_, hu, hkept⟩
    exact (Retry.Ends.later (I := fun s : System μ => s.world.port.block = b) hb hlater hends).mono
      (fun _ h => h) hn

/-- A call on a system at rest has the result the application gives it, and leaves the system at
rest. -/
theorem AtRest.serve (hK : K.Lawful) (hvalid : configRefused config = false)
    (hfits : A.Fits config) {fuel : Nat} (hfuel : A.patience < fuel) {s : System μ} {m : μ}
    (h : AtRest K config s m) (c : IsduCall) :
  ∃ s', System.serve K A config fuel s c.make = some (s', (A.serve m c).2) ∧
    AtRest K config s' (A.serve m c).1
  := by
  obtain ⟨t, hends, ht, -⟩ := h.ends hK hvalid hfits c rfl
  exact ⟨t, hends.run_eq hfuel, ht⟩

/-- An application of the master that lets some ticks pass before each of its calls. -/
def System.visit (K : Iolinki) (A : Application μ) (config : Config) (fuel : Nat) (s : System μ)
    (v : Nat × IsduCall) : Option (System μ × Result) :=
  System.serve K A config fuel ((System.tick K A config)^[v.1] s) v.2.make

/-- The port, the link and the device together are the application behind the device: any calls,
however many ticks pass between them, have the results that the application gives to the same
calls in the same order. -/
theorem remote_calls (hK : K.Lawful) (hvalid : configRefused config = false)
    (hfits : A.Fits config) {fuel : Nat} (hfuel : A.patience < fuel) {s : System μ} {m : μ}
    (h : AtRest K config s m) (visits : List (Nat × IsduCall)) :
  ∃ s', Refinement.attempts (System.visit K A config fuel) s visits
      = some (s', (Refinement.answers A.serve m (visits.map Prod.snd)).2) ∧
    AtRest K config s' (Refinement.answers A.serve m (visits.map Prod.snd)).1
  := by
  have hsimulates : Refinement.Simulates (AtRest K config) (System.visit K A config fuel)
      (fun m (v : Nat × IsduCall) => A.serve m v.2) := by
    intro s m v hs
    exact (hs.ticks hK hvalid hfits v.1).serve hK hvalid hfits hfuel v.2
  obtain ⟨s', hattempts, hs'⟩ := hsimulates.attempts_eq visits h
  rw [Refinement.answers_map A.serve Prod.snd] at hattempts hs'
  exact ⟨s', hattempts, hs'⟩

end

/-- A device whose application keeps parameters, and is busy for two polls with each request. -/
def parameterMemory : Application (UInt16 → UInt8 → List UInt8) where
  perform m r :=
    if r.read then (m, .data ((m r.index r.subindex).take DEVICE_DATA_MAX) (List.length_take_le _ _))
    else (fun i j => if i = r.index ∧ j = r.subindex then r.payload else m i j, .done)
  busyFor _ _ := 2
  maxBusy := 2
  pdIn _ := [0]
  pdValid _ := true
  page _ _ := 0
  events _ := List.replicate EVENT_MEMORY_LEN 0
  eventFlag _ := false
  confirm m := m
  busy_le _ _ := Nat.le_refl 2
  length_events _ := List.length_replicate

/-- A port in OPERATE and a device with empty parameters. -/
def restingSystem : System (UInt16 → UInt8 → List UInt8) where
  world := ⟨{ zeroPort .full (.bare .type2_1 1 1) with state := .operate }, []⟩
  device := ⟨fun _ _ => [], [], 0, []⟩
  wire := []

theorem patience_parameterMemory :
  parameterMemory.patience = 481
  := rfl

theorem atRest_restingSystem :
  AtRest .reference (.bare .type2_1 1 1) restingSystem fun _ _ => []
  := by
  refine ⟨⟨[], ⟨?_, rfl, rfl, .silent, fun _ => rfl⟩, rfl, rfl⟩, ⟨rfl, rfl, rfl, rfl⟩, rfl⟩
  constructor <;> rfl

/-- Two parameters are written and read back. -/
theorem remote_calls_read :
  ∃ s, Refinement.attempts (System.visit .reference parameterMemory (.bare .type2_1 1 1) 500)
      restingSystem
      [(3, .write 0x0018 0 [0x50, 0x31]), (0, .write 0x0040 1 [7]), (1, .read 0x0018 0),
        (2, .read 0x0040 1), (0, .write 0x0040 1 (List.replicate 250 0))]
    = some (s, [.done, .done, .data [0x50, 0x31], .data [7],
        .refused ISDU_ERR_BUFFER_TOO_SMALL])
  := by
  have hspec : (Refinement.answers parameterMemory.serve (fun _ _ => [])
      [.write 0x0018 0 [0x50, 0x31], .write 0x0040 1 [7], .read 0x0018 0, .read 0x0040 1,
        .write 0x0040 1 (List.replicate 250 0)]).2
      = [.done, .done, .data [0x50, 0x31], .data [7], .refused ISDU_ERR_BUFFER_TOO_SMALL] := by
    decide +kernel
  have hfuel : parameterMemory.patience < 500 := by
    rw [patience_parameterMemory]
    omega
  obtain ⟨s, hanswers, -⟩ := remote_calls (A := parameterMemory) Iolinki.lawful_reference
    (by decide) (fun _ => rfl) hfuel atRest_restingSystem
    [(3, .write 0x0018 0 [0x50, 0x31]), (0, .write 0x0040 1 [7]), (1, .read 0x0018 0),
      (2, .read 0x0040 1), (0, .write 0x0040 1 (List.replicate 250 0))]
  rw [← hspec]
  exact ⟨s, hanswers⟩

end IolinkMaster
