import Mathlib.Tactic.IntervalCases
import IolinkMaster.Isdu

/-!
# Reassembly of ISDU responses

The receive side of the transport as a scan over an octet stream: how the stream is
cut into on-request data does not matter, and a conformant Read Response is handed to
the caller of `read_isdu` octet for octet.
-/

namespace IolinkMaster

/-! ### Independence of chunking -/

/-- Comparing with the declared length returns exactly when it completes the service. -/
theorem isduCheckComplete_stops {s : IsduState} (h : isduReceiving s = true) :
  isduReceiving (isduCheckComplete s).1 = !(isduCheckComplete s).2
  := by
  by_cases hc : s.response.length ≥ s.expectedLen
  · simp only [isduCheckComplete, hc, if_true, isduDecodeResponse]
    repeat' split
    all_goals simp [isduReceiving]
  · simp [isduCheckComplete, hc, h]

/-- Collecting an octet returns exactly when it completes the service. -/
theorem isduCollect_stops {s : IsduState} (byte : UInt8) (h : isduReceiving s = true) :
  isduReceiving (isduCollect s byte).1 = !(isduCollect s byte).2
  := by
  have hr : ∀ (response : List UInt8) (expected : Nat),
      isduReceiving { s with response := response, expectedLen := expected } = true := by
    intro response expected
    apply h
  have herror : ∀ t : IsduState, isduReceiving (isduSegmentationError t) = !true := by
    intro t
    simp [isduSegmentationError, isduReceiving]
  simp only [isduCollect]
  split
  · apply herror
  · split
    · split
      · apply isduCheckComplete_stops (hr _ _)
      · split
        · split
          · apply hr
          · apply isduCheckComplete_stops (hr _ _)
        · apply herror
    · apply isduCheckComplete_stops (hr _ s.expectedLen)

/-- The receiver stops exactly by leaving the phases in which it takes octets. -/
theorem isduOnOctet_stops :
  Scan.Stops isduOnOctet isduReceiving
  := by
  intro s byte h
  simp only [isduOnOctet]
  split
  · split
    · apply h
    · apply isduCollect_stops
      simp only [isduReceiving, isduBeginResponse, Bool.not_or, Bool.and_eq_true,
        Bool.not_eq_true'] at h ⊢
      simp [h.1.1]
  · apply isduCollect_stops byte h

/-- Delivering two pieces of on-request data one after the other is delivering their
concatenation. -/
theorem isduOnOd_append (s : IsduState) (xs ys : List UInt8) :
  isduOnOd s (xs ++ ys) = isduOnOd (isduOnOd s xs) ys
  := Scan.guarded_append isduOnOctet_stops s xs ys

/-- Delivering on-request data piece by piece is delivering all of it at once. -/
theorem foldl_isduOnOd (s : IsduState) (chunks : List (List UInt8)) :
  chunks.foldl isduOnOd s = isduOnOd s chunks.flatten
  := Scan.foldl_guarded isduOnOctet_stops s chunks

/-! ### Octet by octet -/

@[simp]
theorem isduOnOd_nil (s : IsduState) :
  isduOnOd s [] = s
  := Scan.guarded_nil s

/-- A service that receives nothing ignores on-request data. -/
theorem isduOnOd_of_not_receiving {s : IsduState} (od : List UInt8)
    (h : isduReceiving s = false) :
  isduOnOd s od = s
  := Scan.guarded_inactive od h

theorem isduOnOd_cons {s : IsduState} (byte : UInt8) (od : List UInt8)
    (h : isduReceiving s = true) :
  isduOnOd s (byte :: od) = isduOnOd (isduOnOctet s byte).1 od
  := Scan.guarded_cons isduOnOctet_stops byte od h

/-- "No service" and "busy" octets leave a waiting service alone. -/
theorem isduOnOd_idle {s : IsduState} {od : List UInt8} (hs : s.phase = .wait)
    (hod : ∀ b ∈ od, b = 0x00 ∨ b = 0x01) :
  isduOnOd s od = s
  := by
  cases h : isduReceiving s with
  | false => apply isduOnOd_of_not_receiving od h
  | true =>
      induction od with
      | nil => simp
      | cons b od ih =>
          rw [isduOnOd_cons b od h]
          have hb : (isduOnOctet s b).1 = s := by
            simp [isduOnOctet, hs, hod b (List.mem_cons_self)]
          rw [hb]
          apply ih
          intro c hc
          apply hod c (List.mem_cons_of_mem b hc)

/-- Collecting an octet once the length is declared. -/
theorem isduCollect_declared {s : IsduState} (byte : UInt8)
    (hn : s.expectedLen ≠ 0) (hlt : s.response.length < s.expectedLen)
    (hbuf : s.expectedLen ≤ ISDU_BUFFER_SIZE) :
  isduCollect s byte = isduCheckComplete { s with response := s.response ++ [byte] }
  := by
  have hlen : ¬ s.response.length ≥ ISDU_BUFFER_SIZE := by omega
  simp [isduCollect, hlen, hn]

/-- Once the length is declared, the octets up to it complete the response. -/
theorem isduOnOd_body {s : IsduState} {xs : List UInt8} (hr : isduReceiving s = true)
    (hp : s.phase = .response) (hlt : s.response.length < s.expectedLen)
    (hbuf : s.expectedLen ≤ ISDU_BUFFER_SIZE)
    (hlen : s.response.length + xs.length = s.expectedLen) :
  isduOnOd s xs = isduDecodeResponse { s with response := s.response ++ xs }
  := by
  induction xs generalizing s with
  | nil =>
      rw [List.length_nil] at hlen
      omega
  | cons b xs ih =>
      have hstep : isduOnOctet s b = isduCheckComplete { s with response := s.response ++ [b] } := by
        rw [isduOnOctet, if_neg (by simp [hp]), isduCollect_declared b (by omega) hlt hbuf]
      rw [List.length_cons] at hlen
      rw [isduOnOd_cons b xs hr, hstep]
      cases xs with
      | nil =>
          rw [List.length_nil] at hlen
          have hc : s.response.length + 1 ≥ s.expectedLen := by omega
          simp [isduCheckComplete, hc]
      | cons c xs =>
          rw [List.length_cons] at hlen
          have hc : ¬ s.response.length + 1 ≥ s.expectedLen := by omega
          simp only [isduCheckComplete, List.length_append, List.length_cons, List.length_nil,
            Nat.zero_add, hc, if_false]
          rw [ih]
          · simp
          · apply hr
          · apply hp
          · simp only [List.length_append, List.length_cons, List.length_nil]
            omega
          · apply hbuf
          · simp only [List.length_append, List.length_cons, List.length_nil]
            omega

/-- The first octet of a response starts its collection. -/
theorem isduOnOctet_first {s : IsduState} {b : UInt8} (hs : s.phase = .wait)
    (h0 : b ≠ 0x00) (h1 : b ≠ 0x01) :
  isduOnOctet s b = isduCollect (isduBeginResponse s) b
  := by
  simp [isduOnOctet, hs, h0, h1]

/-! ### Conformant responses -/

/-- The response octets of a payload before CHKPDU: I-Service and Length, ExtLength
when the total exceeds 15 octets, and the payload. -/
def readResponseBody (payload : List UInt8) : List UInt8 :=
  if payload.length + 2 ≤ 15 then (0xD0 ||| UInt8.ofNat (payload.length + 2)) :: payload
  else 0xD1 :: UInt8.ofNat (payload.length + 3) :: payload

/-- The conformant positive Read Response of a payload. -/
def readResponse (payload : List UInt8) : List UInt8 :=
  readResponseBody payload ++ [isduChkpdu (readResponseBody payload)]

/-- CHKPDU makes the XOR of the whole stream zero. -/
theorem isduChkpdu_append_self (xs : List UInt8) :
  isduChkpdu (xs ++ [isduChkpdu xs]) = 0
  := by
  simp [isduChkpdu, List.foldl_append]

theorem readResponse_chkpdu (payload : List UInt8) :
  isduChkpdu (readResponse payload) = 0
  := isduChkpdu_append_self _

/-- A read of `index` and `subindex` waits for its response. -/
structure AwaitsRead (s : IsduState) (index : UInt16) (subindex : UInt8) : Prop where
  op : s.op = .read
  index : s.index = index
  subindex : s.subindex = subindex
  phase : s.phase = .wait
  notDone : s.done = false
  noError : s.error = ISDU_ERROR_NONE

/-- A read of `index` and `subindex` is complete with the data `payload`. -/
structure CompletedRead (s : IsduState) (index : UInt16) (subindex : UInt8)
    (payload : List UInt8) : Prop where
  op : s.op = .read
  index : s.index = index
  subindex : s.subindex = subindex
  done : s.done = true
  noError : s.error = ISDU_ERROR_NONE
  response : s.response = payload

/-- The Length nibble of a directly coded response. -/
theorem directHead_nibble {n : Nat} (h : n ≤ 15) :
  (0xD0 ||| UInt8.ofNat n) &&& 0x0F = UInt8.ofNat n
  := by
  interval_cases n <;> rfl

/-- The I-Service nibble of a directly coded response. -/
theorem directHead_service {n : Nat} (h : n ≤ 15) :
  (0xD0 ||| UInt8.ofNat n) >>> ISDU_SERVICE_SHIFT = (0xD : UInt8)
  := by
  interval_cases n <;> rfl

/-- A complete positive response is compacted to its data octets. -/
theorem isduDecodeResponse_positive {s : IsduState} (header payload : List UInt8) {chk : UInt8}
    (hresp : s.response = header ++ payload ++ [chk]) (hchk : isduChkpdu s.response = 0)
    (hservice : s.firstOctet >>> ISDU_SERVICE_SHIFT = 0xD)
    (hstart : header.length = if s.firstOctet &&& 0x0F = 0x01 then 2 else 1)
    (hlen : payload.length < 65536) :
  isduDecodeResponse s
    = { s with response := payload, done := true, idlePending := true, phase := .none }
  := by
  have htotal : (s.response.length + 65536 - header.length - ISDU_CHKPDU_LEN) % 65536
      = payload.length := by
    simp only [hresp, List.length_append, List.length_cons, List.length_nil, ISDU_CHKPDU_LEN]
    omega
  simp only [isduDecodeResponse, hchk, ne_eq, not_true_eq_false, if_false, hservice, ← hstart,
    htotal]
  rw [if_neg (by decide)]
  simp [hresp]

/-- The state after the first octet of a response. -/
def responseStarted (s : IsduState) (b : UInt8) : IsduState :=
  { isduBeginResponse s with response := [b] }

/-- A directly coded first octet declares the length. -/
theorem isduOnOctet_direct {s : IsduState} {b : UInt8} (hs : s.phase = .wait)
    (h : (b &&& 0x0F).toNat ≥ 2) :
  isduOnOctet s b
    = ({ responseStarted s b with expectedLen := (b &&& 0x0F).toNat }, false)
  := by
  have h0 : b ≠ 0x00 := by
    rintro rfl
    contradiction
  have h1 : b ≠ 0x01 := by
    rintro rfl
    contradiction
  have hnib : b &&& 0x0F ≥ 2 := UInt8.le_iff_toNat_le.mpr h
  have hshort : ¬ 1 ≥ (b &&& 0x0F).toNat := by omega
  rw [isduOnOctet_first hs h0 h1]
  simp only [isduCollect, isduBeginResponse, IsduState.firstOctet, List.nil_append,
    List.length_nil, List.length_singleton, List.getD_cons_zero, isduCheckComplete, hnib, hshort,
    responseStarted]
  simp [ISDU_BUFFER_SIZE]

/-- A first octet announcing ExtLength declares no length yet. -/
theorem isduOnOctet_extended {s : IsduState} {b : UInt8} (hs : s.phase = .wait)
    (hb : b ≠ 0x01) (h : b &&& 0x0F = 0x01) :
  isduOnOctet s b = (responseStarted s b, false)
  := by
  have h0 : b ≠ 0x00 := by
    rintro rfl
    contradiction
  rw [isduOnOctet_first hs h0 hb]
  simp [isduCollect, isduBeginResponse, IsduState.firstOctet, h, responseStarted, ISDU_BUFFER_SIZE]

/-- ExtLength declares the length. -/
theorem isduOnOctet_extLength {s : IsduState} {b ext : UInt8} (h : b &&& 0x0F = 0x01)
    (hext : ext.toNat > 2) :
  isduOnOctet (responseStarted s b) ext
    = ({ responseStarted s b with response := [b, ext], expectedLen := ext.toNat }, false)
  := by
  have hshort : ¬ 2 ≥ ext.toNat := by omega
  simp only [isduOnOctet, responseStarted, isduBeginResponse, reduceCtorEq, if_false,
    isduCollect, IsduState.firstOctet, List.cons_append, List.nil_append, List.length_cons,
    List.length_nil, List.getD_cons_zero, List.getD_cons_succ, h, isduCheckComplete, hshort]
  simp [ISDU_BUFFER_SIZE]

/-- Decoding a response ends it and does not lengthen it. -/
theorem length_decodeResponse (s : IsduState) :
  (isduDecodeResponse s).response.length ≤ s.response.length ∧
    (isduDecodeResponse s).phase = .none
  := by
  simp only [isduDecodeResponse]
  split
  · exact ⟨le_refl _, rfl⟩
  · split
    · exact ⟨le_refl _, rfl⟩
    · refine ⟨?_, rfl⟩
      rw [List.length_take, List.length_drop]
      omega

/-- The octets of a conformant response, delivered to a waiting read, complete it. -/
theorem isduOnOd_readResponse {s : IsduState} {index : UInt16} {subindex : UInt8}
    {payload : List UInt8} (hs : AwaitsRead s index subindex) (hlen : payload.length ≤ 235) :
  CompletedRead (isduOnOd s (readResponse payload)) index subindex payload
  := by
  have hrecv : isduReceiving s = true := by
    simp [isduReceiving, hs.op, hs.notDone, hs.phase]
  have hchk := readResponse_chkpdu payload
  by_cases hdirect : payload.length + 2 ≤ 15
  · -- Length is coded in the first octet.
    obtain ⟨b, hb⟩ : ∃ b : UInt8, b = 0xD0 ||| UInt8.ofNat (payload.length + 2) := ⟨_, rfl⟩
    have hnib : b &&& 0x0F = UInt8.ofNat (payload.length + 2) := by
      rw [hb]
      apply directHead_nibble hdirect
    have hsvc : b >>> ISDU_SERVICE_SHIFT = 0xD := by
      rw [hb]
      apply directHead_service hdirect
    have hn : (b &&& 0x0F).toNat = payload.length + 2 := by
      rw [hnib, UInt8.toNat_ofNat']
      omega
    have hbody : readResponse payload
        = b :: (payload ++ [isduChkpdu (readResponseBody payload)]) := by
      simp [readResponse, readResponseBody, hdirect, hb]
    have hne : b &&& 0x0F ≠ 0x01 := by
      intro h
      rw [h] at hn
      simp at hn
    rw [hbody] at hchk
    rw [hbody, isduOnOd_cons _ _ hrecv, isduOnOctet_direct hs.phase (by omega), isduOnOd_body,
      isduDecodeResponse_positive [b] payload]
    · exact ⟨hs.op, hs.index, hs.subindex, rfl, hs.noError, rfl⟩
    · rfl
    · apply hchk
    · apply hsvc
    · simp [IsduState.firstOctet, responseStarted, hne]
    · omega
    · simp [isduReceiving, responseStarted, isduBeginResponse, hs.op, hs.notDone]
    · rfl
    · simp only [responseStarted, List.length_singleton]
      omega
    · simp only [ISDU_BUFFER_SIZE]
      omega
    · simp only [responseStarted, List.length_singleton, List.length_append]
      omega
  · -- ExtLength carries the length.
    obtain ⟨ext, hext⟩ : ∃ ext, ext = UInt8.ofNat (payload.length + 3) := ⟨_, rfl⟩
    have hn : ext.toNat = payload.length + 3 := by
      rw [hext, UInt8.toNat_ofNat']
      omega
    have hbody : readResponse payload
        = 0xD1 :: ext :: (payload ++ [isduChkpdu (readResponseBody payload)]) := by
      simp [readResponse, readResponseBody, hdirect, hext]
    have hrecv' : isduReceiving (responseStarted s 0xD1) = true := by
      simp [isduReceiving, responseStarted, isduBeginResponse, hs.op, hs.notDone]
    rw [hbody] at hchk
    rw [hbody, isduOnOd_cons _ _ hrecv, isduOnOctet_extended hs.phase (by decide) (by decide),
      isduOnOd_cons _ _ hrecv', isduOnOctet_extLength (by decide) (by omega), isduOnOd_body,
      isduDecodeResponse_positive [0xD1, ext] payload]
    · exact ⟨hs.op, hs.index, hs.subindex, rfl, hs.noError, rfl⟩
    · rfl
    · apply hchk
    · show (0xD1 : UInt8) >>> ISDU_SERVICE_SHIFT = 0xD
      decide
    · show (2 : Nat) = if (0xD1 : UInt8) &&& 0x0F = 0x01 then 2 else 1
      decide
    · omega
    · simp [isduReceiving, responseStarted, isduBeginResponse, hs.op, hs.notDone]
    · rfl
    · simp only [List.length_cons, List.length_nil]
      omega
    · simp only [ISDU_BUFFER_SIZE]
      omega
    · simp only [List.length_cons, List.length_nil, List.length_append]
      omega

/-- However a stream of idle octets, a conformant response and further octets is cut
into on-request data, it completes a waiting read. -/
theorem completedRead_of_stream {s : IsduState} {index : UInt16} {subindex : UInt8}
    {payload lead trail : List UInt8} {chunks : List (List UInt8)}
    (hs : AwaitsRead s index subindex) (hlen : payload.length ≤ 235)
    (hlead : ∀ b ∈ lead, b = 0x00 ∨ b = 0x01)
    (hstream : chunks.flatten = lead ++ readResponse payload ++ trail) :
  CompletedRead (chunks.foldl isduOnOd s) index subindex payload
  := by
  have hread := isduOnOd_readResponse hs hlen
  rw [foldl_isduOnOd, hstream, isduOnOd_append, isduOnOd_append, isduOnOd_idle hs.phase hlead,
    isduOnOd_of_not_receiving]
  · apply hread
  · simp [isduReceiving, hread.done]

/-- A completed read is handed out to a caller with a large enough buffer. -/
theorem readIsdu_completed {w : World} {index : UInt16} {subindex : UInt8}
    {payload : List UInt8} {cap : UInt8} (hst : acyclicAvailable w.port.state = true)
    (hs : CompletedRead w.port.isdu index subindex payload) (hcap : payload.length ≤ cap.toNat) :
  (readIsdu w index subindex cap).2 = ⟨STATUS_OK, payload.length, payload⟩
  := by
  have hbusy : isduBusy w.port.isdu = false := by
    simp [isduBusy, hs.done]
  have hmatch : isduMatches w.port.isdu .read index subindex = true := by
    simp [isduMatches, hs.op, hs.index, hs.subindex]
  have hfit : ¬ cap.toNat < payload.length := by omega
  simp [readIsdu, hst, hbusy, hs.done, hmatch, isduFinishRead, hs.noError, hs.response, hfit]

/-- Reassembly does not depend on how the response is cut into on-request data: two
deliveries are as good as one, and a conformant Read Response, after any idle octets,
before any further octets and in any pieces, completes the waiting read without error
and is handed to the caller octet for octet. -/
theorem response_reassembly :
  (∀ (s : IsduState) (xs ys : List UInt8),
    isduOnOd s (xs ++ ys) = isduOnOd (isduOnOd s xs) ys) ∧
  ∀ (w : World) (index : UInt16) (subindex cap : UInt8) (payload lead trail : List UInt8)
    (chunks : List (List UInt8)),
    acyclicAvailable w.port.state = true → AwaitsRead w.port.isdu index subindex →
    payload.length ≤ 235 → (∀ b ∈ lead, b = 0x00 ∨ b = 0x01) →
    chunks.flatten = lead ++ readResponse payload ++ trail →
    payload.length ≤ cap.toNat →
    let s := chunks.foldl isduOnOd w.port.isdu
    s.done = true ∧ s.error = ISDU_ERROR_NONE ∧
      (readIsdu (w.put { w.port with isdu := s }) index subindex cap).2
        = ⟨STATUS_OK, payload.length, payload⟩
  := by
  constructor
  · apply isduOnOd_append
  · intro w index subindex cap payload lead trail chunks hst hs hlen hlead hstream hcap
    have hread := completedRead_of_stream hs hlen hlead hstream
    constructor
    · apply hread.done
    · constructor
      · apply hread.noError
      · apply readIsdu_completed
        · apply hst
        · apply hread
        · apply hcap

/-- A port whose read of index 0x10 waits for its response. -/
def waitingPort : PortState :=
  { zeroPort PhyApi.full (Config.bare .type0 0 0) with
    state := .preoperate
    isdu := { isduStartRead IsduState.zero 0x10 0 with phase := .wait, requestPos := 3 } }

/-- A response of two octets, cut in the middle, after a busy octet and before a
trailing one. -/
theorem response_reassembly_cut :
  (readIsdu
    ⟨{ waitingPort with
      isdu := [[0x01, 0xD4], [0x41, 0x42], [0xD7, 0x00]].foldl isduOnOd waitingPort.isdu }, []⟩
    0x10 0 16).2 = ⟨STATUS_OK, 2, [0x41, 0x42]⟩
  := (response_reassembly.2 ⟨waitingPort, []⟩ 0x10 0 16 [0x41, 0x42] [0x01] [0x00]
    [[0x01, 0xD4], [0x41, 0x42], [0xD7, 0x00]] (by decide) ⟨rfl, rfl, rfl, rfl, rfl, rfl⟩
    (by decide) (by decide +kernel) (by decide) (by decide)).2.2

end IolinkMaster
