import IolinkMaster.Response

/-!
# The length of a response payload

The octets between the header and CHKPDU of a positive response are counted by a subtraction in
16 bits that nothing guards.  Here the receive side also notes each state in which it decodes the
response; in none of them does the subtraction wrap, for any stream of octets.
-/

namespace IolinkMaster

/-! ### Noting where the response is decoded -/

/-- `isduCheckComplete` with the state in which it decodes the response, if it does. -/
def isduCheckCompleteNoting (s : IsduState) : (IsduState × Bool) × Option IsduState :=
  if s.response.length ≥ s.expectedLen then ((isduDecodeResponse s, true), some s)
  else ((s, false), none)

/-- `isduCollect` with the state in which it decodes the response, if it does. -/
def isduCollectNoting (s : IsduState) (byte : UInt8) : (IsduState × Bool) × Option IsduState :=
  if s.response.length ≥ ISDU_BUFFER_SIZE then ((isduSegmentationError s, true), none)
  else
    let s := { s with response := s.response ++ [byte] }
    if s.expectedLen = 0 then
      let lenNibble := s.firstOctet &&& 0x0F
      if lenNibble ≥ 2 then isduCheckCompleteNoting { s with expectedLen := lenNibble.toNat }
      else if lenNibble = 1 then
        if s.response.length < 2 then ((s, false), none)
        else isduCheckCompleteNoting { s with expectedLen := (s.response.getD 1 0).toNat }
      else ((isduSegmentationError s, true), none)
    else isduCheckCompleteNoting s

/-- `isduOnOctet` with the state in which it decodes the response, if it does. -/
def isduOnOctetNoting (s : IsduState) (byte : UInt8) : (IsduState × Bool) × Option IsduState :=
  if s.phase = .wait then
    if byte = 0x00 ∨ byte = 0x01 then ((s, false), none)
    else isduCollectNoting (isduBeginResponse s) byte
  else isduCollectNoting s byte

/-- The states in which `isdu_decode_response` is called while `chunks` are delivered to
`isdu_on_od` one after the other. -/
def decodedStates (s : IsduState) (chunks : List (List UInt8)) : List IsduState :=
  (Scan.chunksNoting isduOnOctetNoting isduReceiving s chunks).2

/-- Taking notes changes nothing of what the transport does. -/
theorem isduCheckCompleteNoting_fst (s : IsduState) :
  (isduCheckCompleteNoting s).1 = isduCheckComplete s
  := by
  simp only [isduCheckCompleteNoting, isduCheckComplete]
  split <;> rfl

theorem isduCollectNoting_fst (s : IsduState) (byte : UInt8) :
  (isduCollectNoting s byte).1 = isduCollect s byte
  := by
  simp only [isduCollectNoting, isduCollect]
  repeat' split
  all_goals first
    | rfl
    | apply isduCheckCompleteNoting_fst

theorem isduOnOctetNoting_fst (s : IsduState) (byte : UInt8) :
  (isduOnOctetNoting s byte).1 = isduOnOctet s byte
  := by
  simp only [isduOnOctetNoting, isduOnOctet]
  repeat' split
  · rfl
  · apply isduCollectNoting_fst
  · apply isduCollectNoting_fst

theorem isduOnOctetNoting_stops :
  Scan.Stops (fun s byte => (isduOnOctetNoting s byte).1) isduReceiving
  := by
  intro s byte h
  simp only [isduOnOctetNoting_fst]
  apply isduOnOctet_stops s byte h

/-- Delivering chunks with notes is delivering them. -/
theorem chunksNoting_isduOnOd (s : IsduState) (chunks : List (List UInt8)) :
  (Scan.chunksNoting isduOnOctetNoting isduReceiving s chunks).1 = chunks.foldl isduOnOd s
  := by
  have herase : (fun s byte => (isduOnOctetNoting s byte).1) = isduOnOctet := by
    funext s byte
    apply isduOnOctetNoting_fst
  rw [Scan.chunksNoting_flatten isduOnOctetNoting_stops, Scan.noting_fst, herase,
    foldl_isduOnOd]
  rfl

/-- Every noted state is one that `isduDecodeResponse` decodes. -/
theorem isduCheckCompleteNoting_decodes (s : IsduState) :
  ∀ t ∈ (isduCheckCompleteNoting s).2, (isduCheckCompleteNoting s).1 = (isduDecodeResponse t, true)
  := by
  intro t
  simp only [isduCheckCompleteNoting]
  split
  · intro h
    obtain rfl := Option.mem_some_iff.mp h
    rfl
  · intro h
    contradiction

theorem isduCollectNoting_decodes (s : IsduState) (byte : UInt8) :
  ∀ t ∈ (isduCollectNoting s byte).2, (isduCollectNoting s byte).1 = (isduDecodeResponse t, true)
  := by
  intro t
  simp only [isduCollectNoting]
  repeat' split
  all_goals first
    | apply isduCheckCompleteNoting_decodes
    | intro h
      contradiction

theorem isduOnOctetNoting_decodes {s t : IsduState} {byte : UInt8}
    (h : t ∈ (isduOnOctetNoting s byte).2) :
  isduOnOctet s byte = (isduDecodeResponse t, true)
  := by
  rw [← isduOnOctetNoting_fst]
  revert t h
  simp only [isduOnOctetNoting]
  repeat' split
  · intro t h
    contradiction
  · apply isduCollectNoting_decodes
  · apply isduCollectNoting_decodes

/-! ### The branches of the decoder -/

/-- `payload_start` of the response in `s`. -/
def payloadStart (s : IsduState) : Nat := if s.firstOctet &&& 0x0F = 0x01 then 2 else 1

/-- `payload_len` of the response in `s`, as the 16-bit difference the code computes. -/
def payloadLen (s : IsduState) : Nat :=
  (s.response.length + 65536 - payloadStart s - ISDU_CHKPDU_LEN) % 65536

/-- The I-Service of the response in `s` is a negative one. -/
def NegativeService (s : IsduState) : Prop :=
  s.firstOctet >>> ISDU_SERVICE_SHIFT = 0x4 ∨ s.firstOctet >>> ISDU_SERVICE_SHIFT = 0xC

/-- Decoding the response in `s` reaches the branch of a positive response. -/
def ReachesPositive (s : IsduState) : Prop := isduChkpdu s.response = 0 ∧ ¬ NegativeService s

/-- Decoding the response in `s` reads ErrorType. -/
def ReadsErrorType (s : IsduState) : Prop :=
  isduChkpdu s.response = 0 ∧ NegativeService s ∧ s.response.length ≥ 4

instance (s : IsduState) : Decidable (NegativeService s) := inferInstanceAs (Decidable (_ ∨ _))

instance (s : IsduState) : Decidable (ReachesPositive s) := inferInstanceAs (Decidable (_ ∧ _))

/-- The branch of a positive response moves the payload to the front. -/
theorem isduDecodeResponse_reachesPositive {s : IsduState} (h : ReachesPositive s) :
  isduDecodeResponse s
    = { s with
        response := (s.response.drop (payloadStart s)).take (payloadLen s)
        done := true
        idlePending := true
        phase := .none }
  := by
  rw [isduDecodeResponse, if_neg (not_not.mpr h.1)]
  apply if_neg h.2

/-- The branch of a negative response takes ErrorType from octets 1 and 2. -/
theorem isduDecodeResponse_readsErrorType {s : IsduState} (h : ReadsErrorType s) :
  isduDecodeResponse s
    = { s with
        error := ((s.response.getD 1 0).toUInt16 <<< 8) ||| (s.response.getD 2 0).toUInt16
        done := true
        idlePending := true
        phase := .none }
  := by
  have hnegative : s.firstOctet >>> ISDU_SERVICE_SHIFT = 0x4 ∨
      s.firstOctet >>> ISDU_SERVICE_SHIFT = 0xC := h.2.1
  simp only [isduDecodeResponse, h.1, hnegative, h.2.2, ne_eq, not_true_eq_false, if_false,
    if_true]

/-- Decoding the response in `s`, the octets `stream` having been received, stays inside them. -/
structure DecodesInside (stream : List UInt8) (s : IsduState) : Prop where
  received : s.response <+: stream
  fits : s.response.length ≤ ISDU_BUFFER_SIZE
  /-- The payload the decoder takes starts and ends where the next fields say. -/
  taken : ReachesPositive s → isduDecodeResponse s
    = { s with
        response := (s.response.drop (payloadStart s)).take (payloadLen s)
        done := true
        idlePending := true
        phase := .none }
  /-- The subtraction that gives the length of the payload does not wrap. -/
  payload : ReachesPositive s → payloadStart s + ISDU_CHKPDU_LEN ≤ s.response.length ∧
    payloadLen s = s.response.length - payloadStart s - ISDU_CHKPDU_LEN ∧
    payloadLen s < s.response.length
  /-- The octets the payload is moved from are in the buffer. -/
  moved : ReachesPositive s → payloadStart s + payloadLen s ≤ ISDU_BUFFER_SIZE
  /-- ErrorType is made of received octets. -/
  errorType : ReadsErrorType s → ∃ code additional,
    stream[1]? = some code ∧ stream[2]? = some additional ∧
      (isduDecodeResponse s).error = (code.toUInt16 <<< (8 : UInt16)) ||| additional.toUInt16

/-! ### The invariant of the receiver -/

/-- What holds of a receiver that has yet to see `rest`, `stream` being the octets of the whole
response. -/
inductive Receiving (stream : List UInt8) : IsduState → List UInt8 → Prop where
  /-- Only idle octets have been received. -/
  | waiting {s : IsduState} {rest : List UInt8} (phase : s.phase = .wait)
      (octets : responseOctets rest = stream) : Receiving stream s rest
  /-- The first octet announces ExtLength; it is not the idle octet that would do so too. -/
  | extended {s : IsduState} {rest : List UInt8} {head : UInt8} (phase : s.phase = .response)
      (response : s.response = [head]) (octets : head :: rest = stream)
      (undeclared : s.expectedLen = 0) (ext : head &&& 0x0F = 0x01) (busy : head ≠ 0x01) :
      Receiving stream s rest
  /-- The length is declared and not reached; header and CHKPDU are part of it. -/
  | declared {s : IsduState} {rest : List UInt8} (phase : s.phase = .response)
      (octets : s.response ++ rest = stream) (started : 1 ≤ s.response.length)
      (short : s.response.length < s.expectedLen)
      (covers : payloadStart s + ISDU_CHKPDU_LEN ≤ s.expectedLen)
      (bound : s.expectedLen < ISDU_BUFFER_SIZE) : Receiving stream s rest
  /-- The response is complete. -/
  | ended {s : IsduState} {rest : List UInt8} (phase : s.phase = .none) : Receiving stream s rest

/-- A response whose header and CHKPDU have been received is decoded inside what was received. -/
theorem DecodesInside.of_covers {stream rest : List UInt8} {s : IsduState}
    (hoctets : s.response ++ rest = stream) (hfits : s.response.length ≤ ISDU_BUFFER_SIZE)
    (hcovers : ReachesPositive s → payloadStart s + ISDU_CHKPDU_LEN ≤ s.response.length) :
  DecodesInside stream s
  := by
  have hlen : ReachesPositive s →
      payloadLen s = s.response.length - payloadStart s - ISDU_CHKPDU_LEN := by
    intro h
    have hle := hcovers h
    simp only [ISDU_BUFFER_SIZE] at hfits
    simp only [payloadLen, ISDU_CHKPDU_LEN] at hle ⊢
    omega
  constructor
  · use rest
  · apply hfits
  · apply isduDecodeResponse_reachesPositive
  · intro h
    have hle := hcovers h
    refine ⟨hle, hlen h, ?_⟩
    rw [hlen h]
    simp only [ISDU_CHKPDU_LEN] at hle ⊢
    omega
  · intro h
    have hle := hcovers h
    rw [hlen h]
    omega
  · intro h
    have hlong := h.2.2
    use s.response.getD 1 0, s.response.getD 2 0
    refine ⟨?_, ?_, by rw [isduDecodeResponse_readsErrorType h]⟩
    · rw [← hoctets, List.getElem?_append_left (by omega), List.getD_eq_getElem?_getD,
        List.getElem?_eq_getElem (by omega), Option.getD_some]
    · rw [← hoctets, List.getElem?_append_left (by omega), List.getD_eq_getElem?_getD,
        List.getElem?_eq_getElem (by omega), Option.getD_some]

/-- The receiver keeps its invariant by the step `r`, and what `r` notes is decoded inside the
response. -/
def Keeps (stream rest : List UInt8) (r : (IsduState × Bool) × Option IsduState) : Prop :=
  Receiving stream r.1.1 rest ∧ ∀ t ∈ r.2, DecodesInside stream t

/-- Comparing with a declared length that covers header and CHKPDU of a positive response. -/
theorem keeps_checkComplete {stream rest : List UInt8} {s : IsduState}
    (hphase : s.phase = .response) (hoctets : s.response ++ rest = stream)
    (hstarted : 1 ≤ s.response.length) (hfits : s.response.length ≤ ISDU_BUFFER_SIZE)
    (hshort : s.response.length < s.expectedLen →
      payloadStart s + ISDU_CHKPDU_LEN ≤ s.expectedLen)
    (hcovers : s.expectedLen ≤ s.response.length → ReachesPositive s →
      payloadStart s + ISDU_CHKPDU_LEN ≤ s.response.length)
    (hbound : s.expectedLen < ISDU_BUFFER_SIZE) :
  Keeps stream rest (isduCheckCompleteNoting s)
  := by
  simp only [Keeps, isduCheckCompleteNoting]
  split
  · next hfull =>
    constructor
    · apply Receiving.ended (length_decodeResponse s).2
    · intro t ht
      obtain rfl := Option.mem_some_iff.mp ht
      apply DecodesInside.of_covers hoctets hfits (hcovers hfull)
  · next hopen =>
    rw [ge_iff_le, not_le] at hopen
    constructor
    · apply Receiving.declared hphase hoctets hstarted hopen (hshort hopen) hbound
    · intro t ht
      contradiction

/-- An error in the middle of the response ends it. -/
theorem keeps_segmentationError (stream rest : List UInt8) (s : IsduState) :
  Keeps stream rest ((isduSegmentationError s, true), none)
  := by
  constructor
  · apply Receiving.ended rfl
  · intro t ht
    contradiction

/-- The octet that two octets with the XOR zero have in common. -/
theorem eq_of_isduChkpdu_pair {a b : UInt8} (h : isduChkpdu [a, b] = 0) :
  a = b
  := by
  simpa [isduChkpdu, UInt8.xor_eq_zero_iff] using h

/-- A length in ExtLength that does not cover header and CHKPDU belongs to no positive response:
with the XOR zero both octets would be the idle octet 0x01. -/
theorem three_le_of_extended {head ext : UInt8} (hext : head &&& 0x0F = 0x01)
    (hbusy : head ≠ 0x01) (hchk : isduChkpdu [head, ext] = 0) :
  3 ≤ ext.toNat
  := by
  obtain rfl := eq_of_isduChkpdu_pair hchk
  by_contra hsmall
  rw [not_le] at hsmall
  have hcases : head.toNat = 0 ∨ head.toNat = 1 ∨ head.toNat = 2 := by omega
  rcases hcases with h | h | h
  · obtain rfl : head = 0 := UInt8.toNat_inj.mp h
    contradiction
  · obtain rfl : head = 1 := UInt8.toNat_inj.mp h
    contradiction
  · obtain rfl : head = 2 := UInt8.toNat_inj.mp h
    contradiction

/-- The first octet of a response. -/
theorem keeps_first {stream rest : List UInt8} {s : IsduState} {head : UInt8}
    (hbusy : head ≠ 0x01) (hoctets : head :: rest = stream) :
  Keeps stream rest (isduCollectNoting (isduBeginResponse s) head)
  := by
  have hsmall : ¬ ([] : List UInt8).length ≥ ISDU_BUFFER_SIZE := by decide
  simp only [isduCollectNoting, isduBeginResponse, hsmall, if_false, List.nil_append, if_true,
    IsduState.firstOctet, List.getD_cons_zero, List.length_singleton, Nat.one_lt_ofNat]
  split
  · next hnibble =>
    have hle : 2 ≤ (head &&& 0x0F).toNat := UInt8.le_iff_toNat_le.mp hnibble
    have hlt : (head &&& 0x0F).toNat < ISDU_BUFFER_SIZE := (head &&& 0x0F).toNat_lt
    have hne : head &&& 0x0F ≠ 0x01 := by
      intro h
      rw [h] at hle
      contradiction
    apply keeps_checkComplete
    · rfl
    · apply hoctets
    · apply Nat.le_refl
    · simp [ISDU_BUFFER_SIZE]
    · intro hshort
      simp only [payloadStart, IsduState.firstOctet, List.getD_cons_zero, hne, if_false]
      apply hle
    · intro hfull
      exact absurd (hle.trans hfull) (Nat.not_succ_le_self 1)
    · apply hlt
  · split
    · next hext =>
      constructor
      · apply Receiving.extended rfl rfl hoctets rfl hext hbusy
      · intro t ht
        contradiction
    · apply keeps_segmentationError

/-- The ExtLength octet. -/
theorem keeps_extLength {stream rest : List UInt8} {s : IsduState} {head ext : UInt8}
    (hphase : s.phase = .response) (hresponse : s.response = [head])
    (hoctets : head :: ext :: rest = stream) (hundeclared : s.expectedLen = 0)
    (hext : head &&& 0x0F = 0x01) (hbusy : head ≠ 0x01) :
  Keeps stream rest (isduCollectNoting s ext)
  := by
  have hsmall : ¬ 1 ≥ ISDU_BUFFER_SIZE := by decide
  have hlong : ¬ (1 : UInt8) ≥ 2 := by decide
  simp only [isduCollectNoting, hresponse, hsmall, if_false, hundeclared, if_true,
    IsduState.firstOctet, List.singleton_append, List.getD_cons_zero, List.getD_cons_succ, hext,
    hlong, List.length_cons, List.length_nil, Nat.zero_add, Nat.reduceAdd, Nat.lt_irrefl]
  apply keeps_checkComplete
  · apply hphase
  · apply hoctets
  · simp
  · simp [ISDU_BUFFER_SIZE]
  · intro hshort
    simp only [payloadStart, IsduState.firstOctet, List.getD_cons_zero, hext, if_true]
    apply hshort
  · intro hfull hpositive
    have hthree := three_le_of_extended hext hbusy hpositive.1
    have hle : ext.toNat ≤ 2 := hfull
    omega
  · apply ext.toNat_lt

/-- An octet after the length is declared. -/
theorem keeps_next {stream rest : List UInt8} {s : IsduState} {byte : UInt8}
    (hphase : s.phase = .response) (hoctets : s.response ++ byte :: rest = stream)
    (hstarted : 1 ≤ s.response.length) (hshort : s.response.length < s.expectedLen)
    (hcovers : payloadStart s + ISDU_CHKPDU_LEN ≤ s.expectedLen)
    (hbound : s.expectedLen < ISDU_BUFFER_SIZE) :
  Keeps stream rest (isduCollectNoting s byte)
  := by
  have hsmall : ¬ s.response.length ≥ ISDU_BUFFER_SIZE := by omega
  have hdeclared : ¬ s.expectedLen = 0 := by omega
  have hstart : payloadStart { s with response := s.response ++ [byte] } = payloadStart s := by
    have hne : s.response ≠ [] := List.length_pos_iff.mp hstarted
    have hfirst : { s with response := s.response ++ [byte] }.firstOctet = s.firstOctet :=
      getD_append_zero hne [byte]
    simp only [payloadStart, hfirst]
  simp only [isduCollectNoting, hsmall, hdeclared, if_false]
  apply keeps_checkComplete
  · apply hphase
  · rw [List.append_assoc]
    apply hoctets
  · simp
  · simp only [List.length_append, List.length_singleton]
    omega
  · intro hopen
    rwa [hstart]
  · intro hfull hpositive
    rw [hstart]
    apply hcovers.trans hfull
  · apply hbound

/-- Every octet keeps the invariant. -/
theorem keeps_onOctet {stream rest : List UInt8} {s : IsduState} {byte : UInt8}
    (hrecv : isduReceiving s = true) (hs : Receiving stream s (byte :: rest)) :
  Keeps stream rest (isduOnOctetNoting s byte)
  := by
  cases hs with
  | waiting hphase hoctets =>
      rw [isduOnOctetNoting, if_pos hphase]
      split
      · next hidle =>
        constructor
        · apply Receiving.waiting hphase
          rw [← hoctets, responseOctets, responseOctets, List.dropWhile_cons_of_pos]
          simpa [isduIdleOctet] using hidle
        · intro t ht
          contradiction
      · next hidle =>
        rw [not_or] at hidle
        apply keeps_first hidle.2
        rw [← hoctets, responseOctets, List.dropWhile_cons_of_neg]
        simpa [isduIdleOctet] using hidle
  | extended hphase hresponse hoctets hundeclared hext hbusy =>
      rw [isduOnOctetNoting, if_neg (by simp [hphase])]
      apply keeps_extLength hphase hresponse hoctets hundeclared hext hbusy
  | declared hphase hoctets hstarted hshort hcovers hbound =>
      rw [isduOnOctetNoting, if_neg (by simp [hphase])]
      apply keeps_next hphase hoctets hstarted hshort hcovers hbound
  | ended hphase =>
      simp [isduReceiving, hphase] at hrecv

/-- However a stream of octets is cut into on-request data and whatever it contains, a service that
waits for its response decodes only responses in which the length of the payload does not wrap,
the payload lies inside what was received and inside the buffer, and ErrorType is made of received
octets; the first octet that is not idle is the first of the response.  The states noted are those
the receiver decodes. -/
theorem payload_length_sound (s : IsduState) (chunks : List (List UInt8))
    (hwait : s.phase = .wait) :
  (Scan.chunksNoting isduOnOctetNoting isduReceiving s chunks).1 = chunks.foldl isduOnOd s ∧
    (∀ u byte, ∀ t ∈ (isduOnOctetNoting u byte).2,
      isduOnOctet u byte = (isduDecodeResponse t, true)) ∧
    ∀ t ∈ decodedStates s chunks, DecodesInside (responseOctets chunks.flatten) t
  := by
  refine ⟨?_, ?_, ?_⟩
  · apply chunksNoting_isduOnOd
  · intro u byte t ht
    apply isduOnOctetNoting_decodes ht
  · rw [decodedStates, Scan.chunksNoting_flatten isduOnOctetNoting_stops]
    have hkeeps : ∀ (s : IsduState) (byte : UInt8) (rest : List UInt8), isduReceiving s = true →
        Receiving (responseOctets chunks.flatten) s (byte :: rest) →
        Keeps (responseOctets chunks.flatten) rest (isduOnOctetNoting s byte) := by
      intro s byte rest hrecv hs
      apply keeps_onOctet hrecv hs
    apply Scan.noting_spec isduOnOctetNoting_stops hkeeps
    apply Receiving.waiting hwait rfl

/-- A positive response of a single octet of data, cut after its first octet. -/
theorem payload_length_sound_short :
  (decodedStates waitingPort.isdu [[0x01, 0xD3], [0x41, 0x92, 0x00]]).length = 1 ∧
    ∀ t ∈ decodedStates waitingPort.isdu [[0x01, 0xD3], [0x41, 0x92, 0x00]],
      payloadLen t = t.response.length - payloadStart t - ISDU_CHKPDU_LEN
  := by
  have hpositive : ∀ t ∈ decodedStates waitingPort.isdu [[0x01, 0xD3], [0x41, 0x92, 0x00]],
      ReachesPositive t := by
    decide +kernel
  refine ⟨by decide +kernel, ?_⟩
  intro t ht
  have hinside := (payload_length_sound waitingPort.isdu [[0x01, 0xD3], [0x41, 0x92, 0x00]]
    rfl).2.2 t ht
  apply (hinside.payload (hpositive t ht)).2.1

end IolinkMaster
