import Mathlib.Tactic.IntervalCases
import IolinkMaster.Reassembly

/-!
# Encoding of ISDU requests

The decoder of ISDU requests, and the round trip: the octets with which `read_isdu`
and `write_isdu` start a service decode to the index, subindex and payload they were
called with.
-/

namespace IolinkMaster

/-! ### The request decoder -/

/-- What an ISDU request asks for. -/
structure IsduRequest where
  read : Bool
  index : UInt16
  subindex : UInt8
  payload : List UInt8
  deriving DecidableEq, Repr

/-- The declared length of a request and the octets after its length field. -/
def declaredLength : List UInt8 → Option (Nat × List UInt8)
  | [] => none
  | head :: rest =>
    let n := (head &&& 0x0F).toNat
    if n ≥ 2 then some (n, rest)
    else if n = 1 then
      match rest with
      | [] => none
      | ext :: rest => some (ext.toNat, rest)
    else none

/-- Direction and number of Index/Subindex octets selected by the I-Service nibble. -/
def decodeService (service : UInt8) : Option (Bool × Nat) :=
  if 1 ≤ service ∧ service ≤ 3 then some (false, service.toNat)
  else if 9 ≤ service ∧ service ≤ 11 then some (true, service.toNat - 8)
  else none

/-- Index, Subindex and the octets after them. -/
def decodeIndex : Nat → List UInt8 → Option (UInt16 × UInt8 × List UInt8)
  | 1, i :: rest => some (i.toUInt16, 0, rest)
  | 2, i :: s :: rest => some (i.toUInt16, s, rest)
  | 3, hi :: lo :: s :: rest => some ((hi.toUInt16 <<< 8) ||| lo.toUInt16, s, rest)
  | _, _ => none

/-- Decode a request: its length must be the declared one and its XOR zero. -/
def decodeRequest (octets : List UInt8) : Option IsduRequest :=
  match declaredLength octets with
  | none => none
  | some (n, rest) =>
    if n ≠ octets.length ∨ isduChkpdu octets ≠ 0 then none
    else
      match decodeService (octets.getD 0 0 >>> ISDU_SERVICE_SHIFT) with
      | none => none
      | some (read, indexLen) =>
        match decodeIndex indexLen rest.dropLast with
        | none => none
        | some (index, subindex, payload) => some ⟨read, index, subindex, payload⟩

/-- A stream whose parts decode is a request. -/
theorem decodeRequest_of_parts {octets mid payload : List UInt8} {chk : UInt8} {read : Bool}
    {indexLen : Nat} {index : UInt16} {subindex : UInt8}
    (hlen : declaredLength octets = some (octets.length, mid ++ [chk]))
    (hchk : isduChkpdu octets = 0)
    (hservice : decodeService (octets.getD 0 0 >>> ISDU_SERVICE_SHIFT) = some (read, indexLen))
    (hindex : decodeIndex indexLen mid = some (index, subindex, payload)) :
  decodeRequest octets = some ⟨read, index, subindex, payload⟩
  := by
  have hdrop : (mid ++ [chk]).dropLast = mid := List.dropLast_concat
  simp only [decodeRequest, hlen, hchk, hservice, hdrop, hindex, ne_eq, not_true_eq_false,
    or_self, if_false]

/-! ### Index formats -/

theorem isduIndexLen_pos (index : UInt16) (subindex : UInt8) :
  1 ≤ isduIndexLen index subindex
  := by
  simp only [isduIndexLen]
  repeat' split
  all_goals decide

theorem isduIndexLen_le (index : UInt16) (subindex : UInt8) :
  isduIndexLen index subindex ≤ 3
  := by
  simp only [isduIndexLen]
  repeat' split
  all_goals decide

/-- The index format has as many octets as it says. -/
@[simp]
theorem length_isduIndexOctets (index : UInt16) (subindex : UInt8) :
  (isduIndexOctets index subindex).length = isduIndexLen index subindex
  := by
  simp only [isduIndexOctets, isduIndexLen]
  by_cases hi : index ≤ 0xFF
  · by_cases hs : subindex = 0 <;> simp [hi, hs]
  · simp [hi]

/-- The low octet of a 16-bit value, as a number. -/
theorem toNat_lowOctet (v : UInt16) :
  (v &&& 0xFF).toUInt8.toUInt16.toNat = v.toNat % 256
  := by
  have hand : v.toNat &&& 255 = v.toNat % 2 ^ 8 := Nat.and_two_pow_sub_one_eq_mod v.toNat 8
  simp only [UInt8.toNat_toUInt16, UInt16.toNat_toUInt8, UInt16.toNat_and]
  show (v.toNat &&& 255) % 256 = v.toNat % 256
  omega

/-- A 16-bit value is recovered from its two octets. -/
theorem toUInt16_octets (v : UInt16) :
  ((v >>> 8).toUInt8.toUInt16 <<< 8) ||| (v &&& 0xFF).toUInt8.toUInt16 = v
  := by
  have hv := v.toNat_lt
  have hhi : ((v >>> 8).toUInt8.toUInt16 <<< 8).toNat = (v.toNat / 256) <<< 8 := by
    simp only [UInt16.toNat_shiftLeft, UInt8.toNat_toUInt16, UInt16.toNat_toUInt8,
      UInt16.toNat_shiftRight]
    show (v.toNat >>> 8 % 256) <<< 8 % 65536 = (v.toNat / 256) <<< 8
    rw [Nat.shiftRight_eq_div_pow, Nat.shiftLeft_eq, Nat.shiftLeft_eq]
    omega
  apply UInt16.toNat_inj.mp
  rw [UInt16.toNat_or, toNat_lowOctet, hhi,
    ← Nat.shiftLeft_add_eq_or_of_lt (show v.toNat % 256 < 2 ^ 8 by omega), Nat.shiftLeft_eq]
  omega

/-- An index of at most 8 bits is recovered from its octet. -/
theorem toUInt16_octet {v : UInt16} (h : v ≤ 0xFF) :
  (v &&& 0xFF).toUInt8.toUInt16 = v
  := by
  have hv : v.toNat ≤ 255 := UInt16.le_iff_toNat_le.mp h
  apply UInt16.toNat_inj.mp
  rw [toNat_lowOctet]
  omega

/-- The Index and Subindex octets decode to the index and subindex. -/
theorem decodeIndex_octets (index : UInt16) (subindex : UInt8) (payload : List UInt8) :
  decodeIndex (isduIndexLen index subindex) (isduIndexOctets index subindex ++ payload)
    = some (index, subindex, payload)
  := by
  by_cases hi : index ≤ 0xFF
  · by_cases hs : subindex = 0
    · simp only [isduIndexOctets, isduIndexLen, hi, hs, if_true, Nat.reduceEqDiff, if_false,
        List.cons_append, List.nil_append, decodeIndex, toUInt16_octet hi]
    · simp only [isduIndexOctets, isduIndexLen, hi, hs, if_true, Nat.reduceEqDiff, if_false,
        List.cons_append, List.nil_append, decodeIndex, toUInt16_octet hi]
  · simp only [isduIndexOctets, isduIndexLen, hi, if_true, if_false, List.cons_append,
      List.nil_append, decodeIndex, toUInt16_octets index]

/-! ### The first octet -/

/-- The I-Service of a first octet selects its direction and index format. -/
theorem decodeService_head (read : Bool) {indexLen n : Nat} (h1 : 1 ≤ indexLen)
    (h3 : indexLen ≤ 3) (hn : n ≤ 15) :
  decodeService (isduHead read indexLen (UInt8.ofNat n) >>> ISDU_SERVICE_SHIFT)
    = some (read, indexLen)
  := by
  interval_cases indexLen <;> interval_cases n <;> cases read <;> decide

/-- The Length nibble of a first octet is the one it was built with. -/
theorem head_nibble (read : Bool) {indexLen n : Nat} (h1 : 1 ≤ indexLen)
    (h3 : indexLen ≤ 3) (hn : n ≤ 15) :
  (isduHead read indexLen (UInt8.ofNat n) &&& 0x0F).toNat = n
  := by
  interval_cases indexLen <;> interval_cases n <;> cases read <;> decide

/-! ### Requests -/

/-- Close the octets of a request with CHKPDU. -/
def withChkpdu (body : List UInt8) : List UInt8 := body ++ [isduChkpdu body]

/-- The octet stream of a request built from its first octet, an optional ExtLength, its
index octets and its payload decodes to what it was built from. -/
theorem decodeRequest_withChkpdu {read : Bool} {index : UInt16} {subindex : UInt8}
    {payload ext : List UInt8} {head : UInt8} (n : Nat)
    (hservice : decodeService (head >>> ISDU_SERVICE_SHIFT)
      = some (read, isduIndexLen index subindex))
    (hlength : ∀ rest, declaredLength (head :: (ext ++ rest)) = some (n, rest))
    (hn : n = isduIndexLen index subindex + payload.length + ext.length + 2) :
  decodeRequest (withChkpdu (head :: (ext ++ (isduIndexOctets index subindex ++ payload))))
    = some ⟨read, index, subindex, payload⟩
  := by
  obtain ⟨mid, hmid⟩ : ∃ mid, mid = isduIndexOctets index subindex ++ payload := ⟨_, rfl⟩
  have hindex : decodeIndex (isduIndexLen index subindex) mid = some (index, subindex, payload) := by
    rw [hmid]
    apply decodeIndex_octets
  have hmidlen : mid.length = isduIndexLen index subindex + payload.length := by
    simp [hmid]
  rw [← hmid]
  have hdeclared := hlength (mid ++ [isduChkpdu (head :: (ext ++ mid))])
  have htotal : n = (withChkpdu (head :: (ext ++ mid))).length := by
    simp only [withChkpdu, List.length_append, List.length_cons, List.length_nil]
    omega
  rw [htotal, ← List.append_assoc ext, ← List.cons_append] at hdeclared
  apply decodeRequest_of_parts hdeclared (isduChkpdu_append_self _) hservice hindex

/-- A request with its length in the first octet decodes to what it was built from. -/
theorem decodeRequest_direct (read : Bool) (index : UInt16) (subindex : UInt8)
    (payload : List UInt8) (hle : isduIndexLen index subindex + payload.length + 2 ≤ 15) :
  decodeRequest
      (withChkpdu (isduHead read (isduIndexLen index subindex)
          (UInt8.ofNat (isduIndexLen index subindex + payload.length + 2))
        :: (isduIndexOctets index subindex ++ payload)))
    = some ⟨read, index, subindex, payload⟩
  := by
  have h1 := isduIndexLen_pos index subindex
  have h3 := isduIndexLen_le index subindex
  obtain ⟨n, hn⟩ : ∃ n, n = isduIndexLen index subindex + payload.length + 2 := ⟨_, rfl⟩
  rw [← hn] at hle ⊢
  have hnib := head_nibble read h1 h3 hle
  have hbig : n ≥ 2 := by omega
  rw [← List.nil_append (isduIndexOctets index subindex ++ payload)]
  have hlength : ∀ rest, declaredLength
      (isduHead read (isduIndexLen index subindex) (UInt8.ofNat n) :: ([] ++ rest))
        = some (n, rest) := by
    intro rest
    simp only [List.nil_append, declaredLength, hnib, hbig, if_true]
  apply decodeRequest_withChkpdu n (decodeService_head read h1 h3 hle) hlength hn

/-- A request with ExtLength decodes to what it was built from. -/
theorem decodeRequest_extended (read : Bool) (index : UInt16) (subindex : UInt8)
    (payload : List UInt8) (hle : isduIndexLen index subindex + payload.length + 3 ≤ 255) :
  decodeRequest
      (withChkpdu (isduHead read (isduIndexLen index subindex) (UInt8.ofNat 1)
        :: UInt8.ofNat (isduIndexLen index subindex + payload.length + 3)
        :: (isduIndexOctets index subindex ++ payload)))
    = some ⟨read, index, subindex, payload⟩
  := by
  have h1 := isduIndexLen_pos index subindex
  have h3 := isduIndexLen_le index subindex
  have hnib := head_nibble read h1 h3 (show 1 ≤ 15 by decide)
  obtain ⟨n, hn⟩ : ∃ n, n = isduIndexLen index subindex + payload.length + 3 := ⟨_, rfl⟩
  rw [← hn] at hle ⊢
  have hext : (UInt8.ofNat n).toNat = n := by
    rw [UInt8.toNat_ofNat']
    omega
  rw [← List.singleton_append (x := UInt8.ofNat n)]
  apply decodeRequest_withChkpdu n (decodeService_head read h1 h3 (show 1 ≤ 15 by decide)) _ hn
  intro rest
  simp only [List.singleton_append, declaredLength, hnib, hext, ge_iff_le, Nat.reduceLeDiff,
    if_false, if_true]

/-- The total length of a read request does not wrap. -/
theorem isduReadTotal_eq (index : UInt16) (subindex : UInt8) :
  isduReadTotal index subindex = isduIndexLen index subindex + 2
  := by
  have hle := isduIndexLen_le index subindex
  simp only [isduReadTotal, ISDU_CHKPDU_LEN]
  omega

/-- Masking a length of at most 15 with the nibble changes nothing. -/
theorem and_nibble {n : Nat} (h : n ≤ 15) :
  UInt8.ofNat n &&& UInt8.ofNat ISDU_LENGTH_NIBBLE_MAX = UInt8.ofNat n
  := by
  interval_cases n <;> rfl

/-- A read request is coded with its length in the first octet. -/
theorem isduReadRequest_eq (index : UInt16) (subindex : UInt8) :
  isduReadRequest index subindex
    = withChkpdu (isduHead true (isduIndexLen index subindex)
        (UInt8.ofNat (isduIndexLen index subindex + 2))
      :: (isduIndexOctets index subindex ++ []))
  := by
  have hle := isduIndexLen_le index subindex
  have hmask := and_nibble (show isduIndexLen index subindex + 2 ≤ 15 by omega)
  simp only [isduReadRequest, isduReadTotal_eq, hmask, withChkpdu, List.append_nil]
  rw [List.take_of_length_le]
  simp only [List.length_cons, length_isduIndexOctets]
  omega

/-- An accepted payload keeps every length computation of `write_isdu` below its wrap. -/
theorem isduWriteTotal_eq {index : UInt16} {subindex : UInt8} {len : Nat}
    (h : isduWriteTooLong index subindex len = false) :
  isduWriteTotal index subindex len = isduIndexLen index subindex + len + 2 ∧
    isduIndexLen index subindex + len + 2 ≤ 237 ∧
    isduIndexLen index subindex + len + 2 ≠ 16
  := by
  have h1 := isduIndexLen_pos index subindex
  have h3 := isduIndexLen_le index subindex
  simp only [isduWriteTooLong, Bool.or_eq_false_iff, decide_eq_false_iff_not] at h
  obtain ⟨⟨hlen, hext⟩, h16⟩ := h
  simp only [ISDU_BUFFER_SIZE, ISDU_WRITE_HEADER_MAX] at hlen
  have htotal : isduWriteTotal index subindex len = isduIndexLen index subindex + len + 2 := by
    simp only [isduWriteTotal, ISDU_CHKPDU_LEN]
    omega
  simp only [htotal, ISDU_EXT_MAX] at hext h16
  constructor
  · apply htotal
  · split at hext <;> omega

/-- A short write request is coded with its length in the first octet. -/
theorem isduWriteRequest_direct {index : UInt16} {subindex : UInt8} {data : List UInt8}
    (h : isduWriteTooLong index subindex data.length = false)
    (hle : isduIndexLen index subindex + data.length + 2 ≤ 15) :
  isduWriteRequest index subindex data
    = withChkpdu (isduHead false (isduIndexLen index subindex)
        (UInt8.ofNat (isduIndexLen index subindex + data.length + 2))
      :: (isduIndexOctets index subindex ++ data))
  := by
  obtain ⟨htotal, -, -⟩ := isduWriteTotal_eq h
  have hnib : isduIndexLen index subindex + data.length + 2 ≤ ISDU_LENGTH_NIBBLE_MAX := hle
  simp only [isduWriteRequest, isduWriteHeader, htotal, hnib, if_true, and_nibble hle, withChkpdu,
    List.cons_append, List.nil_append]

/-- A long write request is coded with ExtLength. -/
theorem isduWriteRequest_extended {index : UInt16} {subindex : UInt8} {data : List UInt8}
    (h : isduWriteTooLong index subindex data.length = false)
    (hgt : ¬ isduIndexLen index subindex + data.length + 2 ≤ 15) :
  isduWriteRequest index subindex data
    = withChkpdu (isduHead false (isduIndexLen index subindex) (UInt8.ofNat 1)
      :: UInt8.ofNat (isduIndexLen index subindex + data.length + 3)
      :: (isduIndexOctets index subindex ++ data))
  := by
  obtain ⟨htotal, -, -⟩ := isduWriteTotal_eq h
  have hnib : ¬ isduIndexLen index subindex + data.length + 2 ≤ ISDU_LENGTH_NIBBLE_MAX := hgt
  have hext : ISDU_LENGTH_EXTENDED = UInt8.ofNat 1 := rfl
  simp only [isduWriteRequest, isduWriteHeader, htotal, hnib, if_false, hext, withChkpdu,
    List.cons_append, List.nil_append]

/-! ### The round trip -/

/-- `AcceptedRequest r s`: a call of `read_isdu` or `write_isdu` with the arguments of
`r` started a new service, which left the ISDU state `s`. -/
inductive AcceptedRequest : IsduRequest → IsduState → Prop where
  | read (w : World) (index : UInt16) (subindex cap : UInt8)
      (idle : isduBusy w.port.isdu = false)
      (started : isduBusy (readIsdu w index subindex cap).1.port.isdu = true) :
      AcceptedRequest ⟨true, index, subindex, []⟩ (readIsdu w index subindex cap).1.port.isdu
  | write (w : World) (index : UInt16) (subindex : UInt8) (data : List UInt8)
      (idle : isduBusy w.port.isdu = false)
      (started : isduBusy (writeIsdu w index subindex data).1.port.isdu = true) :
      AcceptedRequest ⟨false, index, subindex, data⟩ (writeIsdu w index subindex data).1.port.isdu

/-- The octets `isdu.request[0 .. request_len)`. -/
def requestOctets (s : IsduState) : List UInt8 := s.request.take s.requestLen

/-- The lengths computed for a request, without wrapping. -/
def requestTotal (r : IsduRequest) : Nat :=
  isduIndexLen r.index r.subindex + r.payload.length + 2

/-- No length computation of the request `r` wraps: the 8-bit total of a read; the
16-bit total, the ExtLength octet and the 8-bit cursor of a write. -/
def NoWrap (r : IsduRequest) : Prop :=
  if r.read then isduReadTotal r.index r.subindex = requestTotal r
  else
    isduWriteTotal r.index r.subindex r.payload.length = requestTotal r ∧
      (requestTotal r > 15 → (UInt8.ofNat (requestTotal r + 1)).toNat = requestTotal r + 1) ∧
      isduWritePos r.index r.subindex r.payload
        = (isduWriteHeader r.index r.subindex r.payload.length).length + r.payload.length + 1

/-- The request in `s` is a faithful encoding of `r`. -/
structure Encodes (s : IsduState) (r : IsduRequest) : Prop where
  decodes : decodeRequest (requestOctets s) = some r
  declared : ∃ rest, declaredLength (requestOctets s) = some (s.requestLen, rest)
  complete : s.request.length = s.requestLen
  bounded : s.requestLen ≤ 238
  noWrap : NoWrap r

/-- Collecting a read leaves no service in progress. -/
theorem isduBusy_finishRead {p : PortState} (cap : UInt8) (h : isduBusy p.isdu = false) :
  isduBusy (isduFinishRead p cap).1.isdu = false
  := by
  simp only [isduFinishRead, isduFinishError]
  split
  · rw [serviceResult_isdu]
    rfl
  · split
    · rw [serviceResult_isdu]
      apply h
    · rw [serviceResult_isdu]
      rfl

/-- Collecting a write leaves no service in progress. -/
theorem isduBusy_finishWrite (p : PortState) :
  isduBusy (isduFinishWrite p).1.isdu = false
  := by
  simp only [isduFinishWrite, isduFinishError]
  split <;> simp only [serviceResult_isdu] <;> rfl

/-- A service that is in progress after a call of `read_isdu` and was not before is the
one the call asked for. -/
theorem readIsdu_started {w : World} {index : UInt16} {subindex cap : UInt8}
    (idle : isduBusy w.port.isdu = false)
    (started : isduBusy (readIsdu w index subindex cap).1.port.isdu = true) :
  (readIsdu w index subindex cap).1.port.isdu = isduStartRead w.port.isdu index subindex
  := by
  simp only [readIsdu, idle] at started ⊢
  by_cases hst : acyclicAvailable w.port.state = true
  · by_cases hdone : w.port.isdu.done = true
    · by_cases hm : isduMatches w.port.isdu .read index subindex = true
      · simp [hst, hdone, hm, isduBusy_finishRead cap idle] at started
      · simp [hst, hdone, hm, idle] at started
    · simp [hst, hdone]
  · simp [hst, idle] at started

/-- A service that is in progress after a call of `write_isdu` and was not before is the
one the call asked for, and its payload is not too long. -/
theorem writeIsdu_started {w : World} {index : UInt16} {subindex : UInt8} {data : List UInt8}
    (idle : isduBusy w.port.isdu = false)
    (started : isduBusy (writeIsdu w index subindex data).1.port.isdu = true) :
  isduWriteTooLong index subindex data.length = false ∧
    (writeIsdu w index subindex data).1.port.isdu
      = isduStartWrite w.port.isdu index subindex data
  := by
  simp only [writeIsdu, writeIsduBody, idle] at started ⊢
  by_cases hst : acyclicAvailable w.port.state = true
  · by_cases hdone : w.port.isdu.done = true
    · by_cases hm : isduMatches w.port.isdu .write index subindex = true
      · simp [hst, hdone, hm, isduBusy_finishWrite] at started
      · simp [hst, hdone, hm, idle] at started
    · by_cases hlong : isduWriteTooLong index subindex data.length = true
      · simp [hst, hdone, hlong, idle] at started
      · simp [hst, hdone, hlong]
  · simp [hst, idle] at started

/-- A state whose stream is complete encodes what the stream decodes to. -/
theorem encodes_of_decodes {s : IsduState} {r : IsduRequest}
    (hlen : s.request.length = s.requestLen) (hdecode : decodeRequest s.request = some r)
    (hbound : s.requestLen ≤ 238) (hwrap : NoWrap r) :
  Encodes s r
  := by
  have hoctets : requestOctets s = s.request := by
    rw [requestOctets, ← hlen, List.take_length]
  constructor
  · rw [hoctets]
    apply hdecode
  · rw [hoctets]
    simp only [decodeRequest] at hdecode
    split at hdecode
    · contradiction
    · next n rest hdeclared =>
      split at hdecode
      · contradiction
      · next hcond =>
        rw [not_or, not_not] at hcond
        use rest
        rw [hdeclared, hcond.1, hlen]
  · apply hlen
  · apply hbound
  · apply hwrap

theorem length_withChkpdu (body : List UInt8) :
  (withChkpdu body).length = body.length + 1
  := by
  simp [withChkpdu]

/-- A started read encodes its arguments. -/
theorem encodes_isduStartRead (s : IsduState) (index : UInt16) (subindex : UInt8) :
  Encodes (isduStartRead s index subindex) ⟨true, index, subindex, []⟩
  := by
  have h3 := isduIndexLen_le index subindex
  apply encodes_of_decodes
  · simp only [isduStartRead, isduReadTotal_eq, isduReadRequest_eq, length_withChkpdu,
      List.length_cons, List.length_append, length_isduIndexOctets, List.length_nil]
  · simp only [isduStartRead, isduReadRequest_eq]
    apply decodeRequest_direct true index subindex []
    simp only [List.length_nil]
    omega
  · simp only [isduStartRead, isduReadTotal_eq]
    omega
  · simp [NoWrap, isduReadTotal_eq, requestTotal]

/-- The octets before the payload of an accepted write. -/
theorem length_isduWriteHeader {index : UInt16} {subindex : UInt8} {len : Nat}
    (h : isduWriteTooLong index subindex len = false) :
  (isduWriteHeader index subindex len).length
    = if isduIndexLen index subindex + len + 2 ≤ 15 then isduIndexLen index subindex + 1
      else isduIndexLen index subindex + 2
  := by
  obtain ⟨htotal, -, -⟩ := isduWriteTotal_eq h
  simp only [isduWriteHeader, htotal, ISDU_LENGTH_NIBBLE_MAX]
  split
  · simp only [List.length_append, List.length_cons, List.length_nil, length_isduIndexOctets]
    omega
  · simp only [List.length_append, List.length_cons, List.length_nil, length_isduIndexOctets]
    omega

/-- The 8-bit cursor of an accepted write does not wrap. -/
theorem isduWritePos_eq {index : UInt16} {subindex : UInt8} {data : List UInt8}
    (h : isduWriteTooLong index subindex data.length = false) :
  isduWritePos index subindex data
      = (isduWriteHeader index subindex data.length).length + data.length + 1 ∧
    (isduWriteHeader index subindex data.length).length + data.length + 1 ≤ 238
  := by
  obtain ⟨-, hle, -⟩ := isduWriteTotal_eq h
  have hheader := length_isduWriteHeader h
  simp only [isduWritePos, List.length_append, ISDU_CHKPDU_LEN]
  split at hheader <;> omega

/-- A started write encodes its arguments. -/
theorem encodes_isduStartWrite (s : IsduState) {index : UInt16} {subindex : UInt8}
    {data : List UInt8} (h : isduWriteTooLong index subindex data.length = false) :
  Encodes (isduStartWrite s index subindex data) ⟨false, index, subindex, data⟩
  := by
  obtain ⟨htotal, hle, -⟩ := isduWriteTotal_eq h
  obtain ⟨hpos, hbound⟩ := isduWritePos_eq h
  apply encodes_of_decodes
  · simp only [isduStartWrite, hpos, isduWriteRequest, List.length_append, List.length_cons,
      List.length_nil]
  · simp only [isduStartWrite]
    by_cases hshort : isduIndexLen index subindex + data.length + 2 ≤ 15
    · rw [isduWriteRequest_direct h hshort]
      apply decodeRequest_direct false index subindex data hshort
    · rw [isduWriteRequest_extended h hshort]
      apply decodeRequest_extended false index subindex data
      omega
  · simp only [isduStartWrite, hpos]
    apply hbound
  · simp only [NoWrap, Bool.false_eq_true, if_false, requestTotal]
    constructor
    · apply htotal
    · constructor
      · intro _
        rw [UInt8.toNat_ofNat']
        omega
      · apply hpos

/-- Every accepted request encodes the arguments of its call. -/
theorem encodes_of_accepted {r : IsduRequest} {s : IsduState} (h : AcceptedRequest r s) :
  Encodes s r
  := by
  cases h with
  | read w index subindex cap idle started =>
      rw [readIsdu_started idle started]
      apply encodes_isduStartRead
  | write w index subindex data idle started =>
      obtain ⟨hshort, heq⟩ := writeIsdu_started idle started
      rw [heq]
      apply encodes_isduStartWrite _ hshort

/-- ISDU requests round-trip: the octets of every accepted request decode to the
operation, index, subindex and payload of its call, with the declared length equal to
`request_len`, at most 238 octets and no wrapped length; and requests with the same
octets are the same. -/
theorem request_encoding :
  (∀ (r : IsduRequest) (s : IsduState), AcceptedRequest r s → Encodes s r) ∧
  ∀ (r₁ r₂ : IsduRequest) (s₁ s₂ : IsduState), AcceptedRequest r₁ s₁ → AcceptedRequest r₂ s₂ →
    requestOctets s₁ = requestOctets s₂ → r₁ = r₂
  := by
  constructor
  · intro r s
    apply encodes_of_accepted
  · intro r₁ r₂ s₁ s₂ h₁ h₂ heq
    have hd₁ := (encodes_of_accepted h₁).decodes
    have hd₂ := (encodes_of_accepted h₂).decodes
    rw [heq, hd₂, Option.some.injEq] at hd₁
    apply hd₁.symm

/-- A write of 14 octets to a 16-bit index, coded with ExtLength. -/
theorem request_encoding_extended :
  Encodes
    (writeIsdu ⟨{ waitingPort with isdu := IsduState.zero }, []⟩ 0x0120 3
      (List.replicate 14 0x5A)).1.port.isdu
    ⟨false, 0x0120, 3, List.replicate 14 0x5A⟩
  := request_encoding.1 _ _ (.write _ _ _ _ (by decide) (by decide))

end IolinkMaster
