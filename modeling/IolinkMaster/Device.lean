import IolinkMaster.EventMemory
import IolinkMaster.Segmentation

/-!
# Devices

The other side of the link: a device with an application behind it that performs requests and
answers them.  The device collects the segments of a request, performs it once it is complete,
lets the master poll for as long as the application is busy, and hands out its answer segment by
segment.  Its event memory is read and confirmed over the diagnosis channel.  The M-sequence type of
a frame is in its CKT octet, and the reply is one of this type.
-/

namespace IolinkMaster

/-! ### Applications -/

/-- The longest data of a read that a response can carry. -/
def DEVICE_DATA_MAX : Nat := 235

/-- The answer of an application to a request. -/
inductive Answer where
  | data (octets : List UInt8) (h : octets.length ≤ DEVICE_DATA_MAX)
  | done
  | error (errorType : UInt16) (h : errorType ≠ ISDU_ERROR_NONE)

/-- The octets of a response. -/
def Answer.response : Answer → List UInt8
  | .data octets _ => readResponse octets
  | .done => withChkpdu [0x52]
  | .error errorType _ => withChkpdu [0xC4, (errorType >>> 8).toUInt8, (errorType &&& 0xFF).toUInt8]

/-- What a master makes of a response. -/
def Answer.outcome : Answer → Outcome
  | .data octets _ => .positive octets
  | .done => .positive []
  | .error errorType _ => .negative errorType

/-- The application of a device: its memory, what it does on a request, how often it has the master
poll meanwhile, its process data and whether they are valid, its Direct Parameter Page 1, its event
memory, whether it raises the Event flag, and what it does once its events are confirmed. -/
structure Application (μ : Type) where
  perform : μ → IsduRequest → μ × Answer
  busyFor : μ → IsduRequest → Nat
  maxBusy : Nat
  pdIn : μ → List UInt8
  pdValid : μ → Bool
  page : μ → UInt8 → UInt8
  events : μ → List UInt8
  eventFlag : μ → Bool
  confirm : μ → μ
  busy_le : ∀ m r, busyFor m r ≤ maxBusy
  length_events : ∀ m, (events m).length = EVENT_MEMORY_LEN

/-! ### The device -/

/-- A device: the memory of its application, the octets of the request it is receiving, the polls
it still answers with "busy", and the octets of the response it has not handed out. -/
structure Device (μ : Type) where
  memory : μ
  request : List UInt8
  busy : Nat
  response : List UInt8

variable {μ : Type} (A : Application μ)

/-- Perform a request. -/
def Device.perform (d : Device μ) (r : IsduRequest) : Device μ where
  memory := (A.perform d.memory r).1
  request := []
  busy := A.busyFor d.memory r
  response := (A.perform d.memory r).2.response

/-- A write on the ISDU channel brings a segment of a request, START the first one. -/
def Device.onWrite (d : Device μ) (flowctrl : UInt8) (od : List UInt8) : Device μ :=
  let request := if flowctrl = FLOWCTRL_START then od else d.request ++ od
  match declaredLength request with
  | none => { d with request := request }
  | some (n, _) =>
    if request.length < n then { d with request := request }
    else
      match decodeRequest (request.take n) with
      | none => { d with request := [] }
      | some r => d.perform A r

/-- A read on the ISDU channel fetches a segment of the response; IDLE and ABORT end the service. -/
def Device.onRead (d : Device μ) (flowctrl : UInt8) (k : Nat) : Device μ × List UInt8 :=
  if flowctrl = FLOWCTRL_IDLE ∨ flowctrl = FLOWCTRL_ABORT then
    ({ d with request := [], busy := 0, response := [] }, padOd k [])
  else if 0 < d.busy then ({ d with busy := d.busy - 1 }, padOd k [0x01])
  else ({ d with response := d.response.drop k }, padOd k (d.response.take k))

/-- The flags of the CKS octet that closes a reply. -/
def Application.flags (m : μ) : UInt8 :=
  (if A.eventFlag m then CKS_EVENT else 0) ||| if A.pdValid m then 0 else CKS_PD_INVALID

/-- The reply that carries the on-request data `od` and the process data `pd`. -/
def deviceReply (K : Iolinki) (flags : UInt8) (od pd : List UInt8) : List UInt8 :=
  od ++ pd ++ [K.cks flags (od ++ pd)]

/-- The reply that carries the on-request data `od` and the process data of the application, which
an M-sequence of TYPE_0 has not. -/
def Application.reply (K : Iolinki) (config : Config) (m : μ) (od : List UInt8) : List UInt8 :=
  deviceReply K (A.flags m) od (if config.mSeqType = .type0 then [] else A.pdIn m)

/-- A write to the StatusCode confirms the events. -/
def Device.onConfirm (d : Device μ) (addr : UInt8) : Device μ :=
  if addr = 0 then { d with memory := A.confirm d.memory } else d

/-- On-request data without a service: a write is answered without on-request data, unless its
M-sequence is of TYPE_0. -/
def noService (config : Config) (read : Bool) : List UInt8 :=
  if config.mSeqType = .type0 ∨ read then padOd (odLenForType config.mSeqType) [] else []

/-- What the device does with a frame of the M-sequence type of `config`, and its reply. -/
def Device.respond (K : Iolinki) (config : Config) (d : Device μ) (frame : List UInt8) :
    Device μ × List UInt8 :=
  let mc := frame.getD 0 0
  let k := odLenForType config.mSeqType
  match mcChannel mc with
  | .page =>
    (d, deviceReply K (A.flags d.memory)
      (if mcIsRead mc then [A.page d.memory (mcAddress mc)] else []) [])
  | .isdu =>
    if mcIsRead mc then
      let (d, od) := d.onRead (mcAddress mc) k
      (d, A.reply K config d.memory od)
    else
      let d := d.onWrite A (mcAddress mc) (frame.drop (M_SEQ_HEADER_LEN + config.pdOutLen))
      (d, A.reply K config d.memory (noService config false))
  | .diagnosis =>
    if mcIsRead mc then
      (d, A.reply K config d.memory
        (padOd k (((A.events d.memory).drop (mcAddress mc).toNat).take k)))
    else
      let d := d.onConfirm A (mcAddress mc)
      (d, A.reply K config d.memory (noService config false))
  | .process => (d, A.reply K config d.memory (noService config (mcIsRead mc)))

/-- The M-sequences of TYPE_0 that a port with the configuration `config` uses before OPERATE. -/
def Config.asType0 (config : Config) : Config :=
  { config with mSeqType := .type0, pdInLen := 0, pdOutLen := 0 }

/-- The type bits of the CKT octet of a frame are those of TYPE_0. -/
def isType0Frame (frame : List UInt8) : Bool := frame.getD 1 0 &&& 0xC0 == 0

/-- What the device does with a frame, and its reply.  A wake-up request is no frame and has none. -/
def Device.receive (K : Iolinki) (config : Config) (d : Device μ) (frame : List UInt8) :
    Device μ × List UInt8 :=
  if frame.length < M_SEQ_HEADER_LEN then (d, [])
  else if isType0Frame frame then d.respond A K config.asType0 frame
  else d.respond A K config frame

/-- The flags leave the bits of the checksum free. -/
theorem Application.flags_masked (m : μ) :
  A.flags m &&& CKS_CHECKSUM_MASK = 0
  := by
  rw [flags]
  cases A.eventFlag m <;> cases A.pdValid m <;> decide

/-- A CKS octet holds its flags and its checksum. -/
theorem cks_masked {K : Iolinki} (hK : K.Lawful) {flags : UInt8}
    (hflags : flags &&& CKS_CHECKSUM_MASK = 0) (body : List UInt8) :
  K.cks flags body &&& 0xC0 = flags ∧
    K.cks flags body &&& CKS_CHECKSUM_MASK = K.checksum6 (body ++ [flags])
  := by
  have hmask := hK.checksum6_mask (body ++ [flags])
  rw [Iolinki.cks]
  generalize K.checksum6 (body ++ [flags]) = c at hmask ⊢
  have hhigh : flags &&& 0xC0 = flags := by
    revert hflags
    revert flags
    apply forall_octet
    decide +kernel
  have hlow : c &&& CKS_CHECKSUM_MASK = c := by
    revert hmask
    revert c
    apply forall_octet
    decide +kernel
  have hsplit : ∀ mask, (flags ||| c) &&& mask = (flags &&& mask) ||| (c &&& mask) := by
    intro mask
    rw [← UInt8.toBitVec_inj]
    exact BitVec.and_or_distrib_right
  constructor
  · rw [hsplit, hhigh, hmask, UInt8.or_zero]
  · rw [hsplit, hflags, hlow, UInt8.zero_or]

/-- A reply of the device closes with a correct CKS octet. -/
theorem cksOk_deviceReply {K : Iolinki} (hK : K.Lawful) {flags : UInt8}
    (hflags : flags &&& CKS_CHECKSUM_MASK = 0) (od pd : List UInt8) :
  K.CksOk (deviceReply K flags od pd)
  := by
  obtain ⟨hhigh, hlow⟩ := cks_masked hK hflags (od ++ pd)
  rw [deviceReply, cksOk_concat, hhigh, hlow]

/-- The type bits of a message are those of its type. -/
theorem isType0Frame_message {K : Iolinki} (hK : K.Lawful) (mc : UInt8) (type : MSeqType)
    (body : List UInt8) :
  isType0Frame (message K mc (cktTypeBits type) body) = (type == .type0)
  := by
  have hmask := hK.checksum6_mask (mc :: cktTypeBits type :: body)
  have hbits : ∀ c : UInt8, c &&& 0xC0 = 0 →
      ((cktTypeBits type ||| c) &&& 0xC0 == 0) = (type == .type0) := by
    apply forall_octet
    cases type <;> decide +kernel
  exact hbits _ hmask

theorem isType0Frame_encodeType0 {K : Iolinki} (hK : K.Lawful) (mc : UInt8) :
  isType0Frame (K.encodeType0 mc) = true
  := by
  rw [hK.encodeType0_eq]
  exact beq_iff_eq.mpr (hK.checksum6_mask _)

theorem isType0Frame_encodeType0Write {K : Iolinki} (hK : K.Lawful) (mc od : UInt8) :
  isType0Frame (K.encodeType0Write mc od) = true
  := by
  rw [hK.encodeType0Write_eq]
  exact beq_iff_eq.mpr (hK.checksum6_mask _)

/-! ### Requests arrive -/

/-- The beginning of a request declares its length or does not yet. -/
theorem declaredLength_prefix {octets rest : List UInt8} {n : Nat}
    (h : declaredLength octets = some (n, rest)) {p : List UInt8} (hp : p <+: octets)
    (hne : p ≠ []) :
  declaredLength p = none ∨ ∃ rest', declaredLength p = some (n, rest')
  := by
  obtain ⟨suffix, rfl⟩ := hp
  rcases p with _ | ⟨head, _ | ⟨ext, p⟩⟩
  · contradiction
  · simp only [declaredLength, List.cons_append, List.nil_append] at h ⊢
    split
    · next h2 =>
      rw [if_pos h2, Option.some.injEq, Prod.mk.injEq] at h
      exact .inr ⟨[], by rw [h.1]⟩
    · next h2 =>
      split
      · exact .inl rfl
      · exact .inl rfl
  · simp only [declaredLength, List.cons_append] at h ⊢
    split
    · next h2 =>
      rw [if_pos h2, Option.some.injEq, Prod.mk.injEq] at h
      exact .inr ⟨ext :: p, by rw [h.1]⟩
    · next h2 =>
      rw [if_neg h2] at h
      split
      · next h1 =>
        rw [if_pos h1, Option.some.injEq, Prod.mk.injEq] at h
        exact .inr ⟨p, by rw [h.1]⟩
      · exact .inl rfl

/-- Octets after a request do not change the length it declares. -/
theorem declaredLength_append {octets rest : List UInt8} {n : Nat}
    (h : declaredLength octets = some (n, rest)) (fill : List UInt8) :
  ∃ rest', declaredLength (octets ++ fill) = some (n, rest')
  := by
  rcases octets with _ | ⟨head, _ | ⟨ext, octets⟩⟩
  · contradiction
  · simp only [declaredLength, List.cons_append, List.nil_append] at h ⊢
    split at h
    · next h2 =>
      rw [if_pos h2]
      rw [Option.some.injEq, Prod.mk.injEq] at h
      exact ⟨fill, by rw [h.1]⟩
    · split at h
      · contradiction
      · contradiction
  · simp only [declaredLength, List.cons_append] at h ⊢
    split
    · next h2 =>
      rw [if_pos h2, Option.some.injEq, Prod.mk.injEq] at h
      exact ⟨_, by rw [h.1]⟩
    · next h2 =>
      rw [if_neg h2] at h
      split
      · next h1 =>
        rw [if_pos h1, Option.some.injEq, Prod.mk.injEq] at h
        exact ⟨_, by rw [h.1]⟩
      · next h1 =>
        rw [if_neg h1] at h
        contradiction

/-- The segments of a request up to the `i`-th one. -/
def segments (octets : List UInt8) (k i : Nat) : List UInt8 :=
  (List.range i).flatMap (segment octets k)

theorem segments_eq (octets : List UInt8) (k i : Nat) :
  segments octets k i = Segment.pad 0 (i * k) (octets.take (i * k))
  := Segment.flatMap_piece 0 k octets i

theorem segments_succ (octets : List UInt8) (k i : Nat) :
  segments octets k (i + 1) = segments octets k i ++ segment octets k i
  := by
  rw [segments, segments, List.range_succ, List.flatMap_append, List.flatMap_singleton]

/-- Segments that do not cover the octets are the beginning of them. -/
theorem segments_of_lt {octets : List UInt8} {k i : Nat} (h : i * k < octets.length) :
  segments octets k i = octets.take (i * k)
  := by
  rw [segments_eq, Segment.pad_of_le]
  rw [List.length_take]
  omega

/-- Segments that cover the octets carry them and zero octets. -/
theorem segments_of_le {octets : List UInt8} {k i : Nat} (h : octets.length ≤ i * k) :
  segments octets k i = octets ++ List.replicate (i * k - octets.length) 0
  := by
  rw [segments_eq, List.take_of_length_le h, Segment.pad]

/-- The device has received the segments of a request up to the `i`-th one. -/
def Device.Holds (d : Device μ) (octets : List UInt8) (k i : Nat) : Prop :=
  i ≠ 0 → d.request = segments octets k i

variable {A}

/-- The next segment is added to those received. -/
theorem Device.Holds.next {d : Device μ} {octets : List UInt8} {k i : Nat}
    (h : d.Holds octets k i) :
  (if segmentFlowctrl i = FLOWCTRL_START then segment octets k i
    else d.request ++ segment octets k i) = segments octets k (i + 1)
  := by
  rw [segments_succ]
  cases i with
  | zero => simp [segmentFlowctrl, segments]
  | succ i => rw [if_neg (segmentFlowctrl_succ_ne i).1, h (Nat.succ_ne_zero i)]

/-- A segment that does not complete the request is kept. -/
theorem Device.onWrite_more {d : Device μ} {octets rest : List UInt8} {k i : Nat}
    (hd : d.Holds octets k i) (hdeclared : declaredLength octets = some (octets.length, rest))
    (hk : 1 ≤ k) (hmore : (i + 1) * k < octets.length) :
  d.onWrite A (segmentFlowctrl i) (segment octets k i)
    = { d with request := segments octets k (i + 1) }
  := by
  have hpos : 0 < (i + 1) * k := Nat.mul_pos (Nat.succ_pos i) hk
  have htake := segments_of_lt hmore
  have hlength : (segments octets k (i + 1)).length < octets.length := by
    rw [htake, List.length_take]
    omega
  have hne : segments octets k (i + 1) ≠ [] := by
    rw [htake, Ne, List.take_eq_nil_iff]
    rintro (h | rfl)
    · omega
    · simp at hmore
  have hprefix : segments octets k (i + 1) <+: octets := by
    rw [htake]
    apply List.take_prefix
  rw [Device.onWrite, hd.next]
  rcases declaredLength_prefix hdeclared hprefix hne with hnone | ⟨rest', hsome⟩
  · rw [hnone]
  · rw [hsome]
    apply if_pos hlength

/-- The last segment has the request performed. -/
theorem Device.onWrite_last {d : Device μ} {octets rest : List UInt8} {k i : Nat}
    (hd : d.Holds octets k i) (hdeclared : declaredLength octets = some (octets.length, rest))
    {r : IsduRequest} (hdecode : decodeRequest octets = some r)
    (hlast : octets.length ≤ (i + 1) * k) :
  d.onWrite A (segmentFlowctrl i) (segment octets k i) = d.perform A r
  := by
  have hfilled := segments_of_le hlast
  obtain ⟨rest', hsome⟩ := declaredLength_append hdeclared
    (List.replicate ((i + 1) * k - octets.length) 0)
  rw [Device.onWrite, hd.next, hfilled, hsome]
  simp only [List.length_append]
  rw [if_neg (by omega), List.take_left, hdecode]

/-! ### Responses go out -/

/-- The octets `pdu` are a response with the outcome `o`. -/
structure Conforms (pdu : List UInt8) (o : Outcome) : Prop where
  declared : declaredTotal pdu = some pdu.length
  nibble : pdu.getD 0 0 &&& 0x0F ≠ 0
  first : isduIdleOctet (pdu.getD 0 0) = false
  complete : completeOutcome pdu = o
  concluded : o.idle = true

theorem Conforms.ne_nil {pdu : List UInt8} {o : Outcome} (h : Conforms pdu o) :
  pdu ≠ []
  := by
  rintro rfl
  exact h.nibble rfl

/-- The beginning of a response has no outcome yet. -/
theorem Conforms.outcome_lt {pdu : List UInt8} {o : Outcome} (h : Conforms pdu o) {n : Nat}
    (hn : n < pdu.length) :
  outcome (pdu.take n) = none
  := by
  by_cases hnil : pdu.take n = []
  · rw [hnil, outcome_nil]
  · have hfirst : (pdu.take n).getD 0 0 = pdu.getD 0 0 := by
      have happend := getD_append_zero hnil (pdu.drop n)
      rw [List.take_append_drop] at happend
      exact happend.symm
    rw [outcome, if_neg hnil, hfirst, if_neg h.nibble]
    cases hdeclared : declaredTotal (pdu.take n) with
    | none => rfl
    | some m =>
        have happend := declaredTotal_append hdeclared (pdu.drop n)
        rw [List.take_append_drop, h.declared, Option.some.injEq] at happend
        dsimp only
        rw [if_neg]
        rw [List.length_take]
        omega

/-- A response has its outcome, whatever follows it. -/
theorem Conforms.outcome_append {pdu : List UInt8} {o : Outcome} (h : Conforms pdu o)
    (fill : List UInt8) :
  outcome (pdu ++ fill) = some o
  := by
  apply IolinkMaster.outcome_append
  rw [outcome, if_neg h.ne_nil, if_neg h.nibble, h.declared]
  dsimp only
  rw [if_pos (Nat.le_refl _), List.take_length, h.complete]

theorem conforms_readResponse {payload : List UInt8} (h : payload.length ≤ DEVICE_DATA_MAX) :
  Conforms (readResponse payload) (.positive payload)
  := by
  have hmax : payload.length ≤ 235 := h
  have hchk := readResponse_chkpdu payload
  by_cases hdirect : payload.length + 2 ≤ 15
  · -- The length is coded in the first octet.
    have hnibble := directHead_nibble hdirect
    have hservice := directHead_service hdirect
    have hlength : (UInt8.ofNat (payload.length + 2)).toNat = payload.length + 2 := by
      rw [UInt8.toNat_ofNat']
      omega
    have hpdu : readResponse payload = (0xD0 ||| UInt8.ofNat (payload.length + 2)) ::
        (payload ++ [isduChkpdu (readResponseBody payload)]) := by
      simp [readResponse, readResponseBody, hdirect]
    have hne : UInt8.ofNat (payload.length + 2) ≠ 0 ∧ UInt8.ofNat (payload.length + 2) ≠ 1 := by
      constructor
      · intro h0
        rw [h0] at hlength
        simp at hlength
      · intro h1
        rw [h1] at hlength
        simp at hlength
    rw [hpdu] at hchk ⊢
    constructor
    · simp only [declaredTotal, hnibble, hlength]
      rw [if_pos (by omega)]
      simp
    · rw [List.getD_cons_zero, hnibble]
      apply hne.1
    · rw [List.getD_cons_zero, isduIdleOctet, Bool.or_eq_false_iff, beq_eq_false_iff_ne,
        beq_eq_false_iff_ne]
      constructor
      · intro h0
        rw [h0] at hservice
        contradiction
      · intro h1
        rw [h1] at hservice
        contradiction
    · rw [completeOutcome, if_neg (not_not.mpr hchk)]
      simp only [List.getD_cons_zero, hservice, hnibble, hne.2, if_false]
      rw [if_neg (by decide)]
      simp
    · rfl
  · -- The length is coded in ExtLength.
    have hlength : (UInt8.ofNat (payload.length + 3)).toNat = payload.length + 3 := by
      rw [UInt8.toNat_ofNat']
      omega
    have hpdu : readResponse payload = 0xD1 :: UInt8.ofNat (payload.length + 3) ::
        (payload ++ [isduChkpdu (readResponseBody payload)]) := by
      simp [readResponse, readResponseBody, hdirect]
    rw [hpdu] at hchk ⊢
    constructor
    · simp only [declaredTotal]
      rw [if_neg (by decide), hlength]
      simp
    · rw [List.getD_cons_zero]
      decide
    · rfl
    · rw [completeOutcome, if_neg (not_not.mpr hchk)]
      simp only [List.getD_cons_zero]
      rw [if_neg (by decide), if_pos (by decide)]
      simp
    · rfl

/-- The response to an answer is what the master makes of it. -/
theorem Answer.conforms (a : Answer) :
  Conforms a.response a.outcome
  := by
  cases a with
  | data octets h => apply conforms_readResponse h
  | done => constructor <;> decide
  | error errorType h =>
      have hchk : isduChkpdu (withChkpdu [0xC4, (errorType >>> 8).toUInt8,
          (errorType &&& 0xFF).toUInt8]) = 0 := isduChkpdu_append_self _
      have hcode := toUInt16_octets errorType
      rw [Answer.response, Answer.outcome]
      constructor
      · simp [declaredTotal, withChkpdu]
      · rw [withChkpdu, List.cons_append, List.getD_cons_zero]
        decide
      · rfl
      · have hservice : (0xC4 : UInt8) >>> ISDU_SERVICE_SHIFT = 0xC := by decide
        rw [completeOutcome, if_neg (not_not.mpr hchk)]
        simp only [withChkpdu, List.cons_append, List.nil_append, List.getD_cons_zero,
          List.getD_cons_succ, hservice, or_true, if_true, List.length_cons, List.length_nil]
        rw [if_pos (by decide), hcode]
      · rfl

theorem Answer.length_response (a : Answer) :
  a.response.length ≤ DEVICE_DATA_MAX + 3
  := by
  cases a with
  | data octets h =>
      simp only [Answer.response, readResponse, readResponseBody]
      split <;> simp only [List.length_append, List.length_cons, List.length_nil] <;> omega
  | done => decide
  | error errorType h => simp [Answer.response, withChkpdu, DEVICE_DATA_MAX]

end IolinkMaster
