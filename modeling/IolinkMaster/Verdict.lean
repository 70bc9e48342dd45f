import IolinkMaster.Acceptance

/-!
# What a service reports of a response

The verdict the protocol gives to a response PDU, by its I-Service nibble, and what the call
that collects the service makes of it.
-/

namespace IolinkMaster

/-! ### The verdict of the protocol -/

/-- The I-Service nibble of a response. -/
def serviceNibble (pdu : List UInt8) : UInt8 := pdu.getD 0 0 >>> ISDU_SERVICE_SHIFT

/-- The I-Service of the positive response to an operation. -/
def positiveService : IsduOp → UInt8
  | .none => 0x0
  | .read => 0xD
  | .write => 0x5

/-- The I-Service of the negative response to an operation. -/
def negativeService : IsduOp → UInt8
  | .none => 0x0
  | .read => 0xC
  | .write => 0x4

/-- The number of octets in front of the data of a response. -/
def headerLength (pdu : List UInt8) : Nat := if lengthNibble pdu = 1 then 2 else 1

/-- The ErrorCode and AdditionalCode of a negative response, if it has them. -/
def errorType (pdu : List UInt8) : Option UInt16 :=
  if headerLength pdu + 3 ≤ pdu.length then
    some (((pdu.getD (headerLength pdu) 0).toUInt16 <<< 8) |||
      (pdu.getD (headerLength pdu + 1) 0).toUInt16)
  else none

/-- What a call of an ISDU service returns to its owner, and the world it leaves. -/
structure CallResult where
  world : World
  ret : Int
  data : List UInt8

/-- The call that collects the service in the port: the owner repeats the identity of the
service, a reader with a buffer of `cap` octets, a writer with the payload `data`. -/
def ownerCall (w : World) (cap : UInt8) (data : List UInt8) : CallResult :=
  match w.port.isdu.op with
  | .read =>
    let r := readIsdu w w.port.isdu.index w.port.isdu.subindex cap
    ⟨r.1, r.2.ret, r.2.data⟩
  | .write =>
    let r := writeIsdu w w.port.isdu.index w.port.isdu.subindex data
    ⟨r.1, r.2, []⟩
  | .none => ⟨w, STATUS_OK, []⟩

/-- A call that collects the response `pdu` to the operation `op` reports its verdict. -/
structure ReportsVerdict (op : IsduOp) (pdu : List UInt8) (r : CallResult) : Prop where
  positive : r.ret = STATUS_OK → serviceNibble pdu = positiveService op
  negative : serviceNibble pdu = negativeService op → r.ret = ISDU_ERR_DEVICE ∧
    ∀ e ∈ errorType pdu, r.world.port.diagnostics.lastIsduError = e
  other : serviceNibble pdu ≠ positiveService op → serviceNibble pdu ≠ negativeService op →
    r.ret < 0 ∧ r.data = [] ∧ r.world.port.isdu.op = .none

/-- A negative response too short for an ErrorType, or with the extended format, or with an
ErrorType other than 0x0000. -/
def ErrorSeen (pdu : List UInt8) : Prop :=
  pdu.length < 4 ∨ lengthNibble pdu = 1 ∨ pdu.getD 1 0 ≠ 0 ∨ pdu.getD 2 0 ≠ 0

/-- The second and the third octet of a negative response are its ErrorType: it has the direct
format, or an extended format that repeats one octet. -/
def ErrorTypeInPlace (pdu : List UInt8) : Prop :=
  lengthNibble pdu = 1 → pdu.getD 1 0 = pdu.getD 2 0 ∧ pdu.getD 2 0 = pdu.getD 3 0

/-- The responses whose verdict is reported: a matching positive one, a matching negative one
with its ErrorType in place and other than 0x0000, and a negative one to the other operation
with an ErrorType other than 0x0000. -/
def VerdictReported (op : IsduOp) (pdu : List UInt8) : Prop :=
  serviceNibble pdu = positiveService op ∨
    (serviceNibble pdu = 0x4 ∨ serviceNibble pdu = 0xC) ∧ ErrorSeen pdu ∧
      (serviceNibble pdu = negativeService op → ErrorTypeInPlace pdu)

/-! ### The ErrorType the transport takes -/

/-- The ErrorType the transport takes from a negative response. -/
def errorTaken (pdu : List UInt8) : UInt16 :=
  if pdu.length ≥ 4 then ((pdu.getD 1 0).toUInt16 <<< 8) ||| (pdu.getD 2 0).toUInt16
  else ISDU_ERROR_SEGMENTATION

/-- An ErrorType as a number. -/
theorem errorCode_toNat (code additional : UInt8) :
  ((code.toUInt16 <<< 8) ||| additional.toUInt16).toNat = code.toNat * 256 + additional.toNat
  := by
  have hcode := code.toNat_lt
  have hadditional := additional.toNat_lt
  have hshift : (code.toUInt16 <<< 8).toNat = code.toNat <<< 8 := by
    simp only [UInt16.toNat_shiftLeft, UInt8.toNat_toUInt16]
    show code.toNat <<< 8 % 65536 = code.toNat <<< 8
    rw [Nat.shiftLeft_eq]
    omega
  rw [UInt16.toNat_or, hshift, UInt8.toNat_toUInt16,
    ← Nat.shiftLeft_add_eq_or_of_lt (show additional.toNat < 2 ^ 8 by omega), Nat.shiftLeft_eq]

/-- Two pairs of octets make the same ErrorType only if they agree. -/
theorem errorCode_inj {a b c d : UInt8} :
  (a.toUInt16 <<< 8) ||| b.toUInt16 = (c.toUInt16 <<< 8) ||| d.toUInt16 ↔ a = c ∧ b = d
  := by
  have hb := b.toNat_lt
  have hd := d.toNat_lt
  rw [← UInt16.toNat_inj, errorCode_toNat, errorCode_toNat, ← UInt8.toNat_inj, ← UInt8.toNat_inj]
  omega

/-- The transport takes an ErrorType other than 0x0000 exactly from the responses with an error
to be seen. -/
theorem errorTaken_ne {pdu : List UInt8} (hvalid : LengthValid pdu) :
  errorTaken pdu ≠ ISDU_ERROR_NONE ↔ ErrorSeen pdu
  := by
  simp only [errorTaken, ErrorSeen]
  by_cases hlen : pdu.length ≥ 4
  · have hzero : ((pdu.getD 1 0).toUInt16 <<< 8) ||| (pdu.getD 2 0).toUInt16 = ISDU_ERROR_NONE ↔
        pdu.getD 1 0 = 0 ∧ pdu.getD 2 0 = 0 := errorCode_inj (c := 0) (d := 0)
    have hext : lengthNibble pdu = 1 → pdu.getD 1 0 ≠ 0 := by
      intro h1 h0
      rcases hvalid with ⟨h2, -⟩ | ⟨-, htotal, -⟩
      · omega
      · rw [h0] at htotal
        simp only [UInt8.toNat_zero] at htotal
        omega
    rw [if_pos hlen, Ne, hzero]
    have hlong : ¬ pdu.length < 4 := by omega
    tauto
  · rw [if_neg hlen]
    simp only [not_le.mp hlen, true_or, iff_true]
    decide

/-- The ErrorType taken is the one of the response if and only if it is in place. -/
theorem errorTaken_eq {pdu : List UInt8} (hvalid : LengthValid pdu) :
  (∀ e ∈ errorType pdu, errorTaken pdu = e) ↔ ErrorTypeInPlace pdu
  := by
  simp only [errorType, errorTaken, ErrorTypeInPlace, headerLength]
  rcases hvalid with ⟨h2, -⟩ | ⟨h1, -, hmin, -⟩
  · have hdirect : ¬ lengthNibble pdu = 1 := by omega
    simp only [hdirect, if_false, false_imp_iff, iff_true]
    split
    · simp
    · simp
  · simp only [ISDU_EXT_MIN] at hmin
    have hlen : pdu.length ≥ 4 := by omega
    have hlong : 2 + 3 ≤ pdu.length := by omega
    simp only [h1, if_true, hlen, hlong, Option.mem_some_iff, forall_eq', true_imp_iff]
    apply errorCode_inj

/-! ### What the call of the owner makes of it -/

/-- A service in the state `s` has completed with the response `pdu`. -/
structure CompletedWith (s : IsduState) (pdu : List UInt8) : Prop where
  done : s.done = true
  active : s.op ≠ .none
  error : s.error = if serviceNibble pdu = 0x4 ∨ serviceNibble pdu = 0xC then errorTaken pdu
    else ISDU_ERROR_NONE

/-- The I-Service nibbles of the negative responses. -/
theorem negativeService_eq {op : IsduOp} (hop : op ≠ .none) :
  negativeService op = 0x4 ∨ negativeService op = 0xC
  := by
  cases op with
  | none => contradiction
  | read => exact .inr rfl
  | write => exact .inl rfl

/-- No I-Service nibble is that of a positive and of a negative response. -/
theorem positiveService_ne {op : IsduOp} (hop : op ≠ .none) :
  ¬ (positiveService op = 0x4 ∨ positiveService op = 0xC)
  := by
  cases op with
  | none => contradiction
  | read => decide
  | write => decide

/-- A framed PDU at the start of a response is its outcome. -/
theorem outcome_framed {pdu : List UInt8} (h : Framed pdu) :
  outcome pdu = some (completeOutcome pdu)
  := by
  obtain ⟨hn, htotal⟩ := responseLength_append h.1 []
  rw [List.append_nil] at hn htotal
  have h0 : lengthNibble pdu ≠ 0 := by
    rcases htotal with h2 | ⟨h1, -⟩ <;> omega
  have hlen : pdu.length ≤ max 2 pdu.length := by omega
  rw [outcome_eq, hn, Option.bind_some, if_neg h0, if_pos le_rfl, List.take_of_length_le hlen]

/-- A service that received a framed response has completed with it. -/
theorem completedWith_of_receives {s : IsduState} {stream pdu : List UInt8}
    (hs : Receives s stream) (hpdu : pdu <+: stream) (hframed : Framed pdu) :
  CompletedWith s pdu
  := by
  obtain ⟨tail, rfl⟩ := hpdu
  obtain ⟨hop, hdone, -, -, -, herror, -⟩ :=
    (receives_done (outcome_append (outcome_framed hframed) tail)).mp hs
  refine ⟨hdone, hop, ?_⟩
  rw [herror]
  simp only [completeOutcome, hframed.2, ne_eq, not_true_eq_false, if_false]
  rw [← serviceNibble]
  split <;> rfl

section

variable {w : World} (hstate : acyclicAvailable w.port.state = true) {pdu : List UInt8}
  (h : CompletedWith w.port.isdu pdu) (cap : UInt8) (data : List UInt8)
include hstate h

/-- The owner of a service with an error is told so. -/
theorem ownerCall_failed (herror : w.port.isdu.error ≠ ISDU_ERROR_NONE) :
  (ownerCall w cap data).ret = ISDU_ERR_DEVICE ∧ (ownerCall w cap data).data = [] ∧
    (ownerCall w cap data).world.port.isdu.op = .none ∧
    (ownerCall w cap data).world.port.diagnostics.lastIsduError = w.port.isdu.error
  := by
  have hbusy : isduBusy w.port.isdu = false := by simp [isduBusy, h.done]
  have hmatches : isduMatches w.port.isdu w.port.isdu.op w.port.isdu.index w.port.isdu.subindex
      = true := by simp [isduMatches]
  cases hop : w.port.isdu.op with
  | none => exact absurd hop h.active
  | read =>
      rw [hop] at hmatches
      simp [ownerCall, hop, readIsdu, hstate, hbusy, h.done, hmatches, isduFinishRead, herror,
        isduFinishError, serviceResult, isduClear, STATUS_PENDING, ISDU_ERR_DEVICE]
  | write =>
      rw [hop] at hmatches
      simp [ownerCall, hop, writeIsdu, writeIsduBody, hstate, hbusy, h.done, hmatches,
        isduFinishWrite, herror, isduFinishError, serviceResult, isduClear, STATUS_PENDING,
        ISDU_ERR_DEVICE]

/-- The owner of a service without an error gets the result, unless the buffer is too small. -/
theorem ownerCall_succeeded (herror : w.port.isdu.error = ISDU_ERROR_NONE) :
  (ownerCall w cap data).ret = STATUS_OK ∨
    (ownerCall w cap data).ret = ISDU_ERR_BUFFER_TOO_SMALL ∧
      (ownerCall w cap data).world.port.isdu.op ≠ .none
  := by
  have hbusy : isduBusy w.port.isdu = false := by simp [isduBusy, h.done]
  have hmatches : isduMatches w.port.isdu w.port.isdu.op w.port.isdu.index w.port.isdu.subindex
      = true := by simp [isduMatches]
  cases hop : w.port.isdu.op with
  | none => exact absurd hop h.active
  | read =>
      rw [hop] at hmatches
      by_cases hcap : cap.toNat < w.port.isdu.response.length
      · right
        simp [ownerCall, hop, readIsdu, hstate, hbusy, h.done, hmatches, isduFinishRead, herror,
          hcap]
      · left
        simp [ownerCall, hop, readIsdu, hstate, hbusy, h.done, hmatches, isduFinishRead, herror,
          hcap]
  | write =>
      rw [hop] at hmatches
      left
      simp [ownerCall, hop, writeIsdu, writeIsduBody, hstate, hbusy, h.done, hmatches,
        isduFinishWrite, herror]

/-- The owner of a completed service is told the verdict on its response if and only if the
response is one whose verdict is reported. -/
theorem reportsVerdict_iff (hvalid : LengthValid pdu) :
  ReportsVerdict w.port.isdu.op pdu (ownerCall w cap data) ↔
    VerdictReported w.port.isdu.op pdu
  := by
  have hnegative := negativeService_eq h.active
  have hpositive := positiveService_ne h.active
  by_cases herror : w.port.isdu.error = ISDU_ERROR_NONE
  · have hsucceeded := ownerCall_succeeded hstate h cap data herror
    constructor
    · intro hreports
      left
      by_contra hne
      by_cases hneg : serviceNibble pdu = negativeService w.port.isdu.op
      · have hret := (hreports.negative hneg).1
        rcases hsucceeded with hok | ⟨hsmall, -⟩
        · rw [hok] at hret
          contradiction
        · rw [hsmall] at hret
          contradiction
      · obtain ⟨hret, -, hop⟩ := hreports.other hne hneg
        rcases hsucceeded with hok | ⟨-, hactive⟩
        · rw [hok] at hret
          contradiction
        · contradiction
    · rintro (hpos | ⟨hservice, hseen, -⟩)
      · refine ⟨fun _ => hpos, fun hneg => ?_, fun hne => absurd hpos hne⟩
        rw [← hneg, hpos] at hnegative
        contradiction
      · have htaken := h.error
        rw [if_pos hservice, herror] at htaken
        exact absurd htaken.symm ((errorTaken_ne hvalid).mpr hseen)
  · obtain ⟨hret, hdata, hop, hlast⟩ := ownerCall_failed hstate h cap data herror
    have hservice : serviceNibble pdu = 0x4 ∨ serviceNibble pdu = 0xC := by
      by_contra hservice
      apply herror
      rw [h.error, if_neg hservice]
    have htaken : w.port.isdu.error = errorTaken pdu := by rw [h.error, if_pos hservice]
    have hseen : ErrorSeen pdu := (errorTaken_ne hvalid).mp (htaken ▸ herror)
    constructor
    · intro hreports
      right
      refine ⟨hservice, hseen, fun hneg => ?_⟩
      apply (errorTaken_eq hvalid).mp
      intro e he
      rw [← htaken, ← hlast]
      apply (hreports.negative hneg).2 e he
    · intro hreported
      refine ⟨?_, ?_, ?_⟩
      · intro hok
        rw [hret] at hok
        contradiction
      · intro hneg
        refine ⟨hret, fun e he => ?_⟩
        rcases hreported with hpos | ⟨-, -, hplace⟩
        · rw [hpos] at hservice
          contradiction
        · rw [hlast, htaken]
          apply (errorTaken_eq hvalid).mpr (hplace hneg) e he
      · intro _ _
        rw [hret]
        exact ⟨by decide, hdata, hop⟩

end

/-- The port of `readWaiting` once the octets `od` have arrived. -/
def readAnswered (od : List UInt8) : World :=
  readWaiting.put { readWaiting.port with isdu := isduOnOd readWaiting.port.isdu od }

instance (pdu : List UInt8) : Decidable (Framed pdu) :=
  inferInstanceAs (Decidable ((_ ∨ _) ∧ _))

end IolinkMaster
