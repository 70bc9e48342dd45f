import IolinkMaster.Reassembly

/-!
# What a response stream means

The outcome of a stream of response octets, stated on the stream alone, and the proof
that the receive side of the transport computes it octet by octet.
-/

namespace IolinkMaster

/-! ### Outcomes -/

/-- The outcome of a complete response. -/
inductive Outcome where
  /-- A positive response with its data octets. -/
  | positive (data : List UInt8)
  /-- A negative response with its ErrorType. -/
  | negative (errorType : UInt16)
  /-- The XOR of the stream is not zero. -/
  | perturbed
  /-- The first octet carries the reserved length 0. -/
  | malformed
  deriving DecidableEq, Repr

/-- The outcome ends with the concluding IDLE read. -/
def Outcome.idle : Outcome → Bool
  | .positive _ | .negative _ => true
  | .perturbed | .malformed => false

/-- The outcome ends with an ABORT. -/
def Outcome.abort : Outcome → Bool
  | .perturbed => true
  | _ => false

/-- The ErrorType the outcome leaves. -/
def Outcome.error : Outcome → UInt16
  | .positive _ => ISDU_ERROR_NONE
  | .negative e => e
  | .perturbed | .malformed => ISDU_ERROR_SEGMENTATION

/-- The total length declared by the octets collected so far, if they suffice. -/
def declaredTotal : List UInt8 → Option Nat
  | [] => none
  | head :: rest =>
    if (head &&& 0x0F).toNat ≥ 2 then some (head &&& 0x0F).toNat
    else
      match rest with
      | [] => none
      | ext :: _ => some (max 2 ext.toNat)

/-- The outcome of a response of exactly the declared length. -/
def completeOutcome (pdu : List UInt8) : Outcome :=
  if isduChkpdu pdu ≠ 0 then .perturbed
  else
    let service := pdu.getD 0 0 >>> ISDU_SERVICE_SHIFT
    if service = 0x4 ∨ service = 0xC then
      .negative (if pdu.length ≥ 4 then
          ((pdu.getD 1 0).toUInt16 <<< 8) ||| (pdu.getD 2 0).toUInt16
        else ISDU_ERROR_SEGMENTATION)
    else .positive (pdu.drop (if pdu.getD 0 0 &&& 0x0F = 0x01 then 2 else 1)).dropLast

/-- The outcome of a stream that starts with the first octet of a response; none while
the response is incomplete. -/
def outcome (stream : List UInt8) : Option Outcome :=
  if stream = [] then none
  else if stream.getD 0 0 &&& 0x0F = 0 then some .malformed
  else
    match declaredTotal stream with
    | none => none
    | some n => if stream.length ≥ n then some (completeOutcome (stream.take n)) else none

/-- An octet that is no part of a response: "no service" or "busy". -/
def isduIdleOctet (b : UInt8) : Bool := b == 0x00 || b == 0x01

/-- The response octets in the on-request data of a reply to a poll. -/
def responseOctets (od : List UInt8) : List UInt8 := od.dropWhile isduIdleOctet

@[simp]
theorem outcome_nil :
  outcome [] = none
  := rfl

/-- Response octets go on once the first has come. -/
theorem responseOctets_append {xs : List UInt8} (h : responseOctets xs ≠ []) (ys : List UInt8) :
  responseOctets (xs ++ ys) = responseOctets xs ++ ys
  := by
  simp only [responseOctets] at h ⊢
  rw [List.dropWhile_append, if_neg]
  rw [List.isEmpty_iff]
  apply h

/-- Idle octets before a response are no part of it. -/
theorem responseOctets_idle {xs : List UInt8} (h : responseOctets xs = []) (ys : List UInt8) :
  responseOctets (xs ++ ys) = responseOctets ys
  := by
  simp only [responseOctets] at h ⊢
  rw [List.dropWhile_append, if_pos]
  rw [List.isEmpty_iff]
  apply h

/-- Octets after the first do not change a declared length. -/
theorem declaredTotal_append {stream : List UInt8} {n : Nat} (h : declaredTotal stream = some n)
    (od : List UInt8) :
  declaredTotal (stream ++ od) = some n
  := by
  rcases stream with _ | ⟨head, _ | ⟨ext, rest⟩⟩
  · contradiction
  · simp only [declaredTotal, List.cons_append] at h ⊢
    split at h
    · next hn => rw [if_pos hn, h]
    · contradiction
  · apply h

/-- A complete response stays what it is when more octets arrive. -/
theorem outcome_append {stream : List UInt8} {o : Outcome} (h : outcome stream = some o)
    (od : List UInt8) :
  outcome (stream ++ od) = some o
  := by
  rcases stream with _ | ⟨head, rest⟩
  · contradiction
  · simp only [outcome, List.cons_append, reduceCtorEq, if_false, List.getD_cons_zero] at h ⊢
    split
    · next h0 =>
      rw [if_pos h0] at h
      apply h
    · next h0 =>
      rw [if_neg h0] at h
      split at h
      · contradiction
      · next n hn =>
        split at h
        · next hlen =>
          rw [← List.cons_append, declaredTotal_append hn]
          have hlen' : ((head :: rest) ++ od).length ≥ n := by
            rw [List.length_append]
            omega
          simp only [hlen', if_true]
          rw [List.take_append_of_le_length hlen, h]
        · contradiction

/-! ### The receiver computes the outcome -/

/-- The state `s` of a service has received the response octets `stream`. -/
def Receives (s : IsduState) (stream : List UInt8) : Prop :=
  s.op ≠ .none ∧
    match outcome stream with
    | none =>
      s.done = false ∧ s.idlePending = false ∧ s.abortPending = false ∧
        s.error = ISDU_ERROR_NONE ∧
        if stream = [] then s.phase = .wait
        else s.phase = .response ∧ s.response = stream ∧
          s.expectedLen = (declaredTotal stream).getD 0
    | some o =>
      s.done = true ∧ s.phase = .none ∧ s.idlePending = o.idle ∧ s.abortPending = o.abort ∧
        s.error = o.error ∧ ∀ data, o = .positive data → s.response = data

/-- A service waiting for its response has received nothing. -/
theorem receives_nil {s : IsduState} :
  Receives s [] ↔ s.op ≠ .none ∧ s.done = false ∧ s.idlePending = false ∧
    s.abortPending = false ∧ s.error = ISDU_ERROR_NONE ∧ s.phase = .wait
  := by
  simp [Receives]

/-- A service that received part of its response. -/
theorem receives_open {s : IsduState} {stream : List UInt8} (hne : stream ≠ [])
    (ho : outcome stream = none) :
  Receives s stream ↔ s.op ≠ .none ∧ s.done = false ∧ s.idlePending = false ∧
    s.abortPending = false ∧ s.error = ISDU_ERROR_NONE ∧ s.phase = .response ∧
    s.response = stream ∧ s.expectedLen = (declaredTotal stream).getD 0
  := by
  simp [Receives, ho, hne]

/-- A service that received its response. -/
theorem receives_done {s : IsduState} {stream : List UInt8} {o : Outcome}
    (ho : outcome stream = some o) :
  Receives s stream ↔ s.op ≠ .none ∧ s.done = true ∧ s.phase = .none ∧
    s.idlePending = o.idle ∧ s.abortPending = o.abort ∧ s.error = o.error ∧
    ∀ data, o = .positive data → s.response = data
  := by
  simp [Receives, ho]

/-- Decoding a response of exactly the declared length gives its outcome. -/
theorem receives_decodeResponse {s : IsduState} (hop : s.op ≠ .none)
    (hidle : s.idlePending = false) (habort : s.abortPending = false)
    (herror : s.error = ISDU_ERROR_NONE) (h2 : 2 ≤ s.response.length)
    (hle : s.response.length ≤ 255)
    (ho : outcome s.response = some (completeOutcome s.response)) :
  Receives (isduDecodeResponse s) s.response
  := by
  have hfirst : s.response.getD 0 0 = s.firstOctet := rfl
  rw [receives_done ho]
  simp only [isduDecodeResponse, completeOutcome, hfirst]
  by_cases hchk : isduChkpdu s.response ≠ 0
  · simp [hchk, hop, hidle, Outcome.idle, Outcome.abort, Outcome.error]
  · by_cases hneg : s.firstOctet >>> ISDU_SERVICE_SHIFT = 0x4 ∨
        s.firstOctet >>> ISDU_SERVICE_SHIFT = 0xC
    · simp only [hchk, if_false, hneg, if_true]
      simp [hop, habort, Outcome.idle, Outcome.abort, Outcome.error]
    · simp only [hchk, if_false, hneg]
      have hdata : ∀ start, start = 1 ∨ start = 2 →
          (s.response.drop start).take
              ((s.response.length + 65536 - start - ISDU_CHKPDU_LEN) % 65536)
            = (s.response.drop start).dropLast := by
        intro start hstart
        rw [List.dropLast_eq_take, List.length_drop]
        by_cases hlong : start < s.response.length
        · congr 1
          simp only [ISDU_CHKPDU_LEN]
          omega
        · rw [List.drop_eq_nil_of_le (by omega)]
          simp
      have h1 := hdata 1 (by simp)
      have h2 := hdata 2 (by simp)
      by_cases hext : s.firstOctet &&& 0x0F = 0x01
      · simp only [hext, if_true, h2]
        simp [hop, habort, herror, Outcome.idle, Outcome.abort, Outcome.error]
      · simp only [hext, if_false, h1]
        simp [hop, habort, herror, Outcome.idle, Outcome.abort, Outcome.error]

/-- The declared length of an incomplete response exceeds what was collected. -/
theorem length_lt_declaredTotal {stream : List UInt8} {n : Nat} (ho : outcome stream = none)
    (hn : declaredTotal stream = some n) (hne : stream ≠ []) :
  stream.length < n
  := by
  simp only [outcome, hne, if_false, hn] at ho
  split at ho
  · contradiction
  · split at ho
    · contradiction
    · omega

/-- A declared length fits an octet and covers the length field. -/
theorem declaredTotal_bounds {stream : List UInt8} {n : Nat} (hn : declaredTotal stream = some n) :
  2 ≤ n ∧ n ≤ 255
  := by
  rcases stream with _ | ⟨head, _ | ⟨ext, rest⟩⟩
  · contradiction
  · have := (head &&& 0x0F).toNat_lt
    simp only [declaredTotal] at hn
    split at hn
    · simp only [Option.some.injEq] at hn
      omega
    · contradiction
  · have := (head &&& 0x0F).toNat_lt
    have := ext.toNat_lt
    simp only [declaredTotal] at hn
    split at hn <;> simp only [Option.some.injEq] at hn <;> omega

/-- A service in the middle of its response. -/
structure Collecting (s : IsduState) : Prop where
  op : s.op ≠ .none
  notDone : s.done = false
  noIdle : s.idlePending = false
  noAbort : s.abortPending = false
  noError : s.error = ISDU_ERROR_NONE
  phase : s.phase = .response

/-- Comparing the collected octets with the declared length `n` decides whether the
response is complete. -/
theorem receives_checkComplete {s : IsduState} {stream : List UInt8} {n : Nat}
    (hs : Collecting s) (hresp : s.response = stream) (hexp : s.expectedLen = n)
    (h0 : stream.getD 0 0 &&& 0x0F ≠ 0) (h2 : 2 ≤ n ∨ 2 ≤ stream.length)
    (hn : declaredTotal stream = some (max 2 n)) (hlen : stream.length ≤ max 2 n) :
  Receives (isduCheckComplete s).1 stream
  := by
  have hbounds := declaredTotal_bounds hn
  have hne : stream ≠ [] := by
    rintro rfl
    contradiction
  have hpos := List.length_pos_iff.mpr hne
  by_cases hc : stream.length ≥ n
  · have heq : stream.length = max 2 n := by omega
    have ho : outcome stream = some (completeOutcome stream) := by
      simp only [outcome, hne, if_false, h0, hn, heq, ge_iff_le, le_refl, if_true]
      rw [← heq, List.take_length]
    simp only [isduCheckComplete, hresp, hexp, hc, if_true]
    rw [← hresp] at heq ho ⊢
    apply receives_decodeResponse hs.op hs.noIdle hs.noAbort hs.noError (by omega) (by omega) ho
  · have ho : outcome stream = none := by
      have hshort : ¬ stream.length ≥ max 2 n := by omega
      simp only [outcome, hne, if_false, h0, hn, hshort]
    have hmax : max 2 n = n := by omega
    simp only [isduCheckComplete, hresp, hexp, hc, if_false]
    rw [receives_open hne ho]
    exact ⟨hs.op, hs.notDone, hs.noIdle, hs.noAbort, hs.noError, hs.phase, hresp,
      by rw [hexp, hn, hmax, Option.getD_some]⟩

/-- A state with an idle transport error. -/
theorem receives_malformed {s : IsduState} {stream : List UInt8} (hop : s.op ≠ .none)
    (hidle : s.idlePending = false) (habort : s.abortPending = false)
    (ho : outcome stream = some .malformed) :
  Receives (isduSegmentationError s) stream
  := by
  rw [receives_done ho]
  simp [isduSegmentationError, hop, hidle, habort, Outcome.idle, Outcome.abort, Outcome.error]

/-- The first octet of a response. -/
theorem receives_first {s : IsduState} {b : UInt8} (hs : Receives s [])
    (hb : isduIdleOctet b = false) :
  Receives (isduOnOctet s b).1 [b]
  := by
  obtain ⟨hop, hdone, hidle, habort, herror, hphase⟩ := receives_nil.mp hs
  simp only [isduIdleOctet, Bool.or_eq_false_iff, beq_eq_false_iff_ne] at hb
  rw [isduOnOctet_first hphase hb.1 hb.2]
  have hsmall : ¬ ([] : List UInt8).length ≥ ISDU_BUFFER_SIZE := by decide
  simp only [isduCollect, isduBeginResponse, hsmall, if_false, List.nil_append, if_true,
    IsduState.firstOctet, List.getD_cons_zero, List.length_singleton, Nat.one_lt_ofNat]
  by_cases h2 : b &&& 0x0F ≥ 2
  · have h2' : (b &&& 0x0F).toNat ≥ 2 := UInt8.le_iff_toNat_le.mp h2
    have h0 : b &&& 0x0F ≠ 0 := by
      intro h0
      rw [h0] at h2'
      contradiction
    have hn : declaredTotal [b] = some (max 2 (b &&& 0x0F).toNat) := by
      rw [declaredTotal, if_pos h2', Nat.max_eq_right h2']
    rw [if_pos h2]
    apply receives_checkComplete
    · exact ⟨hop, hdone, hidle, habort, herror, rfl⟩
    · rfl
    · rfl
    · apply h0
    · left
      apply h2'
    · apply hn
    · simp only [List.length_singleton]
      omega
  · have h2' : ¬ (b &&& 0x0F).toNat ≥ 2 := by
      rwa [ge_iff_le, UInt8.le_iff_toNat_le] at h2
    rw [if_neg h2]
    by_cases h1 : b &&& 0x0F = 1
    · have ho : outcome [b] = none := by
        simp [outcome, h1, declaredTotal]
      have hdecl : declaredTotal [b] = none := by
        simp [h1, declaredTotal]
      rw [if_pos h1, receives_open (by simp) ho]
      simp [hop, hdone, hidle, habort, herror, hdecl]
    · have h0 : b &&& 0x0F = 0 := by
        have hcases : (b &&& 0x0F).toNat = 0 ∨ (b &&& 0x0F).toNat = 1 := by omega
        rcases hcases with h | h
        · apply UInt8.toNat_inj.mp h
        · exfalso
          apply h1 (UInt8.toNat_inj.mp h)
      rw [if_neg h1]
      apply receives_malformed
      · apply hop
      · apply hidle
      · apply habort
      · simp [outcome, h0]

/-- The first octet of a stream does not change when octets are appended. -/
theorem getD_append_zero {stream : List UInt8} (hne : stream ≠ []) (od : List UInt8) :
  (stream ++ od).getD 0 0 = stream.getD 0 0
  := by
  rcases stream with _ | ⟨head, rest⟩
  · contradiction
  · rfl

/-- A further octet of a response. -/
theorem receives_next {s : IsduState} {stream : List UInt8} (b : UInt8) (hs : Receives s stream)
    (hne : stream ≠ []) (ho : outcome stream = none) :
  Receives (isduOnOctet s b).1 (stream ++ [b])
  := by
  obtain ⟨hop, hdone, hidle, habort, herror, hphase, hresp, hexp⟩ := (receives_open hne ho).mp hs
  have h0 : (stream ++ [b]).getD 0 0 &&& 0x0F ≠ 0 := by
    intro h0
    rw [getD_append_zero hne] at h0
    simp only [outcome, hne, if_false, h0, if_true] at ho
    contradiction
  have hwait : s.phase ≠ .wait := by simp [hphase]
  simp only [isduOnOctet, hwait, if_false, isduCollect]
  cases hn : declaredTotal stream with
  | some n =>
      have hlt := length_lt_declaredTotal ho hn hne
      have hbounds := declaredTotal_bounds hn
      have hexp' : s.expectedLen = n := by simp [hexp, hn]
      have hmax : max 2 n = n := by omega
      have hbuf : ¬ s.response.length ≥ ISDU_BUFFER_SIZE := by
        rw [hresp]
        simp only [ISDU_BUFFER_SIZE]
        omega
      have hnz : s.expectedLen ≠ 0 := by omega
      simp only [hbuf, if_false, hnz]
      apply receives_checkComplete
      · exact ⟨hop, hdone, hidle, habort, herror, hphase⟩
      · rw [hresp]
      · apply hexp'
      · apply h0
      · left
        omega
      · rw [declaredTotal_append hn, hmax]
      · simp only [hmax, List.length_append, List.length_singleton]
        omega
  | none =>
      -- Only the first octet of an extended length is known.
      obtain ⟨head, rfl⟩ : ∃ head, stream = [head] := by
        rcases stream with _ | ⟨head, _ | ⟨ext, rest⟩⟩
        · contradiction
        · use head
        · simp only [declaredTotal] at hn
          split at hn <;> contradiction
      have hshort : ¬ (head &&& 0x0F).toNat ≥ 2 := by
        intro h
        rw [declaredTotal, if_pos h] at hn
        contradiction
      have hnib : ¬ head &&& 0x0F ≥ 2 := by
        rwa [ge_iff_le, UInt8.le_iff_toNat_le]
      have h1 : head &&& 0x0F = 1 := by
        have hcases : (head &&& 0x0F).toNat = 0 ∨ (head &&& 0x0F).toNat = 1 := by omega
        rcases hcases with h | h
        · exfalso
          apply h0 (UInt8.toNat_inj.mp h)
        · apply UInt8.toNat_inj.mp h
      have hexp' : s.expectedLen = 0 := by simp [hexp, hn]
      have hbuf : ¬ s.response.length ≥ ISDU_BUFFER_SIZE := by
        simp [hresp, ISDU_BUFFER_SIZE]
      have hfirst : (s.response ++ [b]).getD 0 0 = head := by simp [hresp]
      have hlen : ¬ (s.response ++ [b]).length < 2 := by simp [hresp]
      have hget : (s.response ++ [b]).getD 1 0 = b := by simp [hresp]
      have hnot : ¬ (1 : UInt8) ≥ 2 := by decide
      simp only [hbuf, if_false, hexp', if_true, IsduState.firstOctet, hfirst, h1, hnot, hlen, hget]
      apply receives_checkComplete
      · exact ⟨hop, hdone, hidle, habort, herror, hphase⟩
      · rw [hresp]
      · rfl
      · apply h0
      · right
        simp
      · rw [List.singleton_append, declaredTotal, if_neg hshort]
      · simp only [List.length_append, List.length_singleton]
        omega

/-- A service that received its response ignores further octets. -/
theorem receives_more {s : IsduState} {stream : List UInt8} {o : Outcome} (hs : Receives s stream)
    (ho : outcome stream = some o) (od : List UInt8) :
  Receives s (stream ++ od) ∧ isduOnOd s od = s
  := by
  have h := (receives_done ho).mp hs
  constructor
  · apply (receives_done (outcome_append ho od)).mpr h
  · apply isduOnOd_of_not_receiving
    simp [isduReceiving, h.2.1]

/-- A service in the middle of its response takes octets. -/
theorem isduReceiving_of_receives {s : IsduState} {stream : List UInt8} (hs : Receives s stream)
    (ho : outcome stream = none) :
  isduReceiving s = true
  := by
  by_cases hne : stream = []
  · subst hne
    obtain ⟨hop, hdone, -, -, -, hphase⟩ := receives_nil.mp hs
    simp [isduReceiving, hop, hdone, hphase]
  · obtain ⟨hop, hdone, -, -, -, hphase, -⟩ := (receives_open hne ho).mp hs
    simp [isduReceiving, hop, hdone, hphase]

/-- The on-request data of a reply extends the response received so far. -/
theorem receives_append {s : IsduState} {stream : List UInt8} (hs : Receives s stream)
    (hne : stream ≠ []) (od : List UInt8) :
  Receives (isduOnOd s od) (stream ++ od)
  := by
  induction od generalizing s stream with
  | nil => simpa using hs
  | cons b od ih =>
      cases ho : outcome stream with
      | some o =>
          obtain ⟨hmore, hsame⟩ := receives_more hs ho (b :: od)
          rw [hsame]
          apply hmore
      | none =>
          rw [isduOnOd_cons b od (isduReceiving_of_receives hs ho)]
          have hnext := ih (receives_next b hs hne ho) (by simp)
          rwa [List.append_assoc] at hnext

/-- A reply to a poll starts the response with its first octet that is not idle. -/
theorem receives_poll {s : IsduState} (hs : Receives s []) (od : List UInt8) :
  Receives (isduOnOd s od) (responseOctets od)
  := by
  induction od with
  | nil => simpa [responseOctets] using hs
  | cons b od ih =>
      rw [isduOnOd_cons b od (isduReceiving_of_receives hs outcome_nil)]
      cases hb : isduIdleOctet b with
      | true =>
          obtain ⟨-, -, -, -, -, hphase⟩ := receives_nil.mp hs
          have hskip : (isduOnOctet s b).1 = s := by
            simp only [isduIdleOctet, Bool.or_eq_true, beq_iff_eq] at hb
            simp [isduOnOctet, hphase, hb]
          simpa [hskip, responseOctets, hb] using ih
      | false =>
          have hfirst := receives_append (receives_first hs hb) (by simp) od
          simpa [responseOctets, hb] using hfirst

end IolinkMaster
