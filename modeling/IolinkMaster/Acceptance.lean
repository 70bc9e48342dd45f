import IolinkMaster.Conclusion

/-!
# Which response streams pass the framing check

The framing of a response PDU, stated on its octets, and the streams on which the receive
side of the transport decides by it.
-/

namespace IolinkMaster

/-! ### The framing of a response -/

/-- The least total length with an ExtLength octet. -/
def ISDU_EXT_MIN : Nat := 17

/-- The Length nibble of the first octet. -/
def lengthNibble (stream : List UInt8) : Nat := (stream.getD 0 0 &&& 0x0F).toNat

/-- The total number of octets that the length fields of a stream declare, if they are there. -/
def responseLength : List UInt8 → Option Nat
  | [] => none
  | head :: rest =>
    if (head &&& 0x0F).toNat = 1 then rest.head?.map (·.toNat) else some (head &&& 0x0F).toNat

/-- All octets a stream declares are there. -/
def Complete (stream : List UInt8) : Prop := ∃ n, responseLength stream = some n ∧ n ≤ stream.length

/-- The length fields of a PDU are valid and agree with its number of octets. -/
def LengthValid (pdu : List UInt8) : Prop :=
  (2 ≤ lengthNibble pdu ∧ pdu.length = lengthNibble pdu) ∨
    (lengthNibble pdu = 1 ∧ pdu.length = (pdu.getD 1 0).toNat ∧
      ISDU_EXT_MIN ≤ pdu.length ∧ pdu.length ≤ ISDU_EXT_MAX)

/-- A response PDU is framed as the protocol says. -/
def Framed (pdu : List UInt8) : Prop := LengthValid pdu ∧ isduChkpdu pdu = 0

/-- The service passed the framing check. -/
def FramingAccepted (s : IsduState) : Prop := s.done = true ∧ s.idlePending = true

/-- A service in the state `s` hands no octet to a caller of `read_isdu`. -/
def DeliversNothing (s : IsduState) : Prop :=
  ∀ (w : World) (index : UInt16) (subindex cap : UInt8), w.port.isdu = s →
    (readIsdu w index subindex cap).2.data = []

/-- In the state `s` the transport has decided on the response octets `stream` by their
framing. -/
structure ParsesFraming (s : IsduState) (stream : List UInt8) : Prop where
  accepts : FramingAccepted s ↔ ∃ pdu, pdu <+: stream ∧ Framed pdu
  rejects : Complete stream → (¬ ∃ pdu, pdu <+: stream ∧ Framed pdu) →
    s.done = true ∧ s.error ≠ ISDU_ERROR_NONE ∧ DeliversNothing s
  waits : s.done = false → ∀ n, responseLength stream = some n → stream.length < n

/-- A stream declares a reserved ExtLength above 2, and the octets so declared XOR to zero. -/
def ReservedExtLength (stream : List UInt8) : Prop :=
  lengthNibble stream = 1 ∧ ∃ n, responseLength stream = some n ∧ n ≤ stream.length ∧
    isduChkpdu (stream.take n) = 0 ∧ (3 ≤ n ∧ n < ISDU_EXT_MIN ∨ ISDU_EXT_MAX < n)

/-! ### What the transport accepts -/

/-- The octets a stream declares XOR to zero, and their number is one the transport can
accept. -/
def XorClosed (stream : List UInt8) (n : Nat) : Prop :=
  responseLength stream = some n ∧ n ≤ stream.length ∧ isduChkpdu (stream.take n) = 0 ∧
    (2 ≤ lengthNibble stream ∨ lengthNibble stream = 1 ∧ 3 ≤ n)

/-- The first octet of a response is not idle. -/
theorem responseOctets_head (od : List UInt8) {head : UInt8} {rest : List UInt8}
    (h : responseOctets od = head :: rest) :
  isduIdleOctet head = false
  := by
  have hdrop : od.dropWhile isduIdleOctet = head :: rest := h
  have hne : od.dropWhile isduIdleOctet ≠ [] := by simp [hdrop]
  have hhead := List.head_dropWhile_not isduIdleOctet hne
  simpa only [hdrop, List.head_cons] using hhead

/-- A complete response ends with the concluding IDLE if and only if it XORs to zero. -/
theorem completeOutcome_idle (pdu : List UInt8) :
  (completeOutcome pdu).idle = true ↔ isduChkpdu pdu = 0
  := by
  simp only [completeOutcome]
  split
  · next h => simp [Outcome.idle, h]
  · next h =>
    rw [not_not] at h
    split <;> simp [Outcome.idle, h]

/-- A head with the extended Length and an ExtLength of at most 2 do not XOR to zero. -/
theorem isduChkpdu_short {head ext : UInt8} (hnibble : (head &&& 0x0F).toNat = 1)
    (hidle : isduIdleOctet head = false) (hext : ext.toNat ≤ 2) :
  isduChkpdu [head, ext] ≠ 0
  := by
  have hchk : isduChkpdu [head, ext] = head ^^^ ext := by simp [isduChkpdu]
  rw [hchk, Ne, UInt8.xor_eq_zero_iff]
  rintro rfl
  -- A head of at most 2 is idle or has another Length.
  have hcases : head.toNat = 0 ∨ head.toNat = 1 ∨ head.toNat = 2 := by omega
  rcases hcases with h | h | h
  · rw [UInt8.toNat_inj (b := 0) |>.mp h] at hidle
    contradiction
  · rw [UInt8.toNat_inj (b := 1) |>.mp h] at hidle
    contradiction
  · rw [UInt8.toNat_inj (b := 2) |>.mp h] at hnibble
    contradiction

/-- The transport takes at least two octets of a response. -/
theorem declaredTotal_eq {stream : List UInt8} (h0 : lengthNibble stream ≠ 0) :
  declaredTotal stream = (responseLength stream).map (max 2)
  := by
  rcases stream with _ | ⟨head, rest⟩
  · rfl
  · simp only [lengthNibble, List.getD_cons_zero] at h0
    simp only [declaredTotal, responseLength]
    generalize (head &&& 0x0F).toNat = nibble at h0 ⊢
    by_cases h1 : nibble = 1
    · subst h1
      rcases rest with _ | ⟨ext, rest⟩ <;> rfl
    · have h2 : nibble ≥ 2 := by omega
      rw [if_pos h2, if_neg h1, Option.map_some, Nat.max_eq_right h2]

/-- A stream with the reserved Length 0 declares no octets. -/
theorem responseLength_zero {stream : List UInt8} (hne : stream ≠ [])
    (h0 : lengthNibble stream = 0) :
  responseLength stream = some 0
  := by
  rcases stream with _ | ⟨head, rest⟩
  · contradiction
  · simp only [lengthNibble, List.getD_cons_zero] at h0
    simp [responseLength, h0]

/-- A stream that declares less than two octets has two. -/
theorem responseLength_two {stream : List UInt8} {n : Nat} (h0 : lengthNibble stream ≠ 0)
    (hn : responseLength stream = some n) :
  2 ≤ lengthNibble stream ∧ n = lengthNibble stream ∨
    lengthNibble stream = 1 ∧ ∃ head ext rest, stream = head :: ext :: rest ∧ n = ext.toNat
  := by
  rcases stream with _ | ⟨head, rest⟩
  · contradiction
  · simp only [lengthNibble, List.getD_cons_zero] at h0 ⊢
    by_cases h1 : (head &&& 0x0F).toNat = 1
    · right
      rcases rest with _ | ⟨ext, rest⟩
      · simp [responseLength, h1] at hn
      · simp only [responseLength, h1, if_true, List.head?_cons, Option.map_some,
          Option.some.injEq] at hn
        exact ⟨h1, head, ext, rest, rfl, hn.symm⟩
    · left
      simp only [responseLength, h1, if_false, Option.some.injEq] at hn
      omega

/-- The outcome of a stream, on the length it declares. -/
theorem outcome_eq (stream : List UInt8) :
  outcome stream =
    (responseLength stream).bind fun n =>
      if lengthNibble stream = 0 then some .malformed
      else if n ≤ stream.length then some (completeOutcome (stream.take (max 2 n)))
      else none
  := by
  by_cases hne : stream = []
  · subst hne
    rfl
  · have hzero : stream.getD 0 0 &&& 0x0F = 0 ↔ lengthNibble stream = 0 := by
      rw [lengthNibble, ← UInt8.toNat_inj]
      rfl
    simp only [outcome, hne, if_false, hzero]
    by_cases h0 : lengthNibble stream = 0
    · simp [h0, responseLength_zero hne h0]
    · rw [declaredTotal_eq h0]
      simp only [h0, if_false]
      cases hn : responseLength stream with
      | none => rfl
      | some n =>
          have hlen : stream.length ≥ max 2 n ↔ n ≤ stream.length := by
            rcases responseLength_two h0 hn with ⟨_, _⟩ | ⟨_, head, ext, rest, rfl, _⟩
            · omega
            · simp only [List.length_cons]
              omega
          simp only [Option.map_some, Option.bind_some, hlen]

/-- The outcome of a stream is known if and only if the stream is complete. -/
theorem outcome_isSome (stream : List UInt8) :
  (outcome stream).isSome = true ↔ Complete stream
  := by
  rw [outcome_eq, Complete]
  cases hn : responseLength stream with
  | none => simp
  | some n =>
      have hzero : lengthNibble stream = 0 → n = 0 := by
        intro h0
        have hne : stream ≠ [] := by
          rintro rfl
          contradiction
        rw [responseLength_zero hne h0, Option.some.injEq] at hn
        exact hn.symm
      simp only [Option.bind_some, Option.some.injEq, exists_eq_left']
      split
      · next h0 => simp [hzero h0]
      · split <;> simp [*]

/-- The outcome of the octets of a reply ends with the concluding IDLE if and only if they are
closed. -/
theorem outcome_idle (od : List UInt8) :
  (∃ o, outcome (responseOctets od) = some o ∧ o.idle = true) ↔
    ∃ n, XorClosed (responseOctets od) n
  := by
  generalize hstream : responseOctets od = stream
  rw [outcome_eq]
  simp only [XorClosed]
  cases hn : responseLength stream with
  | none => simp
  | some n =>
      simp only [Option.bind_some, Option.some.injEq, exists_eq_left']
      by_cases h0 : lengthNibble stream = 0
      · simp [h0, Outcome.idle]
      · by_cases hlen : n ≤ stream.length
        · simp only [h0, if_false, hlen, if_true, Option.some.injEq, exists_eq_left', true_and,
            completeOutcome_idle]
          rcases responseLength_two h0 hn with ⟨h2, hn2⟩ | ⟨h1, head, ext, rest, rfl, hext⟩
          · rw [Nat.max_eq_right (by omega)]
            simp [h2]
          · by_cases h3 : 3 ≤ n
            · rw [Nat.max_eq_right (by omega)]
              simp [h1, h3]
            · have hshort : isduChkpdu [head, ext] ≠ 0 :=
                isduChkpdu_short h1 (responseOctets_head od hstream) (by omega)
              rw [Nat.max_eq_left (by omega)]
              simp [h1, h3, hshort]
        · simp [h0, hlen]

/-- The total lengths with valid length fields. -/
def ValidTotal (nibble n : Nat) : Prop :=
  2 ≤ nibble ∨ nibble = 1 ∧ ISDU_EXT_MIN ≤ n ∧ n ≤ ISDU_EXT_MAX

/-- A PDU with valid length fields declares its own length, also at the start of a stream. -/
theorem responseLength_append {pdu : List UInt8} (h : LengthValid pdu) (tail : List UInt8) :
  responseLength (pdu ++ tail) = some pdu.length ∧
    ValidTotal (lengthNibble (pdu ++ tail)) pdu.length
  := by
  rcases pdu with _ | ⟨head, rest⟩
  · rcases h with ⟨h2, -⟩ | ⟨h1, -⟩
    · exact absurd h2 (by decide)
    · exact absurd h1 (by decide)
  · simp only [LengthValid, lengthNibble, List.getD_cons_zero] at h
    simp only [List.cons_append, lengthNibble, List.getD_cons_zero, responseLength, ValidTotal]
    rcases h with ⟨h2, hlen⟩ | ⟨h1, hlen, hmin, hmax⟩
    · have hn : ¬ (head &&& 0x0F).toNat = 1 := by omega
      rw [if_neg hn, hlen]
      exact ⟨rfl, .inl h2⟩
    · rcases rest with _ | ⟨ext, rest⟩
      · simp [ISDU_EXT_MIN] at hmin
      · rw [List.getD_cons_succ, List.getD_cons_zero] at hlen
        rw [if_pos h1, List.cons_append, List.head?_cons, Option.map_some, hlen]
        exact ⟨rfl, .inr ⟨h1, hlen ▸ hmin, hlen ▸ hmax⟩⟩

/-- The octets a stream declares have valid length fields if their number is valid. -/
theorem lengthValid_take {stream : List UInt8} {n : Nat} (hn : responseLength stream = some n)
    (hlen : n ≤ stream.length) (hvalid : ValidTotal (lengthNibble stream) n) :
  LengthValid (stream.take n)
  := by
  have h0 : lengthNibble stream ≠ 0 := by
    rcases hvalid with h2 | ⟨h1, -⟩ <;> omega
  have htake : (stream.take n).length = n := List.length_take_of_le hlen
  rcases responseLength_two h0 hn with ⟨h2, rfl⟩ | ⟨h1, head, ext, rest, rfl, hext⟩
  · left
    have hhead : lengthNibble (stream.take (lengthNibble stream)) = lengthNibble stream := by
      rcases stream with _ | ⟨head, rest⟩
      · contradiction
      · obtain ⟨m, hm⟩ := Nat.exists_eq_add_of_le' (show 1 ≤ lengthNibble (head :: rest) by omega)
        rw [hm, List.take_succ_cons, ← hm]
        rfl
    refine ⟨?_, ?_⟩
    · rw [hhead]
      apply h2
    · rw [htake, hhead]
  · right
    obtain ⟨hmin, hmax⟩ : ISDU_EXT_MIN ≤ n ∧ n ≤ ISDU_EXT_MAX := by
      rcases hvalid with h2 | ⟨-, h⟩
      · omega
      · exact h
    obtain ⟨m, hm⟩ : ∃ m, n = m + 2 :=
      ⟨n - 2, by simp only [ISDU_EXT_MIN] at hmin; omega⟩
    have heq : (head :: ext :: rest).take n = head :: ext :: rest.take m := by
      rw [hm, List.take_succ_cons, List.take_succ_cons]
    rw [htake, heq]
    exact ⟨h1, hext, hmin, hmax⟩

/-- A stream starts with a framed PDU if and only if it declares a valid length whose octets
are there and XOR to zero. -/
theorem framed_prefix_iff (stream : List UInt8) :
  (∃ pdu, pdu <+: stream ∧ Framed pdu) ↔
    ∃ n, responseLength stream = some n ∧ n ≤ stream.length ∧
      isduChkpdu (stream.take n) = 0 ∧ ValidTotal (lengthNibble stream) n
  := by
  constructor
  · rintro ⟨pdu, ⟨tail, rfl⟩, hvalid, hchk⟩
    obtain ⟨hn, htotal⟩ := responseLength_append hvalid tail
    refine ⟨pdu.length, hn, ?_, ?_, htotal⟩
    · simp
    · rw [List.take_left]
      apply hchk
  · rintro ⟨n, hn, hlen, hchk, htotal⟩
    exact ⟨stream.take n, List.take_prefix n stream, lengthValid_take hn hlen htotal, hchk⟩

/-- A stream is closed if and only if it starts with a framed PDU, or with octets under a
reserved ExtLength. -/
theorem xorClosed_iff (stream : List UInt8) :
  (∃ n, XorClosed stream n) ↔ (∃ pdu, pdu <+: stream ∧ Framed pdu) ∨ ReservedExtLength stream
  := by
  rw [framed_prefix_iff, ReservedExtLength]
  constructor
  · rintro ⟨n, hn, hlen, hchk, h2 | ⟨h1, h3⟩⟩
    · left
      exact ⟨n, hn, hlen, hchk, .inl h2⟩
    · by_cases hvalid : ISDU_EXT_MIN ≤ n ∧ n ≤ ISDU_EXT_MAX
      · left
        exact ⟨n, hn, hlen, hchk, .inr ⟨h1, hvalid⟩⟩
      · right
        exact ⟨h1, n, hn, hlen, hchk, by omega⟩
  · rintro (⟨n, hn, hlen, hchk, h2 | ⟨h1, hmin, hmax⟩⟩ | ⟨h1, n, hn, hlen, hchk, hreserved⟩)
    · exact ⟨n, hn, hlen, hchk, .inl h2⟩
    · refine ⟨n, hn, hlen, hchk, .inr ⟨h1, ?_⟩⟩
      simp only [ISDU_EXT_MIN] at hmin
      omega
    · refine ⟨n, hn, hlen, hchk, .inr ⟨h1, ?_⟩⟩
      simp only [ISDU_EXT_MAX] at hreserved
      omega

/-- No stream with a reserved ExtLength is framed. -/
theorem not_framed_of_reserved {stream : List UInt8} (h : ReservedExtLength stream) :
  ¬ ∃ pdu, pdu <+: stream ∧ Framed pdu
  := by
  rw [framed_prefix_iff]
  rintro ⟨n, hn, -, -, htotal⟩
  obtain ⟨h1, m, hm, -, -, hreserved⟩ := h
  rw [hn, Option.some.injEq] at hm
  rcases htotal with h2 | ⟨-, hmin, hmax⟩ <;> omega

/-! ### The receive side of the transport -/

/-- A completed service passed the framing check if and only if its outcome is idle. -/
theorem framingAccepted_iff {s : IsduState} {stream : List UInt8} (hs : Receives s stream) :
  FramingAccepted s ↔ ∃ o, outcome stream = some o ∧ o.idle = true
  := by
  obtain ⟨hop, hs⟩ := hs
  cases ho : outcome stream with
  | none =>
      rw [ho] at hs
      simp [FramingAccepted, hs.1]
  | some o =>
      rw [ho] at hs
      simp [FramingAccepted, hs.1, hs.2.2.1]

/-- A service that carries an error delivers nothing. -/
theorem deliversNothing_of_error {s : IsduState} (h : s.error ≠ ISDU_ERROR_NONE) :
  DeliversNothing s
  := by
  intro w index subindex cap hs
  have hcases := readIsdu_cases w index subindex cap
  revert hcases
  generalize readIsdu w index subindex cap = r
  rintro (_ | _ | _ | ⟨-, -, herror⟩ | _)
  · rfl
  · rfl
  · rfl
  · rw [hs] at herror
    contradiction
  · rfl

/-- The transport decides on a stream by its framing if and only if the stream has no reserved
ExtLength that closes it. -/
theorem parsesFraming_of_receives {s : IsduState} {od : List UInt8}
    (hs : Receives s (responseOctets od)) :
  ParsesFraming s (responseOctets od) ↔ ¬ ReservedExtLength (responseOctets od)
  := by
  have haccepted := (framingAccepted_iff hs).trans ((outcome_idle od).trans (xorClosed_iff _))
  constructor
  · intro h hreserved
    apply not_framed_of_reserved hreserved
    apply h.accepts.mp
    apply haccepted.mpr (.inr hreserved)
  · intro hreserved
    have haccepts : FramingAccepted s ↔ ∃ pdu, pdu <+: responseOctets od ∧ Framed pdu := by
      rw [haccepted, or_iff_left hreserved]
    refine ⟨haccepts, ?_, ?_⟩
    · intro hcomplete hframed
      obtain ⟨o, ho⟩ := Option.isSome_iff_exists.mp ((outcome_isSome _).mpr hcomplete)
      obtain ⟨-, hdone, -, hidle, -, herror, -⟩ := (receives_done ho).mp hs
      have hnoidle : o.idle = false := by
        rw [Bool.eq_false_iff]
        intro h
        apply hframed
        apply haccepts.mp ⟨hdone, hidle.trans h⟩
      have hfailed : s.error ≠ ISDU_ERROR_NONE := by
        rw [herror]
        cases o with
        | positive data => contradiction
        | negative e => contradiction
        | perturbed => decide
        | malformed => decide
      exact ⟨hdone, hfailed, deliversNothing_of_error hfailed⟩
    · intro hdone n hn
      by_contra hlen
      obtain ⟨o, ho⟩ := Option.isSome_iff_exists.mp
        ((outcome_isSome (responseOctets od)).mpr ⟨n, hn, by omega⟩)
      rw [((receives_done ho).mp hs).2.1] at hdone
      contradiction

/-- In every reachable state with a service waiting for its response, and for every stream of
octets in chunks of any size, the transport decides by the framing of the response if and only
if the response is not closed by a reserved ExtLength. -/
theorem parses_framing {K : Iolinki} (hK : K.Lawful) {phy : PhyApi} {config : Config}
    {allowed : Env → World → Call → Prop} {w : World} (hw : Reach K allowed phy config w)
    (hreceiving : isduReceiving w.port.isdu = true) (hwait : w.port.isdu.phase = .wait)
    (chunks : List (List UInt8)) :
  ParsesFraming (chunks.foldl isduOnOd w.port.isdu) (responseOctets chunks.flatten) ↔
    ¬ ReservedExtLength (responseOctets chunks.flatten)
  := by
  have hsound : w.port.isdu.Sound := (reachable_concluded hK hw).2.sound
  have hreceives := hsound.receives hreceiving chunks.flatten
  rw [receivedStream, if_pos hwait] at hreceives
  rw [foldl_isduOnOd]
  apply parsesFraming_of_receives hreceives

/-- A port of type 2.1 that reads the index 0x10 and waits for the response. -/
def readWaiting : World :=
  run .reference (started (.quiet []) .full (.bare .type2_1 1 1)) readingIndex.dropLast

/-- The port is reached by ticks and services. -/
theorem reach_readWaiting :
  Reach .reference ticksAndServices .full (.bare .type2_1 1 1) readWaiting
  := by
  apply (Reach.start _ (by decide)).run
  decide +kernel

/-- A direct response of one data octet in three chunks, after a busy octet. -/
theorem parses_framing_direct :
  ParsesFraming ([[0x01], [0xD3, 0x55], [0x86]].foldl isduOnOd readWaiting.port.isdu)
    [0xD3, 0x55, 0x86]
  := by
  apply (parses_framing Iolinki.lawful_reference reach_readWaiting (by decide +kernel)
    (by decide +kernel) [[0x01], [0xD3, 0x55], [0x86]]).mpr
  rintro ⟨h1, -⟩
  revert h1
  decide

/-- A response with the reserved ExtLength 3 is accepted. -/
theorem parses_framing_reserved :
  Reach .reference ticksAndServices .full (.bare .type2_1 1 1) readWaiting ∧
    isduReceiving readWaiting.port.isdu = true ∧ readWaiting.port.isdu.phase = .wait ∧
    responseOctets [0xD1, 0x03, 0xD2] = [0xD1, 0x03, 0xD2] ∧
    FramingAccepted (isduOnOd readWaiting.port.isdu [0xD1, 0x03, 0xD2]) ∧
    ¬ ParsesFraming (isduOnOd readWaiting.port.isdu [0xD1, 0x03, 0xD2]) [0xD1, 0x03, 0xD2]
  := by
  have haccepted : FramingAccepted (isduOnOd readWaiting.port.isdu [0xD1, 0x03, 0xD2]) := by
    constructor
    · decide +kernel
    · decide +kernel
  refine ⟨reach_readWaiting, by decide +kernel, by decide +kernel, rfl, haccepted, ?_⟩
  intro h
  obtain ⟨pdu, hpre, hvalid, -⟩ := h.accepts.mp haccepted
  have hlen := hpre.length_le
  obtain ⟨tail, htail⟩ := hpre
  obtain ⟨hn, htotal⟩ := responseLength_append hvalid tail
  rw [htail] at htotal
  rcases htotal with h2 | ⟨-, hmin, -⟩
  · revert h2
    decide
  · simp only [List.length_cons, List.length_nil, ISDU_EXT_MIN] at hlen hmin
    omega

end IolinkMaster
