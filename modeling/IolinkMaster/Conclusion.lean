import IolinkMaster.WellFormed

/-!
# The conclusion of ISDU services

Between the completion of an ISDU service and the first request frame of the next one the
port sends exactly the concluding read the response asks for, if and only if the response
did not declare a length of 0 and the pending conclusion was not dropped by the application
collecting the result, or starting the next service, before it was sent.
-/

namespace IolinkMaster

open Relation

/-! ### Completions and conclusions -/

/-- Direction and FlowCTRL of a frame of the ISDU channel. -/
def isduAccess (frame : List UInt8) : Option (Bool × UInt8) :=
  let mc := frame.getD 0 0
  if mcChannel mc = .isdu then some (mcIsRead mc, mcAddress mc) else none

/-- The FlowCTRL of a concluding read. -/
def isConcluding (flowctrl : UInt8) : Bool :=
  flowctrl == FLOWCTRL_IDLE || flowctrl == FLOWCTRL_ABORT

/-- The first request frame of an ISDU service. -/
def isRequestStart (frame : List UInt8) : Bool := isduAccess frame == some (false, FLOWCTRL_START)

/-- The response octets of a service in the state `s` once it has received `od`. -/
def receivedStream (s : IsduState) (od : List UInt8) : List UInt8 :=
  if s.phase = .wait then responseOctets od else s.response ++ od

/-- The completion of the last ISDU service of this connection, as long as no request frame
of the next one was sent. -/
def completion : List Obs → Option (IsduState × List UInt8)
  | .isduDone s od :: _ => some (s, od)
  | .enter .startup :: _ => none
  | .sent _ frame :: l => if isRequestStart frame then none else completion l
  | _ :: l => completion l
  | [] => none

/-- The FlowCTRLs of the concluding reads sent since the last completion. -/
def conclusions : List Obs → List UInt8
  | .isduDone _ _ :: _ => []
  | .sent _ frame :: l =>
    match isduAccess frame with
    | some (true, flowctrl) =>
      if isConcluding flowctrl then flowctrl :: conclusions l else conclusions l
    | _ => conclusions l
  | _ :: l => conclusions l
  | [] => []

/-- Leaving the ISDU state `s` drops its pending conclusion. -/
def dropsConclusion (s : IsduState) : Bool := if s.done then s.idlePending else s.abortPending

/-- No pending conclusion was dropped since the last completion. -/
def conclusionKept : List Obs → Bool
  | .isduDone _ _ :: _ => true
  | .isduLeft s :: l => !dropsConclusion s && conclusionKept l
  | _ :: l => conclusionKept l
  | [] => true

/-- The FlowCTRL with which a completed service is to be concluded: IDLE after a complete
response with a valid checksum, ABORT after a transport error. -/
def dueConclusion (e : IsduState × List UInt8) : UInt8 :=
  if (outcome (receivedStream e.1 e.2)).any Outcome.idle then FLOWCTRL_IDLE else FLOWCTRL_ABORT

/-- The first request frame of a service goes out after exactly the concluding read the
service before asks for. -/
def ConcludedBefore (log : List Obs) : Obs → Prop
  | .sent _ frame =>
    isRequestStart frame = true → ∀ e ∈ completion log, conclusions log = [dueConclusion e]
  | _ => True

/-- The first request frame of a service goes out after the response of the service before
declared a length, and its pending conclusion was not dropped. -/
def KeptBefore (log : List Obs) : Obs → Prop
  | .sent _ frame =>
    isRequestStart frame = true → ∀ e ∈ completion log,
      outcome (receivedStream e.1 e.2) ≠ some .malformed ∧ conclusionKept log = true
  | _ => True

/-- Whether a service is concluded is decided by its response and by when it is left. -/
def ConclusionExact (log : List Obs) (o : Obs) : Prop :=
  ConcludedBefore log o ↔ KeptBefore log o

instance (log : List Obs) : DecidablePred (ConcludedBefore log) := fun o =>
  decidable_of_iff (∀ frame ∈ o.frame, isRequestStart frame = true →
      ∀ e ∈ completion log, conclusions log = [dueConclusion e])
    (by cases o <;> simp [ConcludedBefore, Obs.frame])

instance (log : List Obs) : DecidablePred (KeptBefore log) := fun o =>
  decidable_of_iff (∀ frame ∈ o.frame, isRequestStart frame = true →
      ∀ e ∈ completion log,
        outcome (receivedStream e.1 e.2) ≠ some .malformed ∧ conclusionKept log = true)
    (by cases o <;> simp [KeptBefore, Obs.frame])

/-! ### The transport of a service -/

/-- What holds of an ISDU service in every state of its transport. -/
structure IsduState.Sound (s : IsduState) : Prop where
  idle : s.idlePending = true → s.done = true ∧ s.abortPending = false
  abort : s.done = true → s.abortPending = true → s.error ≠ ISDU_ERROR_NONE
  clean : s.op ≠ .none → s.done = false →
    s.abortPending = false ∧ s.error = ISDU_ERROR_NONE ∧ s.phase ≠ .none
  wait : s.phase = .wait → s.flowctrl = FLOWCTRL_START
  count : s.phase = .response → s.flowctrl ≤ FLOWCTRL_COUNT_MASK
  collecting : s.op ≠ .none → s.done = false → s.phase = .response →
    s.response ≠ [] ∧ Receives s s.response
  active : s.done = true → s.op ≠ .none
  short : s.response.length ≤ 255

/-- The conclusions a service has still to send. -/
def pendingConclusion (s : IsduState) : List UInt8 :=
  if s.abortPending then [FLOWCTRL_ABORT] else if s.idlePending then [FLOWCTRL_IDLE] else []

/-- The conclusion the transport prepares for an outcome. -/
def preparedConclusion : Outcome → List UInt8
  | .positive _ | .negative _ => [FLOWCTRL_IDLE]
  | .perturbed => [FLOWCTRL_ABORT]
  | .malformed => []

section

variable {s t : IsduState}

/-- A service at rest has nothing to receive. -/
theorem sound_rest (hop : s.op = .none) (hphase : s.phase = .none) (hdone : s.done = false)
    (hidle : s.idlePending = false) (hresponse : s.response = []) :
  s.Sound
  := by
  constructor
  · intro h
    rw [hidle] at h
    contradiction
  · intro h
    rw [hdone] at h
    contradiction
  · intro h
    contradiction
  · intro h
    rw [hphase] at h
    contradiction
  · intro h
    rw [hphase] at h
    contradiction
  · intro h
    contradiction
  · intro h
    rw [hdone] at h
    contradiction
  · rw [hresponse]
    apply Nat.zero_le

/-- A service that starts has nothing to conclude. -/
theorem sound_started (hphase : t.phase = .request) (hdone : t.done = false)
    (hidle : t.idlePending = false) (habort : t.abortPending = false)
    (herror : t.error = ISDU_ERROR_NONE) (hresponse : t.response = []) :
  t.Sound
  := by
  constructor
  · intro h
    rw [hidle] at h
    contradiction
  · intro h
    rw [hdone] at h
    contradiction
  · intro _ _
    exact ⟨habort, herror, by simp [hphase]⟩
  · intro h
    rw [hphase] at h
    contradiction
  · intro h
    rw [hphase] at h
    contradiction
  · intro _ _ h
    rw [hphase] at h
    contradiction
  · intro h
    rw [hdone] at h
    contradiction
  · rw [hresponse]
    apply Nat.zero_le

/-- The FlowCTRL fits the phase of the transport. -/
def FlowFits (s : IsduState) : Prop :=
  (s.phase = .wait → s.flowctrl = FLOWCTRL_START) ∧
    (s.phase = .response → s.flowctrl ≤ FLOWCTRL_COUNT_MASK)

/-- Collecting an octet leaves FlowCTRL alone, and the phase unless it completes the
service. -/
theorem isduCollect_flow (s : IsduState) (byte : UInt8) :
  (isduCollect s byte).1.flowctrl = s.flowctrl ∧
    ((isduCollect s byte).1.phase = s.phase ∨ (isduCollect s byte).1.phase = .none)
  := by
  have hcheck : ∀ u : IsduState, (isduCheckComplete u).1.flowctrl = u.flowctrl ∧
      ((isduCheckComplete u).1.phase = u.phase ∨ (isduCheckComplete u).1.phase = .none) := by
    intro u
    simp only [isduCheckComplete]
    split
    · simp only [isduDecodeResponse]
      split
      · exact ⟨rfl, .inr rfl⟩
      · split
        · exact ⟨rfl, .inr rfl⟩
        · exact ⟨rfl, .inr rfl⟩
    · exact ⟨rfl, .inl rfl⟩
  simp only [isduCollect]
  split
  · exact ⟨rfl, .inr rfl⟩
  · split
    · split
      · exact hcheck _
      · split
        · split
          · exact ⟨rfl, .inl rfl⟩
          · exact hcheck _
        · exact ⟨rfl, .inr rfl⟩
    · exact hcheck _

theorem flowFits_onOd (h : FlowFits s) (od : List UInt8) :
  FlowFits (isduOnOd s od)
  := by
  apply Scan.guarded_preserves _ h
  intro s byte h
  have hcollect : ∀ u, FlowFits u → FlowFits (isduCollect u byte).1 := by
    intro u hu
    obtain ⟨hflow, hphase | hphase⟩ := isduCollect_flow u byte
    · rw [FlowFits, hflow, hphase]
      apply hu
    · rw [FlowFits, hphase]
      exact ⟨fun h => absurd h (by decide), fun h => absurd h (by decide)⟩
  simp only [isduOnOctet]
  split
  · split
    · apply h
    · apply hcollect
      refine ⟨fun h => absurd h (by simp [isduBeginResponse]), fun _ => ?_⟩
      change (1 : UInt8) ≤ FLOWCTRL_COUNT_MASK
      decide
  · apply hcollect s h

/-- A response in progress has not reached its declared length. -/
def ResponseFits (s : IsduState) : Prop :=
  s.response.length ≤ 255 ∧ (s.phase = .response → s.expectedLen ≤ 255 ∧
    (s.expectedLen = 0 → s.response.length ≤ 1) ∧
    (s.expectedLen ≠ 0 → s.response.length < s.expectedLen))

/-- Comparing the collected octets with the declared length. -/
theorem responseFits_check (hlen : s.response.length ≤ 255) (hexpected : s.expectedLen ≤ 255) :
  ResponseFits (isduCheckComplete s).1
  := by
  simp only [isduCheckComplete]
  split
  · obtain ⟨hle, hphase⟩ := length_decodeResponse s
    refine ⟨hle.trans hlen, fun h => ?_⟩
    rw [hphase] at h
    contradiction
  · next hshort =>
    refine ⟨hlen, fun _ => ⟨hexpected, fun hzero => ?_, fun _ => ?_⟩⟩
    · change s.expectedLen = 0 at hzero
      change s.response.length ≤ 1
      omega
    · change s.response.length < s.expectedLen
      omega

theorem responseFits_collect (byte : UInt8) (hphase : s.phase = .response)
    (h : ResponseFits s) :
  ResponseFits (isduCollect s byte).1
  := by
  obtain ⟨hlen, hopen⟩ := h
  obtain ⟨hexpected, hzero, hsome⟩ := hopen hphase
  simp only [isduCollect]
  split
  · exact ⟨hlen, fun h => by contradiction⟩
  · split
    · next hnone =>
      have hfirst := hzero hnone
      have hnext : (s.response ++ [byte]).length ≤ 255 := by
        rw [List.length_append, List.length_singleton]
        omega
      split
      · apply responseFits_check hnext
        have := (IsduState.firstOctet { s with response := s.response ++ [byte] } &&& 0x0F).toNat_lt
        change UInt8.toNat _ ≤ 255
        omega
      · split
        · split
          · next hone =>
            refine ⟨hnext, fun _ => ⟨hexpected, fun _ => ?_, fun h => absurd hnone h⟩⟩
            change (s.response ++ [byte]).length ≤ 1
            omega
          · apply responseFits_check hnext
            have := ((s.response ++ [byte]).getD 1 0).toNat_lt
            change UInt8.toNat _ ≤ 255
            omega
        · exact ⟨hnext, fun h => by contradiction⟩
    · next hne =>
      have hfirst := hsome hne
      apply responseFits_check
      · change (s.response ++ [byte]).length ≤ 255
        rw [List.length_append, List.length_singleton]
        omega
      · exact hexpected

/-- The transport takes octets exactly while it waits for a response or collects one. -/
theorem isduReceiving_iff :
  isduReceiving s = true ↔
    s.op ≠ .none ∧ s.done = false ∧ (s.phase = .wait ∨ s.phase = .response)
  := by
  cases hop : s.op <;> cases hdone : s.done <;> cases hphase : s.phase <;>
    simp [isduReceiving, hop, hdone, hphase]

/-- The octets collected by a service fit the longest response. -/
theorem responseFits_onOd (h : ResponseFits s) (od : List UInt8) :
  ResponseFits (isduOnOd s od)
  := by
  refine Scan.guarded_preserves_active isduOnOctet_stops ?_ h od
  intro s byte hrecv h
  simp only [isduOnOctet]
  split
  · split
    · apply h
    · apply responseFits_collect byte rfl
      exact ⟨Nat.zero_le _, fun _ => ⟨Nat.zero_le _, fun _ => Nat.zero_le _, fun h => absurd rfl h⟩⟩
  · next hwait =>
    apply responseFits_collect byte ((isduReceiving_iff.mp hrecv).2.2.resolve_left hwait) h

/-- A service that takes octets computes the outcome of its response. -/
theorem IsduState.Sound.receives (h : s.Sound) (hrecv : isduReceiving s = true)
    (od : List UInt8) :
  Receives (isduOnOd s od) (receivedStream s od)
  := by
  obtain ⟨hop, hdone, hphase⟩ := isduReceiving_iff.mp hrecv
  obtain ⟨habort, herror, -⟩ := h.clean hop hdone
  have hidle : s.idlePending = false := by
    cases hidle : s.idlePending with
    | false => rfl
    | true =>
        have := (h.idle hidle).1
        rw [hdone] at this
        contradiction
  rcases hphase with hwait | hresponse
  · rw [receivedStream, if_pos hwait]
    apply receives_poll
    apply receives_nil.mpr ⟨hop, hdone, hidle, habort, herror, hwait⟩
  · rw [receivedStream, if_neg (by simp [hresponse])]
    obtain ⟨hne, hreceives⟩ := h.collecting hop hdone hresponse
    apply receives_append hreceives hne

/-- A service that has completed has the outcome of its response, and prepares its
conclusion. -/
theorem pending_of_receives {stream : List UInt8} {o : Outcome} (h : Receives s stream)
    (ho : outcome stream = some o) :
  pendingConclusion s = preparedConclusion o
  := by
  obtain ⟨-, -, -, hidle, habort, -⟩ := (receives_done ho).mp h
  rw [pendingConclusion, hidle, habort]
  cases o with
  | _ => rfl

/-- Nothing is pending while a service is in progress. -/
theorem IsduState.Sound.pending_nil (h : s.Sound) (hop : s.op ≠ .none) (hdone : s.done = false) :
  pendingConclusion s = []
  := by
  have hidle : s.idlePending = false := by
    rw [Bool.eq_false_iff]
    intro hidle
    rw [(h.idle hidle).1] at hdone
    contradiction
  rw [pendingConclusion, (h.clean hop hdone).1, hidle]
  rfl

/-- A service that takes octets has not received its whole response. -/
theorem IsduState.Sound.responseFits (h : s.Sound) (hrecv : isduReceiving s = true) :
  ResponseFits s
  := by
  refine ⟨h.short, fun hphase => ?_⟩
  obtain ⟨hop, hdone, -⟩ := isduReceiving_iff.mp hrecv
  obtain ⟨hne, hreceives⟩ := h.collecting hop hdone hphase
  have ho : outcome s.response = none := by
    cases ho : outcome s.response with
    | none => rfl
    | some o =>
        rw [((receives_done ho).mp hreceives).2.1] at hdone
        contradiction
  obtain ⟨-, -, -, -, -, -, -, hexpected⟩ := (receives_open hne ho).mp hreceives
  rw [hexpected]
  cases hn : declaredTotal s.response with
  | none =>
      refine ⟨Nat.zero_le _, fun _ => ?_, fun h => absurd rfl h⟩
      -- Only the first octet may declare nothing.
      rcases hr : s.response with _ | ⟨head, _ | ⟨ext, rest⟩⟩
      · simp
      · simp
      · rw [hr, declaredTotal] at hn
        split at hn
        · contradiction
        · contradiction
  | some n =>
      have hbounds := declaredTotal_bounds hn
      have hlt := length_lt_declaredTotal ho hn hne
      exact ⟨hbounds.2, fun hz => absurd hz (by simp only [Option.getD_some]; omega), fun _ => hlt⟩

theorem sound_onOd (h : s.Sound) (od : List UInt8) :
  (isduOnOd s od).Sound
  := by
  cases hrecv : isduReceiving s with
  | false =>
      rw [isduOnOd_of_not_receiving od hrecv]
      apply h
  | true =>
      have hreceives := h.receives hrecv od
      have hflow := flowFits_onOd ⟨h.wait, h.count⟩ od
      have hfits := responseFits_onOd (h.responseFits hrecv) od
      revert hreceives hflow hfits
      generalize isduOnOd s od = t
      generalize receivedStream s od = stream
      intro hreceives hflow hfits
      cases ho : outcome stream with
      | some o =>
          obtain ⟨hop, hdone, hphase, hidle, habort, herror, -⟩ := (receives_done ho).mp hreceives
          constructor
          · intro hpending
            refine ⟨hdone, ?_⟩
            rw [hidle] at hpending
            rw [habort]
            cases o with
            | perturbed => contradiction
            | _ => rfl
          · intro _ hpending
            rw [habort] at hpending
            rw [herror]
            cases o with
            | perturbed => decide
            | _ => contradiction
          · intro _ hopen
            rw [hdone] at hopen
            contradiction
          · exact hflow.1
          · exact hflow.2
          · intro _ hopen
            rw [hdone] at hopen
            contradiction
          · intro _
            apply hop
          · apply hfits.1
      | none =>
          have hopen : t.done = false ∧ t.idlePending = false ∧ t.abortPending = false ∧
              t.error = ISDU_ERROR_NONE := by
            have hnone := hreceives.2
            rw [ho] at hnone
            exact ⟨hnone.1, hnone.2.1, hnone.2.2.1, hnone.2.2.2.1⟩
          constructor
          · intro hidle
            rw [hopen.2.1] at hidle
            contradiction
          · intro hdone
            rw [hopen.1] at hdone
            contradiction
          · intro _ _
            refine ⟨hopen.2.2.1, hopen.2.2.2, ?_⟩
            have hreceiving := isduReceiving_of_receives hreceives ho
            rcases (isduReceiving_iff.mp hreceiving).2.2 with hphase | hphase
            · simp [hphase]
            · simp [hphase]
          · exact hflow.1
          · exact hflow.2
          · intro _ _ hphase
            by_cases hne : stream = []
            · subst hne
              rw [(receives_nil.mp hreceives).2.2.2.2.2] at hphase
              contradiction
            · have hstream := ((receives_open hne ho).mp hreceives).2.2.2.2.2.2.1
              rw [hstream]
              exact ⟨hne, hreceives⟩
          · intro hdone
            rw [hopen.1] at hdone
            contradiction
          · apply hfits.1

/-- Filling a frame keeps the transport of a service sound. -/
theorem sound_fillOd (h : s.Sound) (n : Nat) :
  (isduFillOd s n).2.Sound ∧ (isduFillOd s n).2.abortPending = s.abortPending ∧
    (isduFillOd s n).2.idlePending = s.idlePending
  := by
  have hmask : ∀ f : UInt8, f &&& FLOWCTRL_COUNT_MASK ≤ FLOWCTRL_COUNT_MASK := by
    apply forall_octet
    decide +kernel
  simp only [isduFillOd]
  split
  · exact ⟨h, rfl, rfl⟩
  · split
    · next hphase =>
      generalize (if (s.requestLen + 65536 - s.requestPos) % 65536 < n then
        (s.requestLen + 65536 - s.requestPos) % 65536 else n) = m
      split
      · refine ⟨⟨h.idle, h.abort, ?_, fun _ => rfl, ?_, ?_, h.active, h.short⟩, rfl, rfl⟩
        · intro hop hdone
          exact ⟨(h.clean hop hdone).1, (h.clean hop hdone).2.1, by simp⟩
        · intro hp
          exact absurd hp (by simp)
        · intro _ _ hp
          exact absurd hp (by simp)
      · have hne : s.phase ≠ .wait ∧ s.phase ≠ .response := by simp [hphase]
        split
        · exact ⟨⟨h.idle, h.abort, h.clean, fun hp => absurd hp hne.1,
            fun hp => absurd hp hne.2, fun _ _ hp => absurd hp hne.2, h.active, h.short⟩, rfl, rfl⟩
        · exact ⟨⟨h.idle, h.abort, h.clean, fun hp => absurd hp hne.1,
            fun hp => absurd hp hne.2, fun _ _ hp => absurd hp hne.2, h.active, h.short⟩, rfl, rfl⟩
    · next hphase =>
      have hne : s.phase ≠ .response := by simp [hphase]
      exact ⟨⟨h.idle, h.abort, h.clean, fun _ => rfl, fun hp => absurd hp hne,
        fun _ _ hp => absurd hp hne, h.active, h.short⟩, rfl, rfl⟩
    · next hphase =>
      have hne : s.phase ≠ .wait := by simp [hphase]
      split
      · exact ⟨⟨h.idle, h.abort, h.clean, fun hp => absurd hp hne,
          fun _ => show (1 : UInt8) ≤ FLOWCTRL_COUNT_MASK by decide, h.collecting, h.active,
          h.short⟩, rfl, rfl⟩
      · exact ⟨⟨h.idle, h.abort, h.clean, fun hp => absurd hp hne, fun _ => hmask _,
          h.collecting, h.active, h.short⟩, rfl, rfl⟩
    · exact ⟨h, rfl, rfl⟩

/-- Filling a frame while the request is sent takes the next octets of the request, and moves on
past them; after the last of them the transport waits for the response. -/
theorem isduFillOd_sending (hop : s.op ≠ .none) (hphase : s.phase = .request)
    (hpos : s.requestPos < s.requestLen) (hlen : s.requestLen < 65536) (n : Nat) :
  ∃ m phase flowctrl,
    (phase = .wait ∧ m ≤ n ∧ s.requestPos + m = s.requestLen ∨
      phase = .request ∧ m = n ∧ s.requestPos + m < s.requestLen) ∧
    isduFillOd s n = (padOd n ((s.request.drop s.requestPos).take m),
      { s with requestPos := s.requestPos + m, phase := phase, flowctrl := flowctrl })
  := by
  have hremaining : (s.requestLen + 65536 - s.requestPos) % 65536 = s.requestLen - s.requestPos := by
    omega
  obtain ⟨m, hm⟩ : ∃ m, m = (if s.requestLen - s.requestPos < n then s.requestLen - s.requestPos
      else n) := ⟨_, rfl⟩
  have hnext : (s.requestPos + m) % 65536 = s.requestPos + m := by
    split at hm <;> omega
  simp only [isduFillOd, hop, hphase, if_false, hremaining, ← hm, hnext]
  split
  · refine ⟨m, _, _, .inl ⟨rfl, ?_, ?_⟩, rfl⟩
    · split at hm <;> omega
    · split at hm <;> omega
  · have hmore : m = n ∧ s.requestPos + m < s.requestLen := by
      split at hm <;> omega
    split
    · exact ⟨m, _, _, .inr ⟨rfl, hmore⟩, rfl⟩
    · exact ⟨m, _, _, .inr ⟨rfl, hmore⟩, rfl⟩

/-- A frame of the ISDU channel is a segment of the request, or a read that leaves the request as it
is. -/
theorem isduNext_cases (h : s.Sound) (hop : s.op ≠ .none) {n : Nat} {f : IsduFrame}
    (hnext : isduNext s n = some (f, t)) :
  (s.done = false ∧ s.phase = .request ∧ f = ⟨false, s.flowctrl, some (isduFillOd s n).1⟩ ∧
      t = (isduFillOd s n).2) ∨
    ((s.done = false → s.phase ≠ .request) ∧ f.read = true ∧
      ∃ pos flowctrl abort idle, t = { s with
        requestPos := pos, flowctrl := flowctrl, abortPending := abort, idlePending := idle })
  := by
  simp only [isduNext] at hnext
  split at hnext
  · next habort =>
    cases hnext
    refine .inr ⟨fun hdone => ?_, rfl, _, _, _, _, rfl⟩
    rw [(h.clean hop hdone).1] at habort
    contradiction
  · split at hnext
    · next hidle =>
      cases hnext
      refine .inr ⟨fun hdone => ?_, rfl, _, _, _, _, rfl⟩
      rw [(h.idle hidle).1] at hdone
      contradiction
    · split at hnext
      · contradiction
      · next hbusy =>
        rw [not_or, Bool.not_eq_true] at hbusy
        split at hnext
        · next hphase =>
          cases hnext
          exact .inl ⟨hbusy.2, hphase, rfl, rfl⟩
        · next hphase =>
          cases hnext
          obtain ⟨pos, phase, flowctrl, hsame, hfill⟩ := isduFillOd_moves s n
          obtain rfl := hsame.resolve_right fun hrequest => hphase hrequest.1
          exact .inr ⟨fun _ => hphase, rfl, pos, flowctrl, _, _, hfill⟩

/-- A frame of the ISDU channel concludes a service if a conclusion is pending, and only
then. -/
theorem sound_next (h : s.Sound) {n : Nat} {f : IsduFrame} (hnext : isduNext s n = some (f, t)) :
  t.Sound ∧ pendingConclusion t = [] ∧
    (f.read = true ∧ isConcluding (f.flowctrl &&& MC_ADDR_MASK) = true ∧
        pendingConclusion s = [f.flowctrl &&& MC_ADDR_MASK] ∨
      (f.read = true → isConcluding (f.flowctrl &&& MC_ADDR_MASK) = false) ∧
        pendingConclusion s = [])
  := by
  simp only [isduNext] at hnext
  split at hnext
  · next habort =>
    cases hnext
    have hidle : s.idlePending = false := by
      rw [Bool.eq_false_iff]
      intro hidle
      rw [(h.idle hidle).2] at habort
      contradiction
    refine ⟨⟨fun hp => ⟨(h.idle hp).1, rfl⟩, fun _ hp => absurd hp (by simp),
      fun hop hdone => ⟨rfl, (h.clean hop hdone).2⟩, h.wait, h.count, ?_, h.active, h.short⟩, ?_,
      .inl ⟨rfl, ?_, ?_⟩⟩
    · intro hop hdone _
      rw [(h.clean hop hdone).1] at habort
      contradiction
    · simp [pendingConclusion, hidle]
    · decide
    · rw [pendingConclusion, if_pos habort]
      rfl
  · next habort =>
    have habort' := Bool.eq_false_iff.mpr habort
    split at hnext
    · next hidle =>
      cases hnext
      have hdone := (h.idle hidle).1
      refine ⟨⟨fun hp => absurd hp (by simp), h.abort, h.clean, h.wait, h.count, ?_, h.active,
        h.short⟩, ?_, .inl ⟨rfl, ?_, ?_⟩⟩
      · intro _ hopen
        rw [hdone] at hopen
        contradiction
      · simp [pendingConclusion, habort']
      · decide
      · rw [pendingConclusion, if_neg habort, if_pos hidle]
        rfl
    · next hidle =>
      have hidle' := Bool.eq_false_iff.mpr hidle
      have hnone : ∀ u : IsduState, u.abortPending = s.abortPending →
          u.idlePending = s.idlePending → pendingConclusion u = [] := by
        intro u habort hidle
        rw [pendingConclusion, habort, hidle, habort', hidle']
        rfl
      obtain ⟨hfill, habortFill, hidleFill⟩ := sound_fillOd h n
      split at hnext
      · contradiction
      · next hbusy =>
        rw [not_or, Bool.not_eq_true] at hbusy
        split at hnext
        · next hphase =>
          cases hnext
          exact ⟨hfill, hnone _ habortFill hidleFill,
            .inr ⟨fun hread => Bool.noConfusion hread, hnone s rfl rfl⟩⟩
        · next hphase =>
          cases hnext
          refine ⟨hfill, hnone _ habortFill hidleFill, .inr ⟨fun _ => ?_, hnone s rfl rfl⟩⟩
          -- A poll asks for the start of the response, or for its next segment.
          have hcount : ∀ f : UInt8, f ≤ FLOWCTRL_COUNT_MASK →
              isConcluding (f &&& MC_ADDR_MASK) = false := by
            apply forall_octet
            decide +kernel
          change isConcluding (s.flowctrl &&& MC_ADDR_MASK) = false
          cases hp : s.phase with
          | none => exact absurd hp (h.clean hbusy.1 hbusy.2).2.2
          | request => contradiction
          | wait =>
              rw [h.wait hp]
              decide
          | response => apply hcount _ (h.count hp)

end

/-! ### The conclusion of a service -/

/-- What the port still owes to the completed service `e`: its prepared conclusion was sent
or is pending, unless it was dropped. -/
def Owes (log : List Obs) (pending : List UInt8) (e : IsduState × List UInt8) : Prop :=
  ∃ o, outcome (receivedStream e.1 e.2) = some o ∧
    if conclusionKept log then conclusions log ++ pending = preparedConclusion o
    else conclusions log = [] ∧ pending = []

/-- What the observations tell of the conclusion of the last ISDU service. -/
structure Concluded (w : World) : Prop where
  sound : w.port.isdu.Sound
  fresh : w.port.state = .startup → completion w.log = none
  owed : acyclicAvailable w.port.state = true →
    ∀ e ∈ completion w.log, Owes w.log (pendingConclusion w.port.isdu) e
  exact : Trace.Always ConclusionExact w.log

/-- An observation that is about no ISDU service. -/
@[simp]
def Obs.conclusionNeutral : Obs → Bool
  | .sent _ _ | .isduDone _ _ | .isduLeft _ | .enter .startup => false
  | _ => true

section

variable {w v : World} {o : Obs} {log : List Obs}

theorem completion_neutral (ho : o.conclusionNeutral = true) :
  completion (o :: log) = completion log
  := by
  cases o with
  | sent | isduDone => contradiction
  | enter st =>
      cases st with
      | startup => contradiction
      | _ => rfl
  | _ => rfl

theorem conclusions_neutral (ho : o.conclusionNeutral = true) :
  conclusions (o :: log) = conclusions log
  := by
  cases o with
  | sent | isduDone => contradiction
  | _ => rfl

theorem conclusionKept_neutral (ho : o.conclusionNeutral = true) :
  conclusionKept (o :: log) = conclusionKept log
  := by
  cases o with
  | isduDone | isduLeft => contradiction
  | _ => rfl

/-- An observation that is no frame. -/
theorem conclusionExact_other (ho : o.isSent = false) :
  ConclusionExact log o
  := by
  cases o with
  | sent => contradiction
  | _ => exact Iff.rfl

/-- Observations that are about no ISDU service leave what is owed alone. -/
theorem owes_neutral {os : List Obs} (hos : ∀ o ∈ os, o.conclusionNeutral = true)
    {pending : List UInt8} {e : IsduState × List UInt8} (h : Owes log pending e) :
  Owes (os ++ log) pending e
  := by
  have hkept : conclusionKept (os ++ log) = conclusionKept log :=
    Trace.unaffected_append (fun _ _ ho => conclusionKept_neutral ho) hos log
  have hconclusions : conclusions (os ++ log) = conclusions log :=
    Trace.unaffected_append (fun _ _ ho => conclusions_neutral ho) hos log
  rw [Owes, hkept, hconclusions]
  apply h

/-- A step that observes nothing about ISDU services and leaves the service alone. -/
theorem Concluded.quiet (h : Concluded w) (os : List Obs)
    (hos : ∀ o ∈ os, o.conclusionNeutral = true) (hlog : v.log = os ++ w.log)
    (hisdu : v.port.isdu = w.port.isdu)
    (hstate : v.port.state = .startup → w.port.state = .startup)
    (havail : acyclicAvailable v.port.state = true →
      acyclicAvailable w.port.state = true ∨ w.port.state = .startup) :
  Concluded v
  := by
  have hcompletion : completion v.log = completion w.log := by
    rw [hlog]
    exact Trace.unaffected_append (fun _ _ ho => completion_neutral ho) hos w.log
  constructor
  · rw [hisdu]
    apply h.sound
  · rw [hcompletion]
    exact fun hs => h.fresh (hstate hs)
  · intro hv e he
    rw [hcompletion] at he
    rcases havail hv with hw | hw
    · rw [hlog, hisdu]
      apply owes_neutral hos (h.owed hw e he)
    · rw [h.fresh hw] at he
      contradiction
  · rw [hlog]
    refine Trace.always_append (q := fun o => o.conclusionNeutral = true) ?_ hos h.exact
    intro o l ho
    apply conclusionExact_other
    cases o with
    | sent => contradiction
    | _ => rfl

/-- A step that observes nothing about ISDU services and keeps the state. -/
theorem Concluded.keep (h : Concluded w) (os : List Obs)
    (hos : ∀ o ∈ os, o.conclusionNeutral = true) (hlog : v.log = os ++ w.log)
    (hisdu : v.port.isdu = w.port.isdu) (hstate : v.port.state = w.port.state) :
  Concluded v
  := by
  apply h.quiet os hos hlog hisdu
  · rw [hstate]
    exact id
  · rw [hstate]
    exact .inl

/-- A step into ERROR. -/
theorem Concluded.toError (h : Concluded w) (os : List Obs)
    (hos : ∀ o ∈ os, o.conclusionNeutral = true) (hlog : v.log = os ++ w.log)
    (hisdu : v.port.isdu = w.port.isdu) (hstate : v.port.state = .error) :
  Concluded v
  := by
  apply h.quiet os hos hlog hisdu
  · rw [hstate]
    intro hs
    contradiction
  · rw [hstate]
    intro hs
    contradiction

/-- A connection starts without a service to conclude. -/
theorem concluded_start (hsound : v.port.isdu.Sound) (hlog : v.log = .enter .startup :: log)
    (hexact : Trace.Always ConclusionExact log) :
  Concluded v
  := by
  have hnone : completion v.log = none := by
    rw [hlog]
    rfl
  constructor
  · apply hsound
  · intro _
    apply hnone
  · intro _ e he
    rw [hnone] at he
    contradiction
  · rw [hlog]
    exact ⟨hexact, Iff.rfl⟩

/-- An ISDU state is left for one that has nothing to conclude but an ABORT. -/
theorem Concluded.leave (h : Concluded w) (os : List Obs)
    (hos : ∀ o ∈ os, o.conclusionNeutral = true)
    (hlog : v.log = os ++ .isduLeft w.port.isdu :: w.log) (hsound : v.port.isdu.Sound)
    (hstate : v.port.state = w.port.state)
    (hdropped : dropsConclusion w.port.isdu = true →
      pendingConclusion v.port.isdu = [] ∧ pendingConclusion w.port.isdu ≠ [])
    (hkept : dropsConclusion w.port.isdu = false →
      pendingConclusion v.port.isdu = pendingConclusion w.port.isdu) :
  Concluded v
  := by
  have hcompletion : completion v.log = completion w.log := by
    rw [hlog]
    exact Trace.unaffected_append (fun _ _ ho => completion_neutral ho) hos _
  constructor
  · apply hsound
  · rw [hcompletion, hstate]
    apply h.fresh
  · intro hv e he
    rw [hcompletion] at he
    rw [hstate] at hv
    rw [hlog]
    apply owes_neutral hos
    obtain ⟨o, ho, howes⟩ := h.owed hv e he
    refine ⟨o, ho, ?_⟩
    change if !dropsConclusion w.port.isdu && conclusionKept w.log then
      conclusions w.log ++ pendingConclusion v.port.isdu = preparedConclusion o
      else conclusions w.log = [] ∧ pendingConclusion v.port.isdu = []
    cases hdrops : dropsConclusion w.port.isdu with
    | true =>
        obtain ⟨hnone, hsome⟩ := hdropped hdrops
        rw [if_neg (by simp)]
        refine ⟨?_, hnone⟩
        cases hk : conclusionKept w.log with
        | true =>
            rw [hk, if_pos rfl] at howes
            have hlen := congrArg List.length howes
            rw [List.length_append] at hlen
            have hprepared : (preparedConclusion o).length ≤ 1 := by
              cases o <;> simp [preparedConclusion]
            have hpending := List.length_pos_of_ne_nil hsome
            apply List.eq_nil_of_length_eq_zero
            omega
        | false =>
            rw [hk, if_neg (by simp)] at howes
            apply howes.1
    | false =>
        rw [hkept hdrops, Bool.not_false, Bool.true_and]
        apply howes
  · rw [hlog]
    refine Trace.always_append (q := fun o => o.conclusionNeutral = true) ?_ hos
      ⟨h.exact, Iff.rfl⟩
    intro o l ho
    apply conclusionExact_other
    cases o with
    | sent => contradiction
    | _ => rfl

/-! ### Steps -/

/-- What an ISDU state that is left drops. -/
theorem IsduState.Sound.drops {s : IsduState} (h : s.Sound) (t : IsduState)
    (habort : t.abortPending = (s.done && s.abortPending && s.error != ISDU_ERROR_NONE))
    (hidle : t.idlePending = false) :
  (dropsConclusion s = true → pendingConclusion t = [] ∧ pendingConclusion s ≠ []) ∧
    (dropsConclusion s = false → pendingConclusion t = pendingConclusion s)
  := by
  rw [dropsConclusion, pendingConclusion, pendingConclusion, habort, hidle]
  cases hdone : s.done with
  | true =>
      cases hpending : s.idlePending with
      | true => simp [(h.idle hpending).2]
      | false =>
          cases hab : s.abortPending with
          | true => simp [h.abort hdone hab]
          | false => simp
  | false =>
      have hnone : s.idlePending = false := by
        rw [Bool.eq_false_iff]
        intro hpending
        rw [(h.idle hpending).1] at hdone
        contradiction
      cases s.abortPending with
      | true => simp
      | false => simp [hnone]

/-- Service calls keep what is owed. -/
theorem concluded_service (hstep : ServiceStep w v) (h : Concluded w) :
  Concluded v
  := by
  have hleave : ∀ (os : List Obs), (∀ o ∈ os, o.conclusionNeutral = true) →
      v.log = os ++ .isduLeft w.port.isdu :: w.log → v.port.isdu.Sound →
      v.port.state = w.port.state → v.port.isdu.abortPending
        = (w.port.isdu.done && w.port.isdu.abortPending &&
            w.port.isdu.error != ISDU_ERROR_NONE) →
      v.port.isdu.idlePending = false → Concluded v := by
    intro os hos hlog hsound hstate habort hidle
    obtain ⟨hdropped, hkept⟩ := h.sound.drops v.port.isdu habort hidle
    apply h.leave os hos hlog hsound hstate hdropped hkept
  have hgiveUp : w.port.isdu.done = true → w.port.isdu.abortPending
      = (w.port.isdu.done && w.port.isdu.abortPending &&
          w.port.isdu.error != ISDU_ERROR_NONE) := by
    intro hdone
    cases habort : w.port.isdu.abortPending with
    | true => simp [hdone, h.sound.abort hdone habort]
    | false => simp
  cases hstep with
  | tune hp => exact h.keep [] (by simp) rfl hp.isdu hp.state
  | @note o ho =>
      refine h.keep [o] ?_ rfl rfl rfl
      intro o' ho'
      rw [List.mem_singleton.mp ho']
      cases o with
      | flushRx | setMode | setBaudrate | eventPending | event | returned => rfl
      | _ => contradiction
  | startRead index subindex hstate hbusy hdone =>
      apply hleave [_] (by simp) rfl
      · apply sound_started
        all_goals rfl
      · rfl
      · simp [hdone, isduStartRead, isduStart]
      · rfl
  | startWrite index subindex data hstate hbusy hdone =>
      apply hleave [_, _] (by simp) rfl
      · apply sound_started
        all_goals rfl
      · rfl
      · simp [hdone, isduStartWrite, isduStart]
      · rfl
  | giveUpRead hdone =>
      exact hleave [] (by simp) rfl (sound_rest rfl rfl rfl rfl rfl) rfl (hgiveUp hdone) rfl
  | giveUpWrite index subindex data hdone =>
      exact hleave [_] (by simp) rfl (sound_rest rfl rfl rfl rfl rfl) rfl
        (hgiveUp hdone) rfl
  | collectRead index subindex hdone hmatches herror =>
      exact hleave [] (by simp) rfl (sound_rest rfl rfl rfl rfl rfl) rfl
        (by simp [herror, isduClear]) rfl
  | collectPage hdone hmatches herror =>
      exact hleave [_] (by simp) rfl (sound_rest rfl rfl rfl rfl rfl) rfl
        (by simp [herror, isduClear]) rfl
  | collectWrite index subindex data hstate hdone hmatches herror =>
      exact hleave [_] (by simp) rfl (sound_rest rfl rfl rfl rfl rfl) rfl
        (by simp [herror, isduClear]) rfl
  | setPdOut => exact h.keep [_] (by simp) rfl rfl rfl
  | startEvent | consumeEvent =>
      exact h.keep [_, _] (by simp) rfl rfl rfl
  | refuseWrite | pendingWrite =>
      exact h.keep [_] (by simp) rfl rfl rfl

theorem concluded_servicePath (hpath : ServicePath w v) (h : Concluded w) :
  Concluded v
  := hpath.keeps (fun _ _ => concluded_service) h

theorem concluded_control (hstep : ControlStep w v) (h : Concluded w) :
  Concluded v
  := by
  cases hstep with
  | service hstep => apply concluded_service hstep h
  | fail => exact h.toError [_] (by simp) rfl rfl rfl

/-- Handing on on-request data; the data that completes a service leaves its conclusion to
be sent. -/
theorem concluded_routeOd (h : Concluded w) (od : List UInt8)
    (hstate : w.port.state ≠ .startup) :
  Concluded (routeOd w od)
  := by
  rcases routeOd_cases w od with ⟨-, -, heq⟩ | ⟨-, heq⟩ | ⟨-, heq⟩
  · rw [heq]
    exact h.keep [_] (by simp) rfl rfl rfl
  · rw [heq]
    exact h.keep [_] (by simp) rfl rfl rfl
  · rw [heq]
    cases hdone : !w.port.isdu.done && (isduOnOd w.port.isdu od).done with
    | true =>
        have hobserved : isduObserved w.port.isdu od = [.isduDone w.port.isdu od, .isduOd od] := by
          simp [isduObserved, hdone]
        rw [hobserved]
        have hrecv : isduReceiving w.port.isdu = true := by
          by_contra hnot
          rw [isduOnOd_of_not_receiving od (Bool.eq_false_iff.mpr hnot)] at hdone
          simp at hdone
        have hreceives := h.sound.receives hrecv od
        have hcompleted : (isduOnOd w.port.isdu od).done = true := by
          rw [Bool.and_eq_true] at hdone
          apply hdone.2
        constructor
        · apply sound_onOd h.sound
        · intro hs
          contradiction
        · intro _ e he
          cases he
          cases ho : outcome (receivedStream w.port.isdu od) with
          | none =>
              have hopen := hreceives.2
              rw [ho] at hopen
              rw [hopen.1] at hcompleted
              contradiction
          | some o => exact ⟨o, ho, pending_of_receives hreceives ho⟩
        · exact ⟨⟨h.exact, Iff.rfl⟩, Iff.rfl⟩
    | false =>
        have hobserved : isduObserved w.port.isdu od = [.isduOd od] := by
          simp [isduObserved, hdone]
        have hpending : pendingConclusion (isduOnOd w.port.isdu od)
            = pendingConclusion w.port.isdu := by
          cases hrecv : isduReceiving w.port.isdu with
          | false => rw [isduOnOd_of_not_receiving od hrecv]
          | true =>
              obtain ⟨hop, hopen, -⟩ := isduReceiving_iff.mp hrecv
              rw [hopen, Bool.not_false, Bool.true_and] at hdone
              have hop' := (h.sound.receives hrecv od).1
              rw [h.sound.pending_nil hop hopen, (sound_onOd h.sound od).pending_nil hop' hdone]
        rw [hobserved]
        constructor
        · apply sound_onOd h.sound
        · intro hs
          contradiction
        · intro hv e he
          rw [hpending]
          exact h.owed hv e he
        · exact ⟨h.exact, Iff.rfl⟩

/-- The judgement of a reply. -/
theorem concluded_judge {K : Iolinki} {data : List UInt8} (hstep : JudgeStep K data w v)
    (h : Concluded w) :
  Concluded v
  := by
  cases hstep with
  | accept hstate hack hwidth hcks hhandler hpd =>
      have haccepted : Concluded (accepted w data) :=
        h.keep [_] (by simp) rfl rfl rfl
      have hu := concluded_servicePath hhandler haccepted
      have hrouted := concluded_routeOd hu (data.take (odWidth w.port)) (by
        rw [(untouched_of_path hhandler).state]
        apply hstate)
      exact hrouted.keep [] (by simp) rfl rfl rfl
  | rejectLost =>
      exact concluded_start h.sound rfl ⟨⟨h.exact, Iff.rfl⟩, Iff.rfl⟩
  | acceptTest hstate =>
      exact h.quiet [_, _] (by simp) rfl rfl (by simp)
        (fun _ => .inr hstate)
  | acceptAck hack =>
      refine h.quiet [_, _] (by simp) rfl rfl (by simp) (fun _ => .inl ?_)
      rw [hack.1]
      rfl
  | unframed | rejectTest | rejectRetry =>
      exact h.keep [_] (by simp) rfl rfl rfl

theorem concluded_receive {K : Iolinki} {judged : World → List UInt8 → Prop}
    (hstep : ReceiveStep K judged w v) (h : Concluded w) :
  Concluded v
  := by
  cases hstep with
  | control hstep => apply concluded_control hstep h
  | recv byte => exact h.keep [_] (by simp) rfl rfl rfl
  | clearRx => exact h.keep [] (by simp) rfl rfl rfl
  | judge data hjudged hstep => apply concluded_judge hstep h

/-- A response timeout. -/
theorem concluded_timeout {due : World → Bool → Bool → Prop} (hstep : TimeoutStep due w v)
    (h : Concluded w) :
  Concluded v
  := by
  cases hstep with
  | control hstep => apply concluded_control hstep h
  | clearRx | restep => exact h.keep [] (by simp) rfl rfl rfl
  | ignored | count => exact h.keep [_] (by simp) rfl rfl rfl
  | broken => exact h.toError [_, _] (by simp) rfl rfl rfl
  | lost => exact concluded_start h.sound rfl ⟨⟨h.exact, Iff.rfl⟩, Iff.rfl⟩

/-! ### Frames -/

/-- The direction and FlowCTRL of a frame of the ISDU channel. -/
theorem isduAccess_octets {K : Iolinki} (hK : K.Lawful) (p : PortState) (f : IsduFrame) :
  isduAccess (f.octets K p) = some (f.read, f.flowctrl &&& MC_ADDR_MASK)
  := by
  simp only [isduAccess, octets_command hK, mcChannel_encode, mcIsRead_encode, mcAddress_encode,
    if_true]

theorem isduAccess_other {frame : List UInt8} (h : mcChannel (frame.getD 0 0) ≠ .isdu) :
  isduAccess frame = none
  := by
  simp only [isduAccess, h, if_false]

/-- No frame of STARTUP is one of the ISDU channel. -/
theorem isduAccess_startup {K : Iolinki} (hK : K.Lawful) {frame : List UInt8}
    (h : frame = [WAKEUP_BYTE] ∨ frame = testMessage K) :
  isduAccess frame = none
  := by
  rcases h with rfl | rfl
  · decide
  · apply isduAccess_other
    rw [testMessage, hK.encodeType0_eq]
    change mcChannel (encodeMasterCommand true .page _) ≠ .isdu
    rw [mcChannel_encode]
    decide

/-- A frame of another channel. -/
theorem Concluded.sendOther (h : Concluded w) {st : MasterState} {frame : List UInt8}
    (hframe : isduAccess frame = none) (hlog : v.log = .sent st frame :: w.log)
    (hisdu : v.port.isdu = w.port.isdu) (hstate : v.port.state = w.port.state) :
  Concluded v
  := by
  have hstart : isRequestStart frame = false := by
    rw [isRequestStart, hframe]
    rfl
  have hcompletion : completion v.log = completion w.log := by
    rw [hlog, completion, hstart]
    rfl
  have hconclusions : conclusions v.log = conclusions w.log := by
    rw [hlog, conclusions, hframe]
  constructor
  · rw [hisdu]
    apply h.sound
  · rw [hcompletion, hstate]
    apply h.fresh
  · intro hv e he
    rw [hstate] at hv
    rw [hcompletion] at he
    obtain ⟨o, ho, howes⟩ := h.owed hv e he
    refine ⟨o, ho, ?_⟩
    rw [hconclusions, hisdu]
    rw [hlog]
    exact howes
  · rw [hlog]
    refine ⟨h.exact, ?_⟩
    simp [ConclusionExact, ConcludedBefore, KeptBefore, hstart]

/-- A frame of the ISDU channel. -/
theorem Concluded.sendIsdu {K : Iolinki} (hK : K.Lawful) (h : Concluded w) {p : PortState}
    {f : IsduFrame} {s : IsduState} {n : Nat} {st : MasterState}
    (havail : acyclicAvailable w.port.state = true) (hnext : isduNext w.port.isdu n = some (f, s))
    (hlog : v.log = .sent st (f.octets K p) :: w.log) (hisdu : v.port.isdu = s)
    (hstate : v.port.state = w.port.state) :
  Concluded v
  := by
  obtain ⟨hsound, hnone, hcases⟩ := sound_next h.sound hnext
  have haccess := isduAccess_octets hK p f
  have hne : v.port.state ≠ .startup := by
    rw [hstate]
    intro hs
    rw [hs] at havail
    contradiction
  have hexact : ConclusionExact w.log (.sent st (f.octets K p)) := by
    simp only [ConclusionExact, ConcludedBefore, KeptBefore]
    apply imp_congr_right
    intro hstart
    apply forall_congr'
    intro e
    apply imp_congr_right
    intro he
    have hread : f.read = false := by
      rw [isRequestStart, haccess, beq_iff_eq, Option.some.injEq, Prod.mk.injEq] at hstart
      apply hstart.1
    have hpending : pendingConclusion w.port.isdu = [] := by
      rcases hcases with ⟨hr, -⟩ | ⟨-, hpending⟩
      · rw [hread] at hr
        contradiction
      · apply hpending
    obtain ⟨o, ho, howes⟩ := h.owed havail e he
    rw [hpending, List.append_nil] at howes
    rw [dueConclusion, ho]
    cases hk : conclusionKept w.log with
    | true =>
        rw [hk, if_pos rfl] at howes
        rw [howes]
        cases o with
        | _ => simp [preparedConclusion, Outcome.idle]
    | false =>
        rw [hk, if_neg (by simp)] at howes
        simp [howes.1]
  constructor
  · rw [hisdu]
    apply hsound
  · intro hs
    contradiction
  · intro hv e he
    rw [hlog, completion] at he
    split at he
    · contradiction
    · obtain ⟨o, ho, howes⟩ := h.owed havail e he
      refine ⟨o, ho, ?_⟩
      have hkept : conclusionKept v.log = conclusionKept w.log := by
        rw [hlog]
        rfl
      rw [hisdu, hnone, hkept]
      rcases hcases with ⟨hread, hconcl, hpending⟩ | ⟨hconcl, hpending⟩
      · have hconclusions : conclusions v.log
            = (f.flowctrl &&& MC_ADDR_MASK) :: conclusions w.log := by
          rw [hlog, conclusions, haccess, hread]
          simp [hconcl]
        rw [hpending] at howes
        rw [hconclusions]
        cases hk : conclusionKept w.log with
        | true =>
            rw [hk, if_pos rfl] at howes
            rw [if_pos rfl]
            have hempty : conclusions w.log = [] := by
              have hlen := congrArg List.length howes
              rw [List.length_append, List.length_singleton] at hlen
              have hprepared : (preparedConclusion o).length ≤ 1 := by
                cases o <;> simp [preparedConclusion]
              apply List.eq_nil_of_length_eq_zero
              omega
            rw [hempty] at howes ⊢
            exact howes
        | false =>
            rw [hk, if_neg (by simp)] at howes
            exact absurd howes.2 (by simp)
      · have hconclusions : conclusions v.log = conclusions w.log := by
          rw [hlog, conclusions, haccess]
          cases hread : f.read with
          | false => rfl
          | true => simp [hconcl hread]
        rw [hpending] at howes
        rw [hconclusions]
        exact howes
  · rw [hlog]
    exact ⟨h.exact, hexact⟩

/-- A frame that goes out in a slot is the next one of the ISDU transport, or it is none of the ISDU
channel and leaves the transport alone. -/
theorem Emission.channel {K : Iolinki} (hK : K.Lawful) {p : PortState} {frame : List UInt8}
    {s : IsduState} {e : EventState} {step : StartupStep} (h : Emission K p frame s e step)
    (hrests : p.isdu.RestsWhenDone) :
  (∃ f, frame = f.octets K p ∧ isduNext p.isdu p.odLen = some (f, s)) ∨
    isduAccess frame = none ∧ s = p.isdu
  := by
  have hcommand : ∀ read channel address, channel ≠ .isdu →
      frame.getD 0 0 = encodeMasterCommand read channel address → isduAccess frame = none := by
    intro read channel address hne hframe
    apply isduAccess_other
    rw [hframe, mcChannel_encode]
    apply hne
  cases h with
  | readEvent addr =>
      exact .inr ⟨hcommand _ _ _ (by decide) (eventFrame_command hK p true addr), rfl⟩
  | writeEvent addr =>
      exact .inr ⟨hcommand _ _ _ (by decide) (eventFrame_command hK p false addr), rfl⟩
  | isdu f s hevent hnext => exact .inl ⟨f, rfl, hnext⟩
  | deviceOperate =>
      exact .inr ⟨hcommand _ _ _ (by decide) (deviceOperateMessage_command hK), rfl⟩
  | cyclicType0 hop hevent hnext =>
      rw [isduFillOd_idle hrests hnext]
      refine .inr ⟨?_, rfl⟩
      apply isduAccess_other
      rw [type0CyclicFrame_command hK]
      change mcChannel 0 ≠ .isdu
      decide
  | cyclic hop hevent hnext =>
      rw [isduFillOd_idle hrests hnext]
      refine .inr ⟨?_, rfl⟩
      apply isduAccess_other
      change mcChannel (encodeMasterCommand false .process 0) ≠ .isdu
      rw [mcChannel_encode]
      decide

/-- A frame that goes out in a slot, as long as the port goes on sending. -/
theorem concluded_emission {K : Iolinki} (hK : K.Lawful) {frame : List UInt8} {s : IsduState}
    {e : EventState} {step : StartupStep} {st : MasterState} (h : Concluded w)
    (hemit : Emission K w.port frame s e step) (hrests : w.port.isdu.RestsWhenDone)
    (havail : acyclicAvailable w.port.state = true) (hlog : v.log = .sent st frame :: w.log)
    (hisdu : v.port.isdu = s) (hstate : v.port.state = w.port.state) :
  Concluded v
  := by
  rcases hemit.channel hK hrests with ⟨f, rfl, hnext⟩ | ⟨hother, rfl⟩
  · exact h.sendIsdu hK havail hnext hlog hisdu hstate
  · exact h.sendOther hother hlog hisdu hstate

/-- What goes out in a slot keeps the transport of the service sound. -/
theorem Emission.sound {K : Iolinki} {p : PortState} {frame : List UInt8} {s : IsduState}
    {e : EventState} {step : StartupStep} (h : Emission K p frame s e step)
    (hsound : p.isdu.Sound) :
  s.Sound
  := by
  cases h with
  | isdu f s hevent hnext => apply (sound_next hsound hnext).1
  | cyclicType0 | cyclic => apply (sound_fillOd hsound _).1
  | readEvent | writeEvent | deviceOperate => apply hsound

/-- A transmission slot. -/
theorem concluded_slot {K : Iolinki} (hK : K.Lawful) {ready : World → Prop}
    (hstep : SlotStep K ready w v) (hrests : w.port.isdu.RestsWhenDone) (h : Concluded w) :
  Concluded v
  := by
  cases hstep with
  | control hstep => apply concluded_control hstep h
  | slot => exact h.keep [_, _] (by simp) rfl rfl rfl
  | send havail hopen hemit => exact concluded_emission hK h hemit hrests havail rfl rfl rfl
  | @sendFailed sent frame s e step e' havail hopen hemit =>
      cases sent with
      | true =>
          have hsent : Concluded ⟨{ w.port with isdu := s }, .sent w.port.state frame :: w.log⟩ :=
            concluded_emission hK h hemit hrests havail rfl rfl rfl
          exact hsent.toError [_] (by simp) rfl rfl rfl
      | false =>
          constructor
          · apply hemit.sound h.sound
          · intro hs
            contradiction
          · intro hs
            contradiction
          · exact ⟨h.exact, Iff.rfl⟩
  | wake =>
      exact h.sendOther (isduAccess_startup hK (.inl rfl)) rfl rfl rfl
  | test => exact h.sendOther (isduAccess_startup hK (.inr rfl)) rfl rfl rfl
  | startupFailed frame hstate hframe =>
      have hsent : Concluded ⟨w.port, .sent .startup frame :: w.log⟩ :=
        h.sendOther (isduAccess_startup hK hframe) rfl rfl rfl
      exact hsent.toError [_] (by simp) rfl rfl rfl
  | callWakeUp | arm => exact h.keep [_] (by simp) rfl rfl rfl
  | restep | count => exact h.keep [] (by simp) rfl rfl rfl

end

/-! ### Runs -/

/-- Every step keeps what is owed to the services of a well-formed port. -/
theorem kept_concluded {K : Iolinki} (hK : K.Lawful) (config : Config) :
  KeptFormed K config (fun _ => True) Concluded
  := by
  constructor
  · intro _ _ _ _
    trivial
  · intro w v hstep _ h _
    apply concluded_control hstep h
  · intro w v hstep _ h _
    apply concluded_receive hstep h
  · intro w v hstep hformed h _
    apply concluded_slot hK hstep hformed.completed h
  · intro w v hstep _ h _
    apply concluded_timeout hstep h

/-- An initialized port owes nothing. -/
theorem concluded_init (phy : PhyApi) (config : Config) {log : List Obs}
    (hlog : Trace.Always ConclusionExact log) :
  Concluded ⟨zeroPort phy config, .enter (zeroPort phy config).state :: log⟩
  := by
  have hsound : (zeroPort phy config).isdu.Sound := sound_rest rfl rfl rfl rfl rfl
  by_cases hmode : config.portMode = .iolink
  · have hstate : (zeroPort phy config).state = .startup := if_pos hmode
    rw [hstate]
    exact concluded_start hsound rfl hlog
  · have hstate : (zeroPort phy config).state = .inactive := if_neg hmode
    refine ⟨hsound, ?_, ?_, ⟨hlog, Iff.rfl⟩⟩
    · rw [hstate]
      intro hs
      contradiction
    · rw [hstate]
      intro hs
      contradiction

/-- What holds of the concluding reads of every reachable port. -/
theorem reachable_concluded {K : Iolinki} (hK : K.Lawful) {phy : PhyApi} {config : Config}
    {allowed : Env → World → Call → Prop} {w : World} (hw : Reach K allowed phy config w) :
  WellFormed config w.port ∧ Concluded w
  := by
  apply (kept_concluded hK config).reachable hK _ _ _ hw trivial
  · exact concluded_init _ _ trivial
  · intro w now h
    exact h.keep [_] (by simp) rfl rfl rfl
  · intro w mode _ h
    apply concluded_init _ _ h.exact

/-- The first request frame of a service goes out after exactly the concluding read the
service before asks for, if and only if the response of the service before declared a length
and its pending conclusion was not dropped when its state was left. -/
theorem services_concluded {K : Iolinki} (hK : K.Lawful) {phy : PhyApi} {config : Config}
    {allowed : Env → World → Call → Prop} {w : World} (hw : Reach K allowed phy config w) :
  Trace.Always ConcludedBefore w.log ↔ Trace.Always KeptBefore w.log
  := by
  apply Trace.always_congr (reachable_concluded hK hw).2.exact

/-- A port of type 2.1 connects and reads the index 0x10; the device answers with a response
without data. -/
def readingIndex : List (Env × Call) :=
  connecting ++ [(.quiet [], .service (.readIsdu 0x10 0 16)),
    (.quiet (reply 0 []), .tickAt .cycleDue 14),
    (.quiet (reply 0 [0x00]), .tickAt .cycleDue 16),
    (.quiet (reply 0 [0x00]), .tickAt .cycleDue 18),
    (.quiet (reply 0 [0x00]), .tickAt .cycleDue 20),
    (.quiet (reply 0 [0xD2, 0x00]), .tickAt .cycleDue 22)]

/-- The result is collected and the next read starts and sends its first frame. -/
def readingNext : List (Env × Call) :=
  [(.quiet [], .service (.readIsdu 0x10 0 16)), (.quiet [], .service (.readIsdu 0x11 0 16)),
    (.quiet (reply 0 [0x00, 0x00]), .tickAt .cycleDue 26)]

/-- A port that sends a frame in the tick that completes its read concludes the read. -/
theorem services_concluded_in_time :
  Trace.Always ConcludedBefore
    (run .reference (started (.quiet []) .full (.bare .type2_1 1 1))
      (readingIndex ++ [(.quiet (reply 0 [0xD2, 0x00]), .tickAt .cycleDue 24)]
        ++ readingNext)).log
  := by
  have hreach : Reach .reference ticksAndServices .full (.bare .type2_1 1 1)
      (run .reference (started (.quiet []) .full (.bare .type2_1 1 1))
        (readingIndex ++ [(.quiet (reply 0 [0xD2, 0x00]), .tickAt .cycleDue 24)]
          ++ readingNext)) := by
    apply (Reach.start _ (by decide)).run
    decide +kernel
  apply (services_concluded Iolinki.lawful_reference hreach).mpr
  decide +kernel

/-- A tick without a cycle completes the read, the application collects the result and starts
the next read, and its first frame goes out without a concluding read before. -/
theorem services_concluded_early :
  Reach .reference ticksAndServices .full (.bare .type2_1 1 1)
      (run .reference (started (.quiet []) .full (.bare .type2_1 1 1))
        (readingIndex ++ [(.quiet (reply 0 [0xD2, 0x00]), .tickAt .none 24)]
          ++ readingNext)) ∧
    ¬ Trace.Always ConcludedBefore
      (run .reference (started (.quiet []) .full (.bare .type2_1 1 1))
        (readingIndex ++ [(.quiet (reply 0 [0xD2, 0x00]), .tickAt .none 24)]
          ++ readingNext)).log
  := by
  constructor
  · apply (Reach.start _ (by decide)).run
    decide +kernel
  · decide +kernel

end IolinkMaster
