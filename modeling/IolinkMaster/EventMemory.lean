import IolinkMaster.Acknowledge
import IolinkMaster.Reconnection
import IolinkMaster.Verdict

/-!
# The event memory

A readout whose reads are answered from the event memory of the device returns this memory,
whatever the number of octets of each answer: the octets up to the highest active slot are
collected in ascending order, and the services decode the events they hold.
-/

namespace IolinkMaster

open Relation

/-! ### Reads and their answers -/

/-- What was observed since the last readout started. -/
def sinceStart : List Obs → List Obs
  | .eventStart :: _ => []
  | o :: l => o :: sinceStart l
  | [] => []

/-- The octets collected, in the order of their arrival. -/
def collected : List Obs → List UInt8
  | .eventOd od :: l => collected l ++ od
  | _ :: l => collected l
  | [] => []

/-- The address of the last diagnosis read, and whether it was answered. -/
def lastRead : List Obs → Option (Nat × Bool)
  | .sent _ frame :: l =>
      match diagnosisRead frame with
      | some addr => some (addr.toNat, false)
      | none => lastRead l
  | .eventOd _ :: l => (lastRead l).map fun r => (r.1, true)
  | _ :: l => lastRead l
  | [] => none

/-- Every diagnosis read is answered, with one or more octets of the event memory `M` from its
address on, followed by arbitrary octets past the end of `M`. -/
def AnswersFrom (M : List UInt8) (log : List Obs) : Obs → Prop
  | .sent _ frame => (diagnosisRead frame).isSome = true → ∀ r ∈ lastRead log, r.2 = true
  | .eventOd od => od ≠ [] ∧ ∀ r ∈ lastRead log, od.take (M.length - r.1) <+: M.drop r.1
  | _ => True

instance (M : List UInt8) (log : List Obs) : DecidablePred (AnswersFrom M log) := by
  intro o
  apply Obs.casesOn (motive := fun o => Decidable (AnswersFrom M log o)) o <;> intros <;>
    unfold AnswersFrom <;> infer_instance

/-- Each of the answers `ods` is one to a read the readout `e` issues, and brings one or more
octets of the event memory `M` from the address of this read on, followed by arbitrary octets
past the end of `M`. -/
def AnswersReads (M : List UInt8) : EventState → List (List UInt8) → Prop
  | _, [] => True
  | e, od :: ods =>
    (∃ addr, eventChannelAccess e = some (true, addr) ∧ od ≠ [] ∧
      od.take (M.length - addr) <+: M.drop addr) ∧ AnswersReads M (eventOnOd e od) ods

/-- The readout for `request` after the answers `ods`. -/
def readoutAfter (request : EventReq) (ods : List (List UInt8)) : EventState :=
  ods.foldl eventOnOd (eventStart request)

/-! ### The contents of an event memory -/

/-- The slots a StatusCode reports as active, in ascending order. -/
def slotsOf (status : UInt8) : List Nat := (List.range EVENT_SLOT_MAX).filter status.toNat.testBit

/-- The active slots of the event memory `M`, in ascending order. -/
def activeSlots (M : List UInt8) : List Nat := slotsOf (M.getD 0 0)

/-- The octets a StatusCode asks for: itself and the entries up to the highest active slot. -/
def lenOf (status : UInt8) : Nat :=
  1 + EVENT_ENTRY_LEN * (slotsOf status).getLast?.elim 0 (· + 1)

/-- The number of octets of the event memory `M` that have to be read. -/
def readoutLen (M : List UInt8) : Nat := lenOf (M.getD 0 0)

/-- The EventCode in slot `slot` of the event memory `M`. -/
def storedCode (M : List UInt8) (slot : Nat) : Nat :=
  (M.getD (2 + 3 * slot) 0).toNat * 256 + (M.getD (3 + 3 * slot) 0).toNat

/-- A diagnosis read goes to the number of octets collected, above all reads before it, and
octets are collected only as long as some are missing. -/
def ReadsMemory (M : List UInt8) (log : List Obs) : Obs → Prop
  | .sent _ frame => ∀ addr ∈ diagnosisRead frame,
      addr.toNat = (collected log).length ∧ ∀ r ∈ lastRead log, r.1 < addr.toNat
  | .eventOd _ => (collected log).length < readoutLen M
  | _ => True

/-- A readout is in progress, or completed and not consumed. -/
def EventState.Active (e : EventState) : Prop := e.phase ≠ .none ∨ e.request ≠ .none

/-- The events delivered hold the qualifiers and EventCodes of the active slots of `M`, and the
handler is called for each in turn. -/
structure Delivers (M : List UInt8) (w : World) (maxEvents : Nat) : Prop where
  ret : (readEventDetails w maxEvents).2 = STATUS_OK
  events : (eventDetails w.port.event.memory maxEvents).map (fun e => (e.qualifier, e.code.toNat))
    = (activeSlots M).map fun slot => (M.getD (1 + 3 * slot) 0, storedCode M slot)
  count : (readEventDetails w maxEvents).1.port.diagnostics.lastEventCount
    = (activeSlots M).length
  handled : (readEventDetails w maxEvents).1.log = .eventTaken w.port.event.request ::
    ((if w.port.config.eventHandler then
      ((eventDetails w.port.event.memory maxEvents).map Obs.event).reverse else []) ++ w.log)

/-- The services report the events of the event memory `M` when they consume a completed
readout. -/
structure ReportsEvents (M : List UInt8) (w : World) : Prop where
  code : acyclicAvailable w.port.state = true → eventComplete w.port.event = true →
    (readEventCode w).2 = STATUS_OK ∧
      (readEventCode w).1.port.diagnostics.lastEventCode.toNat
        = (activeSlots M).head?.elim 0 (storedCode M)
  details : acyclicAvailable w.port.state = true → eventComplete w.port.event = true →
    ∀ maxEvents ≥ EVENT_SLOT_MAX, Delivers M w maxEvents

/-- The readout of the port returns the event memory `M`. -/
structure ReadoutReturns (M : List UInt8) (w : World) : Prop extends ReportsEvents M w where
  reads : Trace.Always (ReadsMemory M) (sinceStart w.log)
  reading : w.port.event.phase = .read →
    w.port.event.addr = w.port.event.len ∧ w.port.event.len ≤ EVENT_MEMORY_LEN
  ends : w.port.event.Active → (w.port.event.phase = .read ↔
    (collected (sinceStart w.log)).length < readoutLen M)
  memory : w.port.event.Active →
    w.port.event.len = min EVENT_MEMORY_LEN (collected (sinceStart w.log)).length ∧
      w.port.event.memory.take w.port.event.len = M.take w.port.event.len

/-- The readout for `request` that was given the answers `ods` returns the event memory `M`:
each answer is one to a read at the number of octets brought before it, which no read before it
had reached, and the readout asks for more as long as octets are missing. -/
structure AnswersReturn (M : List UInt8) (request : EventReq) (ods : List (List UInt8)) :
    Prop where
  reads : ∀ earlier od later, ods = earlier ++ od :: later →
    eventChannelAccess (readoutAfter request earlier) = some (true, earlier.flatten.length) ∧
      earlier.flatten.length < (earlier ++ [od]).flatten.length
  reading : (readoutAfter request ods).phase = .read →
    (readoutAfter request ods).addr = (readoutAfter request ods).len ∧
      (readoutAfter request ods).len ≤ EVENT_MEMORY_LEN
  ends : (readoutAfter request ods).phase = .read ↔ ods.flatten.length < readoutLen M
  memory : (readoutAfter request ods).len = min EVENT_MEMORY_LEN ods.flatten.length ∧
    (readoutAfter request ods).memory.take (readoutAfter request ods).len
      = M.take (readoutAfter request ods).len
  reports : ∀ w : World, w.port.event = readoutAfter request ods → ReportsEvents M w

/-! ### Slots of a StatusCode -/

/-- The slots the port takes for active are those of the StatusCode. -/
theorem filter_eventSlotActive (status : UInt8) :
  (List.range EVENT_SLOT_MAX).filter (eventSlotActive status) = slotsOf status
  := by
  revert status
  apply forall_octet
  decide +kernel

/-- The last slot the port finds is the highest active one. -/
theorem eventLastSlot_eq (status : UInt8) :
  eventLastSlot status = (slotsOf status).getLast?.elim 0 (· + 1)
  := by
  revert status
  apply forall_octet
  decide +kernel

/-- The entries of the active slots are among the octets asked for. -/
theorem entry_lt_lenOf (status : UInt8) :
  ∀ slot ∈ slotsOf status, 3 + 3 * slot < lenOf status
  := by
  revert status
  apply forall_octet
  decide +kernel

/-- A StatusCode asks for no octet past the end of an event memory. -/
theorem lenOf_le (status : UInt8) :
  lenOf status ≤ EVENT_MEMORY_LEN
  := by
  revert status
  apply forall_octet
  decide +kernel

theorem length_slotsOf_le (status : UInt8) :
  (slotsOf status).length ≤ EVENT_SLOT_MAX
  := by
  rw [slotsOf]
  apply (List.length_filter_le _ _).trans
  rw [List.length_range]

theorem readoutLen_pos (M : List UInt8) :
  0 < readoutLen M
  := by
  rw [readoutLen, lenOf]
  omega

/-! ### Octets -/

/-- The port holds the octets of the event memory `M`, of which `n` were collected. -/
structure Holds (M : List UInt8) (e : EventState) (n : Nat) : Prop where
  width : e.memory.length = EVENT_MEMORY_LEN
  len : e.len = min EVENT_MEMORY_LEN n
  memory : e.memory.take e.len = M.take e.len

/-- The port holds `n` octets of the event memory `M` and has evaluated the first of them. -/
structure Gathered (M : List UInt8) (e : EventState) (n : Nat) : Prop extends Holds M e n where
  seen : e.statusSeen = decide (0 < n)
  needed : 0 < n → e.needed = readoutLen M

/-- The octet `octet` is stored at its place, unless the memory is full. -/
def storeOctet (e : EventState) (octet : UInt8) : EventState :=
  if e.addr < EVENT_MEMORY_LEN ∧ e.len < EVENT_MEMORY_LEN then
    { e with memory := e.memory.set e.addr octet, addr := e.addr + 1, len := e.len + 1 }
  else e

section

variable {M : List UInt8} {e : EventState} {n : Nat}

/-- An octet that is held is that of the event memory. -/
theorem Holds.octet (h : Holds M e n) {i : Nat} (hi : i < e.len) :
  e.memory.getD i 0 = M.getD i 0
  := by
  have htake := congrArg (fun l => l.getD i 0) h.memory
  simp only [List.getD_eq_getElem?_getD, List.getElem?_take, hi, if_true] at htake
  simpa only [List.getD_eq_getElem?_getD] using htake

/-- The octet at the place of its address extends what is held of the event memory. -/
theorem take_set_succ {memory M : List UInt8} {len : Nat} {octet : UInt8}
    (hlen : len < memory.length) (hmem : memory.take len = M.take len)
    (hoctet : M[len]? = some octet) :
  (memory.set len octet).take (len + 1) = M.take (len + 1)
  := by
  rw [List.take_add_one, List.take_add_one, List.take_set_of_le (Nat.le_refl _), hmem,
    List.getElem?_set_self hlen, hoctet]

/-- Storing an octet. -/
theorem Holds.store (h : Holds M e n) (haddr : e.addr = e.len) {octet : UInt8}
    (hoctet : n < EVENT_MEMORY_LEN → M[n]? = some octet) :
  Holds M (storeOctet e octet) (n + 1) ∧
    (storeOctet e octet).addr = (storeOctet e octet).len
  := by
  have hlen := h.len
  by_cases hroom : n < EVENT_MEMORY_LEN
  · have hn : e.len = n := by omega
    rw [storeOctet, if_pos (by omega)]
    refine ⟨⟨?_, ?_, ?_⟩, ?_⟩
    · rw [List.length_set]
      apply h.width
    · change e.len + 1 = _
      omega
    · rw [haddr]
      apply take_set_succ
      · rw [h.width, hn]
        apply hroom
      · apply h.memory
      · rw [hn]
        apply hoctet hroom
    · change e.addr + 1 = e.len + 1
      rw [haddr]
  · rw [storeOctet, if_neg (by omega)]
    refine ⟨⟨h.width, ?_, h.memory⟩, haddr⟩
    rw [hlen]
    omega

/-- Storing an octet evaluates nothing. -/
theorem storeOctet_keeps (e : EventState) (octet : UInt8) :
  (storeOctet e octet).statusSeen = e.statusSeen ∧ (storeOctet e octet).needed = e.needed
  := by
  rw [storeOctet]
  split <;> exact ⟨rfl, rfl⟩

/-- Collecting an octet. -/
theorem Gathered.onOctet (h : Gathered M e n) (haddr : e.addr = e.len) {octet : UInt8}
    (hoctet : n < EVENT_MEMORY_LEN → M[n]? = some octet) :
  Gathered M (eventOnOctet e octet) (n + 1) ∧
    (eventOnOctet e octet).addr = (eventOnOctet e octet).len
  := by
  obtain ⟨hstored, haddr'⟩ := h.toHolds.store haddr hoctet
  obtain ⟨hseen, hneeded⟩ := storeOctet_keeps e octet
  rw [eventOnOctet, ← storeOctet]
  generalize storeOctet e octet = e' at *
  have hpos : 0 < e'.len := by
    rw [hstored.len, EVENT_MEMORY_LEN]
    omega
  by_cases hfirst : n = 0
  · -- The StatusCode is evaluated with the first octet.
    have hunseen : e'.statusSeen = false := by
      rw [hseen, h.seen, hfirst]
      rfl
    rw [if_pos ⟨by rw [hunseen]; rfl, hpos⟩]
    refine ⟨⟨⟨hstored.width, hstored.len, hstored.memory⟩, by simp, fun _ => ?_⟩, haddr'⟩
    change (if eventLastSlot (e'.memory.getD 0 0) = 0 then 1
      else EVENT_ENTRY_LEN * eventLastSlot (e'.memory.getD 0 0) + 1) = readoutLen M
    rw [hstored.octet hpos, eventLastSlot_eq, readoutLen, lenOf]
    split
    · next hnone => rw [hnone, Nat.mul_zero]
    · rw [Nat.add_comm]
  · have hseen' : e'.statusSeen = true := by
      rw [hseen, h.seen]
      simpa using Nat.pos_of_ne_zero hfirst
    rw [if_neg (by simp [hseen'])]
    refine ⟨⟨hstored, by simp [hseen'], fun _ => ?_⟩, haddr'⟩
    rw [hneeded]
    apply h.needed (Nat.pos_of_ne_zero hfirst)

/-- Collecting the octets of an answer. -/
theorem Gathered.onOctets (hM : M.length = EVENT_MEMORY_LEN) {od : List UInt8}
    (h : Gathered M e n) (haddr : e.addr = e.len)
    (hod : od.take (M.length - n) <+: M.drop n) :
  Gathered M (od.foldl eventOnOctet e) (n + od.length) ∧
    (od.foldl eventOnOctet e).addr = (od.foldl eventOnOctet e).len
  := by
  induction od generalizing e n with
  | nil => exact ⟨h, haddr⟩
  | cons octet od ih =>
      have hsplit : (n < EVENT_MEMORY_LEN → M[n]? = some octet) ∧
          od.take (M.length - (n + 1)) <+: M.drop (n + 1) := by
        by_cases hroom : n < M.length
        · have hsub : M.length - n = (M.length - (n + 1)) + 1 := by omega
          rw [hsub, List.take_succ_cons, List.drop_eq_getElem_cons hroom,
            List.cons_prefix_cons] at hod
          refine ⟨fun _ => ?_, hod.2⟩
          rw [List.getElem?_eq_getElem hroom, hod.1]
        · refine ⟨fun hlt => absurd (hM ▸ hlt) hroom, ?_⟩
          have hzero : M.length - (n + 1) = 0 := by omega
          rw [hzero, List.take_zero]
          apply List.nil_prefix
      obtain ⟨hstep, haddr'⟩ := h.onOctet haddr hsplit.1
      rw [List.foldl_cons, List.length_cons, Nat.add_comm od.length, ← Nat.add_assoc]
      apply ih hstep haddr' hsplit.2

/-- The state of a readout after an answer: it goes on as long as octets are missing. -/
structure Advanced (M : List UInt8) (e : EventState) (n : Nat) : Prop where
  gathered : Gathered M e n
  ends : e.phase = .read ↔ n < readoutLen M
  aligned : e.phase = .read → e.addr = e.len
  unexpected : e.phase = .read → e.odExpected = false

/-- The answer to a diagnosis read. -/
theorem Gathered.onOd (hM : M.length = EVENT_MEMORY_LEN) {od : List UInt8}
    (h : Gathered M e n) (hphase : e.phase = .read) (haddr : e.addr = e.len)
    (hod : od.take (M.length - n) <+: M.drop n) (hexpected : e.odExpected = false) :
  Advanced M (eventOnOd e od) (n + od.length)
  := by
  obtain ⟨hgathered, haligned⟩ := h.onOctets hM haddr hod
  have hread : (od.foldl eventOnOctet e).phase = .read := by
    rw [(foldl_eventOnOctet_keeps od e).1, hphase]
  have hunexpected := foldl_eventOnOctet_odExpected od e
  rw [hexpected] at hunexpected
  simp only [eventOnOd, hphase, ne_eq, not_true, if_false]
  generalize od.foldl eventOnOctet e = e' at *
  have hle := lenOf_le (M.getD 0 0)
  rw [← readoutLen] at hle
  have hpos := readoutLen_pos M
  have hlen := hgathered.len
  by_cases hmissing : n + od.length < readoutLen M
  · -- Octets are missing, and the readout goes on.
    have hgoes : ¬ (e'.statusSeen = true ∧ e'.len ≥ e'.needed ∧ e'.len ≥ 1) := by
      rintro ⟨hseen, hneeded, -⟩
      rw [hgathered.seen, decide_eq_true_eq] at hseen
      rw [hgathered.needed hseen] at hneeded
      omega
    rw [if_neg hgoes]
    exact ⟨hgathered, ⟨fun _ => hmissing, fun _ => hread⟩, fun _ => haligned,
      fun _ => hunexpected⟩
  · have hdone : e'.statusSeen = true ∧ e'.len ≥ e'.needed ∧ e'.len ≥ 1 := by
      have hsome : 0 < n + od.length := by omega
      rw [hgathered.seen, hgathered.needed hsome]
      refine ⟨?_, ?_, ?_⟩
      · simpa using hsome
      · omega
      · rw [hlen, EVENT_MEMORY_LEN]
        omega
    rw [if_pos hdone]
    split
    · refine ⟨?_, ?_, ?_, ?_⟩
      · exact ⟨⟨hgathered.width, hgathered.len, hgathered.memory⟩, hgathered.seen,
          hgathered.needed⟩
      · exact ⟨fun h => by contradiction, fun h => absurd h hmissing⟩
      · intro h
        contradiction
      · intro h
        contradiction
    · refine ⟨?_, ?_, ?_, ?_⟩
      · exact ⟨⟨hgathered.width, hgathered.len, hgathered.memory⟩, hgathered.seen,
          hgathered.needed⟩
      · exact ⟨fun h => by contradiction, fun h => absurd h hmissing⟩
      · intro h
        contradiction
      · intro h
        contradiction

/-- A readout that has just started holds nothing. -/
theorem advanced_start (M : List UInt8) (request : EventReq) :
  Advanced M (eventStart request) 0
  := by
  refine ⟨⟨⟨rfl, rfl, rfl⟩, rfl, fun h => absurd h (Nat.lt_irrefl 0)⟩, ?_, fun _ => rfl, fun _ => rfl⟩
  exact ⟨fun _ => readoutLen_pos M, fun _ => rfl⟩

/-- The next read goes to the number of octets collected. -/
theorem Advanced.access (h : Advanced M e n) (hphase : e.phase = .read) :
  eventChannelAccess e = some (true, n)
  := by
  have hmissing := h.ends.mp hphase
  have hle : readoutLen M ≤ EVENT_MEMORY_LEN := lenOf_le _
  have hn : e.addr = n := by
    rw [h.aligned hphase, h.gathered.len]
    omega
  rw [eventChannelAccess, hphase, hn]

/-- A read goes out of a readout that is in progress. -/
theorem phase_of_readAccess {addr : Nat} (h : eventChannelAccess e = some (true, addr)) :
  e.phase = .read
  := by
  simp only [eventChannelAccess] at h
  split at h
  · contradiction
  · assumption
  · simp at h

/-- The answers to the reads of a readout. -/
theorem Advanced.answers (hM : M.length = EVENT_MEMORY_LEN) {ods : List (List UInt8)}
    (h : Advanced M e n) (hods : AnswersReads M e ods) :
  Advanced M (ods.foldl eventOnOd e) (n + ods.flatten.length)
  := by
  induction ods generalizing e n with
  | nil => apply h
  | cons od ods ih =>
      obtain ⟨⟨addr, haccess, -, hod⟩, hrest⟩ := hods
      have hphase := phase_of_readAccess haccess
      rw [h.access hphase] at haccess
      cases haccess
      have hnext := h.gathered.onOd hM hphase (h.aligned hphase) hod (h.unexpected hphase)
      rw [List.foldl_cons, List.flatten_cons, List.length_append, ← Nat.add_assoc]
      apply ih hnext hrest

/-- The answers to the earlier reads, and those to the later ones. -/
theorem answersReads_append {earlier later : List (List UInt8)}
    (h : AnswersReads M e (earlier ++ later)) :
  AnswersReads M e earlier ∧ AnswersReads M (earlier.foldl eventOnOd e) later
  := by
  induction earlier generalizing e with
  | nil => exact ⟨trivial, h⟩
  | cons od earlier ih =>
      obtain ⟨hearlier, hlater⟩ := ih h.2
      exact ⟨⟨h.1, hearlier⟩, hlater⟩

end

/-! ### Readouts -/

/-- What the observations `l` since the start of a readout tell of its state. -/
structure ReadsOut (M : List UInt8) (e : EventState) (l : List Obs) : Prop where
  reads : Trace.Always (ReadsMemory M) l
  gathered : e.Active → Gathered M e (collected l).length
  ends : e.Active → (e.phase = .read ↔ (collected l).length < readoutLen M)
  aligned : e.phase = .read → e.addr = e.len
  expects : e.phase = .read → e.odExpected = true → lastRead l = some (e.len, false)
  advanced : e.phase = .read → ∀ r ∈ lastRead l, r.2 = true → r.1 < e.len

/-- As long as the device answers from the event memory `M`, the port reads it out. -/
def Returning (M : List UInt8) (w : World) : Prop :=
  Trace.Always (AnswersFrom M) (sinceStart w.log) → ReadsOut M w.port.event (sinceStart w.log)

/-- An observation that neither starts a readout nor goes on with it. -/
@[simp]
def Obs.readNeutral : Obs → Bool
  | .sent _ _ | .eventOd _ | .eventStart => false
  | _ => true

section

variable {M : List UInt8} {e : EventState} {l : List Obs} {w v : World} {o : Obs} {n : Nat}

theorem sinceStart_neutral (ho : o.readNeutral = true) (l : List Obs) :
  sinceStart (o :: l) = o :: sinceStart l
  := by
  cases o with
  | sent | eventOd | eventStart => contradiction
  | _ => rfl

theorem collected_neutral (ho : o.readNeutral = true) (l : List Obs) :
  collected (o :: l) = collected l
  := by
  cases o with
  | sent | eventOd | eventStart => contradiction
  | _ => rfl

theorem lastRead_neutral (ho : o.readNeutral = true) (l : List Obs) :
  lastRead (o :: l) = lastRead l
  := by
  cases o with
  | sent | eventOd | eventStart => contradiction
  | _ => rfl

theorem readsMemory_neutral (ho : o.readNeutral = true) (l : List Obs) :
  ReadsMemory M l o
  := by
  cases o with
  | sent | eventOd | eventStart => contradiction
  | _ => trivial

theorem sinceStart_append {os : List Obs} (hos : ∀ o ∈ os, o.readNeutral = true)
    (l : List Obs) :
  sinceStart (os ++ l) = os ++ sinceStart l
  := by
  induction os with
  | nil => rfl
  | cons o os ih =>
      rw [List.cons_append, sinceStart_neutral (hos o List.mem_cons_self), ih,
        List.cons_append]
      intro o' ho'
      apply hos o' (List.mem_cons_of_mem _ ho')

/-- Observations about no readout leave it alone. -/
theorem ReadsOut.quiet (h : ReadsOut M e l) {os : List Obs}
    (hos : ∀ o ∈ os, o.readNeutral = true) :
  ReadsOut M e (os ++ l)
  := by
  have hcollected : collected (os ++ l) = collected l :=
    Trace.unaffected_append (fun o l ho => collected_neutral ho l) hos l
  have hlast : lastRead (os ++ l) = lastRead l :=
    Trace.unaffected_append (fun o l ho => lastRead_neutral ho l) hos l
  constructor
  · exact Trace.always_append (fun o l ho => readsMemory_neutral ho l) hos h.reads
  · rw [hcollected]
    apply h.gathered
  · rw [hcollected]
    apply h.ends
  · apply h.aligned
  · rw [hlast]
    apply h.expects
  · rw [hlast]
    apply h.advanced

/-- A step that observes nothing about readouts and leaves the readout alone. -/
theorem Returning.quiet (h : Returning M w) (os : List Obs)
    (hos : ∀ o ∈ os, o.readNeutral = true) (hlog : v.log = os ++ w.log)
    (hevent : v.port.event = w.port.event) :
  Returning M v
  := by
  intro hanswers
  rw [hlog, sinceStart_append hos] at hanswers
  rw [hlog, sinceStart_append hos, hevent]
  have hbefore := Trace.closed_always _ (List.suffix_append os _) hanswers
  exact (h hbefore).quiet hos

/-- Without a readout there is nothing to read. -/
theorem ReadsOut.idle (hreads : Trace.Always (ReadsMemory M) l) (hphase : e.phase = .none)
    (hrequest : e.request = .none) :
  ReadsOut M e l
  := by
  have hidle : ¬ e.Active := by
    rintro (h | h)
    · apply h hphase
    · apply h hrequest
  have hnone : e.phase ≠ .read := by
    rw [hphase]
    simp
  exact ⟨hreads, fun h => absurd h hidle, fun h => absurd h hidle, fun h => absurd h hnone,
    fun h => absurd h hnone, fun h => absurd h hnone⟩

/-- A readout that starts. -/
theorem ReadsOut.start (request : EventReq) :
  ReadsOut M (eventStart request) [.eventFor request]
  := by
  have hstart := advanced_start M request
  constructor
  · exact ⟨trivial, trivial⟩
  · intro _
    apply hstart.gathered
  · intro _
    apply hstart.ends
  · apply hstart.aligned
  · intro _ h
    contradiction
  · intro _ r hr
    contradiction

/-- A frame other than a diagnosis read. -/
theorem ReadsOut.other (h : ReadsOut M e l) {st : MasterState} {frame : List UInt8}
    (hframe : diagnosisRead frame = none) :
  ReadsOut M e (.sent st frame :: l)
  := by
  have hlast : lastRead (.sent st frame :: l) = lastRead l := by
    rw [lastRead, hframe]
  constructor
  · refine ⟨h.reads, ?_⟩
    rw [ReadsMemory, hframe]
    intro addr haddr
    contradiction
  · apply h.gathered
  · apply h.ends
  · apply h.aligned
  · rw [hlast]
    apply h.expects
  · rw [hlast]
    apply h.advanced

/-- A confirmation that is written completes a readout whose octets are collected. -/
theorem ReadsOut.written (h : ReadsOut M e l) :
  ReadsOut M (eventOnWritten e) l
  := by
  rw [eventOnWritten]
  split
  · next hwrite =>
    have hactive : e.Active := .inl (by simp [hwrite])
    have hgathered := h.gathered hactive
    have hends : ¬ (collected l).length < readoutLen M := by
      rw [← h.ends hactive, hwrite]
      simp
    have hnone : (eventFinish e STATUS_OK).phase ≠ .read := by
      simp [eventFinish]
    refine ⟨h.reads, fun _ => ?_, fun _ => ?_, fun h => absurd h hnone,
      fun h => absurd h hnone, fun h => absurd h hnone⟩
    · exact ⟨⟨hgathered.width, hgathered.len, hgathered.memory⟩, hgathered.seen,
        hgathered.needed⟩
    · exact ⟨fun h => absurd h hnone, fun h => absurd h hends⟩
  · apply h

/-- The address of a diagnosis read is that of the readout. -/
theorem toNat_readAddr {addr : Nat} (h : addr < EVENT_MEMORY_LEN) :
  (UInt8.ofNat addr &&& MC_ADDR_MASK).toNat = addr
  := by
  revert addr
  decide

/-- A diagnosis read, whether the port goes on to expect its answer or not. -/
theorem ReadsOut.read (h : ReadsOut M e l) (hphase : e.phase = .read)
    (hanswered : ∀ r ∈ lastRead l, r.2 = true) {st : MasterState} {frame : List UInt8}
    (hframe : diagnosisRead frame = some (UInt8.ofNat e.addr &&& MC_ADDR_MASK))
    (expected : Bool) :
  ReadsOut M { e with odExpected := expected } (.sent st frame :: l)
  := by
  have hactive : e.Active := .inl (by simp [hphase])
  have hgathered := h.gathered hactive
  have hmissing := (h.ends hactive).mp hphase
  have hle : readoutLen M ≤ EVENT_MEMORY_LEN := lenOf_le _
  have hlen : e.len = (collected l).length := by
    rw [hgathered.len]
    omega
  have haddr := h.aligned hphase
  have hto : (UInt8.ofNat e.addr &&& MC_ADDR_MASK).toNat = e.len := by
    rw [toNat_readAddr, haddr]
    omega
  have hlast : lastRead (.sent st frame :: l) = some (e.len, false) := by
    rw [lastRead, hframe]
    exact congrArg (fun a => some (a, false)) hto
  constructor
  · refine ⟨h.reads, ?_⟩
    rw [ReadsMemory, hframe]
    intro addr hmem
    cases hmem
    rw [hto]
    exact ⟨hlen, fun r hr => h.advanced hphase r hr (hanswered r hr)⟩
  · intro _
    exact ⟨⟨hgathered.width, hgathered.len, hgathered.memory⟩, hgathered.seen,
      hgathered.needed⟩
  · intro _
    apply h.ends hactive
  · intro _
    apply haddr
  · intro _ _
    apply hlast
  · intro _ r hr hanswer
    rw [hlast] at hr
    cases hr
    contradiction

/-- The answer to a diagnosis read. -/
theorem ReadsOut.answer (h : ReadsOut M e l) (hM : M.length = EVENT_MEMORY_LEN)
    (hphase : e.phase = .read) (hexpected : e.odExpected = true) {od : List UInt8}
    (hod : AnswersFrom M l (.eventOd od)) :
  ReadsOut M (eventOnOd { e with odExpected := false } od) (.eventOd od :: l)
  := by
  obtain ⟨hne, hfrom⟩ := hod
  have hactive : e.Active := .inl (by simp [hphase])
  have hgathered := h.gathered hactive
  have hmissing := (h.ends hactive).mp hphase
  have hle : readoutLen M ≤ EVENT_MEMORY_LEN := lenOf_le _
  have hlast := h.expects hphase hexpected
  have hlen : e.len = (collected l).length := by
    rw [hgathered.len]
    omega
  have hanswer := hfrom _ hlast
  rw [hlen] at hanswer
  have hunexpected : Gathered M { e with odExpected := false } (collected l).length :=
    ⟨⟨hgathered.width, hgathered.len, hgathered.memory⟩, hgathered.seen, hgathered.needed⟩
  have hadvanced := hunexpected.onOd hM hphase (h.aligned hphase) hanswer rfl
  generalize eventOnOd { e with odExpected := false } od = e' at *
  have hcount : (collected (.eventOd od :: l)).length = (collected l).length + od.length := by
    rw [collected, List.length_append]
  constructor
  · exact ⟨h.reads, hmissing⟩
  · intro _
    rw [hcount]
    apply hadvanced.gathered
  · intro _
    rw [hcount]
    apply hadvanced.ends
  · apply hadvanced.aligned
  · intro hread hexpects
    rw [hadvanced.unexpected hread] at hexpects
    contradiction
  · intro _ r hr _
    rw [lastRead, hlast] at hr
    cases hr
    have hsome := List.length_pos_iff.mpr hne
    change e.len < e'.len
    rw [hlen, hadvanced.gathered.len]
    omega

/-! ### Frames -/

/-- A Master Command that reads the diagnosis channel. -/
theorem diagnosisRead_command {frame : List UInt8} {read : Bool} {channel : McChannel}
    {address : UInt8} (h : frame.getD 0 0 = encodeMasterCommand read channel address) :
  diagnosisRead frame
    = if channel = .diagnosis ∧ read = true then some (address &&& MC_ADDR_MASK) else none
  := by
  simp only [diagnosisRead]
  rw [h, mcChannel_encode, mcIsRead_encode, mcAddress_encode]

/-- No frame of STARTUP reads the diagnosis channel. -/
theorem diagnosisRead_startup {K : Iolinki} (hK : K.Lawful) {frame : List UInt8}
    (h : frame = [WAKEUP_BYTE] ∨ frame = testMessage K) :
  diagnosisRead frame = none
  := by
  rcases h with rfl | rfl
  · decide
  · have hcommand : (testMessage K).getD 0 0
        = encodeMasterCommand true .page (UInt8.ofNat DPP1_OFF_MIN_CYCLE_TIME) := by
      rw [testMessage, hK.encodeType0_eq]
      rfl
    rw [diagnosisRead_command hcommand, if_neg (by simp)]

/-- What goes out in a slot reads the event memory if and only if octets are missing. -/
theorem Emission.diagnosis {K : Iolinki} (hK : K.Lawful) {p : PortState} {frame : List UInt8}
    {s : IsduState} {e : EventState} {step : StartupStep} (h : Emission K p frame s e step)
    (hrests : p.isdu.RestsWhenDone) :
  p.event.phase = .read ∧
      diagnosisRead frame = some (UInt8.ofNat p.event.addr &&& MC_ADDR_MASK) ∧
      e = { p.event with odExpected := true } ∨
    p.event.phase ≠ .read ∧ diagnosisRead frame = none ∧ e = eventOnWritten p.event
  := by
  have hidle : ∀ hevent : p.event.phase = .none,
      p.event.phase ≠ .read ∧ p.event = eventOnWritten p.event := by
    intro hevent
    exact ⟨by simp [hevent], (eventOnWritten_of_ne (by simp [hevent])).symm⟩
  cases h with
  | readEvent addr haccess =>
      left
      simp only [eventChannelAccess] at haccess
      split at haccess
      · contradiction
      · next hphase =>
        cases haccess
        refine ⟨hphase, ?_, rfl⟩
        rw [diagnosisRead_command (eventFrame_command hK p true _), if_pos ⟨rfl, rfl⟩]
      · cases haccess
  | writeEvent addr haccess =>
      right
      refine ⟨?_, ?_, rfl⟩
      · intro hphase
        simp [eventChannelAccess, hphase] at haccess
      · rw [diagnosisRead_command (eventFrame_command hK p false addr), if_neg (by simp)]
  | isdu f s hevent =>
      right
      obtain ⟨hphase, hsame⟩ := hidle hevent
      refine ⟨hphase, ?_, hsame⟩
      rw [diagnosisRead_command (octets_command hK p f), if_neg (by simp)]
  | deviceOperate hstate hevent =>
      right
      obtain ⟨hphase, hsame⟩ := hidle hevent
      refine ⟨hphase, ?_, hsame⟩
      rw [diagnosisRead_command (deviceOperateMessage_command hK), if_neg (by simp)]
  | cyclicType0 hstate hevent hisdu =>
      right
      obtain ⟨hphase, hsame⟩ := hidle hevent
      refine ⟨hphase, ?_, hsame⟩
      have hcommand : (type0CyclicFrame K (isduFillOd p.isdu 1).1).getD 0 0
        = encodeMasterCommand false .process 0 := by
        rw [type0CyclicFrame_command hK, isduFillOd_idle hrests hisdu]
        rfl
      rw [diagnosisRead_command hcommand, if_neg (by simp)]
  | cyclic hstate hevent =>
      right
      obtain ⟨hphase, hsame⟩ := hidle hevent
      refine ⟨hphase, ?_, hsame⟩
      have hcommand : (cyclicFrame K p (isduFillOd p.isdu p.odLen).1).getD 0 0
        = encodeMasterCommand false .process 0 := rfl
      rw [diagnosisRead_command hcommand, if_neg (by simp)]

/-! ### Steps -/

/-- A frame other than a diagnosis read leaves the readout to its answers. -/
theorem Returning.other (h : Returning M w) {st : MasterState} {frame : List UInt8}
    (hframe : diagnosisRead frame = none) (hlog : v.log = .sent st frame :: w.log)
    (hevent : v.port.event = w.port.event ∨ v.port.event = eventOnWritten w.port.event) :
  Returning M v
  := by
  intro hanswers
  rw [hlog] at hanswers ⊢
  have hsent : ReadsOut M w.port.event (.sent st frame :: sinceStart w.log) :=
    (h hanswers.1).other hframe
  rcases hevent with hevent | hevent
  · rw [hevent]
    apply hsent
  · rw [hevent]
    apply hsent.written

/-- A diagnosis read that goes out. -/
theorem Returning.read (h : Returning M w) {st : MasterState} {frame : List UInt8}
    (hphase : w.port.event.phase = .read)
    (hframe : diagnosisRead frame = some (UInt8.ofNat w.port.event.addr &&& MC_ADDR_MASK))
    (hlog : v.log = .sent st frame :: w.log) (expected : Bool)
    (hevent : v.port.event = { w.port.event with odExpected := expected }) :
  Returning M v
  := by
  intro hanswers
  rw [hlog] at hanswers ⊢
  rw [hevent]
  have hbefore : ∀ r ∈ lastRead (sinceStart w.log), r.2 = true := by
    apply hanswers.2
    rw [hframe]
    rfl
  exact (h hanswers.1).read hphase hbefore hframe expected

/-- Service calls keep what is known of the readout. -/
theorem returning_service (hstep : ServiceStep w v) (h : Returning M w) :
  Returning M v
  := by
  cases hstep with
  | tune hp => exact h.quiet [] (by simp) rfl hp.event
  | @note o ho =>
      refine h.quiet [o] ?_ rfl rfl
      intro o' ho'
      rw [List.mem_singleton.mp ho']
      cases o with
      | sent | eventOd | eventStart => contradiction
      | _ => rfl
  | startEvent request =>
      intro _
      apply ReadsOut.start
  | consumeEvent call hphase =>
      intro hanswers
      have hos : ∀ o ∈ [Obs.returned call STATUS_OK, .eventTaken w.port.event.request],
          o.readNeutral = true := by
        simp [Obs.readNeutral]
      have hquiet := (h hanswers.1.1).quiet hos
      exact .idle hquiet.reads hphase rfl
  | setPdOut => exact h.quiet [_] (by simp) rfl rfl
  | startWrite => exact h.quiet [_, _, _] (by simp) rfl rfl
  | startRead | collectPage | giveUpWrite | collectWrite =>
      exact h.quiet [_, _] (by simp) rfl rfl
  | giveUpRead | collectRead | refuseWrite | pendingWrite =>
      exact h.quiet [_] (by simp) rfl rfl

theorem returning_servicePath (hpath : ServicePath w v) (h : Returning M w) :
  Returning M v
  := hpath.keeps (fun _ _ => returning_service) h

theorem returning_control (hstep : ControlStep w v) (h : Returning M w) :
  Returning M v
  := by
  cases hstep with
  | service hstep => apply returning_service hstep h
  | fail => exact h.quiet [_] (by simp) rfl rfl

/-- Handing on on-request data. -/
theorem Returning.routeOd (h : Returning M w) (hM : M.length = EVENT_MEMORY_LEN)
    (od : List UInt8) :
  Returning M (routeOd w od)
  := by
  rcases routeOd_cases w od with ⟨hphase, hexpected, heq⟩ | ⟨-, heq⟩ | ⟨-, heq⟩
  · rw [heq]
    intro hanswers
    exact (h hanswers.1).answer hM hphase hexpected hanswers.2
  · rw [heq]
    exact h.quiet [_] (by simp) rfl rfl
  · rw [heq]
    refine h.quiet (isduObserved w.port.isdu od) ?_ rfl rfl
    intro o ho
    simp only [isduObserved, List.mem_append, List.mem_singleton] at ho
    rcases ho with ho | rfl
    · split at ho
      · rw [List.mem_singleton.mp ho]
        rfl
      · contradiction
    · rfl

/-- The judgement of a reply. -/
theorem returning_judge {K : Iolinki} {data : List UInt8} (hM : M.length = EVENT_MEMORY_LEN)
    (hstep : JudgeStep K data w v) (h : Returning M w) :
  Returning M v
  := by
  cases hstep with
  | accept hstate hack hwidth hcks hhandler hpd =>
      have haccepted : Returning M (accepted w data) :=
        h.quiet [_] (by simp) rfl rfl
      have hrouted := (returning_servicePath hhandler haccepted).routeOd hM
        (data.take (odWidth w.port))
      exact hrouted.quiet [] (by simp) rfl rfl
  | rejectLost =>
      exact h.quiet [_, _, _] (by simp [comlostObs]) rfl rfl
  | acceptTest | acceptAck => exact h.quiet [_, _] (by simp) rfl rfl
  | unframed | rejectTest | rejectRetry =>
      exact h.quiet [_] (by simp) rfl rfl

theorem returning_receive {K : Iolinki} {judged : World → List UInt8 → Prop}
    (hM : M.length = EVENT_MEMORY_LEN) (hstep : ReceiveStep K judged w v) (h : Returning M w) :
  Returning M v
  := by
  cases hstep with
  | control hstep => apply returning_control hstep h
  | recv byte => exact h.quiet [_] (by simp) rfl rfl
  | clearRx => exact h.quiet [] (by simp) rfl rfl
  | judge data hjudged hstep => apply returning_judge hM hstep h

/-- A response timeout. -/
theorem returning_timeout {due : World → Bool → Bool → Prop} (hstep : TimeoutStep due w v)
    (h : Returning M w) :
  Returning M v
  := by
  cases hstep with
  | control hstep => apply returning_control hstep h
  | clearRx | restep => exact h.quiet [] (by simp) rfl rfl
  | ignored | count => exact h.quiet [_] (by simp) rfl rfl
  | broken => exact h.quiet [_, _] (by simp) rfl rfl
  | lost => exact h.quiet [_, _, _] (by simp [comlostObs]) rfl rfl

/-- A transmission slot. -/
theorem returning_slot {K : Iolinki} (hK : K.Lawful) {ready : World → Prop}
    (hstep : SlotStep K ready w v) (hrests : w.port.isdu.RestsWhenDone) (h : Returning M w) :
  Returning M v
  := by
  cases hstep with
  | control hstep => apply returning_control hstep h
  | slot => exact h.quiet [_, _] (by simp) rfl rfl
  | send hstate hopen hemit =>
      rcases hemit.diagnosis hK hrests with ⟨hphase, hframe, he⟩ | ⟨-, hframe, he⟩
      · exact h.read hphase hframe rfl true he
      · exact h.other hframe rfl (.inr he)
  | @sendFailed sent frame s e step e' hstate hopen hemit hview he =>
      rcases hemit.diagnosis hK hrests with ⟨hphase, hframe, -⟩ | ⟨-, hframe, -⟩
      · rw [eventOnWritten_of_ne (by simp [hphase])] at he
        cases sent with
        | true =>
            have hsent : Returning M ⟨{ w.port with isdu := s, event := e' },
                .sent w.port.state frame :: w.log⟩ :=
              h.read hphase hframe rfl w.port.event.odExpected he
            exact hsent.quiet [_] (by simp) rfl rfl
        | false => exact h.quiet [_] (by simp) rfl he
      · cases sent with
        | true =>
            have hsent : Returning M ⟨{ w.port with isdu := s, event := e' },
                .sent w.port.state frame :: w.log⟩ := h.other hframe rfl (.inr he)
            exact hsent.quiet [_] (by simp) rfl rfl
        | false =>
            intro hanswers
            have hentered : ∀ o ∈ [Obs.enter .error], o.readNeutral = true := by
              simp [Obs.readNeutral]
            have hwritten := (h hanswers.1).written.quiet hentered
            rw [← he] at hwritten
            apply hwritten
  | wake => exact h.other (diagnosisRead_startup hK (.inl rfl)) rfl (.inl rfl)
  | test => exact h.other (diagnosisRead_startup hK (.inr rfl)) rfl (.inl rfl)
  | startupFailed frame hstate hframe =>
      have hsent : Returning M ⟨w.port, .sent .startup frame :: w.log⟩ :=
        h.other (diagnosisRead_startup hK hframe) rfl (.inl rfl)
      exact hsent.quiet [_] (by simp) rfl rfl
  | callWakeUp | arm => exact h.quiet [_] (by simp) rfl rfl
  | restep | count => exact h.quiet [] (by simp) rfl rfl

/-! ### Consumed readouts -/

/-- The octets asked for are held. -/
theorem Gathered.octets (h : Gathered M e n) (hn : readoutLen M ≤ n) :
  ∀ i < readoutLen M, e.memory.getD i 0 = M.getD i 0
  := by
  have hle : readoutLen M ≤ EVENT_MEMORY_LEN := lenOf_le _
  intro i hi
  apply h.octet
  rw [h.len]
  omega

/-- The slots active in the octets held are those of the event memory, with their codes and
qualifiers. -/
theorem Gathered.slots (h : Gathered M e n) (hn : readoutLen M ≤ n) :
  eventActiveSlots e.memory = activeSlots M ∧
    ∀ slot ∈ activeSlots M, (eventAt e.memory slot).qualifier = M.getD (1 + 3 * slot) 0 ∧
      (eventCodeAt e.memory slot).toNat = storedCode M slot
  := by
  have hoctets := h.octets hn
  constructor
  · rw [eventActiveSlots, hoctets 0 (readoutLen_pos M), filter_eventSlotActive, activeSlots]
  · intro slot hslot
    have hlt : 3 + 3 * slot < readoutLen M := entry_lt_lenOf _ slot hslot
    constructor
    · apply hoctets
      rw [EVENT_ENTRY_LEN]
      omega
    · have hhigh : 1 + EVENT_ENTRY_LEN * slot + 1 = 2 + 3 * slot := by
        rw [EVENT_ENTRY_LEN]
        omega
      have hlow : 1 + EVENT_ENTRY_LEN * slot + 2 = 3 + 3 * slot := by
        rw [EVENT_ENTRY_LEN]
        omega
      rw [eventCodeAt, errorCode_toNat, hhigh, hlow, hoctets _ (by omega), hoctets _ hlt,
        storedCode]

/-- The first EventCode reported is that of the lowest active slot. -/
theorem Gathered.firstCode (h : Gathered M e n) (hn : readoutLen M ≤ n) :
  (eventFirstCode e.memory).toNat = (activeSlots M).head?.elim 0 (storedCode M)
  := by
  obtain ⟨hactive, hslots⟩ := h.slots hn
  rw [eventFirstCode, hactive]
  generalize activeSlots M = slots at hslots
  cases slots with
  | nil => rfl
  | cons slot slots => apply (hslots slot List.mem_cons_self).2

/-- A completed readout is consumed. -/
theorem eventService_takes (havail : acyclicAvailable w.port.state = true)
    (hcomplete : eventComplete w.port.event = true) (request : EventReq)
    (consume : World → World) :
  eventService w request consume
    = (((consume w).emit (.eventTaken w.port.event.request)).put
        { (consume w).port with
          event := { (consume w).port.event with request := .none } }, STATUS_OK)
  := by
  have hphase : w.port.event.phase = .none := by
    simp only [eventComplete, Bool.and_eq_true, beq_iff_eq] at hcomplete
    apply hcomplete.1
  simp [eventService, havail, hphase, hcomplete]

/-- The calls of the event handler. -/
theorem foldl_event (events : List Event) (w : World) :
  (events.foldl (fun w e => w.emit (.event e)) w).port = w.port ∧
    (events.foldl (fun w e => w.emit (.event e)) w).log
      = (events.map Obs.event).reverse ++ w.log
  := by
  induction events generalizing w with
  | nil => exact ⟨rfl, rfl⟩
  | cons e events ih =>
      obtain ⟨hport, hlog⟩ := ih (w.emit (.event e))
      refine ⟨hport, ?_⟩
      rw [List.foldl_cons, hlog, List.map_cons, List.reverse_cons, List.append_assoc]
      rfl

/-- A completed readout is consumed by `read_event_details`. -/
theorem readEventDetails_takes (havail : acyclicAvailable w.port.state = true)
    (hcomplete : eventComplete w.port.event = true) (maxEvents : Nat) :
  (readEventDetails w maxEvents).1.port.diagnostics.lastEventCount
      = (eventDetails w.port.event.memory maxEvents).length ∧
    (readEventDetails w maxEvents).1.log = .eventTaken w.port.event.request ::
      ((if w.port.config.eventHandler then
        ((eventDetails w.port.event.memory maxEvents).map Obs.event).reverse else []) ++ w.log)
  := by
  rw [readEventDetails, eventService_takes havail hcomplete]
  cases hhandler : w.port.config.eventHandler with
  | true =>
      simp only [World.put_port, World.put_log, World.emit_log, hhandler, if_true]
      constructor
      · rw [(foldl_event _ _).1]
        rfl
      · rw [(foldl_event _ _).2]
        rfl
  | false =>
      simp only [World.put_port, World.put_log, World.emit_log, hhandler, Bool.false_eq_true,
        if_false]
      exact ⟨trivial, rfl⟩

/-- The events of a completed readout are delivered. -/
theorem Gathered.delivers (h : Gathered M w.port.event n) (hn : readoutLen M ≤ n)
    (havail : acyclicAvailable w.port.state = true)
    (hcomplete : eventComplete w.port.event = true) {maxEvents : Nat}
    (hmax : maxEvents ≥ EVENT_SLOT_MAX) :
  Delivers M w maxEvents
  := by
  obtain ⟨hactive, hslots⟩ := h.slots hn
  have hall : eventDetails w.port.event.memory maxEvents
      = (activeSlots M).map (eventAt w.port.event.memory) := by
    rw [eventDetails, hactive]
    apply List.take_of_length_le
    rw [List.length_map]
    have hlen : (activeSlots M).length ≤ EVENT_SLOT_MAX := length_slotsOf_le _
    omega
  have hlength : (eventDetails w.port.event.memory maxEvents).length
      = (activeSlots M).length := by
    rw [hall, List.length_map]
  constructor
  · rw [readEventDetails, eventService_takes havail hcomplete]
  · rw [hall, List.map_map]
    apply List.map_congr_left
    intro slot hslot
    obtain ⟨hqualifier, hcode⟩ := hslots slot hslot
    exact Prod.ext hqualifier hcode
  · rw [(readEventDetails_takes havail hcomplete maxEvents).1, hlength]
  · apply (readEventDetails_takes havail hcomplete maxEvents).2

/-- The services report the events of the event memory once the octets asked for are held. -/
theorem reports_of_gathered
    (h : eventComplete w.port.event = true → ∃ n, readoutLen M ≤ n ∧ Gathered M w.port.event n) :
  ReportsEvents M w
  := by
  constructor
  · intro havail hcomplete
    obtain ⟨n, hn, hgathered⟩ := h hcomplete
    rw [readEventCode, eventService_takes havail hcomplete]
    refine ⟨rfl, ?_⟩
    rw [← hgathered.firstCode hn]
    simp only [World.put_port]
    split <;> rfl
  · intro havail hcomplete maxEvents hmax
    obtain ⟨n, hn, hgathered⟩ := h hcomplete
    apply hgathered.delivers hn havail hcomplete hmax

/-- A readout that is complete holds the octets asked for. -/
theorem ReadsOut.reports (h : ReadsOut M w.port.event l) :
  ReportsEvents M w
  := by
  apply reports_of_gathered
  intro hcomplete
  simp only [eventComplete, Bool.and_eq_true, beq_iff_eq, bne_iff_ne] at hcomplete
  obtain ⟨hphase, hrequest⟩ := hcomplete
  refine ⟨_, ?_, h.gathered (.inr hrequest)⟩
  rw [← Nat.not_lt, ← h.ends (.inr hrequest), hphase]
  simp

/-- Answers of any width return the event memory they are taken from. -/
theorem answers_return (hM : M.length = EVENT_MEMORY_LEN) {request : EventReq}
    {ods : List (List UInt8)} (hods : AnswersReads M (eventStart request) ods) :
  AnswersReturn M request ods
  := by
  have hadvanced : ∀ {earlier}, AnswersReads M (eventStart request) earlier →
      Advanced M (readoutAfter request earlier) earlier.flatten.length := by
    intro earlier hearlier
    have h := (advanced_start M request).answers hM hearlier
    rwa [Nat.zero_add] at h
  have hall := hadvanced hods
  constructor
  · rintro earlier od later rfl
    obtain ⟨hearlier, ⟨addr, haccess, hne, -⟩, -⟩ := answersReads_append hods
    refine ⟨(hadvanced hearlier).access (phase_of_readAccess haccess), ?_⟩
    have hpos := List.length_pos_iff.mpr hne
    simp only [List.flatten_append, List.flatten_cons, List.flatten_nil, List.append_nil,
      List.length_append]
    omega
  · intro hphase
    refine ⟨hall.aligned hphase, ?_⟩
    rw [hall.gathered.len]
    apply Nat.min_le_left
  · apply hall.ends
  · exact ⟨hall.gathered.len, hall.gathered.memory⟩
  · intro w hw
    apply reports_of_gathered
    intro hcomplete
    simp only [eventComplete, Bool.and_eq_true, beq_iff_eq] at hcomplete
    refine ⟨_, ?_, hw ▸ hall.gathered⟩
    rw [← Nat.not_lt, ← hall.ends, ← hw, hcomplete.1]
    simp

end

/-! ### Runs -/

/-- Answers of any width to the reads of a readout return the event memory of the device, and
so does, in every run, a readout of which each read that goes out was answered with octets of the
event memory before the next one goes out. -/
theorem readout_returns_memory {K : Iolinki} (hK : K.Lawful) {M : List UInt8}
    (hM : M.length = EVENT_MEMORY_LEN) :
  (∀ request ods, AnswersReads M (eventStart request) ods → AnswersReturn M request ods) ∧
  ∀ (phy : PhyApi) (config : Config) (allowed : Env → World → Call → Prop) (w : World),
    Reach K allowed phy config w → Trace.Always (AnswersFrom M) (sinceStart w.log) →
    ReadoutReturns M w
  := by
  refine ⟨fun request ods => answers_return hM, ?_⟩
  intro phy config allowed w hw hanswers
  have hkept : KeptFormed K config (fun _ => True) (Returning M) := by
    constructor
    · intro _ _ _ _
      trivial
    · intro w v hstep _ h _
      apply returning_control hstep h
    · intro w v hstep _ h _
      apply returning_receive hM hstep h
    · intro w v hstep hformed h _
      apply returning_slot hK hstep hformed.completed h
    · intro w v hstep _ h _
      apply returning_timeout hstep h
  have h : WellFormed config w.port ∧ Returning M w := by
    apply hkept.reachable hK _ _ _ hw trivial
    · intro _
      exact .idle ⟨trivial, trivial⟩ rfl rfl
    · intro w now h
      exact h.quiet [_] (by simp) rfl rfl
    · intro w mode _ h hanswers
      exact .idle ⟨(h hanswers.1).reads, trivial⟩ rfl rfl
  have hreads := h.2 hanswers
  refine ⟨hreads.reports, hreads.reads, ?_, hreads.ends, ?_⟩
  · intro hphase
    have hgathered := hreads.gathered (.inl (by simp [hphase]))
    refine ⟨hreads.aligned hphase, ?_⟩
    rw [hgathered.len]
    apply Nat.min_le_left
  · intro hactive
    have hgathered := hreads.gathered hactive
    exact ⟨hgathered.len, hgathered.memory⟩

/-- An event memory with events in the first and the second slot. -/
def twoEvents : List UInt8 :=
  [0x03, 0xE4, 0x40, 0x00, 0xF4, 0x18, 0x01] ++ List.replicate 12 0xFF

/-- A port of type 1.2 connects and reads the event memory, two octets at a time. -/
def readingEvents : List (Env × Call) :=
  connecting ++ [(.quiet (reply 0 []), .tickAt .cycleDue 14),
    (.quiet [], .service (.readEventDetails 6)), (.quiet (reply 0 []), .tickAt .cycleDue 16),
    (.quiet (reply 0 [0x03, 0xE4]), .tickAt .cycleDue 18),
    (.quiet (reply 0 [0x40, 0x00]), .tickAt .cycleDue 20),
    (.quiet (reply 0 [0xF4, 0x18]), .tickAt .cycleDue 22),
    (.quiet (reply 0 [0x01, 0xFF]), .tickAt .cycleDue 24)]

/-- Both events are read out in four answers, of which the last goes past the second entry, and
in three answers of different widths. -/
theorem readout_returns_memory_two :
  eventComplete (run .reference (started (.quiet []) .full (.bare .type1_2 0 0))
      readingEvents).port.event = true ∧
    ReadoutReturns twoEvents
      (run .reference (started (.quiet []) .full (.bare .type1_2 0 0)) readingEvents) ∧
    AnswersReturn twoEvents .details [[0x03], [0xE4, 0x40, 0x00], [0xF4, 0x18, 0x01, 0xFF, 0xFF]]
  := by
  have hreach : Reach .reference ticksAndServices .full (.bare .type1_2 0 0)
      (run .reference (started (.quiet []) .full (.bare .type1_2 0 0)) readingEvents) := by
    apply (Reach.start _ (by decide)).run
    decide +kernel
  have h := readout_returns_memory (M := twoEvents) Iolinki.lawful_reference (by decide)
  refine ⟨?_, ?_, ?_⟩
  · decide +kernel
  · apply h.2 _ _ _ _ hreach
    decide +kernel
  · apply h.1
    exact ⟨⟨0, rfl, by decide, by decide⟩, ⟨1, rfl, by decide, by decide⟩,
      ⟨4, rfl, by decide, by decide⟩, trivial⟩

/-- The octets received, in the order of their arrival. -/
def octetsReceived : List Obs → List UInt8
  | .recv octet :: l => octetsReceived l ++ [octet]
  | _ :: l => octetsReceived l
  | [] => []

/-- The addresses of the diagnosis reads, in their order. -/
def readAddresses : List Obs → List Nat
  | .sent _ frame :: l => readAddresses l ++ ((diagnosisRead frame).map UInt8.toNat).toList
  | _ :: l => readAddresses l
  | [] => []

/-- The replies of a device that answers reads at the addresses `addrs` with `width` octets of
the event memory `M`. -/
def deviceReplies (M : List UInt8) (width : Nat) (addrs : List Nat) : List UInt8 :=
  addrs.flatMap fun addr => reply 0 ((M.drop addr).take width)

/-- A port of type 0 whose DeviceOperate was not acknowledged reads an event memory without
events.  The reply to its read is taken for the acknowledge, octet by octet. -/
def unacknowledgedReadout : World :=
  run .reference (started (.quiet []) .full (.bare .type0 0 0)) <|
    connecting ++ [(.quiet [], .service .readEventCode), (.quiet [], .tickAt .cycleDue 14),
      (.quiet [0x00], .tickAt .cycleDue 16), (.quiet [0x2D], .tickAt .cycleDue 18)]

/-- A port of type 1.2 reads an event memory with two events.  The reply to its first read
arrives after the next slot, and so do all replies after it. -/
def lateReadout : World :=
  run .reference (started (.quiet []) .full (.bare .type1_2 0 0)) <|
    connecting ++ [(.quiet (reply 0 []), .tickAt .cycleDue 14),
      (.quiet [], .service .readEventCode), (.quiet (reply 0 []), .tickAt .cycleDue 16),
      (.quiet [], .tickAt .cycleDue 18), (.quiet (reply 0 [0x03, 0xE4]), .tickAt .cycleDue 20),
      (.quiet (reply 0 [0x03, 0xE4]), .tickAt .cycleDue 22),
      (.quiet (reply 0 [0x40, 0x00]), .tickAt .cycleDue 24),
      (.quiet (reply 0 [0xF4, 0x18] ++ reply 0 [0x01, 0xFF]), .tickAt .cycleDue 26),
      (.quiet [], .service .readEventCode)]

/-- A device that answers every read with octets of its event memory does not get it read out:
where the reply is taken for an acknowledge, nothing is collected and the same read goes out
again; where replies come after the next slot, a read goes out twice, its second answer is stored
behind the first one, and the EventCode reported is none of the event memory. -/
theorem readout_returns_memory_rereads :
  (octetsReceived (sinceStart unacknowledgedReadout.log)
      = deviceReplies (List.replicate 19 0) 1 [0] ∧
    readAddresses (sinceStart unacknowledgedReadout.log) = [0, 0] ∧
    collected (sinceStart unacknowledgedReadout.log) = []) ∧
  octetsReceived (sinceStart lateReadout.log)
      = reply 0 [] ++ deviceReplies twoEvents 2 (readAddresses (sinceStart lateReadout.log)) ∧
    readAddresses (sinceStart lateReadout.log) = [0, 0, 2, 4, 6] ∧
    lateReadout.log.head? = some (.returned .readEventCode STATUS_OK) ∧
    lateReadout.port.diagnostics.lastEventCode.toNat = 0x03E4 ∧
    (activeSlots twoEvents).map (storedCode twoEvents) = [0x4000, 0x1801]
  := by
  decide +kernel

end IolinkMaster
