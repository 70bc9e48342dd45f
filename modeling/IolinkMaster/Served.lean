import IolinkMaster.Encoding
import IolinkMaster.EventFlag
import IolinkMaster.Framing
import IolinkMaster.PortPaths

/-!
# The ISDU services of a run

Which services a run starts, what of their requests goes out, how they are answered, when they
are left and whether their success is reported, read off the observations alone; and how the
state of the transport tells the same of the service it performs.
-/

namespace IolinkMaster

/-! ### Services as they are observed -/

/-- An ISDU service: what it asks for, its request octets, the on-request data its frames have
carried, the response octets with which it completes, whether it has been left, and whether a call
of `write_isdu` has reported its success. -/
structure Serviced where
  asked : IsduRequest
  request : List UInt8
  carried : List UInt8
  answer : Option (List UInt8)
  left : Bool
  reported : Bool
  deriving DecidableEq, Repr

/-- What an observation adds to the service in progress; `odLen` octets of a frame are on-request
data. -/
def Serviced.observe (odLen : Nat) (r : Serviced) : Obs → Serviced
  | .sent _ frame =>
    if isRequestFrame frame then
      { r with carried := r.carried ++ frame.drop (frame.length - odLen) }
    else r
  | .isduDone s od => { r with answer := some (receivedStream s od) }
  | .isduLeft _ => { r with left := true }
  | _ => r

/-- What an observation adds to a service that has been left. -/
def Serviced.report (r : Serviced) : Obs → Serviced
  | .wrote _ _ _ ret => if ret = STATUS_OK then { r with reported := true } else r
  | _ => r

/-- What an observation adds to the last service. -/
def Serviced.further (odLen : Nat) (o : Obs) (r : Serviced) : Serviced :=
  if r.left then r.report o else r.observe odLen o

/-- The ISDU services of a run, latest first; an initialization leaves the last one. -/
def services (odLen : Nat) : List Obs → List Serviced
  | [] => []
  | o :: log =>
    match o with
    | .isduStart op index subindex data request =>
      ⟨⟨op == .read, index, subindex, data⟩, request, [], none, false, false⟩ :: services odLen log
    | o =>
      (services odLen log).modifyHead fun r =>
        if initializes log o then { r with left := true } else r.further odLen o

/-- The state entered last. -/
def entered : List Obs → Option MasterState
  | .enter st :: _ => some st
  | _ :: log => entered log
  | [] => none

/-- The transport performs the service `r`. -/
structure IsduState.Performs (s : IsduState) (r : Serviced) : Prop where
  sound : s.Sound
  rests : s.RestsWhenDone
  op : s.op = if r.asked.read then .read else .write
  index : s.index = r.asked.index
  subindex : s.subindex = r.asked.subindex
  encoded : decodeRequest r.request = some r.asked
  request : s.request = r.request
  length : s.requestLen = r.request.length ∧ r.request.length ≤ 238
  sending : s.done = false → s.phase = .request →
    s.requestPos < r.request.length ∧ r.carried = r.request.take s.requestPos
  transmitted : (s.done = false → s.phase ≠ .request) → r.request <+: r.carried
  pending : s.done = false → r.answer = none
  answered : s.done = true → ∃ stream o, r.answer = some stream ∧ outcome stream = some o ∧
    s.error = o.error
  unreported : r.reported = false

/-- The transport has no service. -/
def IsduState.Vacant (s : IsduState) : Prop := s.op = .none ∧ s.done = false

/-- The transport performs the last of the services `rs`, unless it has been left. -/
def IsduState.Attends (s : IsduState) : List Serviced → Prop
  | r :: _ => if r.left then s.Vacant else s.Performs r
  | [] => s.Vacant

/-! ### What is observed of a service -/

/-- An observation of ISDU services. -/
def Obs.serves : Obs → Bool
  | .sent _ frame => isRequestFrame frame
  | .isduDone _ _ | .isduLeft _ | .isduStart _ _ _ _ _ | .wrote _ _ _ _ => true
  | .enter st => st == .startup || st == .inactive
  | _ => false

section

variable {K : Iolinki} {odLen : Nat} {o : Obs} {log : List Obs} {r : Serviced}
  {rs : List Serviced} {s t : IsduState}

/-- Other observations add nothing to a service. -/
theorem Serviced.further_other (ho : o.serves = false) :
  r.further odLen o = r
  := by
  simp only [Serviced.further]
  cases o with
  | sent st frame =>
      change isRequestFrame frame = false at ho
      simp [Serviced.observe, Serviced.report, ho]
  | isduDone | isduLeft | isduStart | wrote => contradiction
  | _ => split <;> rfl

/-- Only the entry of STARTUP or INACTIVE initializes. -/
theorem initializes_other (ho : o.serves = false) :
  initializes log o = false
  := by
  cases o with
  | enter st => cases st <;> first | rfl | contradiction
  | _ => rfl

/-- What an observation that starts no service does to the services of a run. -/
theorem services_cons (hstart : o.startsIsdu = false) :
  services odLen (o :: log) = (services odLen log).modifyHead fun r =>
    if initializes log o then { r with left := true } else r.further odLen o
  := by
  cases o with
  | isduStart => contradiction
  | _ => rfl

/-- An observation that adds nothing to a service. -/
theorem services_same (hstart : o.startsIsdu = false) (hinit : initializes log o = false)
    (hsame : ∀ r : Serviced, r.further odLen o = r) :
  services odLen (o :: log) = services odLen log
  := by
  rw [services_cons hstart]
  cases services odLen log with
  | nil => rfl
  | cons r rs => simp [hinit, hsame]

theorem services_other (ho : o.serves = false) :
  services odLen (o :: log) = services odLen log
  := by
  apply services_same _ (initializes_other ho) fun r => Serviced.further_other ho
  cases o with
  | isduStart => contradiction
  | _ => rfl

/-- A communication loss leaves no service. -/
theorem services_lost (p : PortState) :
  services odLen (.enter .startup :: comlostObs p :: log) = services odLen log
  := by
  have hkept : services odLen (comlostObs p :: log) = services odLen log := services_other rfl
  rw [← hkept]
  apply services_same rfl rfl
  intro r
  simp only [Serviced.further]
  split <;> rfl

/-- Observations that are about no service. -/
theorem services_append {os : List Obs} (hos : ∀ o ∈ os, o.serves = false) :
  services odLen (os ++ log) = services odLen log
  := by
  apply Trace.unaffected_append (q := fun o => o.serves = false) _ hos
  intro o l ho
  apply services_other ho

/-- What an observation that starts no service adds to a service in progress. -/
theorem services_open (hrs : services odLen log = r :: rs) (hopen : r.left = false)
    (hstart : o.startsIsdu = false) (hinit : initializes log o = false) :
  services odLen (o :: log) = r.observe odLen o :: rs
  := by
  rw [services_cons hstart, hrs, List.modifyHead_cons, hinit, if_neg (by decide), Serviced.further, hopen,
    if_neg (by decide)]

/-! ### What the transport tells of its service -/

/-- A service that starts has sent nothing yet. -/
theorem performs_started {asked : IsduRequest} (hencodes : Encodes s asked)
    (hop : s.op = if asked.read then .read else .write) (hindex : s.index = asked.index)
    (hsubindex : s.subindex = asked.subindex) (hsound : s.Sound) (hphase : s.phase = .request)
    (hdone : s.done = false) (hpos : s.requestPos = 0) :
  s.Performs ⟨asked, s.request, [], none, false, false⟩
  := by
  have hwhole : requestOctets s = s.request := by
    rw [requestOctets, ← hencodes.complete, List.take_length]
  have hdecodes := hencodes.decodes
  rw [hwhole] at hdecodes
  have hlen : 0 < s.request.length := by
    by_contra hnil
    rw [List.eq_nil_of_length_eq_zero (Nat.eq_zero_of_not_pos hnil)] at hdecodes
    contradiction
  refine ⟨hsound, ?_, hop, hindex, hsubindex, hdecodes, rfl, ⟨hencodes.complete.symm, ?_⟩, ?_, ?_,
    fun _ => rfl, ?_, rfl⟩
  · intro h
    rw [hdone] at h
    contradiction
  · rw [hencodes.complete]
    apply hencodes.bounded
  · intro _ _
    rw [hpos]
    exact ⟨hlen, rfl⟩
  · intro h
    exact absurd hphase (h hdone)
  · intro h
    rw [hdone] at h
    contradiction

/-- The on-request data of a write on the ISDU channel. -/
theorem drop_octets (p : PortState) {f : IsduFrame} {od : List UInt8} (hread : f.read = false)
    (hod : f.od = some od) :
  (f.octets K p).drop ((f.octets K p).length - od.length) = od
  := by
  have hdrop : ∀ head : List UInt8, (head ++ od).drop ((head ++ od).length - od.length) = od := by
    intro head
    rw [List.length_append, Nat.add_sub_cancel, List.drop_left]
  obtain ⟨read, flowctrl, od'⟩ := f
  obtain rfl : od' = some od := hod
  simp only [IsduFrame.octets, buildIsduFrame]
  split
  · exact hdrop [_, _]
  · exact hdrop (_ :: _ :: pdOutOctets p)

/-- Only a write on the ISDU channel carries octets of a request. -/
theorem isRequestFrame_octets (hK : K.Lawful) (p : PortState) (f : IsduFrame) :
  isRequestFrame (f.octets K p) = !f.read
  := by
  rw [isRequestFrame, isduAccess_octets hK]
  rfl

/-- The transport that only moves on without sending octets of a request performs the same
service. -/
theorem IsduState.Performs.moves (h : s.Performs r) (hsound : t.Sound)
    (hmoves : ∃ pos flowctrl abort idle, t = { s with
      requestPos := pos, flowctrl := flowctrl, abortPending := abort, idlePending := idle })
    (hphase : s.done = false → s.phase ≠ .request) :
  t.Performs r
  := by
  obtain ⟨pos, flowctrl, abort, idle, rfl⟩ := hmoves
  refine ⟨hsound, h.rests, h.op, h.index, h.subindex, h.encoded, h.request, h.length, ?_,
    h.transmitted, h.pending, h.answered, h.unreported⟩
  intro hdone hrequest
  exact absurd hrequest (hphase hdone)

/-- Filling a frame with the next segment of a request. -/
theorem IsduState.Performs.fill (h : s.Performs r) (hdone : s.done = false)
    (hphase : s.phase = .request) (n : Nat) :
  (isduFillOd s n).2.Performs { r with carried := r.carried ++ (isduFillOd s n).1 }
  := by
  obtain ⟨hpos, hcarried⟩ := h.sending hdone hphase
  have hop : s.op ≠ .none := by
    rw [h.op]
    split <;> decide
  obtain ⟨hlen, hbound⟩ := h.length
  have hsound := (sound_fillOd h.sound n).1
  obtain ⟨m, phase, flowctrl, hmoved, hfill⟩ :=
    isduFillOd_sending hop hphase (by omega) (by omega) n
  rw [hfill] at hsound ⊢
  -- What has gone out after this frame: the request up to the new position, or all of it.
  have hsegment : r.carried ++ (s.request.drop s.requestPos).take m
      = r.request.take (s.requestPos + m) := by
    rw [hcarried, h.request, List.take_add]
  have hclosed : ∀ {P : Prop}, s.done = true → P := by
    intro P hrests
    rw [hdone] at hrests
    contradiction
  refine ⟨hsound, hclosed, h.op, h.index, h.subindex, h.encoded, h.request, h.length, ?_, ?_,
    h.pending, hclosed, h.unreported⟩
  · rintro - rfl
    obtain ⟨hwait, -⟩ | ⟨-, rfl, hmore⟩ := hmoved
    · contradiction
    · have hunpadded : padOd m ((s.request.drop s.requestPos).take m)
          = (s.request.drop s.requestPos).take m := by
        rw [padOd, List.length_take, List.length_drop, h.request]
        have hzero : m - min m (r.request.length - s.requestPos) = 0 := by omega
        rw [hzero, List.replicate_zero, List.append_nil]
      change s.requestPos + m < r.request.length ∧
        r.carried ++ padOd m ((s.request.drop s.requestPos).take m)
          = r.request.take (s.requestPos + m)
      rw [hunpadded, hsegment]
      exact ⟨by omega, rfl⟩
  · intro hopen
    obtain ⟨-, -, hlast⟩ | ⟨hrequest, -⟩ := hmoved
    · change r.request <+: r.carried ++ padOd n ((s.request.drop s.requestPos).take m)
      rw [padOd, ← List.append_assoc, hsegment, List.take_of_length_le (by omega)]
      apply List.prefix_append
    · exact absurd hrequest (hopen hdone)

/-- What a frame of the ISDU channel adds to the service of the transport. -/
theorem IsduState.Performs.next (hK : K.Lawful) (h : s.Performs r) {f : IsduFrame}
    (hnext : isduNext s odLen = some (f, t)) (st : MasterState) (p : PortState) :
  t.Performs (r.observe odLen (.sent st (f.octets K p)))
  := by
  have hsound := (sound_next h.sound hnext).1
  have hop : s.op ≠ .none := by
    rw [h.op]
    split <;> decide
  have hpoll : f.read = true → r.observe odLen (.sent st (f.octets K p)) = r := by
    intro hread
    simp [Serviced.observe, isRequestFrame_octets hK, hread]
  rcases isduNext_cases h.sound hop hnext with ⟨hdone, hphase, rfl, rfl⟩ | ⟨hphase, hread, hmoves⟩
  · have hdrop := drop_octets (K := K) p (f := ⟨false, s.flowctrl, some (isduFillOd s odLen).1⟩)
      rfl rfl
    rw [length_isduFillOd] at hdrop
    simp only [Serviced.observe, isRequestFrame_octets hK, Bool.not_false, if_true, hdrop]
    apply h.fill hdone hphase
  · rw [hpoll hread]
    apply h.moves hsound hmoves hphase

/-- What on-request data adds to the service of the transport. -/
theorem IsduState.Performs.hear (h : s.Performs r) (odLen : Nat) (od : List UInt8) :
  (isduOnOd s od).Performs
    (if !s.done && (isduOnOd s od).done then r.observe odLen (.isduDone s od) else r)
  := by
  cases hrecv : isduReceiving s with
  | false =>
      rw [isduOnOd_of_not_receiving od hrecv]
      have hsame : (!s.done && s.done) = false := by cases s.done <;> rfl
      rw [hsame]
      apply h
  | true =>
      obtain ⟨-, hdone, hphase⟩ := isduReceiving_iff.mp hrecv
      have hreceives := h.sound.receives hrecv od
      have hrests := restsWhenDone_onOd od h.rests
      have hsound := sound_onOd h.sound od
      obtain ⟨hop, hindex, hsubindex, hrequest, hlength, -⟩ := sameRequest_onOd s od
      have htransmitted : r.request <+: r.carried := by
        apply h.transmitted
        intro _
        rcases hphase with hphase | hphase <;> simp [hphase]
      have hnot : (isduOnOd s od).done = false → (isduOnOd s od).phase ≠ .request := by
        intro hopen
        have hopen' : outcome (receivedStream s od) = none := by
          cases ho : outcome (receivedStream s od) with
          | none => rfl
          | some o =>
              rw [((receives_done ho).mp hreceives).2.1] at hopen
              contradiction
        rcases (isduReceiving_iff.mp (isduReceiving_of_receives hreceives hopen')).2.2 with hp | hp
        · simp [hp]
        · simp [hp]
      generalize isduOnOd s od = t at *
      have hresult : ∀ answer : Option (List UInt8),
          (t.done = false → answer = none) →
          (t.done = true → ∃ stream o, answer = some stream ∧ outcome stream = some o ∧
            t.error = o.error) →
          t.Performs { r with answer := answer } := by
        intro answer hpending hanswered
        refine ⟨hsound, hrests, hop.trans h.op, hindex.trans h.index, hsubindex.trans h.subindex,
          h.encoded, hrequest.trans h.request, ?_, ?_, fun _ => htransmitted, hpending, hanswered,
          h.unreported⟩
        · rw [hlength]
          apply h.length
        · intro hopen hp
          exact absurd hp (hnot hopen)
      rw [hdone, Bool.not_false, Bool.true_and]
      cases ho : outcome (receivedStream s od) with
      | none =>
          have hopen : t.done = false := by
            have hnone := hreceives.2
            rw [ho] at hnone
            apply hnone.1
          rw [hopen, if_neg (by simp)]
          have hsame := hresult r.answer (fun _ => h.pending hdone) (by
            intro hclosed
            rw [hopen] at hclosed
            contradiction)
          apply hsame
      | some o =>
          obtain ⟨-, hclosed, -, -, -, herror, -⟩ := (receives_done ho).mp hreceives
          rw [hclosed, if_pos rfl]
          simp only [Serviced.observe]
          apply hresult
          · intro hopen
            rw [hclosed] at hopen
            contradiction
          · intro _
            exact ⟨_, o, rfl, ho, herror⟩

/-! ### The last service -/

/-- A transport that is not vacant performs the last service, which has not been left. -/
theorem IsduState.Attends.performs (h : s.Attends rs) (hbusy : s.op ≠ .none ∨ s.done = true) :
  ∃ r l, rs = r :: l ∧ r.left = false ∧ s.Performs r
  := by
  have hnot : ¬ s.Vacant := by
    rintro ⟨hop, hdone⟩
    rcases hbusy with hne | hclosed
    · exact hne hop
    · rw [hdone] at hclosed
      contradiction
  cases rs with
  | nil => exact absurd h hnot
  | cons r l =>
      simp only [IsduState.Attends] at h
      split at h
      · exact absurd h hnot
      · next hopen => exact ⟨r, l, rfl, Bool.eq_false_iff.mpr hopen, h⟩

/-- A transport that performs the last service attends it. -/
theorem IsduState.Performs.attends (h : s.Performs r) (hopen : r.left = false) :
  s.Attends (r :: rs)
  := by
  rw [IsduState.Attends, hopen, if_neg (by decide)]
  apply h

/-- A service is left when its state is. -/
theorem further_left (odLen : Nat) (r : Serviced) (u : IsduState) :
  (r.further odLen (.isduLeft u)).left = true
  := by
  simp only [Serviced.further]
  split
  · next hleft => apply hleft
  · rfl

/-- After a service has been left the transport is vacant. -/
theorem attends_left (ht : t.Vacant) (u : IsduState) (log : List Obs) :
  t.Attends (services odLen (.isduLeft u :: log))
  := by
  simp only [services]
  cases services odLen log with
  | nil => apply ht
  | cons r rs =>
      have hleft := further_left odLen r u
      simp only [List.modifyHead_cons, initializes, Bool.false_eq_true, if_false,
        IsduState.Attends, hleft, if_true]
      apply ht

/-- A call of `write_isdu` alone changes nothing for the transport. -/
theorem IsduState.Attends.wrote (h : s.Attends (services odLen log)) (index : UInt16)
    (subindex : UInt8) (data : List UInt8) (ret : Int) :
  s.Attends (services odLen (.wrote index subindex data ret :: log))
  := by
  simp only [services]
  cases hrs : services odLen log with
  | nil =>
      rw [hrs] at h
      apply h
  | cons r rs =>
      rw [hrs] at h
      simp only [List.modifyHead_cons, initializes, Bool.false_eq_true, if_false]
      simp only [Serviced.further]
      split
      · next hleft =>
        have hreport : (r.report (.wrote index subindex data ret)).left = true := by
          simp only [Serviced.report]
          split <;> apply hleft
        simp only [IsduState.Attends, hleft, if_true] at h
        simp only [IsduState.Attends, hreport, if_true]
        apply h
      · apply h

/-- What the services of a run become does not matter to a vacant transport as long as none
starts. -/
theorem IsduState.Attends.other (h : s.Attends (services odLen log)) (os : List Obs)
    (hos : ∀ o ∈ os, o.serves = false) :
  s.Attends (services odLen (os ++ log))
  := by
  rw [services_append hos]
  apply h

/-- The transport attends a service it has just started. -/
theorem attends_started (op : IsduOp) {index : UInt16} {subindex : UInt8} {data : List UInt8}
    (hencodes : Encodes s ⟨op == .read, index, subindex, data⟩)
    (hop : s.op = if (op == .read) = true then .read else .write) (hindex : s.index = index)
    (hsubindex : s.subindex = subindex) (hphase : s.phase = .request) (hdone : s.done = false)
    (hpos : s.requestPos = 0) (hsound : s.Sound) (log : List Obs) :
  s.Attends (services odLen (.isduStart op index subindex data s.request :: log))
  := by
  apply IsduState.Performs.attends _ rfl
  apply performs_started hencodes hop hindex hsubindex hsound hphase hdone hpos

/-- Every step of a service call leaves the transport attending the last service. -/
theorem attends_service {w v : World} (hstep : ServiceStep w v)
    (h : w.port.isdu.Attends (services odLen w.log)) :
  v.port.isdu.Attends (services odLen v.log)
  := by
  have hsound : ∀ {t : IsduState}, t.phase = .request → t.done = false → t.idlePending = false →
      t.abortPending = false → t.error = ISDU_ERROR_NONE → t.response = [] → t.Sound :=
    fun h₁ h₂ h₃ h₄ h₅ h₆ => sound_started h₁ h₂ h₃ h₄ h₅ h₆
  cases hstep with
  | tune hsimilar =>
      rw [World.put_port, hsimilar.isdu]
      apply h
  | @note o ho =>
      apply h.other [o]
      intro o' ho'
      rw [List.mem_singleton.mp ho']
      cases o <;> first | rfl | contradiction
  | startRead index subindex =>
      exact attends_started .read (encodes_isduStartRead _ index subindex) rfl rfl rfl rfl
        rfl rfl (hsound rfl rfl rfl rfl rfl rfl) _
  | startWrite index subindex data _ _ _ hlen =>
      apply IsduState.Attends.wrote
      exact attends_started .write (encodes_isduStartWrite _ hlen) rfl rfl rfl rfl
        rfl rfl (hsound rfl rfl rfl rfl rfl rfl) _
  | giveUpRead | collectRead => exact attends_left ⟨rfl, rfl⟩ _ _
  | giveUpWrite | collectWrite => exact (attends_left ⟨rfl, rfl⟩ _ _).wrote _ _ _ _
  | collectPage =>
      exact (attends_left ⟨rfl, rfl⟩ _ _).other [_] (by simp [Obs.serves])
  | refuseWrite index subindex data ret => exact h.wrote _ _ _ _
  | pendingWrite index subindex data => exact h.wrote _ _ _ _
  | startEvent => exact h.other [_, _] (by simp [Obs.serves])
  | consumeEvent => exact h.other [_, _] (by simp [Obs.serves])
  | setPdOut => exact h.other [_] (by simp [Obs.serves])

/-- The transport is vacant, or it performs the last service. -/
theorem IsduState.Attends.cases (h : s.Attends rs) :
  s.Vacant ∨ ∃ r l, rs = r :: l ∧ r.left = false ∧ s.Performs r
  := by
  by_cases hop : s.op = .none
  · cases hdone : s.done with
    | false => exact .inl ⟨hop, hdone⟩
    | true => exact .inr (h.performs (.inr hdone))
  · exact .inr (h.performs (.inl hop))

theorem IsduState.Performs.busy (h : s.Performs r) :
  s.op ≠ .none
  := by
  rw [h.op]
  split <;> decide

/-- A completed service is at rest. -/
theorem IsduState.Attends.rests (h : s.Attends rs) :
  s.RestsWhenDone
  := by
  rcases h.cases with hvacant | ⟨r, l, -, -, hperforms⟩
  · intro hdone
    rw [hvacant.2] at hdone
    contradiction
  · apply hperforms.rests

/-- A vacant transport may take the place of another one. -/
theorem IsduState.Attends.vacant (h : s.Attends rs) (hs : s.Vacant) (ht : t.Vacant) :
  t.Attends rs
  := by
  cases rs with
  | nil => apply ht
  | cons r rs =>
      simp only [IsduState.Attends] at h ⊢
      split
      · apply ht
      · next hopen =>
        rw [if_neg hopen] at h
        exact absurd hs.1 h.busy

/-- A vacant transport sends reads only, and stays vacant. -/
theorem IsduState.Vacant.next (h : s.Vacant) {f : IsduFrame}
    (hnext : isduNext s odLen = some (f, t)) :
  f.read = true ∧ t.Vacant
  := by
  simp only [isduNext] at hnext
  split at hnext
  · cases hnext
    exact ⟨rfl, h⟩
  · split at hnext
    · cases hnext
      exact ⟨rfl, h⟩
    · rw [if_pos (.inl h.1)] at hnext
      contradiction

/-- A frame of the ISDU channel leaves the transport attending the last service. -/
theorem IsduState.Attends.send (hK : K.Lawful) (h : s.Attends (services odLen log))
    {f : IsduFrame} (hnext : isduNext s odLen = some (f, t)) (st : MasterState) (p : PortState) :
  t.Attends (services odLen (.sent st (f.octets K p) :: log))
  := by
  rcases h.cases with hvacant | ⟨r, l, hrs, hopen, hperforms⟩
  · obtain ⟨hread, ht⟩ := hvacant.next hnext
    rw [services_other]
    · apply h.vacant hvacant ht
    · rw [Obs.serves, isRequestFrame_octets hK, hread]
      rfl
  · have hsent := hperforms.next hK hnext st p
    have hleft : (r.observe odLen (.sent st (f.octets K p))).left = false := by
      simp only [Serviced.observe]
      split <;> apply hopen
    rw [services_open hrs hopen rfl rfl]
    apply hsent.attends hleft

/-- On-request data leaves the transport attending the last service. -/
theorem IsduState.Attends.hear (h : s.Attends (services odLen log)) (od : List UInt8) :
  (isduOnOd s od).Attends (services odLen (isduObserved s od ++ log))
  := by
  have hod : services odLen (.isduOd od :: log) = services odLen log := services_other rfl
  rcases h.cases with hvacant | ⟨r, l, hrs, hopen, hperforms⟩
  · have hdeaf : isduReceiving s = false := by
      simp [isduReceiving, hvacant.1]
    have hsilent : isduObserved s od = [.isduOd od] := by
      simp [isduObserved, isduOnOd_of_not_receiving od hdeaf]
    rw [hsilent, isduOnOd_of_not_receiving od hdeaf, List.singleton_append, hod]
    apply h
  · have hheard := hperforms.hear odLen od
    simp only [isduObserved]
    split
    · next hcompletes =>
      rw [if_pos hcompletes] at hheard
      change (isduOnOd s od).Attends (services odLen (.isduDone s od :: .isduOd od :: log))
      rw [services_open (hod.trans hrs) hopen rfl rfl]
      apply hheard.attends hopen
    · next hgoes =>
      rw [if_neg hgoes] at hheard
      rw [List.nil_append, List.singleton_append, hod, hrs]
      apply hheard.attends hopen

end

/-! ### The services of a port -/

/-- The port is in the state entered last, and attends the last of the services of its run unless
the error state is latched. -/
structure Attended (config : Config) (w : World) : Prop where
  odLen : w.port.odLen = odLenForType config.mSeqType
  entered : entered w.log = some w.port.state
  unlost : lostLast w.log = false
  attends : w.port.state ≠ .error →
    w.port.isdu.Attends (services (odLenForType config.mSeqType) w.log)

/-- An observation that enters no state and gives up no communication. -/
def Obs.stays : Obs → Bool
  | .enter _ | .comlost _ _ _ _ _ => false
  | _ => true

/-- Communication is not given up in the error state, which only `on_rx` does. -/
def Unrevived (log : List Obs) : Obs → Prop
  | .comlost _ _ _ _ _ => entered log ≠ some .error
  | _ => True

instance (log : List Obs) : DecidablePred (Unrevived log) := by
  intro o
  apply Obs.casesOn (motive := fun o => Decidable (Unrevived log o)) o <;> intros <;>
    unfold Unrevived <;> infer_instance

section

variable {K : Iolinki} {config : Config} {env : Env} {allowed : Service → Prop} {w v : World}

theorem entered_append {os log : List Obs} (hos : ∀ o ∈ os, o.stays = true) :
  entered (os ++ log) = entered log
  := by
  apply Trace.unaffected_append (q := fun o => o.stays = true) _ hos
  intro o l ho
  cases o <;> first | rfl | contradiction

theorem lostLast_append {os log : List Obs} (hos : ∀ o ∈ os, o.stays = true)
    (h : lostLast log = false) :
  lostLast (os ++ log) = false
  := by
  cases os with
  | nil => apply h
  | cons o os =>
      have ho := hos o List.mem_cons_self
      cases o <;> first | rfl | contradiction

/-- A port that stays in its state goes on attending the last service. -/
theorem Attended.stay (h : Attended config w) (os : List Obs)
    (hos : ∀ o ∈ os, o.stays = true) (hlog : v.log = os ++ w.log)
    (hodLen : v.port.odLen = w.port.odLen) (hstate : v.port.state = w.port.state)
    (hattends : w.port.isdu.Attends (services (odLenForType config.mSeqType) w.log) →
      v.port.isdu.Attends (services (odLenForType config.mSeqType) v.log)) :
  Attended config v
  := by
  refine ⟨hodLen.trans h.odLen, ?_, ?_, ?_⟩
  · rw [hlog, hstate, entered_append hos, h.entered]
  · rw [hlog]
    apply lostLast_append hos h.unlost
  · rw [hstate]
    intro hne
    apply hattends (h.attends hne)

/-- A port that stays in its state, and whose services do not change, goes on attending. -/
theorem Attended.quiet (h : Attended config w) (os : List Obs)
    (hos : ∀ o ∈ os, o.stays = true ∧ o.serves = false) (hlog : v.log = os ++ w.log)
    (hodLen : v.port.odLen = w.port.odLen) (hstate : v.port.state = w.port.state)
    (hisdu : v.port.isdu = w.port.isdu) :
  Attended config v
  := by
  apply h.stay os (fun o ho => (hos o ho).1) hlog hodLen hstate
  rw [hlog, hisdu]
  intro hattends
  exact hattends.other os fun o ho => (hos o ho).2

/-- A port that latches the error state attends no service. -/
theorem Attended.fail (h : Attended config w) {l : List Obs} (hlog : v.log = .enter .error :: l)
    (hodLen : v.port.odLen = w.port.odLen) (hstate : v.port.state = .error) :
  Attended config v
  := by
  refine ⟨hodLen.trans h.odLen, ?_, ?_, fun hne => absurd hstate hne⟩
  · rw [hlog, hstate]
    rfl
  · rw [hlog]
    rfl

/-- A port that enters the next state of the connection goes on attending. -/
theorem Attended.enter (h : Attended config w) {st : MasterState}
    (hserves : Obs.serves (.enter st) = false) (hne : w.port.state ≠ .error) :
  Attended config (w.enter st)
  := by
  refine ⟨h.odLen, rfl, rfl, ?_⟩
  intro _
  exact (h.attends hne).other [.enter st] fun o ho => by
    rw [List.mem_singleton.mp ho, hserves]

/-- A step of a service call leaves the port attending the last service. -/
theorem attended_service (hstep : ServiceStep w v) (h : Attended config w) :
  Attended config v
  := by
  obtain ⟨os, hos, hlog⟩ := log_of_service hstep
  have hstays : ∀ o ∈ os, o.stays = true := by
    intro o ho
    have hservice := hos o ho
    cases o <;> first | rfl | contradiction
  have hsame : v.port.odLen = w.port.odLen ∧ v.port.state = w.port.state := by
    cases hstep with
    | tune hsimilar => exact ⟨hsimilar.odLen, hsimilar.state⟩
    | _ => exact ⟨rfl, rfl⟩
  exact h.stay os hstays hlog hsame.1 hsame.2 (attends_service hstep)

/-- A control step leaves the port attending the last service. -/
theorem attended_control (hstep : ControlStep w v) (h : Attended config w) :
  Attended config v
  := by
  cases hstep with
  | service hstep => apply attended_service hstep h
  | fail => exact h.fail rfl rfl rfl

theorem attended_controlPath (hpath : ControlPath w v) (h : Attended config w) :
  Attended config v
  := by
  induction hpath with
  | refl => apply h
  | tail _ hlast ih => apply attended_control hlast ih

/-- Every step of a port leaves it attending the last service, unless the error state is left. -/
theorem attended_step (hK : K.Lawful) (hstep : PortStep K env allowed w v)
    (hunrevived : Trace.Always Unrevived v.log) (h : Attended config w) :
  Attended config v
  := by
  cases hstep with
  | put hp => exact h.quiet [] (by simp) rfl hp.odLen hp.state hp.isdu
  | @emit o ho =>
      refine h.quiet [o] ?_ rfl rfl rfl rfl
      intro o' ho'
      rw [List.mem_singleton.mp ho']
      cases o with
      | sent st frame =>
          rw [Obs.aloof, Bool.not_eq_true'] at ho
          exact ⟨rfl, ho⟩
      | _ => first | exact ⟨rfl, rfl⟩ | contradiction
  | cycle frame hframe =>
      refine h.stay [.sent w.port.state frame] (by simp [Obs.stays]) rfl rfl rfl ?_
      intro hattends
      exact hattends.other [_] fun o ho => by
        rw [List.mem_singleton.mp ho]
        exact hframe hattends.rests
  | slot => exact h.quiet [_, _] (by simp [Obs.stays, Obs.serves]) rfl rfl rfl rfl
  | connect st hstate =>
      rcases hstate with ⟨hstate, rfl⟩ | ⟨hstate, rfl⟩
      · exact h.enter rfl (by simp [hstate])
      · exact h.enter rfl (by simp [hstate])
  | lost =>
      have hne : w.port.state ≠ .error := by
        intro herror
        have hnot : entered w.log ≠ some .error := hunrevived.1.2
        rw [h.entered, herror] at hnot
        contradiction
      refine ⟨h.odLen, rfl, rfl, fun _ => ?_⟩
      change w.port.isdu.Attends (services _ (.enter .startup :: comlostObs w.port :: w.log))
      rw [services_lost]
      apply h.attends hne
  | fail => exact h.fail rfl rfl rfl
  | overflow => exact h.fail rfl rfl rfl
  | validate =>
      apply attended_controlPath (processValidation_path w).1 h
  | send hnext =>
      rw [h.odLen] at hnext
      refine h.stay [_] ?_ rfl rfl rfl (fun hattends => hattends.send hK hnext _ _)
      intro o ho
      rw [List.mem_singleton.mp ho]
      rfl
  | sendFailed => exact h.fail rfl rfl rfl
  | fill n hnext =>
      refine h.stay [] (by simp) rfl rfl rfl ?_
      intro hattends
      rw [World.putIsdu, World.put_port, isduFillOd_idle hattends.rests hnext n]
      apply hattends
  | hear od =>
      refine h.stay _ ?_ rfl rfl rfl (fun hattends => hattends.hear od)
      intro o ho
      rcases List.mem_append.mp ho with ho | ho
      · split at ho
        · rw [List.mem_singleton.mp ho]
          rfl
        · contradiction
      · rw [List.mem_singleton.mp ho]
        rfl
  | call call =>
      exact (runService_path w call).keeps (fun _ _ hstep => attended_service hstep) h

end

end IolinkMaster
