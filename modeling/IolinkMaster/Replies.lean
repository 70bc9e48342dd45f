import IolinkMaster.Conclusion
import IolinkMaster.Encoding
import IolinkMaster.EventFlag
import Mathlib.Data.List.TakeWhile

/-!
# Replies to acyclic reads

What a reply answers, read off the observations of a run: the channel of the acyclic read that was
sent last, the on-request data that is yet to be handed on, and the on-request data of the replies
to the reads of the ISDU transfer in progress.  A transport that takes these octets alone has
collected them and nothing else.
-/

namespace IolinkMaster

/-! ### Duties -/

/-- The channels of the acyclic services. -/
inductive Acyclic where
  | isdu | diagnosis
  deriving DecidableEq, Repr

/-- The acyclic channel a frame reads from, if it does. -/
def acyclicRead (frame : List UInt8) : Option Acyclic :=
  let mc := frame.getD 0 0
  if mcIsRead mc then
    match mcChannel mc with
    | .isdu => some .isdu
    | .diagnosis => some .diagnosis
    | .process | .page => none
  else none

/-- What is due to an acyclic service. -/
inductive Duty where
  /-- Nothing. -/
  | free
  /-- The frame sent last, which a reply answers, reads from a channel. -/
  | asked (c : Acyclic)
  /-- The on-request data of the accepted reply is yet to be handed on. -/
  | owed (c : Acyclic) (od : List UInt8)
  /-- An accepted reply that answers no acyclic read has brought on-request data. -/
  | spare (od : List UInt8)
  deriving DecidableEq, Repr

/-- What an observation makes of the duty. -/
def dutyStep (o : Obs) (d : Duty) : Duty :=
  match o with
  | .sent .preoperate frame | .sent .operate frame =>
    match acyclicRead frame with
    | some c => .asked c
    | none => .free
  | .accept _ _ od =>
    match d, od with
    | .asked c, some od => .owed c od
    | _, some od => .spare od
    | _, none => .free
  | .sent _ _ | .enter _ | .isduOd _ | .eventOd _ | .dropOd _ => .free
  | _ => d

/-- The duty after the observations of a run. -/
def duty (log : List Obs) : Duty := log.foldr dutyStep .free

/-- At first no reply has a duty. -/
@[simp]
theorem duty_nil :
  duty [] = .free
  := rfl

/-- An observation changes the duty of the next reply. -/
@[simp]
theorem duty_cons (o : Obs) (log : List Obs) :
  duty (o :: log) = dutyStep o (duty log)
  := rfl

/-! ### Transfers -/

/-- An ISDU transfer as it is observed: how many octets of its request are yet to be sent, whether
one of its reads has gone out, and the on-request data of the accepted replies to its reads. -/
structure Transfer where
  unsent : Nat
  polled : Bool
  replied : List UInt8
  deriving DecidableEq, Repr

/-- A frame of the ISDU channel belongs to the transfer; `odLen` octets of a write are on-request
data. -/
def Transfer.send (odLen : Nat) (frame : List UInt8) (t : Transfer) : Transfer :=
  match isduAccess frame with
  | some (true, _) => { t with polled := true }
  | some (false, _) => { t with unsent := t.unsent - odLen }
  | none => t

/-- The on-request data of an accepted reply to a read on the ISDU channel, which is one of the
transfer if any has gone out. -/
def Transfer.reply (od : List UInt8) (t : Transfer) : Transfer :=
  if t.polled then { t with replied := t.replied ++ od } else t

/-- The ISDU transfer in progress.  The octets of a frame whose transmission fails, which latches the
error state, count as sent. -/
def transfer (odLen : Nat) : List Obs → Option Transfer
  | [] => none
  | o :: log =>
    match o with
    | .isduStart _ _ _ _ request => some ⟨request.length, false, []⟩
    | .isduLeft _ => none
    | .sent _ frame => (transfer odLen log).map (Transfer.send odLen frame)
    | .accept _ _ (some od) =>
      if duty log = .asked .isdu then (transfer odLen log).map (Transfer.reply od)
      else transfer odLen log
    | .enter st =>
      if initializes log (.enter st) then none
      else if st = .error then (transfer odLen log).map fun t => { t with unsent := 0 }
      else transfer odLen log
    | _ => transfer odLen log

/-- The transfer takes octets of on-request data that answers none of its reads: its request has
gone out, its response is not complete, and not all of the octets are idle before it. -/
def Transfer.takes (t : Transfer) (od : List UInt8) : Bool :=
  t.unsent == 0 && (outcome (responseOctets t.replied)).isNone &&
    responseOctets (t.replied ++ od) != responseOctets t.replied

/-! ### What a transport has collected -/

/-- The service has collected the response octets `stream` and no others, and has reported their
outcome if they are a complete response. -/
structure IsduState.Collected (s : IsduState) (stream : List UInt8) : Prop where
  pending : s.done = false → outcome stream = none ∧ s.response = stream
  done : s.done = true → ∃ o, outcome stream = some o ∧ s.error = o.error ∧
    ∀ data, o = .positive data → s.response = data

/-- The transport performs the transfer `t` and has collected the on-request data of the replies to
its reads. -/
structure IsduState.Follows (s : IsduState) (t : Transfer) : Prop where
  sound : s.Sound
  collected : s.Collected (responseOctets t.replied)
  sending : s.done = false → s.phase = .request →
    s.requestPos < s.requestLen ∧ s.requestLen < 65536 ∧ t.unsent ≤ s.requestLen - s.requestPos
  sent : s.done = false → s.phase ≠ .request → t.unsent = 0
  polled : t.polled = true → s.done = false → s.phase ≠ .request
  fresh : s.done = false → s.phase ≠ .response → s.response = []

/-- The transport has no service, or performs the transfer. -/
def IsduState.Attuned (s : IsduState) (t : Option Transfer) : Prop :=
  s.op ≠ .none → ∃ r, t = some r ∧ s.Follows r

section

variable {K : Iolinki} {odLen : Nat} {log : List Obs} {s u : IsduState} {t : Transfer}

/-- The octets a service receives continue those it has collected. -/
theorem IsduState.Follows.stream (h : s.Follows t) (hrecv : isduReceiving s = true)
    (od : List UInt8) :
  receivedStream s od = responseOctets (t.replied ++ od)
  := by
  obtain ⟨hop, hdone, hphase⟩ := isduReceiving_iff.mp hrecv
  have hresponse := (h.collected.pending hdone).2
  rw [receivedStream]
  rcases hphase with hwait | hcollecting
  · rw [if_pos hwait, responseOctets_idle]
    rw [← hresponse]
    apply h.fresh hdone
    simp [hwait]
  · rw [if_neg (by simp [hcollecting]), responseOctets_append]
    · rw [hresponse]
    · rw [← hresponse]
      apply (h.sound.collecting hop hdone hcollecting).1

/-- A service that has received part of a response has collected it. -/
theorem IsduState.Follows.collects (h : s.Follows t) (hrecv : isduReceiving s = true)
    (od : List UInt8) :
  (isduOnOd s od).Collected (responseOctets (t.replied ++ od)) ∧
    ((isduOnOd s od).done = false → (isduOnOd s od).phase ≠ .request ∧
      ((isduOnOd s od).phase ≠ .response → (isduOnOd s od).response = []))
  := by
  obtain ⟨hop, hdone, hphase⟩ := isduReceiving_iff.mp hrecv
  have hstream := h.stream hrecv od
  have hreceives := h.sound.receives hrecv od
  rw [hstream] at hreceives
  cases ho : outcome (responseOctets (t.replied ++ od)) with
  | some o =>
      obtain ⟨-, hclosed, -, -, -, herror, hdata⟩ := (receives_done ho).mp hreceives
      refine ⟨⟨fun hopen => ?_, fun _ => ⟨o, ho, herror, hdata⟩⟩, fun hopen => ?_⟩
      · rw [hclosed] at hopen
        contradiction
      · rw [hclosed] at hopen
        contradiction
  | none =>
      by_cases hne : responseOctets (t.replied ++ od) = []
      · -- The service still waits for the first octet of its response.
        have hwait : s.phase = .wait := by
          rcases hphase with hwait | hcollecting
          · apply hwait
          · rw [receivedStream, if_neg (by simp [hcollecting])] at hstream
            rw [hne, List.append_eq_nil_iff] at hstream
            exact absurd hstream.1 (h.sound.collecting hop hdone hcollecting).1
        have hidle : responseOctets od = [] := by
          rw [receivedStream, if_pos hwait, hne] at hstream
          apply hstream
        have hsame : isduOnOd s od = s := by
          apply isduOnOd_idle hwait
          intro b hb
          rw [responseOctets, List.dropWhile_eq_nil_iff] at hidle
          have hb := hidle b hb
          rw [isduIdleOctet, Bool.or_eq_true, beq_iff_eq, beq_iff_eq] at hb
          apply hb
        have hresponse : s.response = [] := by
          apply h.fresh hdone
          simp [hwait]
        rw [hsame, hne]
        refine ⟨⟨fun _ => ⟨rfl, hresponse⟩, fun hclosed => ?_⟩, fun _ => ⟨?_, fun _ => hresponse⟩⟩
        · rw [hdone] at hclosed
          contradiction
        · simp [hwait]
      · obtain ⟨-, hopen, -, -, -, hcollecting, hresponse, -⟩ :=
          (receives_open hne ho).mp hreceives
        refine ⟨⟨fun _ => ⟨ho, hresponse⟩, fun hclosed => ?_⟩, fun _ => ⟨?_, fun hnot => ?_⟩⟩
        · rw [hopen] at hclosed
          contradiction
        · simp [hcollecting]
        · exact absurd hcollecting hnot

/-- A service that has sent its request collects the on-request data of a reply. -/
theorem IsduState.Follows.hear (h : s.Follows t) (hop : s.op ≠ .none)
    (hphase : s.done = false → s.phase ≠ .request) (od : List UInt8) :
  (isduOnOd s od).Follows { t with replied := t.replied ++ od }
  := by
  cases hrecv : isduReceiving s with
  | true =>
      obtain ⟨-, hdone, -⟩ := isduReceiving_iff.mp hrecv
      obtain ⟨hcollected, hopen⟩ := h.collects hrecv od
      refine ⟨sound_onOd h.sound od, hcollected, ?_, ?_, ?_, ?_⟩
      · intro hd hrequest
        exact absurd hrequest (hopen hd).1
      · intro _ _
        apply h.sent hdone (hphase hdone)
      · intro _ hd
        apply (hopen hd).1
      · intro hd
        apply (hopen hd).2
  | false =>
      have hdone : s.done = true := by
        by_contra hopen
        rw [Bool.not_eq_true] at hopen
        have hnot := (h.sound.clean hop hopen).2.2
        have hrequest := hphase hopen
        have hreceiving : isduReceiving s = true := by
          rw [isduReceiving_iff]
          refine ⟨hop, hopen, ?_⟩
          cases hp : s.phase with
          | wait => exact .inl rfl
          | response => exact .inr rfl
          | none => exact absurd hp hnot
          | request => exact absurd hp hrequest
        rw [hrecv] at hreceiving
        contradiction
      obtain ⟨o, ho, herror, hdata⟩ := h.collected.done hdone
      have hne : responseOctets t.replied ≠ [] := by
        intro hnil
        rw [hnil] at ho
        contradiction
      have hclosed : ∀ {P : Prop}, s.done = false → P := by
        intro P hopen
        rw [hdone] at hopen
        contradiction
      rw [isduOnOd_of_not_receiving od hrecv]
      refine ⟨h.sound, ⟨hclosed, fun _ => ⟨o, ?_, herror, hdata⟩⟩, hclosed, hclosed, fun _ => hclosed,
        hclosed⟩
      rw [responseOctets_append hne]
      apply outcome_append ho

/-- On-request data of which the transfer takes nothing changes nothing. -/
theorem IsduState.Follows.ignore (h : s.Follows t) (hop : s.op ≠ .none) {od : List UInt8}
    (hspare : t.takes od = false) :
  (isduOnOd s od).Follows t
  := by
  cases hrecv : isduReceiving s with
  | false =>
      rw [isduOnOd_of_not_receiving od hrecv]
      apply h
  | true =>
      obtain ⟨-, hdone, hphase⟩ := isduReceiving_iff.mp hrecv
      have hrequest : s.phase ≠ .request := by
        rcases hphase with hphase | hphase <;> simp [hphase]
      have hsame : responseOctets (t.replied ++ od) = responseOctets t.replied := by
        simpa [Transfer.takes, h.sent hdone hrequest, (h.collected.pending hdone).1] using hspare
      have hheard := h.hear hop (fun _ => hrequest) od
      refine ⟨hheard.sound, ?_, hheard.sending, hheard.sent, hheard.polled, hheard.fresh⟩
      have hcollected := hheard.collected
      rw [hsame] at hcollected
      apply hcollected

/-- The transport that only moves on, its request sent, follows the same transfer. -/
theorem IsduState.Follows.moves (h : s.Follows t) (hsound : u.Sound)
    (hmoves : ∃ pos flowctrl abort idle, u = { s with
      requestPos := pos, flowctrl := flowctrl, abortPending := abort, idlePending := idle })
    (hphase : s.done = false → s.phase ≠ .request) :
  u.Follows { t with polled := true }
  := by
  obtain ⟨pos, flowctrl, abort, idle, rfl⟩ := hmoves
  refine ⟨hsound, ⟨h.collected.pending, h.collected.done⟩, ?_, h.sent, ?_, h.fresh⟩
  · intro hdone hrequest
    exact absurd hrequest (hphase hdone)
  · intro _ hdone
    apply hphase hdone

/-- A segment of the request is sent. -/
theorem IsduState.Follows.fill (h : s.Follows t) (hop : s.op ≠ .none) (hdone : s.done = false)
    (hphase : s.phase = .request) (n : Nat) :
  (isduFillOd s n).2.Follows { t with unsent := t.unsent - n }
  := by
  obtain ⟨hpos, hlen, hunsent⟩ := h.sending hdone hphase
  have hsound := (sound_fillOd h.sound n).1
  have hpolled : t.polled = false := by
    by_contra hpolled
    rw [Bool.not_eq_false] at hpolled
    exact h.polled hpolled hdone hphase
  have hresponse : s.response = [] := by
    apply h.fresh hdone
    simp [hphase]
  obtain ⟨m, phase, flowctrl, hmoved, hfill⟩ := isduFillOd_sending hop hphase hpos hlen n
  rw [hfill] at hsound ⊢
  refine ⟨hsound, ⟨h.collected.pending, h.collected.done⟩, ?_, ?_, ?_, fun _ _ => hresponse⟩
  · rintro - rfl
    obtain ⟨hwait, -⟩ | ⟨-, rfl, hmore⟩ := hmoved
    · contradiction
    · refine ⟨hmore, hlen, ?_⟩
      change t.unsent - m ≤ s.requestLen - (s.requestPos + m)
      omega
  · rintro - hne
    obtain ⟨-, hm, hlast⟩ | ⟨hrequest, -⟩ := hmoved
    · change t.unsent - n = 0
      omega
    · exact absurd hrequest hne
  · intro hp
    change t.polled = true at hp
    rw [hpolled] at hp
    contradiction

/-- A frame of the ISDU channel is one of the transfer. -/
theorem IsduState.Follows.next (hK : K.Lawful) (h : s.Follows t) (hop : s.op ≠ .none)
    {f : IsduFrame} (hnext : isduNext s odLen = some (f, u)) (p : PortState) :
  u.Follows (t.send odLen (f.octets K p))
  := by
  have hsound := (sound_next h.sound hnext).1
  have hsend : t.send odLen (f.octets K p)
      = if f.read then { t with polled := true } else { t with unsent := t.unsent - odLen } := by
    rw [Transfer.send, isduAccess_octets hK]
    cases f.read <;> rfl
  rw [hsend]
  rcases isduNext_cases h.sound hop hnext with ⟨hdone, hphase, rfl, rfl⟩ | ⟨hphase, hread, hmoves⟩
  · apply h.fill hop hdone hphase
  · rw [hread]
    apply h.moves hsound hmoves hphase

/-! ### Service calls -/

/-- A transport that starts a service performs the transfer that is observed. -/
theorem attuned_started {asked : IsduRequest} (hencodes : Encodes s asked) (hsound : s.Sound)
    (hphase : s.phase = .request) (hdone : s.done = false) (hpos : s.requestPos = 0)
    (hresponse : s.response = []) :
  s.Attuned (some ⟨s.request.length, false, []⟩)
  := by
  have hlen : 0 < s.requestLen := by
    by_contra hnil
    have hdecodes := hencodes.decodes
    rw [requestOctets, Nat.eq_zero_of_not_pos hnil] at hdecodes
    contradiction
  have hbounded := hencodes.bounded
  intro _
  refine ⟨_, rfl, hsound, ⟨fun _ => ⟨rfl, hresponse⟩, fun hclosed => ?_⟩, ?_, ?_, ?_,
    fun _ _ => hresponse⟩
  · rw [hdone] at hclosed
    contradiction
  · intro _ _
    rw [hencodes.complete, hpos]
    exact ⟨hlen, by omega, Nat.le_refl _⟩
  · intro _ hne
    exact absurd hphase hne
  · intro hpolled
    contradiction

/-- A service call that neither starts nor leaves a service leaves the transfer alone. -/
theorem transfer_service {o : Obs} (ho : o.ofService = true)
    (hleft : ∀ s, o ≠ .isduLeft s) (hstart : ∀ op i j d r, o ≠ .isduStart op i j d r) :
  transfer odLen (o :: log) = transfer odLen log
  := by
  cases o with
  | isduLeft s => exact absurd rfl (hleft s)
  | isduStart => exact absurd rfl (hstart _ _ _ _ _)
  | enter | sent | accept => contradiction
  | _ => rfl

end

/-- A service call keeps the transport in step with the transfer, also one that has on-request data
ahead of it: `f` is what that makes of the transport. -/
theorem attuned_service {f : IsduState → IsduState}
    (hf : ∀ s, isduReceiving s = false → f s = s) {odLen : Nat} {w v : World}
    (hstep : ServiceStep w v) (h : (f w.port.isdu).Attuned (transfer odLen w.log)) :
  (f v.port.isdu).Attuned (transfer odLen v.log)
  := by
  have hvacant : ∀ {s : IsduState} {t : Option Transfer}, s.op = .none → (f s).Attuned t := by
    intro s t hop hbusy
    rw [hf s (by simp [isduReceiving, hop])] at hbusy
    exact absurd hop hbusy
  have hstarted : ∀ {s : IsduState} {t : Option Transfer}, s.phase = .request → s.Attuned t →
      (f s).Attuned t := by
    intro s t hphase hs
    rw [hf s (by simp [isduReceiving, hphase])]
    apply hs
  cases hstep with
  | tune hp =>
      rw [World.put_port, hp.isdu]
      apply h
  | @note o ho =>
      rw [World.emit_log, transfer_service]
      · apply h
      · cases o <;> first | rfl | contradiction
      · rintro s rfl
        contradiction
      · rintro op i j d r rfl
        contradiction
  | startRead index subindex =>
      apply hstarted rfl
      apply attuned_started (encodes_isduStartRead w.port.isdu index subindex) _ rfl rfl rfl rfl
      exact sound_started rfl rfl rfl rfl rfl rfl
  | startWrite index subindex data _ _ _ hlen =>
      apply hstarted rfl
      apply attuned_started (encodes_isduStartWrite w.port.isdu hlen) _ rfl rfl rfl rfl
      exact sound_started rfl rfl rfl rfl rfl rfl
  | giveUpRead | giveUpWrite | collectRead | collectPage | collectWrite => exact hvacant rfl
  | refuseWrite | pendingWrite | startEvent | consumeEvent | setPdOut => exact h

end IolinkMaster
