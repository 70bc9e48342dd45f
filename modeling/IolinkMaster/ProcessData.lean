import IolinkMaster.WellFormed

/-!
# Input process data

`get_pd_in` reports the process data of the last valid reply since the initialization.  That
is the process data of the last reply of the connection exactly when this reply is valid or
no reply ever was.
-/

namespace IolinkMaster

/-! ### Replies with process data -/

/-- The octets a reply closes with: its CKS octet. -/
def replyCks (data : List UInt8) : UInt8 := data.getLastD 0

/-- The CKS octet of a reply marks its process data as valid. -/
def pdMarkedValid (data : List UInt8) : Bool := replyCks data &&& CKS_PD_INVALID == 0

/-- The process data of a reply whose on-request data is `od`. -/
def replyPd (data od : List UInt8) : List UInt8 := (data.drop od.length).dropLast

/-- The codec reports process data as valid unless the CKS octet marks them as invalid. -/
def Iolinki.ReportsPdValid (K : Iolinki) : Prop :=
  ∀ od pd c r, K.decodeOperateResponse (od ++ pd ++ [c]) pd.length od.length = some r →
    r.pdValid = (c &&& CKS_PD_INVALID == 0)

/-- The reference codec does. -/
theorem Iolinki.reportsPdValid_reference :
  Iolinki.reference.ReportsPdValid
  := by
  intro od pd c r hr
  simp only [Iolinki.reference, wireDecode] at hr
  split at hr
  · contradiction
  · cases hr
    simp

/-- Copy the latest input process data out of a port: the result code, `*out_len` and the
octets copied. -/
def getPdIn (p : PortState) (bufferLen : Nat) : Int × Nat × List UInt8 :=
  if bufferLen < p.pdInLen then (ERR_BUFFER_TOO_SMALL, p.pdInLen, [])
  else if !p.pdValid then (STATUS_PENDING, p.pdInLen, [])
  else (STATUS_OK, p.pdInLen, p.pdIn.take p.pdInLen)

/-- The reply accepted last since the port has entered OPERATE, with its on-request data. -/
def currentReply : List Obs → Option (List UInt8 × List UInt8)
  | .accept st data od :: _ => if st = .operate then od.map (data, ·) else none
  | .enter _ :: _ => none
  | _ :: l => currentReply l
  | [] => none

/-- The process data of the last valid reply since the initialization; a restart of
communication is no initialization. -/
def heldPd : List Obs → Option (List UInt8)
  | .accept st data (some od) :: l =>
    if st ≠ .preoperate ∧ pdMarkedValid data then some (replyPd data od) else heldPd l
  | .enter .startup :: .comlost _ _ _ _ _ :: l => heldPd l
  | .enter .startup :: _ | .enter .inactive :: _ => none
  | _ :: l => heldPd l
  | [] => none

/-- `get_pd_in` reports the process data of the reply accepted last in this connection, and
only if it is marked as valid. -/
def PdCurrent (w : World) (bufferLen : Nat) : Prop :=
  ((getPdIn w.port bufferLen).1 = STATUS_OK ↔
      ∃ r ∈ currentReply w.log, pdMarkedValid r.1 = true) ∧
    ∀ r ∈ currentReply w.log, pdMarkedValid r.1 = true →
      (getPdIn w.port bufferLen).2.2 = replyPd r.1 r.2

/-- The reply accepted last in this connection is marked as valid, or no reply was since the
initialization. -/
def PdFresh (log : List Obs) : Prop :=
  (∃ r ∈ currentReply log, pdMarkedValid r.1 = true) ∨ heldPd log = none

instance (w : World) (bufferLen : Nat) : Decidable (PdCurrent w bufferLen) :=
  inferInstanceAs (Decidable (_ ∧ _))

instance (log : List Obs) : Decidable (PdFresh log) := inferInstanceAs (Decidable (_ ∨ _))

/-! ### Taking over process data -/

/-- What the codec reports about the process data of a reply. -/
theorem decode_pdValid {K : Iolinki} (hflag : K.ReportsPdValid) {data : List UInt8}
    {pdIn od : Nat} {r : OperateResponse} (hlen : data.length = od + pdIn + 1)
    (h : K.decodeOperateResponse data pdIn od = some r) :
  r.pdValid = pdMarkedValid data
  := by
  obtain ⟨hcut, hod, hpd⟩ := reply_cut hlen
  rw [hcut] at h
  have hvalid := hflag (data.take od) (data.drop od).dropLast (data.getLastD 0) r
  rw [hod, hpd] at hvalid
  apply hvalid h

/-- The port holds the process data of the last valid reply since its initialization. -/
structure HoldsPd (w : World) : Prop where
  valid : w.port.pdValid = (heldPd w.log).isSome
  pd : ∀ pd, heldPd w.log = some pd → w.port.pdIn = pd ∧ w.port.pdInLen = pd.length
  calm : ∀ o ∈ w.log.head?, o.isComlost = false

/-- An observation that is about no process data. -/
@[simp]
def Obs.pdNeutral : Obs → Bool
  | .accept _ _ (some _) | .enter .startup | .enter .inactive | .comlost _ _ _ _ _ => false
  | _ => true

theorem heldPd_neutral {o : Obs} (ho : o.pdNeutral = true) (log : List Obs) :
  heldPd (o :: log) = heldPd log
  := by
  cases o with
  | accept st data od =>
      cases od with
      | none => rfl
      | some od => contradiction
  | enter st =>
      cases st with
      | startup | inactive => contradiction
      | _ => rfl
  | _ => rfl

/-- A step that observes nothing about process data and leaves them alone. -/
theorem HoldsPd.quiet {w v : World} (h : HoldsPd w) (os : List Obs)
    (hos : ∀ o ∈ os, o.pdNeutral = true) (hlog : v.log = os ++ w.log)
    (hpd : v.port.pdIn = w.port.pdIn ∧ v.port.pdInLen = w.port.pdInLen ∧
      v.port.pdValid = w.port.pdValid) :
  HoldsPd v
  := by
  have hheld : heldPd v.log = heldPd w.log := by
    rw [hlog]
    exact Trace.unaffected_append (fun o l ho => heldPd_neutral ho l) hos w.log
  constructor
  · rw [hpd.2.2, hheld]
    apply h.valid
  · rw [hpd.1, hpd.2.1, hheld]
    apply h.pd
  · rw [hlog]
    cases os with
    | nil => apply h.calm
    | cons o os =>
        simp only [List.cons_append, List.head?_cons, Option.mem_some_iff, forall_eq']
        have ho := hos o List.mem_cons_self
        cases o <;> first | rfl | contradiction

/-- A restart of communication keeps the process data. -/
theorem HoldsPd.comlost {w v : World} (h : HoldsPd w) (o : Obs) (ho : o.pdNeutral = true)
    (p : PortState) (hlog : v.log = .enter .startup :: comlostObs p :: o :: w.log)
    (hpd : v.port.pdIn = w.port.pdIn ∧ v.port.pdInLen = w.port.pdInLen ∧
      v.port.pdValid = w.port.pdValid) :
  HoldsPd v
  := by
  have hheld : heldPd v.log = heldPd w.log := by
    rw [hlog]
    exact heldPd_neutral ho w.log
  constructor
  · rw [hpd.2.2, hheld]
    apply h.valid
  · rw [hpd.1, hpd.2.1, hheld]
    apply h.pd
  · rw [hlog]
    simp [Obs.isComlost]

section

variable {K : Iolinki} {config : Config} {w v : World}

theorem holdsPd_service (hstep : ServiceStep w v) (h : HoldsPd w) :
  HoldsPd v
  := by
  obtain ⟨os, hos, hlog⟩ := log_of_service hstep
  apply h.quiet os _ hlog (untouched_of_step hstep).pdIn
  intro o ho
  have hservice := hos o ho
  cases o <;> first | rfl | contradiction

theorem holdsPd_control (hstep : ControlStep w v) (h : HoldsPd w) :
  HoldsPd v
  := by
  cases hstep with
  | service hstep => apply holdsPd_service hstep h
  | fail => exact h.quiet [.enter .error] (by simp) rfl ⟨rfl, rfl, rfl⟩

/-- The process data a port takes from an accepted reply. -/
theorem accepted_pd (hK : K.Lawful) (hflag : K.ReportsPdValid)
    (htype : config.mSeqType ≠ .type0) {data : List UInt8} {q : PortState} {pdIn : List UInt8}
    {pdInLen : Nat} {pdValid : Bool} (hformed : WellFormed config w.port) (h : HoldsPd w)
    (hq : q.pdIn = w.port.pdIn ∧ q.pdInLen = w.port.pdInLen ∧ q.pdValid = w.port.pdValid)
    (hpd : TakesPd K w.port data q pdIn pdInLen pdValid) :
  pdValid = (heldPd (accepted w data).log).isSome ∧
    ∀ pd, heldPd (accepted w data).log = some pd → pdIn = pd ∧ pdInLen = pd.length
  := by
  have hheld : heldPd (accepted w data).log
      = if w.port.state ≠ .preoperate ∧ pdMarkedValid data = true then
          some (replyPd data (data.take (odWidth w.port)))
        else heldPd w.log := rfl
  have hkept : q.pdValid = (heldPd w.log).isSome ∧
      ∀ pd, heldPd w.log = some pd → q.pdIn = pd ∧ q.pdInLen = pd.length := by
    rw [hq.1, hq.2.1, hq.2.2]
    exact ⟨h.valid, h.pd⟩
  by_cases hpre : w.port.state = .preoperate
  · -- Replies of PREOPERATE carry no process data.
    rw [hheld, if_neg (by simp [hpre])]
    rw [TakesPd, if_neg (by simp [carriesPd, hpre])] at hpd
    rw [hpd.1, hpd.2.1, hpd.2.2]
    apply hkept
  · have htyped : type0Operate w.port = false := by
      obtain ⟨mode, hconfig⟩ := hformed.configured
      simp [type0Operate, hconfig, htype]
    rw [TakesPd, if_pos (by simp [carriesPd, hpre, htyped])] at hpd
    obtain ⟨r, hr, rfl, rfl, rfl⟩ := hpd
    obtain ⟨hlen, -, -, hbody⟩ := decodeOperateResponse_some hK hr
    have hmark := decode_pdValid hflag hlen hr
    cases hvalid : r.pdValid with
    | false =>
        rw [hheld, if_neg (by simp [← hmark, hvalid])]
        simp only [takePdIn, hvalid, Bool.false_eq_true, if_false]
        apply hkept
    | true =>
        have hreply : replyPd data (data.take (odWidth w.port)) = r.pd := by
          rw [replyPd, (reply_cut hlen).2.1, hbody hvalid]
        rw [hheld, if_pos ⟨hpre, hmark.symm.trans hvalid⟩, hreply]
        simp only [takePdIn, hvalid, if_true, Option.isSome_some, Option.some.injEq, true_and]
        rintro pd rfl
        exact ⟨rfl, rfl⟩

/-- The judgement of a reply: an accepted one may hand over process data. -/
theorem holdsPd_judge (hK : K.Lawful) (hflag : K.ReportsPdValid)
    (htype : config.mSeqType ≠ .type0) {data : List UInt8} (hstep : JudgeStep K data w v)
    (hformed : WellFormed config w.port) (h : HoldsPd w) :
  HoldsPd v
  := by
  cases hstep with
  | unframed | rejectTest | rejectRetry =>
      exact h.quiet [_] (by simp) rfl ⟨rfl, rfl, rfl⟩
  | rejectLost => exact h.comlost _ rfl _ rfl ⟨rfl, rfl, rfl⟩
  | acceptTest | acceptAck =>
      exact h.quiet [_, _] (by simp) rfl ⟨rfl, rfl, rfl⟩
  | @accept u pdIn pdInLen pdValid hstate hack hwidth hcks hhandler hpd =>
      have hsame := untouched_of_path hhandler
      have haccepted : HoldsPd
          ⟨{ u.port with pdIn := pdIn, pdInLen := pdInLen, pdValid := pdValid },
            (accepted w data).log⟩ := by
        obtain ⟨hvalid, hheld⟩ := accepted_pd hK hflag htype hformed h hsame.pdIn hpd
        refine ⟨hvalid, hheld, ?_⟩
        simp [accepted, Obs.isComlost]
      obtain ⟨os, hos, hlog⟩ := log_of_servicePath hhandler
      obtain ⟨os', hos', hlog'⟩ := log_of_routeOd u (data.take (odWidth w.port))
      refine haccepted.quiet (v := (routeOd u _).setPd pdIn pdInLen pdValid) (os' ++ os) ?_ ?_
        ⟨rfl, rfl, rfl⟩
      · intro o ho
        rcases List.mem_append.mp ho with ho | ho
        · have hroute := hos' o ho
          cases o <;> first | rfl | contradiction
        · have hservice := hos o ho
          cases o <;> first | rfl | contradiction
      · rw [World.setPd, World.put_log, hlog', hlog, List.append_assoc]

theorem holdsPd_receive (hK : K.Lawful) (hflag : K.ReportsPdValid)
    (htype : config.mSeqType ≠ .type0) {judged : World → List UInt8 → Prop}
    (hstep : ReceiveStep K judged w v) (hformed : WellFormed config w.port) (h : HoldsPd w) :
  HoldsPd v
  := by
  cases hstep with
  | control hstep => apply holdsPd_control hstep h
  | recv => exact h.quiet [_] (by simp) rfl ⟨rfl, rfl, rfl⟩
  | clearRx => exact h.quiet [] (by simp) rfl ⟨rfl, rfl, rfl⟩
  | judge data hjudged hstep => apply holdsPd_judge hK hflag htype hstep hformed h

theorem holdsPd_slot {ready : World → Prop} (hstep : SlotStep K ready w v) (h : HoldsPd w) :
  HoldsPd v
  := by
  cases hstep with
  | control hstep => apply holdsPd_control hstep h
  | sendFailed sent =>
      cases sent with
      | false => exact h.quiet [_] (by simp) rfl ⟨rfl, rfl, rfl⟩
      | true => exact h.quiet [_, _] (by simp) rfl ⟨rfl, rfl, rfl⟩
  | slot | startupFailed => exact h.quiet [_, _] (by simp) rfl ⟨rfl, rfl, rfl⟩
  | restep | count => exact h.quiet [] (by simp) rfl ⟨rfl, rfl, rfl⟩
  | _ => exact h.quiet [_] (by simp) rfl ⟨rfl, rfl, rfl⟩

theorem holdsPd_timeout {due : World → Bool → Bool → Prop} (hstep : TimeoutStep due w v)
    (h : HoldsPd w) :
  HoldsPd v
  := by
  cases hstep with
  | control hstep => apply holdsPd_control hstep h
  | clearRx | restep => exact h.quiet [] (by simp) rfl ⟨rfl, rfl, rfl⟩
  | broken => exact h.quiet [_, _] (by simp) rfl ⟨rfl, rfl, rfl⟩
  | lost => exact h.comlost _ rfl _ rfl ⟨rfl, rfl, rfl⟩
  | _ => exact h.quiet [_] (by simp) rfl ⟨rfl, rfl, rfl⟩

end

/-! ### Runs -/

/-- An initialization forgets the process data. -/
theorem holdsPd_init (phy : PhyApi) (config : Config) {log : List Obs}
    (hcalm : ∀ o ∈ log.head?, o.isComlost = false) :
  HoldsPd ⟨zeroPort phy config, .enter (zeroPort phy config).state :: log⟩
  := by
  have hheld : heldPd (.enter (zeroPort phy config).state :: log) = none := by
    obtain hs | hs := zeroPort_state phy config
    · rw [hs]
      cases log with
      | nil => rfl
      | cons o log =>
          have ho := hcalm o rfl
          cases o <;> first | rfl | contradiction
    · rw [hs]
      rfl
  constructor
  · rw [hheld]
    rfl
  · rw [hheld]
    intro pd hpd
    contradiction
  · simp [Obs.isComlost]

/-- A valid reply of the connection is the last valid one since the initialization. -/
theorem heldPd_current {log : List Obs} {r : List UInt8 × List UInt8}
    (hr : currentReply log = some r) (hvalid : pdMarkedValid r.1 = true) :
  heldPd log = some (replyPd r.1 r.2)
  := by
  induction log with
  | nil => contradiction
  | cons o log ih =>
      cases o with
      | accept st data od =>
          simp only [currentReply] at hr
          split at hr
          · next hst =>
            obtain ⟨od', rfl, rfl⟩ := Option.map_eq_some_iff.mp hr
            rw [hst, heldPd, if_pos ⟨by decide, hvalid⟩]
          · contradiction
      | enter st => contradiction
      | _ => apply ih hr

/-- What `get_pd_in` reports with a sufficient buffer. -/
theorem getPdIn_holds {w : World} (h : HoldsPd w) {bufferLen : Nat}
    (hlen : w.port.pdInLen ≤ bufferLen) :
  ((getPdIn w.port bufferLen).1 = STATUS_OK ↔ heldPd w.log ≠ none) ∧
    ∀ pd, heldPd w.log = some pd → (getPdIn w.port bufferLen).2.2 = pd
  := by
  rw [getPdIn, if_neg (by omega)]
  cases hheld : heldPd w.log with
  | none =>
      have hvalid : w.port.pdValid = false := by
        rw [h.valid, hheld]
        rfl
      simp [hvalid, STATUS_PENDING, STATUS_OK]
  | some pd =>
      have hvalid : w.port.pdValid = true := by
        rw [h.valid, hheld]
        rfl
      obtain ⟨hpd, hpdLen⟩ := h.pd pd hheld
      simp [hvalid, hpd, hpdLen]

/-- In every reachable state of a TYPE_1 or TYPE_2 port in OPERATE `get_pd_in` reports the
process data of the last reply of the connection, and those of a valid one only, if and only
if the last reply of the connection is valid or no valid one was accepted since the
initialization. -/
theorem pd_in_validity {K : Iolinki} (hK : K.Lawful) (hflag : K.ReportsPdValid) {phy : PhyApi}
    {config : Config} (htype : config.mSeqType ≠ .type0)
    {allowed : Env → World → Call → Prop} {w : World} (hw : Reach K allowed phy config w)
    {bufferLen : Nat} (hlen : w.port.pdInLen ≤ bufferLen) :
  PdCurrent w bufferLen ↔ PdFresh w.log
  := by
  have hkept : KeptFormed K config (fun _ => True) HoldsPd := by
    constructor
    · intro _ _ _ _
      trivial
    · intro w v hstep _ h _
      apply holdsPd_control hstep h
    · intro w v hstep hformed h _
      apply holdsPd_receive hK hflag htype hstep hformed h
    · intro w v hstep _ h _
      apply holdsPd_slot hstep h
    · intro w v hstep _ h _
      apply holdsPd_timeout hstep h
  have hholds : WellFormed config w.port ∧ HoldsPd w := by
    apply hkept.reachable hK _ _ _ hw trivial
    · apply holdsPd_init
      simp
    · intro w now h
      exact h.quiet [_] (by simp) rfl ⟨rfl, rfl, rfl⟩
    · intro w mode _ h
      apply holdsPd_init _ _ h.calm
  obtain ⟨hok, hcopied⟩ := getPdIn_holds hholds.2 hlen
  constructor
  · rintro ⟨hiff, -⟩
    by_cases hvalid : ∃ r ∈ currentReply w.log, pdMarkedValid r.1 = true
    · exact .inl hvalid
    · right
      rw [hok] at hiff
      by_contra hheld
      apply hvalid (hiff.mp hheld)
  · rintro (⟨r, hr, hvalid⟩ | hnone)
    · have hheld := heldPd_current hr hvalid
      refine ⟨⟨fun _ => ⟨r, hr, hvalid⟩, fun _ => ?_⟩, ?_⟩
      · rw [hok, hheld]
        apply Option.some_ne_none
      · intro r' hr' _
        obtain rfl : r = r' := Option.some.inj (hr.symm.trans hr')
        apply hcopied _ hheld
    · have hinvalid : ∀ r ∈ currentReply w.log, pdMarkedValid r.1 ≠ true := by
        intro r hr hvalid
        rw [heldPd_current hr hvalid] at hnone
        contradiction
      refine ⟨⟨fun h => absurd hnone (hok.mp h), ?_⟩, ?_⟩
      · rintro ⟨r, hr, hvalid⟩
        exact absurd hvalid (hinvalid r hr)
      · intro r hr hvalid
        exact absurd hvalid (hinvalid r hr)

/-- Calls that bring a port of type 2.1 into OPERATE and deliver valid process data. -/
def delivering : List (Env × Call) :=
  connecting ++ [(.quiet (reply 0 []), .tickAt .cycleDue 14),
    (.quiet (reply 0 [0x2A]), .tickAt .cycleDue 16)]

/-- The process data of a valid reply are reported. -/
theorem pd_in_validity_delivering :
  PdCurrent (run .reference (started (.quiet []) .full (.bare .type2_1 1 1)) delivering) 1
  := by
  have hreach : Reach .reference ticksAndServices .full (.bare .type2_1 1 1)
      (run .reference (started (.quiet []) .full (.bare .type2_1 1 1)) delivering) := by
    apply (Reach.start _ (by decide)).run
    decide +kernel
  apply (pd_in_validity Iolinki.lawful_reference Iolinki.reportsPdValid_reference (by decide)
    hreach (by decide +kernel)).mpr
  decide +kernel

/-- After a reply that marks its process data as invalid the old ones are still reported. -/
theorem pd_in_validity_stale :
  Reach .reference ticksAndServices .full (.bare .type2_1 1 1)
      (run .reference (started (.quiet []) .full (.bare .type2_1 1 1))
        (delivering ++ [(.quiet (reply CKS_PD_INVALID [0x00]), .tickAt .cycleDue 18)])) ∧
    (run .reference (started (.quiet []) .full (.bare .type2_1 1 1))
      (delivering ++ [(.quiet (reply CKS_PD_INVALID [0x00]), .tickAt .cycleDue 18)])).port.state
        = .operate ∧
    getPdIn (run .reference (started (.quiet []) .full (.bare .type2_1 1 1))
      (delivering ++ [(.quiet (reply CKS_PD_INVALID [0x00]), .tickAt .cycleDue 18)])).port 1
        = (STATUS_OK, 1, [0x2A]) ∧
    ¬ PdCurrent (run .reference (started (.quiet []) .full (.bare .type2_1 1 1))
      (delivering ++ [(.quiet (reply CKS_PD_INVALID [0x00]), .tickAt .cycleDue 18)])) 1
  := by
  refine ⟨?_, ?_, ?_, ?_⟩
  · apply (Reach.start _ (by decide)).run
    decide +kernel
  · decide +kernel
  · decide +kernel
  · decide +kernel

end IolinkMaster
