import IolinkMaster.PortPaths

/-!
# The result of a read

The result of a completed ISDU read stays in the transport until a call collects it.  A call whose
buffer is too small learns the length and leaves the result; ticks and replies do not touch it.
-/

namespace IolinkMaster

/-! ### The result in the transport -/

/-- The outcome of the response that completed the last ISDU service. -/
def answered : List Obs → Option Outcome
  | .isduDone s od :: _ => outcome (receivedStream s od)
  | _ :: l => answered l
  | [] => none

/-- The port enters a state. -/
def Obs.isEnter : Obs → Bool
  | .enter _ => true
  | _ => false

/-- The service call reads the index with a buffer of less than `n` octets, or is no acyclic
service. -/
def TooSmall (index : UInt16) (subindex : UInt8) (n : Nat) : Service → Prop
  | .readIsdu i s cap => i = index ∧ s = subindex ∧ cap.toNat < n
  | .setPdOut _ => True
  | _ => False

instance (index : UInt16) (subindex : UInt8) (n : Nat) :
    DecidablePred (TooSmall index subindex n) := by
  intro call
  unfold TooSmall
  split <;> infer_instance

/-- The ISDU transport has no service and nothing to send. -/
structure IsduState.Idle (s : IsduState) : Prop where
  op : s.op = .none
  phase : s.phase = .none
  done : s.done = false
  idle : s.idlePending = false
  abort : s.abortPending = false

/-- A port of OPERATE holds the octets `data` as the result of a read. -/
structure Retains (index : UInt16) (subindex : UInt8) (data : List UInt8) (p : PortState) :
    Prop where
  state : p.state = .operate
  isRead : isduMatches p.isdu .read index subindex = true
  done : p.isdu.done = true
  error : p.isdu.error = ISDU_ERROR_NONE
  response : p.isdu.response = data
  short : data.length ≤ 255

/-- The observation enters no state, and a call that reads the index is refused. -/
def Obs.Retaining (index : UInt16) (subindex : UInt8) (o : Obs) : Prop :=
  o.isEnter = false ∧
    ∀ cap ret, o = .returned (.readIsdu index subindex cap) ret → ret = ISDU_ERR_BUFFER_TOO_SMALL

section

variable {index : UInt16} {subindex : UInt8} {data : List UInt8} {p : PortState} {w v : World}

/-- A call with too small a buffer learns the length and leaves the result. -/
theorem readIsdu_tooSmall (h : Retains index subindex data w.port) {cap : UInt8}
    (hcap : cap.toNat < data.length) :
  readIsdu w index subindex cap
    = (w.put (serviceResult w.port ISDU_ERR_BUFFER_TOO_SMALL),
        ⟨ISDU_ERR_BUFFER_TOO_SMALL, data.length, []⟩)
  := by
  have hbusy : isduBusy w.port.isdu = false := by
    simp [isduBusy, h.done]
  have hfinish : isduFinishRead w.port cap
      = (serviceResult w.port ISDU_ERR_BUFFER_TOO_SMALL,
          ⟨ISDU_ERR_BUFFER_TOO_SMALL, data.length, []⟩) := by
    simp only [isduFinishRead, h.error, h.response, ne_eq, not_true_eq_false, if_false, hcap,
      if_true]
    rw [if_neg (not_lt.mpr h.short)]
  simp only [readIsdu, h.state, acyclicAvailable, hbusy, h.done, h.isRead, hfinish]
  simp [World.collect, h.done]

/-- A call with a buffer large enough collects the result, and the transport is idle. -/
theorem readIsdu_collects (h : Retains index subindex data w.port) {cap : UInt8}
    (hcap : data.length ≤ cap.toNat) :
  (readIsdu w index subindex cap).2 = ⟨STATUS_OK, data.length, data⟩ ∧
    (readIsdu w index subindex cap).1.port.isdu.Idle
  := by
  have hbusy : isduBusy w.port.isdu = false := by
    simp [isduBusy, h.done]
  have hfinish : isduFinishRead w.port cap
      = (serviceResult { w.port with isdu := isduClear w.port.isdu } STATUS_OK,
          ⟨STATUS_OK, data.length, data⟩) := by
    simp only [isduFinishRead, h.error, h.response, ne_eq, not_true_eq_false, if_false]
    rw [if_neg (not_lt.mpr hcap)]
  simp only [readIsdu, h.state, acyclicAvailable, hbusy, h.done, h.isRead, hfinish]
  simp only [beq_self_eq_true, Bool.true_or, Bool.not_true, Bool.false_eq_true, if_false, if_true,
    World.collect_port, serviceResult_isdu, true_and]
  exact ⟨rfl, rfl, rfl, rfl, rfl⟩

/-- What leaves the result of the transport and the state of the port leaves the result. -/
theorem Retains.same (h : Retains index subindex data p) {q : PortState}
    (hstate : q.state = p.state)
    (hisdu : ∃ pos phase flowctrl abort idle, q.isdu = { p.isdu with
      requestPos := pos, phase := phase, flowctrl := flowctrl
      abortPending := abort, idlePending := idle }) :
  Retains index subindex data q
  := by
  obtain ⟨pos, phase, flowctrl, abort, idle, hisdu⟩ := hisdu
  refine ⟨hstate.trans h.state, ?_, ?_, ?_, ?_, h.short⟩
  · rw [hisdu]
    apply h.isRead
  · rw [hisdu]
    apply h.done
  · rw [hisdu]
    apply h.error
  · rw [hisdu]
    apply h.response

/-- The observations `os` made since the log `l` all retain the result. -/
def RetainingSince (index : UInt16) (subindex : UInt8) (l : List Obs) (w : World) : Prop :=
  ∃ os, w.log = os ++ l ∧ ∀ o ∈ os, o.Retaining index subindex

theorem RetainingSince.append {l : List Obs} (h : RetainingSince index subindex l w)
    (os : List Obs) (hlog : v.log = os ++ w.log) (hos : ∀ o ∈ os, o.Retaining index subindex) :
  RetainingSince index subindex l v
  := by
  obtain ⟨before, hbefore, hretaining⟩ := h
  refine ⟨os ++ before, by rw [hlog, hbefore, List.append_assoc], ?_⟩
  intro o ho
  rcases List.mem_append.mp ho with ho | ho
  · apply hos o ho
  · apply hretaining o ho

/-- A port step retains the result as long as no state is entered. -/
theorem retains_step {K : Iolinki} {env : Env} {l : List Obs}
    (hstep : PortStep K env (TooSmall index subindex data.length) w v)
    (h : Retains index subindex data w.port) (hsince : RetainingSince index subindex l w)
    (hstay : v.log.countP Obs.isEnter ≤ l.countP Obs.isEnter) :
  Retains index subindex data v.port ∧ RetainingSince index subindex l v
  := by
  -- No state has been entered before this step, and none is entered by it.
  have hnone : w.log.countP Obs.isEnter = l.countP Obs.isEnter := by
    obtain ⟨os, hlog, hos⟩ := hsince
    have hzero : os.countP Obs.isEnter = 0 :=
      List.countP_eq_zero.mpr fun o ho => by simp [(hos o ho).1]
    rw [hlog, List.countP_append, hzero, Nat.zero_add]
  have henters : ∀ (os : List Obs) (st : MasterState), v.log = .enter st :: os ++ w.log → False := by
    intro os st hlog
    rw [hlog, List.cons_append, List.countP_cons_of_pos rfl, List.countP_append] at hstay
    omega
  have hsame : ∀ {q : PortState}, q.state = w.port.state → q.isdu = w.port.isdu →
      Retains index subindex data q := by
    intro q hstate hisdu
    apply h.same hstate ⟨w.port.isdu.requestPos, w.port.isdu.phase, w.port.isdu.flowctrl,
      w.port.isdu.abortPending, w.port.isdu.idlePending, hisdu⟩
  have hquiet : ∀ o : Obs, o.isEnter = false → (∀ call ret, o ≠ .returned call ret) →
      o.Retaining index subindex := by
    intro o henter hreturned
    refine ⟨henter, ?_⟩
    rintro cap ret rfl
    exact absurd rfl (hreturned _ _)
  cases hstep with
  | put hp => exact ⟨hsame hp.state hp.isdu, hsince⟩
  | @emit o ho =>
      refine ⟨h, hsince.append [o] rfl ?_⟩
      intro o' ho'
      rw [List.mem_singleton.mp ho']
      apply hquiet
      · cases o <;> first | rfl | contradiction
      · rintro call ret rfl
        contradiction
  | cycle frame =>
      refine ⟨h, hsince.append [_] rfl ?_⟩
      intro o ho
      rw [List.mem_singleton.mp ho]
      apply hquiet _ rfl (by simp)
  | slot =>
      refine ⟨h, hsince.append [.slot, .view w.port] rfl ?_⟩
      simp only [List.mem_cons, List.not_mem_nil, or_false, forall_eq_or_imp, forall_eq]
      exact ⟨hquiet _ rfl (by simp), hquiet _ rfl (by simp)⟩
  | connect st => exact (henters [] st rfl).elim
  | lost => exact (henters [comlostObs w.port] _ rfl).elim
  | fail => exact (henters [] _ rfl).elim
  | overflow => exact (henters [] _ rfl).elim
  | validate hunclaimed =>
      have hstate := h.state
      rw [hunclaimed.state] at hstate
      contradiction
  | send hnext =>
      obtain ⟨pos, phase, flowctrl, abort, idle, -, hmoves⟩ := isduNext_moves hnext
      refine ⟨h.same rfl ⟨pos, phase, flowctrl, abort, idle, hmoves⟩, hsince.append [_] rfl ?_⟩
      intro o ho
      rw [List.mem_singleton.mp ho]
      apply hquiet _ rfl (by simp)
  | sendFailed sent => exact (henters _ _ rfl).elim
  | fill n =>
      obtain ⟨pos, phase, flowctrl, -, hmoves⟩ := isduFillOd_moves w.port.isdu n
      exact ⟨h.same rfl ⟨pos, phase, flowctrl, _, _, hmoves⟩, hsince⟩
  | hear od =>
      have hdeaf : isduReceiving w.port.isdu = false := by
        simp [isduReceiving, h.done]
      refine ⟨hsame rfl (isduOnOd_of_not_receiving od hdeaf), hsince.append _ rfl ?_⟩
      intro o ho
      simp only [isduObserved, h.done, Bool.not_true, Bool.false_and, Bool.false_eq_true,
        if_false, List.nil_append, List.mem_singleton] at ho
      rw [ho]
      apply hquiet _ rfl (by simp)
  | call call hcall =>
      cases call with
      | readIsdu i s cap =>
          obtain ⟨rfl, rfl, hcap⟩ := hcall
          simp only [runService, serviceBody, readIsdu_tooSmall h hcap]
          refine ⟨hsame ?_ (serviceResult_isdu _ _), hsince.append [_] rfl ?_⟩
          · simp only [World.emit_port, World.put_port, serviceResult]
            split <;> rfl
          · intro o ho
            rw [List.mem_singleton.mp ho]
            refine ⟨rfl, ?_⟩
            intro cap' ret hreturned
            cases hreturned
            rfl
      | setPdOut staged =>
          simp only [runService, serviceBody, setPdOut]
          split
          · refine ⟨h, hsince.append [_] rfl ?_⟩
            intro o ho
            rw [List.mem_singleton.mp ho]
            refine ⟨rfl, fun _ _ hreturned => ?_⟩
            cases hreturned
          · refine ⟨hsame rfl rfl, hsince.append [_] rfl ?_⟩
            intro o ho
            rw [List.mem_singleton.mp ho]
            refine ⟨rfl, fun _ _ hreturned => ?_⟩
            cases hreturned
      | _ => contradiction

end

/-! ### Runs -/

/-- A run that enters no state, with reads of too small a buffer only, retains the result. -/
theorem retains_run {K : Iolinki} (hK : K.Lawful) {index : UInt16} {subindex : UInt8}
    {data : List UInt8} {l : List Obs} (calls : List (Env × Call)) {w : World}
    (hcalls : ∀ c ∈ calls, c.2.initializes = false ∧
      ∀ call ∈ c.2.services c.1, TooSmall index subindex data.length call)
    (h : Retains index subindex data w.port) (hsince : RetainingSince index subindex l w)
    (hstay : (run K w calls).log.countP Obs.isEnter ≤ l.countP Obs.isEnter) :
  Retains index subindex data (run K w calls).port ∧
    RetainingSince index subindex l (run K w calls)
  := by
  have hclosed : Trace.Closed fun log : List Obs =>
      log.countP Obs.isEnter ≤ l.countP Obs.isEnter :=
    fun _ _ hsuffix hlog => hsuffix.sublist.countP_le.trans hlog
  induction calls generalizing w with
  | nil =>
      rw [run_nil]
      exact ⟨h, hsince⟩
  | cons c calls ih =>
      obtain ⟨env, c⟩ := c
      rw [run_cons] at hstay ⊢
      obtain ⟨hc, hservices⟩ := hcalls _ List.mem_cons_self
      have hpath := runCall_portPath hK w hc hservices
      have hcall : Retains index subindex data (runCall K env w c).port ∧
          RetainingSince index subindex l (runCall K env w c) := by
        apply Trace.invariant_of_path (I := fun w => Retains index subindex data w.port ∧
          RetainingSince index subindex l w) extends_portStep hclosed _ hpath ⟨h, hsince⟩
        · exact hclosed (run_extends hK _ calls) hstay
        · rintro u v hstep ⟨hu, husince⟩ hv
          exact retains_step hstep hu husince hv
      apply ih _ hcall.1 hcall.2 hstay
      intro c' hc'
      apply hcalls c' (List.mem_cons_of_mem _ hc')

/-! ### The response of the device -/

/-- A completed service has the outcome of its response. -/
def Answers (w : World) : Prop :=
  w.port.isdu.done = true → ∃ o, answered w.log = some o ∧ w.port.isdu.error = o.error ∧
    ∀ data, o = .positive data → w.port.isdu.response = data

/-- The observation completes an ISDU service. -/
@[simp]
def Obs.isDone : Obs → Bool
  | .isduDone _ _ => true
  | _ => false

theorem answered_other {o : Obs} (ho : o.isDone = false) (log : List Obs) :
  answered (o :: log) = answered log
  := by
  cases o <;> first | rfl | contradiction

section

variable {w v : World}

/-- A step that completes no service. -/
theorem Answers.keep (h : Answers w) (os : List Obs) (hos : ∀ o ∈ os, o.isDone = false)
    (hlog : v.log = os ++ w.log)
    (hdone : v.port.isdu.done = true → w.port.isdu.done = true ∧
      v.port.isdu.error = w.port.isdu.error ∧ v.port.isdu.response = w.port.isdu.response) :
  Answers v
  := by
  intro hv
  obtain ⟨hw, herror, hresponse⟩ := hdone hv
  have hsame : answered v.log = answered w.log := by
    rw [hlog]
    exact Trace.unaffected_append (fun o l ho => answered_other ho l) hos w.log
  rw [hsame, herror, hresponse]
  apply h hw

theorem answers_service (hstep : ServiceStep w v) (h : Answers w) :
  Answers v
  := by
  cases hstep with
  | tune hp =>
      refine h.keep [] (by simp) rfl ?_
      rw [World.put_port, hp.isdu]
      intro hdone
      exact ⟨hdone, rfl, rfl⟩
  | @note o ho =>
      refine h.keep [o] ?_ rfl (fun hdone => ⟨hdone, rfl, rfl⟩)
      intro o' ho'
      rw [List.mem_singleton.mp ho']
      cases o <;> first | rfl | contradiction
  | setPdOut | refuseWrite | pendingWrite =>
      exact h.keep [_] (by simp) rfl (fun hdone => ⟨hdone, rfl, rfl⟩)
  | startEvent | consumeEvent =>
      exact h.keep [_, _] (by simp) rfl (fun hdone => ⟨hdone, rfl, rfl⟩)
  | _ =>
      -- No service has completed in the state that is left.
      intro hdone
      contradiction

theorem answers_control (hstep : ControlStep w v) (h : Answers w) :
  Answers v
  := by
  cases hstep with
  | service hstep => apply answers_service hstep h
  | fail => exact h.keep [_] (by simp) rfl (fun hdone => ⟨hdone, rfl, rfl⟩)

/-- Handing on on-request data; the data that completes a service completes its response. -/
theorem answers_routeOd (h : Answers w) (hsound : w.port.isdu.Sound) (od : List UInt8) :
  Answers (routeOd w od)
  := by
  rcases routeOd_cases w od with ⟨-, -, heq⟩ | ⟨-, heq⟩ | ⟨-, heq⟩
  · rw [heq]
    exact h.keep [_] (by simp) rfl (fun hdone => ⟨hdone, rfl, rfl⟩)
  · rw [heq]
    exact h.keep [_] (by simp) rfl (fun hdone => ⟨hdone, rfl, rfl⟩)
  · rw [heq]
    cases hrecv : isduReceiving w.port.isdu with
    | false =>
        have hobserved : isduObserved w.port.isdu od = [.isduOd od] := by
          simp [isduObserved, isduOnOd_of_not_receiving od hrecv]
        rw [hobserved, isduOnOd_of_not_receiving od hrecv]
        exact h.keep [_] (by simp) rfl (fun hdone => ⟨hdone, rfl, rfl⟩)
    | true =>
        obtain ⟨-, hopen, -⟩ := isduReceiving_iff.mp hrecv
        have hreceives := hsound.receives hrecv od
        intro hdone
        have hcompleted : (isduOnOd w.port.isdu od).done = true := hdone
        have hobserved : isduObserved w.port.isdu od
            = [.isduDone w.port.isdu od, .isduOd od] := by
          simp [isduObserved, hopen, hcompleted]
        cases ho : outcome (receivedStream w.port.isdu od) with
        | none =>
            have hnone := hreceives.2
            rw [ho, hcompleted] at hnone
            exact absurd hnone.1 (by simp)
        | some o =>
            obtain ⟨-, -, -, -, -, herror, hresponse⟩ := (receives_done ho).mp hreceives
            refine ⟨o, ?_, herror, hresponse⟩
            rw [hobserved]
            apply ho

theorem answers_judge {K : Iolinki} {data : List UInt8} (hstep : JudgeStep K data w v)
    (hconcluded : Concluded w) (h : Answers w) :
  Answers v
  := by
  cases hstep with
  | unframed | rejectTest | rejectRetry =>
      exact h.keep [_] (by simp) rfl (fun hdone => ⟨hdone, rfl, rfl⟩)
  | rejectLost =>
      exact h.keep [_, _, _] (by simp [comlostObs]) rfl
        (fun hdone => ⟨hdone, rfl, rfl⟩)
  | acceptTest | acceptAck =>
      exact h.keep [_, _] (by simp) rfl (fun hdone => ⟨hdone, rfl, rfl⟩)
  | accept hstate hack hwidth hcks hhandler hpd =>
      have haccepted : Concluded (accepted w data) ∧ Answers (accepted w data) :=
        ⟨hconcluded.keep [_] (by simp) rfl rfl rfl,
          h.keep [_] (by simp) rfl (fun hdone => ⟨hdone, rfl, rfl⟩)⟩
      have hu := hhandler.keeps (I := fun u => Concluded u ∧ Answers u)
        (fun _ _ hstep hboth => ⟨concluded_service hstep hboth.1, answers_service hstep hboth.2⟩)
        haccepted
      have hrouted := answers_routeOd hu.2 hu.1.sound (data.take (odWidth w.port))
      exact hrouted.keep [] (by simp) rfl (fun hdone => ⟨hdone, rfl, rfl⟩)

theorem answers_receive {K : Iolinki} {judged : World → List UInt8 → Prop}
    (hstep : ReceiveStep K judged w v) (hconcluded : Concluded w) (h : Answers w) :
  Answers v
  := by
  cases hstep with
  | control hstep => apply answers_control hstep h
  | recv => exact h.keep [_] (by simp) rfl (fun hdone => ⟨hdone, rfl, rfl⟩)
  | clearRx => exact h.keep [] (by simp) rfl (fun hdone => ⟨hdone, rfl, rfl⟩)
  | judge data hjudged hstep => apply answers_judge hstep hconcluded h

theorem answers_slot {K : Iolinki} {ready : World → Prop} (hstep : SlotStep K ready w v)
    (h : Answers w) :
  Answers v
  := by
  have hmoved : ∀ {frame : List UInt8} {s : IsduState} {e : EventState} {step : StartupStep},
      Emission K w.port frame s e step → s.done = true →
        w.port.isdu.done = true ∧ s.error = w.port.isdu.error ∧
          s.response = w.port.isdu.response := by
    intro frame s e step hemit hdone
    obtain ⟨pos, phase, flowctrl, abort, idle, -, rfl⟩ := hemit.moves
    exact ⟨hdone, rfl, rfl⟩
  cases hstep with
  | control hstep => apply answers_control hstep h
  | send _ _ hemit => exact h.keep [_] (by simp) rfl (hmoved hemit)
  | sendFailed sent _ _ _ hemit =>
      cases sent with
      | true => exact h.keep [_, _] (by simp) rfl (hmoved hemit)
      | false => exact h.keep [_] (by simp) rfl (hmoved hemit)
  | slot | startupFailed =>
      exact h.keep [_, _] (by simp) rfl (fun hdone => ⟨hdone, rfl, rfl⟩)
  | restep | count => exact h.keep [] (by simp) rfl (fun hdone => ⟨hdone, rfl, rfl⟩)
  | _ => exact h.keep [_] (by simp) rfl (fun hdone => ⟨hdone, rfl, rfl⟩)

theorem answers_timeout {due : World → Bool → Bool → Prop} (hstep : TimeoutStep due w v)
    (h : Answers w) :
  Answers v
  := by
  cases hstep with
  | control hstep => apply answers_control hstep h
  | clearRx | restep => exact h.keep [] (by simp) rfl (fun hdone => ⟨hdone, rfl, rfl⟩)
  | lost =>
      exact h.keep [_, _, _] (by simp [comlostObs]) rfl
        (fun hdone => ⟨hdone, rfl, rfl⟩)
  | broken => exact h.keep [_, _] (by simp) rfl (fun hdone => ⟨hdone, rfl, rfl⟩)
  | _ => exact h.keep [_] (by simp) rfl (fun hdone => ⟨hdone, rfl, rfl⟩)

end

/-- In every reachable state the transport is sound, and a completed service has the outcome of
its response. -/
theorem reachable_answers {K : Iolinki} (hK : K.Lawful) {phy : PhyApi} {config : Config}
    {allowed : Env → World → Call → Prop} {w : World} (hw : Reach K allowed phy config w) :
  w.port.isdu.Sound ∧ Answers w
  := by
  have hbase := kept_concluded hK config
  have hkept : KeptFormed K config (fun _ => True) (fun w => Concluded w ∧ Answers w) := by
    refine ⟨hbase.closed, ?_, ?_, ?_, ?_⟩
    · rintro w v hstep hformed ⟨hconcluded, h⟩ hC
      exact ⟨hbase.control hstep hformed hconcluded hC, answers_control hstep h⟩
    · rintro w v hstep hformed ⟨hconcluded, h⟩ hC
      exact ⟨hbase.receive hstep hformed hconcluded hC, answers_receive hstep hconcluded h⟩
    · rintro w v hstep hformed ⟨hconcluded, h⟩ hC
      exact ⟨hbase.slot hstep hformed hconcluded hC, answers_slot hstep h⟩
    · rintro w v hstep hformed ⟨hconcluded, h⟩ hC
      exact ⟨hbase.timeout hstep hformed hconcluded hC, answers_timeout hstep h⟩
  have hfresh : ∀ (phy : PhyApi) (config : Config) (log : List Obs),
      Answers ⟨zeroPort phy config, .enter (zeroPort phy config).state :: log⟩ := by
    intro phy config log hdone
    contradiction
  have h : WellFormed config w.port ∧ Concluded w ∧ Answers w := by
    apply hkept.reachable hK _ _ _ hw trivial
    · exact ⟨concluded_init _ _ trivial, hfresh _ _ _⟩
    · rintro w now ⟨hconcluded, h⟩
      exact ⟨hconcluded.keep [_] (by simp) rfl rfl rfl,
        h.keep [_] (by simp) rfl (fun hdone => ⟨hdone, rfl, rfl⟩)⟩
    · rintro w mode - ⟨hconcluded, -⟩
      exact ⟨concluded_init _ _ hconcluded.exact, hfresh _ _ _⟩
  exact ⟨h.2.1.sound, h.2.2⟩

/-- The result of a completed, successful read is what the device answered, and it stays while the
port stays in OPERATE: a call with too small a buffer is refused and learns its length, and the
first call with a buffer large enough gets its octets and leaves the transport idle. -/
theorem small_buffer_keeps_result {K : Iolinki} (hK : K.Lawful) {phy : PhyApi} {config : Config}
    {allowed : Env → World → Call → Prop} {w : World} (hw : Reach K allowed phy config w)
    {index : UInt16} {subindex : UInt8} {data : List UInt8} (hstate : w.port.state = .operate)
    (hread : isduMatches w.port.isdu .read index subindex = true)
    (hdone : w.port.isdu.done = true) (herror : w.port.isdu.error = ISDU_ERROR_NONE)
    (hdata : w.port.isdu.response = data) (calls : List (Env × Call)) {since : List Obs}
    (hcalls : ∀ c ∈ calls, c.2.initializes = false ∧
      ∀ call ∈ c.2.services c.1, TooSmall index subindex data.length call)
    (hsince : (run K w calls).log = since ++ w.log) (hstay : ∀ st, .enter st ∉ since) :
  (∃ o, answered w.log = some o ∧ o.error = ISDU_ERROR_NONE ∧
    ∀ octets, o = .positive octets → data = octets) ∧
  (∀ cap ret, .returned (.readIsdu index subindex cap) ret ∈ since →
    ret = ISDU_ERR_BUFFER_TOO_SMALL) ∧
  (∀ cap : UInt8, cap.toNat < data.length →
    (readIsdu (run K w calls) index subindex cap).2
      = ⟨ISDU_ERR_BUFFER_TOO_SMALL, data.length, []⟩) ∧
  (∀ cap : UInt8, data.length ≤ cap.toNat →
    (readIsdu (run K w calls) index subindex cap).2 = ⟨STATUS_OK, data.length, data⟩ ∧
      (readIsdu (run K w calls) index subindex cap).1.port.isdu.Idle)
  := by
  obtain ⟨hsound, hanswers⟩ := reachable_answers hK hw
  have hretains : Retains index subindex data w.port := by
    refine ⟨hstate, hread, hdone, herror, hdata, ?_⟩
    rw [← hdata]
    apply hsound.short
  have hentered : (run K w calls).log.countP Obs.isEnter ≤ w.log.countP Obs.isEnter := by
    have hzero : since.countP Obs.isEnter = 0 := by
      rw [List.countP_eq_zero]
      intro o ho henter
      cases o with
      | enter st => exact hstay st ho
      | _ => contradiction
    rw [hsince, List.countP_append, hzero, Nat.zero_add]
  obtain ⟨hkept, os, hlog, hos⟩ := retains_run hK calls hcalls hretains ⟨[], rfl, by simp⟩ hentered
  refine ⟨?_, ?_, ?_, ?_⟩
  · obtain ⟨o, ho, hsame, hresponse⟩ := hanswers hdone
    refine ⟨o, ho, hsame.symm.trans herror, ?_⟩
    rw [← hdata]
    apply hresponse
  · intro cap ret hreturned
    rw [hsince] at hlog
    rw [List.append_cancel_right hlog] at hreturned
    exact (hos _ hreturned).2 cap ret rfl
  · intro cap hcap
    rw [readIsdu_tooSmall hkept hcap]
  · intro cap hcap
    apply readIsdu_collects hkept hcap

/-- A port of type 2.1 connects and reads the index 0x10; the device answers with the octet
0x55. -/
def readingPresent : List (Env × Call) :=
  connecting ++ [(.quiet [], .service (.readIsdu 0x10 0 16)),
    (.quiet (reply 0 []), .tickAt .cycleDue 14),
    (.quiet (reply 0 [0x00]), .tickAt .cycleDue 16),
    (.quiet (reply 0 [0x00]), .tickAt .cycleDue 18),
    (.quiet (reply 0 [0x00]), .tickAt .cycleDue 20),
    (.quiet (reply 0 [0xD3, 0x00]), .tickAt .cycleDue 22),
    (.quiet (reply 0 [0x55, 0x00]), .tickAt .cycleDue 24),
    (.quiet (reply 0 [0x86, 0x00]), .tickAt .cycleDue 26)]

/-- A call asks for the length of the result, and the port goes on with its cycle. -/
def askingLength : List (Env × Call) :=
  [(.quiet [], .service (.readIsdu 0x10 0 0)), (.quiet (reply 0 [0x00]), .tickAt .cycleDue 28)]

/-- The call after a refused one gets the octet 0x55. -/
theorem small_buffer_keeps_octet :
  (readIsdu (run .reference
      (run .reference (started (.quiet []) .full (.bare .type2_1 1 1)) readingPresent)
      askingLength) 0x10 0 1).2
    = ⟨STATUS_OK, 1, [0x55]⟩
  := by
  have hreach : Reach .reference ticksAndServices .full (.bare .type2_1 1 1)
      (run .reference (started (.quiet []) .full (.bare .type2_1 1 1)) readingPresent) := by
    apply (Reach.start _ (by decide)).run
    decide +kernel
  have hread : isduMatches
      (run .reference (started (.quiet []) .full (.bare .type2_1 1 1)) readingPresent).port.isdu
      .read 0x10 0 = true := by
    decide +kernel
  have hdata :
      (run .reference (started (.quiet []) .full (.bare .type2_1 1 1)) readingPresent).port.isdu.response
        = [0x55] := by
    decide +kernel
  have hsince : (run .reference
      (run .reference (started (.quiet []) .full (.bare .type2_1 1 1)) readingPresent)
      askingLength).log = (run .reference
      (run .reference (started (.quiet []) .full (.bare .type2_1 1 1)) readingPresent)
      askingLength).log.take 8 ++
      (run .reference (started (.quiet []) .full (.bare .type2_1 1 1)) readingPresent).log := by
    decide +kernel
  have hnone : ∀ o ∈ (run .reference
      (run .reference (started (.quiet []) .full (.bare .type2_1 1 1)) readingPresent)
      askingLength).log.take 8, o.isEnter = false := by
    decide +kernel
  have hresult := small_buffer_keeps_result Iolinki.lawful_reference hreach (by decide +kernel)
    hread (by decide +kernel) (by decide +kernel) hdata askingLength (by decide +kernel) hsince
    (fun st hst => Bool.noConfusion (hnone _ hst))
  exact (hresult.2.2.2 1 (by decide)).1

end IolinkMaster
