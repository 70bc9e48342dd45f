import IolinkMaster.Establish
import IolinkMaster.Rejection

/-!
# Polls

What a poll leaves of the port. A poll that ends in an error leaves a trace in the port; one that
does not leaves the port in its state, or takes it to the next one.
-/

namespace IolinkMaster

/-! ### Checksum errors -/

/-- The ports have counted the same checksum errors. -/
def SameErrors (p q : PortState) : Prop :=
  q.diagnostics.checksumErrors = p.diagnostics.checksumErrors

/-- Two steps that count no checksum error. -/
theorem SameErrors.trans {p q r : PortState} (h : SameErrors p q) (h' : SameErrors q r) :
  SameErrors p r
  := Eq.trans h' h

/-- Latching a result counts no checksum error. -/
theorem sameErrors_serviceResult (p : PortState) (ret : Int) :
  SameErrors p (serviceResult p ret)
  := by
  simp only [SameErrors, serviceResult]
  split <;> rfl

/-- A read service counts no checksum error. -/
theorem sameErrors_readIsdu (w : World) (index : UInt16) (subindex cap : UInt8) :
  SameErrors w.port (readIsdu w index subindex cap).1.port
  := by
  have hcases := readIsdu_cases w index subindex cap
  revert hcases
  generalize readIsdu w index subindex cap = r
  rintro (_ | _ | _ | _ | _)
  · rfl
  · exact sameErrors_serviceResult _ ISDU_ERR_DEVICE
  · exact sameErrors_serviceResult _ ISDU_ERR_BUFFER_TOO_SMALL
  · exact sameErrors_serviceResult _ STATUS_OK
  · rfl

/-- A write service counts no checksum error. -/
theorem sameErrors_writeIsdu (w : World) (index : UInt16) (subindex : UInt8)
    (data : List UInt8) :
  SameErrors w.port (writeIsdu w index subindex data).1.port
  := by
  have hcollect : SameErrors w.port (w.collect (isduFinishWrite w.port).1).port := by
    rw [World.collect_port, isduFinishWrite]
    split
    · exact sameErrors_serviceResult _ ISDU_ERR_DEVICE
    · exact sameErrors_serviceResult _ STATUS_OK
  simp only [writeIsdu, writeIsduBody]
  repeat' split
  all_goals first
    | apply hcollect
    | rfl

/-- Reading the device information counts no checksum error. -/
theorem sameErrors_readDeviceInfo (w : World) :
  SameErrors w.port (readDeviceInfo w).1.port
  := by
  have hread := sameErrors_readIsdu w IDX_DIRECT_PARAMETERS_1 0 (UInt8.ofNat DPP1_LEN)
  simp only [readDeviceInfo]
  split
  · apply hread
  · rw [apply_ite Prod.fst, ite_self]
    apply hread.trans
    simp only [World.emit_port, World.put_port, applyDirectParameterPage1]
    split <;> rfl

/-- Reading an index back counts no checksum error. -/
theorem sameErrors_verifyIsdu (w : World) (index : UInt16) (subindex : UInt8)
    (expected : List UInt8) :
  SameErrors w.port (verifyIsdu w index subindex expected).1.port
  := by
  have hread := sameErrors_readIsdu w index subindex 255
  simp only [verifyIsdu]
  split
  · apply hread
  · apply hread.trans (sameErrors_serviceResult _ _)

/-- Reading the Data Storage back counts no checksum error. -/
theorem sameErrors_verifyDataStorage (w : World) (expected : List UInt8) :
  SameErrors w.port (verifyDataStorage w expected).1.port
  := by
  have hread := sameErrors_readIsdu w IDX_DATA_STORAGE 0 255
  simp only [verifyDataStorage]
  split
  · apply hread
  · split
    · apply hread.trans (sameErrors_serviceResult _ _)
    · apply hread.trans (sameErrors_serviceResult _ _)

/-- A step of the parameter block counts no checksum error if its call and the rest count none. -/
theorem sameErrors_blockStep {call rest : World → World × Int}
    (hcall : ∀ w, SameErrors w.port (call w).1.port)
    (hrest : ∀ w, SameErrors w.port (rest w).1.port) (w : World) (step next : BlockStep) :
  SameErrors w.port (blockStep w step next call rest).1.port
  := by
  simp only [blockStep]
  split
  · split
    · apply hcall
    · have hset : SameErrors (call w).1.port (blockSetStep (call w).1 next).port := rfl
      apply (hcall w).trans (hset.trans (hrest _))
  · apply hrest

/-- Verifying the parameter block counts no checksum error. -/
theorem sameErrors_blockVerify (w : World) :
  SameErrors w.port (blockVerify w).1.port
  := by
  obtain ⟨r, hr⟩ : ∃ r, r = if w.port.block.index = IDX_DATA_STORAGE ∧ w.port.block.subindex = 0
      then verifyDataStorage w w.port.block.data
      else verifyIsdu w w.port.block.index w.port.block.subindex w.port.block.data := ⟨_, rfl⟩
  have hverify : SameErrors w.port r.1.port := by
    rw [hr]
    split
    · apply sameErrors_verifyDataStorage
    · apply sameErrors_verifyIsdu
  simp only [blockVerify, ← hr]
  apply hverify.trans
  refine SameErrors.trans ?_ (sameErrors_serviceResult _ _)
  split <;> rfl

/-- Writing a parameter block counts no checksum error. -/
theorem sameErrors_writeParameterBlock (w : World) (index : UInt16) (subindex : UInt8)
    (data : List UInt8) :
  SameErrors w.port (writeParameterBlock w index subindex data).1.port
  := by
  have hwrite : ∀ (w : World) index subindex data,
      SameErrors w.port (writeIsdu w index subindex data).1.port := sameErrors_writeIsdu
  have hlatched : ∀ w : World, SameErrors w.port (if w.port.block.step = .none then
      w.put { w.port with block := ⟨.beginDownload, index, subindex, data⟩ } else w).port := by
    intro w
    split <;> rfl
  simp only [writeParameterBlock]
  split
  · rfl
  · split
    · apply sameErrors_serviceResult
    · apply (hlatched w).trans
      apply sameErrors_blockStep
      · intro v
        apply hwrite
      · intro v
        apply sameErrors_blockStep
        · intro v
          apply hwrite
        · intro v
          apply sameErrors_blockStep
          · intro v
            apply hwrite
          · apply sameErrors_blockVerify

/-- A readout counts no checksum error if its consumer counts none. -/
theorem sameErrors_eventService {consume : World → World}
    (hconsume : ∀ w, SameErrors w.port (consume w).port) (w : World) (request : EventReq) :
  SameErrors w.port (eventService w request consume).1.port
  := by
  simp only [eventService]
  repeat' split
  · rfl
  · rfl
  · rfl
  · apply hconsume w

/-- A service call counts no checksum error. -/
theorem sameErrors_runService (w : World) (call : Service) :
  SameErrors w.port (runService w call).port
  := by
  have hevents : ∀ (es : List Event) (w : World),
      SameErrors w.port (es.foldl (fun w e => w.emit (.event e)) w).port := by
    intro es
    induction es with
    | nil =>
        intro w
        rfl
    | cons e es ih =>
        intro w
        apply ih (w.emit (.event e))
  cases call with
  | readIsdu | readDataStorage | readDetailedDeviceStatus => apply sameErrors_readIsdu
  | readDeviceInfo => apply sameErrors_readDeviceInfo
  | restoreDataStorage | writeParameterBlock => apply sameErrors_writeParameterBlock
  | verifyDataStorage => apply sameErrors_verifyDataStorage
  | verifyIsdu => apply sameErrors_verifyIsdu
  | readEventCode =>
      apply sameErrors_eventService
      intro w
      dsimp only
      split <;> rfl
  | ackEvent =>
      apply sameErrors_eventService
      intro w
      rfl
  | readEventDetails maxEvents =>
      apply sameErrors_eventService
      intro w
      dsimp only
      split
      · apply hevents
      · rfl
  | setPdOut data =>
      simp only [runService, serviceBody, setPdOut]
      split <;> rfl
  | _ => apply sameErrors_writeIsdu

/-! ### Replies -/

/-- Communication gets further from the state `st` to the state `st'`. -/
def Later (st st' : MasterState) : Prop :=
  st = .startup ∧ (st' = .preoperate ∨ st' = .operate) ∨ st = .preoperate ∧ st' = .operate

/-- What is later than a later state is later. -/
theorem Later.trans {r s t : MasterState} (h : Later r s) (h' : Later s t) :
  Later r t
  := by
  rcases h with ⟨hr, rfl | rfl⟩ | ⟨hr, rfl⟩ <;> rcases h' with ⟨h', ht⟩ | ⟨h', ht⟩
  all_goals first
    | contradiction
    | exact .inl ⟨hr, .inr ht⟩

/-- A later state is another one. -/
theorem Later.ne {st st' : MasterState} (h : Later st st') :
  st' ≠ st
  := by
  rcases h with ⟨rfl, rfl | rfl⟩ | ⟨rfl, rfl⟩ <;> decide

/-- The port `q` is in the state of `p`, waits for the same replies, and serves the same ISDU
service in PREOPERATE. -/
structure Ongoing (p q : PortState) : Prop where
  phy : q.phy = p.phy
  config : q.config = p.config
  state : q.state = p.state
  step : q.startup.step = p.startup.step
  rxOdExpected : q.rxOdExpected = p.rxOdExpected
  op : p.state = .preoperate → q.isdu.op = p.isdu.op

/-- A port that stays as it is goes on. -/
theorem Ongoing.refl (p : PortState) :
  Ongoing p p
  := ⟨rfl, rfl, rfl, rfl, rfl, fun _ => rfl⟩

/-- A port that goes on twice goes on. -/
theorem Ongoing.trans {p q r : PortState} (h : Ongoing p q) (h' : Ongoing q r) :
  Ongoing p r
  := by
  refine ⟨h'.phy.trans h.phy, h'.config.trans h.config, h'.state.trans h.state,
    h'.step.trans h.step, h'.rxOdExpected.trans h.rxOdExpected, ?_⟩
  intro hstate
  exact (h'.op (h.state.trans hstate)).trans (h.op hstate)

/-- Well-formed ports wait for replies of the same width. -/
theorem Ongoing.replyWidth {config : Config} {p q : PortState} (h : Ongoing p q)
    (hp : WellFormed config p) (hq : WellFormed config q) :
  replyWidth q = replyWidth p
  := by
  simp only [IolinkMaster.replyWidth, type0Operate, h.config, h.state, h.step, h.rxOdExpected,
    hp.odLen, hq.odLen, hp.pdOutLen, hq.pdOutLen]

/-- The port `p` has taken replies and become `q`. -/
structure Taken (p q : PortState) : Prop where
  errors : SameErrors p q
  state : Later p.state q.state ∨ Ongoing p q

/-- A port that stays as it is has taken no reply. -/
theorem Taken.refl (p : PortState) :
  Taken p p
  := ⟨rfl, .inr (.refl p)⟩

/-- Replies are taken one after the other. -/
theorem Taken.trans {p q r : PortState} (h : Taken p q) (h' : Taken q r) :
  Taken p r
  := by
  refine ⟨h.errors.trans h'.errors, ?_⟩
  rcases h.state with hpq | hpq <;> rcases h'.state with hqr | hqr
  · exact .inl (hpq.trans hqr)
  · exact .inl (hqr.state ▸ hpq)
  · exact .inl (hpq.state ▸ hqr)
  · exact .inr (hpq.trans hqr)

/-- The ways the port `p` judges the reply `data`. -/
inductive Verdict (p : PortState) (data : List UInt8) (r : World × Int) : Prop where
  | taken (hret : r.2 = STATUS_OK) (h : Taken p r.1.port)
  | unframed (hret : r.2 < 0) (hwidth : replyWidth p ≠ some data.length) (hport : r.1.port = p)
  | rejected (hret : r.2 < 0)
      (herrors : r.1.port.diagnostics.checksumErrors = p.diagnostics.checksumErrors + 1)

/-- A bad checksum is counted once. -/
theorem ChecksumAccounted.errors {env : Env} {p q : PortState} (h : ChecksumAccounted env p q) :
  q.diagnostics.checksumErrors = p.diagnostics.checksumErrors + 1
  := by
  cases h with
  | test | retry => rfl
  | lost =>
      simp only [restartedPort, armSendGate, Bool.false_eq_true, if_false]
      split <;> rfl

section

variable {K : Iolinki} {env : Env} {w : World} {data : List UInt8}

/-- The verdict on a reply of another length. -/
theorem replyUnframed_verdict (h : replyWidth w.port ≠ some data.length) :
  Verdict w.port data (replyUnframed w data)
  := .unframed (by decide : ERR_FRAME < 0) h rfl

/-- The verdict on a reply with a bad checksum. -/
theorem replyRejected_verdict :
  Verdict w.port data (replyRejected env w data)
  := by
  have hrejected := replyRejected_rejected env w data
  have hret : (replyRejected env w data).2 = ERR_CHECKSUM := by
    simp only [replyRejected]
    split <;> rfl
  apply Verdict.rejected
  · rw [hret]
    decide
  · apply (hrejected.accounted hret).errors

/-- The routing of on-request data leaves the rest of the port to its communication. -/
theorem taken_routeOd {p : PortState} (h : Taken p w.port) (od : List UInt8) :
  Taken p (routeOd w od).port
  := by
  obtain ⟨s, e, hport, hsame⟩ := routeOd_service w od
  apply h.trans
  rw [hport]
  exact ⟨rfl, .inr ⟨rfl, rfl, rfl, rfl, rfl, fun _ => hsame.1⟩⟩

/-- The verdict on the answer to a test message. -/
theorem onRxStartup_verdict (hstate : w.port.state = .startup) :
  Verdict w.port data (onRxStartup K w data)
  := by
  simp only [onRxStartup]
  split
  · next hstep =>
    apply replyUnframed_verdict
    simp [replyWidth, hstate, hstep]
  · next hstep =>
    split
    · next hlen =>
      apply replyUnframed_verdict
      simp only [replyWidth, hstate, not_not.mp hstep, if_true, ne_eq, Option.some.injEq]
      apply Ne.symm hlen
    · split
      · exact .rejected (by decide : ERR_CHECKSUM < 0) rfl
      · exact .taken rfl ⟨rfl, .inl (.inl ⟨hstate, .inl rfl⟩)⟩

/-- The verdict on the acknowledge of DeviceOperate. -/
theorem onRxOperateAck_verdict (hack : awaitsAck w.port) :
  Verdict w.port data (onRxOperateAck K env w data)
  := by
  obtain ⟨hstate, hstep⟩ := hack
  simp only [onRxOperateAck]
  split
  · next hlen =>
    apply replyUnframed_verdict
    simp only [replyWidth, hstate, hstep, if_true, ne_eq, Option.some.injEq]
    apply Ne.symm hlen
  · split
    · apply replyRejected_verdict
    · exact .taken rfl ⟨rfl, .inl (.inr ⟨hstate, rfl⟩)⟩

/-- The verdict on a TYPE_0 reply. -/
theorem onRxType0_verdict (hwidth : replyWidth w.port = some M_SEQ_TYPE0_LEN) :
  Verdict w.port data (onRxType0 K env w data)
  := by
  simp only [onRxType0]
  split
  · next hlen =>
    apply replyUnframed_verdict
    rw [hwidth, ne_eq, Option.some.injEq]
    apply Ne.symm hlen
  · split
    · apply replyRejected_verdict
    · refine .taken rfl (taken_routeOd ?_ _)
      exact ⟨rfl, .inr ⟨rfl, rfl, rfl, rfl, rfl, fun _ => rfl⟩⟩

/-- The calls of the event handler count no checksum error. -/
theorem sameErrors_notifyEventPending (w : World) (raised : Bool) (handler : List Service) :
  SameErrors w.port (notifyEventPending w raised handler).port
  := by
  have hcalls : ∀ (calls : List Service) (v : World),
      SameErrors v.port (calls.foldl runService v).port := by
    intro calls
    induction calls with
    | nil =>
        intro v
        rfl
    | cons call calls ih =>
        intro v
        apply (sameErrors_runService v call).trans (ih _)
  simp only [notifyEventPending]
  split
  · apply hcalls handler (w.emit .eventPending)
  · rfl

/-- The verdict on a reply of OPERATE. -/
theorem onRxOperate_verdict (hK : K.Lawful) (handler : List Service)
    (hstate : w.port.state ≠ .preoperate)
    (hwidth : replyWidth w.port
      = some ((if w.port.rxOdExpected then w.port.odLen else 0) + w.port.config.pdInLen + 1)) :
  Verdict w.port data (onRxOperate K env w data handler)
  := by
  simp only [onRxOperate]
  split
  · next hnone =>
    rw [hK.decode_none_iff] at hnone
    apply replyUnframed_verdict
    rw [hwidth, ne_eq, Option.some.injEq]
    apply Ne.symm hnone
  · next r hsome =>
    split
    · apply replyRejected_verdict
    · refine .taken rfl (taken_routeOd ?_ _)
      let v := replyAccepted w data (some r.od)
      let u := v.put
        { v.port with diagnostics := { v.port.diagnostics with odStatus := r.status } }
      have hkept := untouched_of_path (notifyEventPending_path u r.eventPending handler)
      have herrors := sameErrors_notifyEventPending u r.eventPending handler
      have htaken : Taken w.port (notifyEventPending u r.eventPending handler).port :=
        ⟨herrors, .inr ⟨hkept.phy, hkept.config, hkept.state, hkept.step, hkept.rxOdExpected,
          fun h => absurd h hstate⟩⟩
      apply htaken.trans
      simp only [World.put_port, takePdIn]
      split
      · exact ⟨rfl, .inr ⟨rfl, rfl, rfl, rfl, rfl, fun _ => rfl⟩⟩
      · apply Taken.refl

/-- A reply is taken, refused for its width, or rejected for its checksum. -/
theorem onRx_verdict (hK : K.Lawful) (handler : List Service) (hdata : data ≠ []) :
  Verdict w.port data (onRx K env w data handler)
  := by
  simp only [onRx, if_neg hdata]
  split
  · next hstate => apply onRxStartup_verdict hstate
  · next hstartup =>
    split
    · next hstate =>
      split
      · next hstep => apply onRxOperateAck_verdict ⟨hstate, hstep⟩
      · next hstep =>
        apply onRxType0_verdict
        simp [replyWidth, hstate, hstep]
    · next hstate =>
      split
      · next htype =>
        apply onRxType0_verdict
        simp [replyWidth, htype.1, htype.2]
      · next htype =>
        apply onRxOperate_verdict hK handler hstate
        cases hst : w.port.state with
        | startup | preoperate => contradiction
        | operate =>
            have hzero : ¬ type0Operate w.port = true := fun h => htype ⟨hst, h⟩
            simp [replyWidth, hst, hzero]
        | inactive | error => simp [replyWidth, hst]

end

/-! ### Polls -/

/-- A poll that begins at the port `p` changes the port if it ends in an error, and takes replies
otherwise. -/
structure Heeds (p : PortState) (r : World × Int) : Prop where
  broken : r.2 < 0 → r.1.port ≠ p
  taken : 0 ≤ r.2 → Taken p r.1.port

section

variable {K : Iolinki} {env : Env} {config : Config} {p : PortState} {w : World}

/-- A negative result with another port is heeded. -/
theorem Heeds.broke {r : World × Int} (hret : r.2 < 0) (hport : r.1.port ≠ p) :
  Heeds p r
  := ⟨fun _ => hport, fun h => absurd hret (not_lt.mpr h)⟩

/-- The receive buffer overflows, or the PHY fails. -/
theorem heeds_rxFailed (hstate : p.state ≠ .error) {ret : Int} (hret : ret < 0) :
  Heeds p (rxFailed w, ret)
  := by
  apply Heeds.broke hret
  intro h
  apply hstate
  rw [← h]
  rfl

/-- No reply is empty. -/
theorem replyWidth_pos {expected : Nat} (hwidth : replyWidth p = some expected) :
  0 < expected
  := by
  revert hwidth
  simp only [replyWidth, M_SEQ_TYPE0_LEN]
  repeat' split
  all_goals
    simp only [Option.some.injEq, reduceCtorEq, false_implies]
    try rintro rfl
    try omega

/-- A reply that is judged once its last octet is there has the expected width, unless the poll
began with octets of an older reply. -/
theorem heeds_verdict {expected : Nat} {data : List UInt8} {u : World} {r : World × Int}
    (hp : WellFormed config p) (hu : WellFormed config u.port)
    (hwidth : replyWidth p = some expected) (h : Taken p u.port)
    (hdata : p.rx = [] → data.length = expected) (hverdict : Verdict u.port data r)
    (hret : r.2 < 0) :
  Heeds p (cleared r.1, r.2)
  := by
  have hret' : (cleared r.1, r.2).2 < 0 := hret
  apply Heeds.broke hret'
  intro hsame
  cases hverdict with
  | taken hok =>
      rw [hok] at hret
      contradiction
  | unframed _ hframe hport =>
      have hempty : p.rx = [] := by
        rw [← hsame]
        rfl
      have hstate : u.port.state = p.state := by
        rw [← hsame, ← hport]
        rfl
      rcases h.state with hlater | hongoing
      · exact hlater.ne hstate
      · apply hframe
        rw [hongoing.replyWidth hp hu, hwidth, hdata hempty]
  | rejected _ herrors =>
      have hcount : r.1.port.diagnostics.checksumErrors = p.diagnostics.checksumErrors := by
        rw [← hsame]
        rfl
      rw [hcount, h.errors] at herrors
      exact absurd herrors (by simp)

/-- The octets of one poll are heeded. -/
theorem pollLoop_heeds (hK : K.Lawful) {expected : Nat} (hp : WellFormed config p)
    (hwidth : replyWidth p = some expected) (hstate : p.state ≠ .error) (frames : Nat)
    (octets : List (UInt8 × List Service)) (hw : WellFormed config w.port)
    (h : Taken p w.port) (hrx : p.rx = [] → w.port.rx.length < expected) :
  Heeds p (pollLoop K env expected w frames octets)
  := by
  have hpos := replyWidth_pos hwidth
  induction octets generalizing w frames with
  | nil =>
      rw [pollLoop]
      split
      · apply heeds_rxFailed hstate (by decide)
      · exact ⟨fun hneg => absurd hneg (by simp), fun _ => h⟩
  | cons octet octets ih =>
      obtain ⟨u, hu⟩ : ∃ u, u = received w [octet] := ⟨_, rfl⟩
      have hlen : u.port.rx.length = w.port.rx.length + 1 := by
        rw [hu]
        simp [received]
      have hformed : WellFormed config u.port := by
        rw [hu]
        exact ⟨hw.configured, hw.odLen, hw.pdOutLen, hw.completed⟩
      have htaken : Taken p u.port := by
        apply h.trans
        rw [hu]
        exact ⟨rfl, .inr ⟨rfl, rfl, rfl, rfl, rfl, fun _ => rfl⟩⟩
      by_cases hroom : w.port.rx.length < FRAME_BUF_SIZE
      · by_cases hfull : expected ≤ u.port.rx.length
        · -- The reply is complete.
          have hdata : u.port.rx ≠ [] := by
            intro hnil
            rw [hnil] at hlen
            contradiction
          obtain ⟨r, hr⟩ : ∃ r, r = onRx K env u u.port.rx octet.2 := ⟨_, rfl⟩
          have hverdict : Verdict u.port u.port.rx r := by
            rw [hr]
            apply onRx_verdict hK octet.2 hdata
          rw [pollLoop_full env frames octet octets hroom hu hfull hr]
          have hexact : p.rx = [] → u.port.rx.length = expected := by
            intro hempty
            have := hrx hempty
            omega
          by_cases hret : r.2 < 0
          · rw [if_pos (ne_of_lt hret)]
            apply heeds_verdict hp hformed hwidth htaken hexact hverdict hret
          · obtain ⟨hok, hgoes⟩ : r.2 = STATUS_OK ∧ Taken u.port r.1.port := by
              cases hverdict with
              | taken hok hgoes => exact ⟨hok, hgoes⟩
              | unframed hneg | rejected hneg => contradiction
            have hzero : ¬ r.2 ≠ 0 := not_not.mpr hok
            rw [if_neg hzero]
            have hpath : ReceivePath K (fun _ _ => True) u r.1 :=
              hr ▸ onRx_path hK env u _ _ trivial
            have hjudged : WellFormed config r.1.port := wellFormed_receivePath hpath hformed
            apply ih
            · exact ⟨hjudged.configured, hjudged.odLen, hjudged.pdOutLen, hjudged.completed⟩
            · apply (htaken.trans hgoes).trans
              exact ⟨rfl, .inr ⟨rfl, rfl, rfl, rfl, rfl, fun _ => rfl⟩⟩
            · intro _
              exact hpos
        · rw [pollLoop_open env frames octet octets hroom hu hfull]
          apply ih frames hformed htaken
          intro _
          omega
      · obtain ⟨byte, handler⟩ := octet
        rw [pollLoop]
        dsimp only
        rw [if_pos (by simpa using hroom)]
        apply heeds_rxFailed hstate (by decide)

/-- A poll is heeded. -/
theorem pollRx_heeds (hK : K.Lawful) (hvalid : configRefused config = false)
    (hw : WellFormed config w.port) (hstate : w.port.state ≠ .error) :
  Heeds w.port (pollRx K env w)
  := by
  have hidle : Heeds w.port (w, STATUS_OK) :=
    ⟨fun h => absurd h (by decide : ¬ STATUS_OK < 0), fun _ => .refl _⟩
  rw [pollRx]
  split
  · apply hidle
  · split
    · apply hidle
    · next expected hexpected =>
      have hwidth : replyWidth w.port = some expected := by
        cases hst : w.port.state with
        | startup =>
            rw [← hexpected]
            simp only [replyWidth, expectedLen, hst]
        | preoperate | operate =>
            rw [← (expectedLen_eq hvalid hw (by rw [hst]; rfl)).1, hexpected]
        | inactive | error => simp [expectedLen, hst] at hexpected
      apply pollLoop_heeds hK hw hwidth hstate 0 env.recv hw (.refl _)
      intro hempty
      rw [hempty]
      apply replyWidth_pos hwidth

end

end IolinkMaster
