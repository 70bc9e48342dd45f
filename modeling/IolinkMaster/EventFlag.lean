import IolinkMaster.Aside
import IolinkMaster.Coherence

/-!
# When the pending events are dispatched

The Event flags of the accepted replies, the calls of `event_pending_handler` and the flag the
diagnostics store.
-/

namespace IolinkMaster

/-! ### The Event flags of a connection -/

/-- The Event flag of a reply, bit 7 of its CKS octet. -/
def eventFlag (data : List UInt8) : Bool := data.getLastD 0 &&& CKS_EVENT != 0

/-- An accepted reply acknowledges DeviceOperate. -/
def isAck (st : MasterState) (od : Option (List UInt8)) : Bool := st == .preoperate && od == none

/-- A reply accepted in the state `st` counts; `outside` says whether the replies of STARTUP and
PREOPERATE do, which a later connection accepts. -/
def flagCounts (outside : Bool) (st : MasterState) : Bool :=
  outside || st != .startup && st != .preoperate

/-- The Event flag an observation adds to the flags `flags` of a connection, which begin with the
acknowledge of DeviceOperate. -/
def addFlag (outside : Bool) (flags : List Bool) : Obs → Option Bool
  | .accept st data od =>
    if isAck st od || !flags.isEmpty && flagCounts outside st then some (eventFlag data) else none
  | _ => none

/-- The observation `o` after `log` is made by an initialization. -/
def initializes (log : List Obs) : Obs → Bool
  | .enter .startup => !lostLast log
  | .enter .inactive => true
  | _ => false

/-- An observation begins the flags of a new connection. -/
def beginsFlags : Obs → Bool
  | .accept st _ od => isAck st od
  | _ => false

/-- The Event flags of the replies accepted since the port last entered OPERATE, latest first. -/
def eventFlags (outside : Bool) : List Obs → List Bool
  | [] => []
  | o :: log =>
    if initializes log o then []
    else
      (addFlag outside (eventFlags outside log) o).toList ++
        if beginsFlags o then [] else eventFlags outside log

/-- The Event flag rises with the last observation; before the first flag it is clear. -/
def flagRises (outside : Bool) : List Obs → Bool
  | [] => false
  | o :: log =>
    (addFlag outside (eventFlags outside log) o).isSome &&
      (eventFlags outside (o :: log)).headD false &&
        !(eventFlags outside (o :: log)).tail.headD false

/-- The handler is called next after `log` exactly if the Event flag has just risen. -/
def Dispatched (outside : Bool) (log : List Obs) (o : Obs) : Prop :=
  o = .eventPending ↔ flagRises outside log = true

/-- Pending events are dispatched on the rising edges of the Event flag, and the flag is
stored. -/
structure FollowsFlags (outside : Bool) (w : World) : Prop where
  dispatched : Trace.Always (Dispatched outside) w.log
  settled : flagRises outside w.log = false
  stored : w.port.diagnostics.eventPending = (eventFlags outside w.log).headD false

instance (outside : Bool) (log : List Obs) (o : Obs) : Decidable (Dispatched outside log o) :=
  inferInstanceAs (Decidable (_ ↔ _))

/-- A reply accepted in the state `st` is judged as the reply of a TYPE_1 or TYPE_2 port. -/
def typedReply (config : Config) (st : MasterState) : Bool :=
  st != .startup && st != .preoperate && !(st == .operate && config.mSeqType == .type0)

/-- The Event flag of an accepted reply: it is clear in the acknowledge of DeviceOperate and
before there was one, and it has not changed in a reply that is not judged as one of a TYPE_1
or TYPE_2 port. -/
def FlagAgrees (config : Config) (outside : Bool) (log : List Obs) : Obs → Prop
  | .accept st data od =>
    if isAck st od then eventFlag data = false
    else if typedReply config st then eventFlags outside log = [] → eventFlag data = false
    else flagCounts outside st = true → eventFlags outside log ≠ [] →
      eventFlag data = (eventFlags outside log).headD false
  | _ => True

instance (config : Config) (outside : Bool) (log : List Obs) (o : Obs) :
    Decidable (FlagAgrees config outside log o) := by
  cases o <;> simp only [FlagAgrees] <;> infer_instance

/-! ### What leaves the flags alone -/

section

variable {outside : Bool} {log : List Obs} {o : Obs}

/-- An observation that accepts no reply and is not of an initialization leaves the flags
alone. -/
theorem eventFlags_other (ho : o.isAccept = false) (hinit : initializes log o = false) :
  eventFlags outside (o :: log) = eventFlags outside log ∧ flagRises outside (o :: log) = false
  := by
  cases o with
  | accept => contradiction
  | _ => simp [eventFlags, flagRises, hinit, addFlag, beginsFlags]

/-- The flags after an accepted reply. -/
theorem eventFlags_accept {st : MasterState} {data : List UInt8} {od : Option (List UInt8)} :
  eventFlags outside (.accept st data od :: log) =
    if isAck st od then [eventFlag data]
    else if eventFlags outside log = [] ∨ flagCounts outside st = false then
      eventFlags outside log
    else eventFlag data :: eventFlags outside log
  := by
  cases hack : isAck st od with
  | true => simp [eventFlags, initializes, addFlag, beginsFlags, hack]
  | false =>
      cases hflags : eventFlags outside log with
      | nil => simp [eventFlags, initializes, addFlag, beginsFlags, hack, hflags]
      | cons flag flags =>
          cases hcounts : flagCounts outside st with
          | true => simp [eventFlags, initializes, addFlag, beginsFlags, hack, hflags, hcounts]
          | false => simp [eventFlags, initializes, addFlag, beginsFlags, hack, hflags, hcounts]

/-- The flag rises with an accepted reply if it is set, and clear or absent before. -/
theorem flagRises_accept {st : MasterState} {data : List UInt8} {od : Option (List UInt8)} :
  flagRises outside (.accept st data od :: log) =
    if isAck st od then eventFlag data
    else !(eventFlags outside log).isEmpty && flagCounts outside st && eventFlag data &&
      !(eventFlags outside log).headD false
  := by
  cases hack : isAck st od with
  | true => simp [flagRises, eventFlags_accept, addFlag, hack]
  | false =>
      cases hflags : eventFlags outside log with
      | nil => simp [flagRises, addFlag, hack, hflags]
      | cons flag flags =>
          cases hcounts : flagCounts outside st with
          | true => simp [flagRises, eventFlags_accept, addFlag, hack, hflags, hcounts]
          | false => simp [flagRises, addFlag, hack, hflags, hcounts]

end

/-! ### What every step keeps -/

/-- The port calls `event_pending_handler`, and it is of the kind `config` configures. -/
structure Dispatches (config : Config) (p : PortState) : Prop where
  handler : p.config.eventPendingHandler = true
  accepted : configRefused p.config = false
  mSeqType : p.config.mSeqType = config.mSeqType
  pdOutLen : p.pdOutLen = p.config.pdOutLen

/-- The flags of the log are `flags`, and their rising edges are dispatched. -/
structure Notified (config : Config) (outside : Bool) (flags : List Bool) (w : World) : Prop where
  dispatches : Dispatches config w.port
  dispatched : Trace.Always (Dispatched outside) w.log
  settled : flagRises outside w.log = false
  flags : eventFlags outside w.log = flags

section

variable {K : Iolinki} {config : Config} {env : Env} {outside : Bool} {flags : List Bool}
  {w v : World}

theorem Dispatches.step {fixed : Prop} (hstep : AsideStep fixed w v)
    (h : Dispatches config w.port) :
  Dispatches config v.port
  := by
  cases hstep with
  | @put p hconfig hpdOut =>
      refine ⟨?_, ?_, ?_, ?_⟩
      · rw [World.put_port, hconfig, h.handler]
      · rw [World.put_port, hconfig, h.accepted]
      · rw [World.put_port, hconfig, h.mSeqType]
      · rw [World.put_port, hconfig, hpdOut h.pdOutLen]
  | emit | fail | lost => exact ⟨h.handler, h.accepted, h.mSeqType, h.pdOutLen⟩

/-- Something else than a reply, a call of the handler or an initialization is observed. -/
theorem Notified.other (h : Notified config outside flags w) {o : Obs} (hne : o ≠ .eventPending)
    (ho : o.isAccept = false) (hinit : initializes w.log o = false) :
  Notified config outside flags (w.emit o)
  := by
  obtain ⟨hflags, hrises⟩ : eventFlags outside (o :: w.log) = eventFlags outside w.log ∧
      flagRises outside (o :: w.log) = false := eventFlags_other ho hinit
  refine ⟨h.dispatches, ⟨h.dispatched, ?_⟩, hrises, hflags.trans h.flags⟩
  simp [Dispatched, hne, h.settled]

/-- A state other than STARTUP and INACTIVE is entered. -/
theorem Notified.enter (h : Notified config outside flags w) {st : MasterState}
    (hst : initializes w.log (.enter st) = false) :
  Notified config outside flags (w.enter st)
  := by
  have hentered : Notified config outside flags (w.emit (.enter st)) :=
    h.other (by simp) rfl hst
  refine ⟨?_, hentered.dispatched, hentered.settled, hentered.flags⟩
  exact ⟨h.dispatches.handler, h.dispatches.accepted, h.dispatches.mSeqType, h.dispatches.pdOutLen⟩

/-- The steps aside of the flags keep them. -/
theorem Notified.step {fixed : Prop} (hstep : AsideStep fixed w v)
    (h : Notified config outside flags w) :
  Notified config outside flags v
  := by
  have hdispatches := h.dispatches.step hstep
  cases hstep with
  | put => exact ⟨hdispatches, h.dispatched, h.settled, h.flags⟩
  | @emit o ho =>
      cases o with
      | accept | eventPending | enter | comlost => contradiction
      | _ => exact h.other (by simp) rfl rfl
  | fail => apply h.enter rfl
  | lost p =>
      have hlost : Notified config outside flags (w.emit (comlostObs p)) :=
        h.other (by simp [comlostObs]) rfl rfl
      apply hlost.enter rfl

/-- No call ends between the loss of communication and the restart. -/
theorem lostLast_step {fixed : Prop} (hstep : AsideStep fixed w v)
    (h : lostLast w.log = false) :
  lostLast v.log = false
  := by
  cases hstep with
  | put => apply h
  | @emit o ho => cases o <;> first | rfl | contradiction
  | fail | lost => rfl

/-- The rising edges are dispatched and the flag is stored. -/
structure Synced (config : Config) (outside : Bool) (w : World) : Prop where
  notified : Notified config outside (eventFlags outside w.log) w
  stored : w.port.diagnostics.eventPending = (eventFlags outside w.log).headD false
  unlost : lostLast w.log = false

theorem Synced.step {fixed : Prop} (hstep : AsideStep fixed w v) (h : Synced config outside w) :
  Synced config outside v
  := by
  have hnotified := h.notified.step hstep
  have hflag := AsidePath.flag (.single hstep)
  refine ⟨?_, ?_, ?_⟩
  · rw [hnotified.flags]
    apply hnotified
  · rw [hflag, hnotified.flags]
    apply h.stored
  · apply lostLast_step hstep h.unlost

theorem Synced.path {fixed : Prop} (hpath : AsidePath fixed w v) (h : Synced config outside w) :
  Synced config outside v
  := hpath.keeps (fun _ _ => Synced.step) h

/-- The flags stay in step with a log of the same flags. -/
theorem Notified.synced (h : Notified config outside flags w)
    (hstored : w.port.diagnostics.eventPending = flags.headD false)
    (hunlost : lostLast w.log = false) :
  Synced config outside w
  := by
  obtain ⟨hdispatches, hdispatched, hsettled, rfl⟩ := h
  exact ⟨⟨hdispatches, hdispatched, hsettled, rfl⟩, hstored, hunlost⟩

theorem Synced.follows (h : Synced config outside w) :
  FollowsFlags outside w
  := ⟨h.notified.dispatched, h.notified.settled, h.stored⟩

/-! ### Accepted replies -/

/-- A reply is accepted with which the flag does not rise. -/
theorem Synced.accept (h : Synced config outside w) {st : MasterState} {data : List UInt8}
    {od : Option (List UInt8)} (hrises : flagRises outside (.accept st data od :: w.log) = false) :
  Notified config outside (eventFlags outside (.accept st data od :: w.log))
    (w.emit (.accept st data od))
  := by
  refine ⟨h.notified.dispatches, ⟨h.notified.dispatched, ?_⟩, hrises, rfl⟩
  simp [Dispatched, h.notified.settled]

/-- A reply that agrees with the stored flag is accepted without a dispatch. -/
theorem Synced.agreeing (h : Synced config outside w) {st : MasterState} {data : List UInt8}
    {od : Option (List UInt8)} (htyped : typedReply config st = false)
    (hack : isAck st od = false)
    (hagrees : FlagAgrees config outside w.log (.accept st data od)) :
  Synced config outside (w.emit (.accept st data od))
  := by
  simp only [FlagAgrees, hack, htyped, Bool.false_eq_true, if_false] at hagrees
  have hstored := h.stored
  have hflags : (eventFlags outside (.accept st data od :: w.log)).headD false
      = (eventFlags outside w.log).headD false := by
    simp only [eventFlags_accept, hack, Bool.false_eq_true, if_false]
    split
    · rfl
    · next hcounted =>
      rw [not_or, Bool.not_eq_false] at hcounted
      rw [List.headD_cons, hagrees hcounted.2 hcounted.1]
  have hrises : flagRises outside (.accept st data od :: w.log) = false := by
    simp only [flagRises_accept, hack, Bool.false_eq_true, if_false]
    cases hcounts : flagCounts outside st with
    | false => simp
    | true =>
        cases hempty : eventFlags outside w.log with
        | nil => simp
        | cons flag flags =>
            rw [hempty] at hagrees
            rw [hagrees hcounts (List.cons_ne_nil _ _)]
            cases flag <;> rfl
  apply (h.accept hrises).synced _ rfl
  rw [hflags]
  apply hstored

/-- A reply of a TYPE_1 or TYPE_2 port adds its flag, unless there was no acknowledge of
DeviceOperate. -/
theorem Synced.typed (h : Synced config outside w) {st : MasterState} {data : List UInt8}
    {od : Option (List UInt8)} (htyped : typedReply config st = true)
    (hagrees : FlagAgrees config outside w.log (.accept st data od)) :
  (eventFlags outside (.accept st data od :: w.log)).headD false = eventFlag data ∧
    flagRises outside (.accept st data od :: w.log)
      = (eventFlag data && !w.port.diagnostics.eventPending)
  := by
  obtain ⟨hstartup, hpre⟩ : st ≠ .startup ∧ st ≠ .preoperate := by
    simp only [typedReply, Bool.and_eq_true, bne_iff_ne] at htyped
    apply htyped.1
  have hack : isAck st od = false := by simp [isAck, hpre]
  have hcounts : flagCounts outside st = true := by simp [flagCounts, hstartup, hpre]
  simp only [FlagAgrees, hack, htyped, Bool.false_eq_true, if_false, if_true] at hagrees
  rw [eventFlags_accept, flagRises_accept, h.stored, hack, hcounts]
  cases hflags : eventFlags outside w.log with
  | nil =>
      rw [hagrees hflags]
      simp
  | cons flag flags => simp

/-- The Event flag the codec reports is that of the reply. -/
theorem decode_eventPending (hK : K.Lawful) {data : List UInt8} {pdIn od : Nat}
    {r : OperateResponse} (h : K.decodeOperateResponse data pdIn od = some r) :
  r.eventPending = eventFlag data
  := by
  have hlen := (decodeOperateResponse_some hK h).1
  obtain ⟨hcut, hod, hpd⟩ := reply_cut hlen
  obtain ⟨r', hr', -, -, hflag, -⟩ :=
    hK.decode_body (data.take od) (data.drop od).dropLast (data.getLastD 0)
  rw [← hcut, hod, hpd, h, Option.some.injEq] at hr'
  rw [hr', hflag, eventFlag]

/-- The notification after an accepted reply brings the stored flag in step again. -/
theorem Synced.notify (h : Synced config outside w) {st : MasterState} {data : List UInt8}
    {od : Option (List UInt8)} (htyped : typedReply config st = true)
    (hagrees : FlagAgrees config outside w.log (.accept st data od))
    (hpath : AsidePath True (w.emit (.accept st data od)) v)
    (hlog : v.log = .accept st data od :: w.log) (handler : List Service) :
  Synced config outside (notifyEventPending v (eventFlag data) handler)
  := by
  obtain ⟨hhead, hrises⟩ := h.typed htyped hagrees
  have hdispatches : Dispatches config v.port :=
    hpath.keeps (I := fun u => Dispatches config u.port) (fun _ _ => Dispatches.step)
      h.notified.dispatches
  have hdispatched : Trace.Always (Dispatched outside) v.log := by
    rw [hlog]
    refine ⟨h.notified.dispatched, ?_⟩
    simp [Dispatched, h.notified.settled]
  have hstored : ∀ u : World, Notified config outside (eventFlags outside v.log) u →
      lostLast u.log = false → Synced config outside (u.put { u.port with diagnostics := { u.port.diagnostics with
        eventPending := eventFlag data } }) := by
    intro u hu hunlost
    rw [← hlog] at hhead
    apply Notified.synced _ hhead.symm
    · apply hunlost
    · refine ⟨?_, hu.dispatched, hu.settled, hu.flags⟩
      exact ⟨hu.dispatches.handler, hu.dispatches.accepted, hu.dispatches.mSeqType,
        hu.dispatches.pdOutLen⟩
  have hflag : v.port.diagnostics.eventPending = w.port.diagnostics.eventPending := hpath.flag
  rw [← hlog] at hrises
  simp only [notifyEventPending, hdispatches.handler, Bool.and_true, hflag, ← hrises]
  split
  · next hset =>
    -- The handler is called, and then makes its calls.
    have hservices :=
      (OrdinaryPath.runServices (u := v.emit .eventPending) .refl handler).aside
    apply hstored
    obtain ⟨hflags, hsettled⟩ :
        eventFlags outside (.eventPending :: v.log) = eventFlags outside v.log ∧
          flagRises outside (.eventPending :: v.log) = false := eventFlags_other rfl rfl
    have hcalled : Notified config outside (eventFlags outside v.log) (v.emit .eventPending) :=
      ⟨hdispatches, ⟨hdispatched, by simp [Dispatched, hset]⟩, hsettled, hflags⟩
    · apply hservices.keeps (fun _ _ => Notified.step) hcalled
    · apply hservices.keeps (I := fun u => lostLast u.log = false) (fun _ _ => lostLast_step) rfl
  · next hclear =>
    apply hstored
    · exact ⟨hdispatches, hdispatched, Bool.eq_false_iff.mpr hclear, rfl⟩
    · rw [hlog]
      rfl

/-! ### Judging a reply -/

/-- The flags of the replies in a log agree. -/
def FlagsAgree (config : Config) (outside : Bool) (log : List Obs) : Prop :=
  Trace.Always (FlagAgrees config outside) log

/-- The agreement of a reply that was accepted in a longer log. -/
theorem FlagsAgree.at {o : Obs} {l log : List Obs} (h : FlagsAgree config outside log)
    (hlog : o :: l <:+ log) :
  FlagAgrees config outside l o
  := (Trace.closed_always _ hlog h).2

/-- A state other than STARTUP and INACTIVE is entered. -/
theorem Synced.enter (h : Synced config outside w) {st : MasterState}
    (hst : initializes w.log (.enter st) = false) :
  Synced config outside (w.enter st)
  := by
  exact (h.notified.enter hst).synced h.stored rfl

/-- A reply that agrees with the stored flag is accepted. -/
theorem Synced.replyAccepted (h : Synced config outside w) {data : List UInt8}
    {od : Option (List UInt8)} (htyped : typedReply config w.port.state = false)
    (hack : isAck w.port.state od = false)
    (hagrees : FlagAgrees config outside w.log (.accept w.port.state data od)) :
  Synced config outside (IolinkMaster.replyAccepted w data od)
  := by
  apply (h.agreeing htyped hack hagrees).path
  apply AsidePath.put (.refl : AsidePath True _ _) <;> rfl

/-- The answer to a test message does not raise the flag. -/
theorem Synced.onRxStartup (h : Synced config outside w) {data : List UInt8}
    (hstate : w.port.state = .startup) :
  FlagsAgree config outside (onRxStartup K w data).1.log →
    Synced config outside (onRxStartup K w data).1
  := by
  have hrefused : Synced config outside (replyUnframed w data).1 :=
    h.path (OrdinaryPath.replyUnframed (.refl : OrdinaryPath True _ _) data).aside
  have hrejected : AsidePath True w (w.emit (.reject w.port.state data)) :=
    AsidePath.emit .refl rfl
  simp only [IolinkMaster.onRxStartup]
  split
  · intro _
    apply hrefused
  · split
    · intro _
      apply hrefused
    · split
      · intro _
        apply h.path
        apply hrejected.put <;> rfl
      · intro hagree
        have hagrees : FlagAgrees config outside w.log (.accept w.port.state data none) :=
          hagree.at (List.suffix_cons _ _)
        apply Synced.enter _ rfl
        apply @Synced.path _ _ _ _ True _ (h.replyAccepted _ _ hagrees)
        · apply AsidePath.put .refl <;> rfl
        · rw [hstate]
          rfl
        · rw [hstate]
          rfl

/-- The flag of an acknowledge is clear. -/
theorem Synced.onRxOperateAck (h : Synced config outside w) {data : List UInt8}
    (hstate : w.port.state = .preoperate) :
  FlagsAgree config outside (onRxOperateAck K env w data).1.log →
    Synced config outside (onRxOperateAck K env w data).1
  := by
  simp only [IolinkMaster.onRxOperateAck]
  split
  · intro _
    apply h.path (OrdinaryPath.replyUnframed (.refl : OrdinaryPath True _ _) data).aside
  · next hlen =>
    split
    · intro _
      apply h.path (OrdinaryPath.replyRejected (.refl : OrdinaryPath True _ _) data).aside
    · intro hagree
      have hagrees : FlagAgrees config outside w.log (.accept w.port.state data none) :=
        hagree.at (List.suffix_cons _ _)
      obtain ⟨cks, rfl⟩ := List.length_eq_one_iff.mp (not_not.mp hlen)
      have hflags : eventFlags outside (.accept w.port.state [cks] none :: w.log) = [false] := by
        rw [hstate] at hagrees ⊢
        rw [eventFlags_accept]
        exact congrArg (fun flag => [flag]) hagrees
      have hrises : flagRises outside (.accept w.port.state [cks] none :: w.log) = false := by
        rw [hstate] at hagrees ⊢
        rw [flagRises_accept]
        exact hagrees
      have hcks : (cks &&& 0x80 != 0) = false := by
        rw [hstate] at hagrees
        exact hagrees
      have haccepted := h.accept hrises
      rw [hflags] at haccepted
      apply Synced.enter _ rfl
      apply @Notified.synced _ _ [false]
      · exact ⟨⟨haccepted.dispatches.handler, haccepted.dispatches.accepted,
          haccepted.dispatches.mSeqType, haccepted.dispatches.pdOutLen⟩, haccepted.dispatched,
          haccepted.settled, haccepted.flags⟩
      · exact hcks
      · rfl

/-- A TYPE_0 reply does not change the flag. -/
theorem Synced.onRxType0 (h : Synced config outside w) {data : List UInt8}
    (htyped : typedReply config w.port.state = false) :
  FlagsAgree config outside (onRxType0 K env w data).1.log →
    Synced config outside (onRxType0 K env w data).1
  := by
  have hack : isAck w.port.state (some (data.take 1)) = false := by simp [isAck]
  simp only [IolinkMaster.onRxType0]
  split
  · intro _
    apply h.path (OrdinaryPath.replyUnframed (.refl : OrdinaryPath True _ _) data).aside
  · split
    · intro _
      apply h.path (OrdinaryPath.replyRejected (.refl : OrdinaryPath True _ _) data).aside
    · intro hagree
      have hroute := (OrdinaryPath.routeOd (.refl : OrdinaryPath True
        (IolinkMaster.replyAccepted w data (some (data.take 1))) _) (data.take 1)).aside
      apply Synced.path hroute
      apply h.replyAccepted htyped hack
      apply hagree.at hroute.suffix

/-- A reply of a TYPE_1 or TYPE_2 port is notified. -/
theorem Synced.onRxOperate (hK : K.Lawful) (h : Synced config outside w) {data : List UInt8}
    (handler : List Service) (htyped : typedReply config w.port.state = true) :
  FlagsAgree config outside (onRxOperate K env w data handler).1.log →
    Synced config outside (onRxOperate K env w data handler).1
  := by
  simp only [IolinkMaster.onRxOperate]
  split
  · intro _
    apply h.path (OrdinaryPath.replyUnframed (.refl : OrdinaryPath True _ _) data).aside
  · next r hsome =>
    split
    · intro _
      apply h.path (OrdinaryPath.replyRejected (.refl : OrdinaryPath True _ _) data).aside
    · intro hagree
      have hstatus : AsidePath True (w.emit (.accept w.port.state data (some r.od)))
          ((IolinkMaster.replyAccepted w data (some r.od)).put
            { (IolinkMaster.replyAccepted w data (some r.od)).port with
              diagnostics := { (IolinkMaster.replyAccepted w data (some r.od)).port.diagnostics with
                odStatus := r.status } }) := by
        have haccepted : AsidePath True (w.emit (.accept w.port.state data (some r.od)))
            (IolinkMaster.replyAccepted w data (some r.od)) := by
          apply AsidePath.put .refl <;> rfl
        apply haccepted.put <;> rfl
      have hroute : ∀ v : World, AsidePath True v
          (IolinkMaster.routeOd (v.put (takePdIn v.port r)) r.od) := by
        intro v
        apply OrdinaryPath.aside
        apply OrdinaryPath.routeOd
        rw [put_takePdIn]
        apply OrdinaryPath.put .refl <;> rfl
      rw [decode_eventPending hK hsome] at hagree ⊢
      apply Synced.path (hroute _)
      apply h.notify htyped _ hstatus rfl
      apply hagree.at
      apply List.IsSuffix.trans _ (hroute _).suffix
      have hnotified : ∀ (v : World) (l : List Obs), v.log = l →
          l <:+ (notifyEventPending v (eventFlag data) handler).log := by
        rintro v - rfl
        exact extends_service.path (notifyEventPending_path v (eventFlag data) handler)
      exact hnotified _ _ rfl

/-- The judgement of a reply keeps the flags in step. -/
theorem Synced.onRx (hK : K.Lawful) (h : Synced config outside w) (data : List UInt8)
    (handler : List Service) :
  FlagsAgree config outside (onRx K env w data handler).1.log →
    Synced config outside (onRx K env w data handler).1
  := by
  -- TYPE_0 ports exchange no process data.
  have htype : type0Operate w.port = (config.mSeqType == .type0) := by
    have haccepted := h.notified.dispatches.accepted
    simp only [configRefused, Bool.or_eq_false_iff, Bool.and_eq_false_iff,
      decide_eq_false_iff_not, h.notified.dispatches.mSeqType] at haccepted
    rw [type0Operate, h.notified.dispatches.pdOutLen, h.notified.dispatches.mSeqType]
    cases hseq : config.mSeqType == .type0 with
    | false => rfl
    | true =>
        rw [hseq] at haccepted
        have hin : w.port.config.pdInLen = 0 := by simp_all
        have hout : w.port.config.pdOutLen = 0 := by simp_all
        simp [hin, hout]
  simp only [IolinkMaster.onRx]
  split
  · intro _
    apply h
  · split
    · next hstate => apply h.onRxStartup hstate
    · next hstartup =>
      split
      · next hstate =>
        split
        · apply h.onRxOperateAck hstate
        · apply h.onRxType0
          simp [typedReply, hstate]
      · next hpre =>
        split
        · next htype0 =>
          apply h.onRxType0
          rw [htype] at htype0
          simp [typedReply, htype0]
        · next htype0 =>
          apply h.onRxOperate hK
          rw [htype] at htype0
          simp only [typedReply, Bool.and_eq_true, Bool.not_eq_true', Bool.and_eq_false_iff,
            bne_iff_ne, beq_eq_false_iff_ne]
          refine ⟨⟨hstartup, hpre⟩, ?_⟩
          by_cases hop : w.port.state = .operate
          · right
            intro hseq
            exact htype0 ⟨hop, by simp [hseq]⟩
          · exact .inl hop

/-! ### Ticks and runs -/

/-- Octets are taken from the PHY. -/
theorem Synced.pollLoop (hK : K.Lawful) (expected : Nat) (h : Synced config outside w)
    (frames : Nat) (octets : List (UInt8 × List Service)) :
  FlagsAgree config outside (pollLoop K env expected w frames octets).1.log →
    Synced config outside (pollLoop K env expected w frames octets).1
  := by
  induction octets generalizing w frames with
  | nil =>
      simp only [IolinkMaster.pollLoop]
      split
      · intro _
        apply h.path (OrdinaryPath.rxFailed (.refl : OrdinaryPath True _ _)).aside
      · intro _
        apply h
  | cons octet octets ih =>
      obtain ⟨byte, handler⟩ := octet
      have hrecv : OrdinaryPath True w (w.emit (.recv byte)) := OrdinaryPath.emit .refl rfl
      have hbuffered : AsidePath True w
          ((w.emit (.recv byte)).put { w.port with rx := w.port.rx ++ [byte] }) := by
        apply hrecv.aside.put <;> rfl
      simp only [IolinkMaster.pollLoop]
      split
      · intro _
        apply h.path hrecv.rxFailed.aside
      · split
        · have hjudged := @Synced.onRx K _ env _ _ hK (h.path hbuffered) (w.port.rx ++ [byte])
            handler
          have hcleared : ∀ v : World, AsidePath True v (v.put { v.port with rx := [] }) := by
            intro v
            apply AsidePath.put .refl <;> rfl
          split
          · intro hagree
            apply Synced.path (hcleared _)
            apply hjudged
            exact Trace.closed_always _ (hcleared _).suffix hagree
          · intro hagree
            apply ih _ _ hagree
            apply Synced.path (hcleared _)
            apply hjudged
            apply Trace.closed_always _ _ hagree
            have hpath := pollLoop_path hK env expected (frames + 1)
              ((IolinkMaster.onRx K env ((w.emit (.recv byte)).put
                { w.port with rx := w.port.rx ++ [byte] }) (w.port.rx ++ [byte]) handler).1.put
                { (IolinkMaster.onRx K env ((w.emit (.recv byte)).put
                { w.port with rx := w.port.rx ++ [byte] }) (w.port.rx ++ [byte]) handler).1.port with
                rx := [] }) octets
            exact (hcleared _).suffix.trans (extends_receive.path hpath)
        · apply ih (h.path hbuffered)

theorem Synced.pollRx (hK : K.Lawful) (h : Synced config outside w) :
  FlagsAgree config outside (pollRx K env w).1.log →
    Synced config outside (pollRx K env w).1
  := by
  simp only [IolinkMaster.pollRx]
  split
  · intro _
    apply h
  · split
    · intro _
      apply h
    · apply h.pollLoop hK

theorem Synced.tickCommon (hK : K.Lawful) (h : Synced config outside w) (event : TickEvent)
    (pace : Bool) (now : UInt32)
    (hagree : FlagsAgree config outside (tickCommon K env w event pace now).1.log) :
  Synced config outside (tickCommon K env w event pace now).1
  := by
  have hpolled : Synced config outside (IolinkMaster.pollRx K env w).1 := by
    apply h.pollRx hK
    exact Trace.closed_always _ (tickCommon_polled hK env w event pace now) hagree
  rcases tickCommon_cases K env w event pace now with heq | ⟨-, -, heq⟩ | ⟨-, -, heq⟩
  · rw [heq]
    apply hpolled
  · rw [heq]
    apply hpolled.path (OrdinaryPath.tickTimeout (.refl : OrdinaryPath True _ _) now pace).aside
  · rw [heq]
    apply hpolled.path (AsidePath.processSlot (.refl : AsidePath True _ _) now pace)

/-- An initialization is observed as one. -/
theorem initializes_zeroPort (phy : PhyApi) (config : Config) {log : List Obs}
    (hunlost : lostLast log = false) :
  initializes log (.enter (zeroPort phy config).state) = true
  := by
  simp only [zeroPort]
  split
  · simp [initializes, hunlost]
  · rfl

/-- An initialized port has no flags. -/
theorem synced_initPort (env : Env) (phy : PhyApi) {config' : Config}
    (hconfig : configRefused config' = false) (hhandler : config'.eventPendingHandler = true)
    (htype : config'.mSeqType = config.mSeqType)
    (hdispatched : Trace.Always (Dispatched outside) w.log)
    (hsettled : flagRises outside w.log = false) (hunlost : lostLast w.log = false) :
  Synced config outside (initPort env w phy config').1
  := by
  have hinit := initializes_zeroPort phy config' hunlost
  have hflags : eventFlags outside (.enter (zeroPort phy config').state :: w.log) = [] := by
    simp only [eventFlags, hinit, if_true]
  have hentered : Notified config outside []
      ⟨zeroPort phy config', .enter (zeroPort phy config').state :: w.log⟩ := by
    refine ⟨⟨hhandler, hconfig, htype, rfl⟩, ⟨hdispatched, ?_⟩, rfl, hflags⟩
    simp [Dispatched, hsettled]
  have hsynced := hentered.synced rfl rfl
  simp only [initPort, hconfig, Bool.false_eq_true, if_false]
  split
  · apply hsynced.path (OrdinaryPath.fail (.refl : OrdinaryPath True _ _)).aside
  · apply hsynced.path (OrdinaryPath.initPhy (.refl : OrdinaryPath True _ _)).aside

/-- A port stays in step when it is initialized again in any mode. -/
theorem Synced.setPortMode (h : Synced config outside w) (mode : PortMode) :
  Synced config outside (setPortMode env w mode).1
  := synced_initPort env w.port.phy h.notified.dispatches.accepted h.notified.dispatches.handler
    h.notified.dispatches.mSeqType h.notified.dispatched h.notified.settled h.unlost

/-- Every call keeps the flags in step. -/
theorem Synced.runCall (hK : K.Lawful) (h : Synced config outside w) (c : Call)
    (hagree : FlagsAgree config outside (runCall K env w c).log) :
  Synced config outside (runCall K env w c)
  := by
  have htick : ∀ now, Synced config outside (w.emit (.tick now)) := fun now =>
    h.path (AsidePath.emit (.refl : AsidePath True _ _) rfl)
  cases c with
  | tickAt event now => apply (htick now).tickCommon hK event true now hagree
  | tickEvent event => apply h.tickCommon hK event false 0 hagree
  | controllerTickAt now => apply (htick now).tickCommon hK _ true now hagree
  | process => apply h.path (OrdinaryPath.processAt (.refl : OrdinaryPath True _ _) 0 false).aside
  | pollRx => apply h.pollRx hK hagree
  | onRx data handler => apply h.onRx hK data handler hagree
  | onTimeout => apply h.path (OrdinaryPath.onTimeoutAt (.refl : OrdinaryPath True _ _) 0 false).aside
  | service call => apply h.path (OrdinaryPath.runService .refl call).aside
  | restart => apply h.setPortMode
  | setPortMode mode => apply h.setPortMode

end

/-- In every run in which the Event flags agree, `event_pending_handler` is called exactly on the
rising edges of the flag, and the diagnostics hold the last flag. -/
theorem event_pending_dispatch {K : Iolinki} (hK : K.Lawful) {phy : PhyApi} {config : Config}
    (hhandler : config.eventPendingHandler = true) {allowed : Env → World → Call → Prop}
    {w : World} (hw : Reach K allowed phy config w) (outside : Bool)
    (hagree : Trace.Always (FlagAgrees config outside) w.log) :
  FollowsFlags outside w
  := by
  have hsynced : Synced config outside w := by
    induction hw with
    | start env hconfig => exact synced_initPort env phy hconfig hhandler rfl trivial rfl rfl
    | @call w env c hw hc ih =>
        apply Synced.runCall hK _ c hagree
        apply ih
        exact Trace.closed_always _ (runCall_extends hK env w c) hagree
  apply hsynced.follows

/-- A port of the given kind that calls `event_pending_handler`. -/
def notifying (mSeqType : MSeqType) (pdInLen pdOutLen : Nat) : Config :=
  { Config.bare mSeqType pdInLen pdOutLen with eventPendingHandler := true }

/-- A port of type 2.1 connects, and then exchanges three cycles with a device that reports an
event in the second one. -/
def reportingEvent : List (Env × Call) :=
  connecting ++ [(.quiet (reply 0 []), .tickAt .cycleDue 14),
    (.quiet (reply 0 [0x11]), .tickAt .cycleDue 16),
    (.quiet (reply 0x80 [0x11]), .tickAt .cycleDue 18),
    (.quiet (reply 0 [0x11]), .tickAt .cycleDue 20)]

/-- The event is dispatched, and its end is stored. -/
theorem event_pending_dispatch_once :
  FollowsFlags false
    (run .reference (started (.quiet []) .full (notifying .type2_1 1 1)) reportingEvent)
  := by
  have hreach : Reach .reference ticksAndServices .full (notifying .type2_1 1 1)
      (run .reference (started (.quiet []) .full (notifying .type2_1 1 1)) reportingEvent) := by
    apply (Reach.start _ (by decide)).run
    decide +kernel
  apply event_pending_dispatch Iolinki.lawful_reference rfl hreach
  decide +kernel

/-- A set Event flag in the acknowledge of DeviceOperate is not dispatched, and no set flag of a
TYPE_0 device is. -/
theorem event_pending_dispatch_missed :
  (∀ outside, ¬ FollowsFlags outside
    (run .reference (started (.quiet []) .full (notifying .type2_1 1 1))
      (connecting ++ [(.quiet (reply 0x80 []), .tickAt .cycleDue 14)]))) ∧
  ∀ outside, ¬ FollowsFlags outside
    (run .reference (started (.quiet []) .full (notifying .type0 0 0))
      (connecting ++ [(.quiet (reply 0 []), .tickAt .cycleDue 14),
        (.quiet (reply 0x80 [0x00]), .tickAt .cycleDue 16)]))
  := by
  constructor
  · intro outside h
    have hdispatched := h.dispatched
    revert hdispatched
    cases outside <;> decide +kernel
  · intro outside h
    have hdispatched := h.dispatched
    revert hdispatched
    cases outside <;> decide +kernel

end IolinkMaster
