import Mathlib.Data.Fintype.Defs
import IolinkMaster.Served
import IolinkMaster.Verdict

/-!
# What a write reports

A call of `write_isdu` recognizes its service by operation, index and subindex only, and takes every
response without an error for a success.  Its success is that of a write of its own data as long as
calls that overlap do not differ in the data alone and no response misleads the transport.
-/

namespace IolinkMaster

/-! ### Answers to writes -/

/-- The response octets `stream` confirm a write: they begin with a well framed PDU whose I-Service
is that of the positive response to a write. -/
def Confirms (stream : List UInt8) : Prop :=
  ∃ pdu ∈ stream.inits, Framed pdu ∧ serviceNibble pdu = positiveService .write

/-- A PDU that XORs to zero, and yet neither confirms a write nor shows an error: a negative
response with the ErrorType 0, or one that is not negative and has another I-Service or an invalid
length. -/
def Misleading (pdu : List UInt8) : Prop :=
  isduChkpdu pdu = 0 ∧
    if serviceNibble pdu = 0x4 ∨ serviceNibble pdu = 0xC then
      4 ≤ pdu.length ∧ pdu.getD 1 0 = 0 ∧ pdu.getD 2 0 = 0
    else serviceNibble pdu ≠ positiveService .write ∨ ¬ LengthValid pdu

/-- The response octets `stream` are complete under the length they declare, and mislead the
transport. -/
def Misleads (stream : List UInt8) : Prop :=
  lengthNibble stream ≠ 0 ∧
    ∃ n ∈ declaredTotal stream, n ≤ stream.length ∧ Misleading (stream.take n)

instance : DecidablePred LengthValid := fun pdu =>
  inferInstanceAs (Decidable (2 ≤ lengthNibble pdu ∧ pdu.length = lengthNibble pdu ∨ _))

instance : DecidablePred Framed := fun pdu => inferInstanceAs (Decidable (LengthValid pdu ∧ _))

instance : DecidablePred Confirms := fun stream =>
  inferInstanceAs (Decidable (∃ pdu ∈ stream.inits, _))

instance : DecidablePred Misleading := fun pdu => by
  unfold Misleading
  infer_instance

instance : DecidablePred Misleads := fun stream =>
  inferInstanceAs (Decidable (lengthNibble stream ≠ 0 ∧ ∃ n ∈ declaredTotal stream, _))

/-- A complete response without an error is framed with the I-Service that confirms a write, unless
it is misleading. -/
theorem framed_of_error {pdu : List UInt8} (herror : (completeOutcome pdu).error = ISDU_ERROR_NONE)
    (hplain : ¬ Misleading pdu) :
  Framed pdu ∧ serviceNibble pdu = positiveService .write
  := by
  rw [Misleading, not_and] at hplain
  simp only [completeOutcome] at herror
  split at herror
  · contradiction
  · next hchk =>
    rw [not_not] at hchk
    specialize hplain hchk
    split at herror
    · next hnegative =>
      rw [serviceNibble, if_pos hnegative] at hplain
      rw [Outcome.error] at herror
      split at herror
      · next h4 =>
        obtain ⟨hcode, hadditional⟩ := (errorCode_inj (c := 0) (d := 0)).mp herror
        exact absurd ⟨h4, hcode, hadditional⟩ hplain
      · contradiction
    · next hpositive =>
      rw [serviceNibble, if_neg hpositive, not_or, not_not, not_not] at hplain
      exact ⟨⟨hplain.2, hchk⟩, hplain.1⟩

/-- A response without an error confirms a write unless it misleads the transport. -/
theorem confirms_of_error {stream : List UInt8} {o : Outcome} (ho : outcome stream = some o)
    (herror : o.error = ISDU_ERROR_NONE) (hplain : ¬ Misleads stream) :
  Confirms stream
  := by
  have hnibble : stream.getD 0 0 &&& 0x0F = 0 ↔ lengthNibble stream = 0 := by
    rw [lengthNibble, ← UInt8.toNat_inj]
    rfl
  rw [outcome] at ho
  split at ho
  · contradiction
  · split at ho
    · cases ho
      contradiction
    · next hlength =>
      rw [hnibble] at hlength
      split at ho
      · contradiction
      · next n hn =>
        split at ho
        · next hcomplete =>
          obtain rfl := Option.some.inj ho
          obtain ⟨hframed, hservice⟩ := framed_of_error herror fun hmisleading =>
            hplain ⟨hlength, n, hn, hcomplete, hmisleading⟩
          refine ⟨stream.take n, ?_, hframed, hservice⟩
          rw [List.mem_inits]
          apply List.take_prefix
        · contradiction

/-! ### Reports -/

/-- The service is performed: all of its request has gone out, the device has confirmed the write, and
it is over. -/
structure Serviced.Performed (r : Serviced) : Prop where
  encoded : decodeRequest r.request = some r.asked
  transmitted : r.request <+: r.carried
  answered : ∃ stream ∈ r.answer, Confirms stream
  left : r.left = true

instance (r : Serviced) : Decidable r.Performed :=
  decidable_of_iff (decodeRequest r.request = some r.asked ∧ r.request <+: r.carried ∧
    (∃ stream ∈ r.answer, Confirms stream) ∧ r.left = true)
    ⟨fun ⟨h, h', h'', h₃⟩ => ⟨h, h', h'', h₃⟩, fun ⟨h, h', h'', h₃⟩ => ⟨h, h', h'', h₃⟩⟩

/-- A call of `write_isdu` that succeeds reports a service with its arguments that has been
performed and not been reported before, and one that is pending waits for a service with its
arguments. -/
def ReportsOwn (config : Config) (log : List Obs) : Obs → Prop
  | .wrote index subindex data ret =>
    (ret = STATUS_OK → ∃ r ∈ (services (odLenForType config.mSeqType) log).head?,
      r.Performed ∧ r.asked = ⟨false, index, subindex, data⟩ ∧ r.reported = false) ∧
    (ret = STATUS_PENDING → ∃ r ∈ (services (odLenForType config.mSeqType) log).head?,
      r.left = false ∧ r.asked = ⟨false, index, subindex, data⟩)
  | _ => True

/-- The last service as a call finds it that leaves the service before it returns. -/
def found (odLen : Nat) : List Obs → Option Serviced
  | .isduLeft _ :: log => (services odLen log).head?
  | log => (services odLen log).head?

/-- The service is in progress, or the device has confirmed it. -/
def Serviced.Succeeds (r : Serviced) : Prop := ∀ stream ∈ r.answer, Confirms stream

/-- A call of `write_isdu` in PREOPERATE or OPERATE that finds a write of the same parameter in
progress, or confirmed and not collected, has its data. -/
def SameData (config : Config) (log : List Obs) : Obs → Prop
  | .wrote index subindex data _ =>
    ∀ st ∈ entered log, acyclicAvailable st = true →
      ∀ r ∈ found (odLenForType config.mSeqType) log, r.left = false → r.Succeeds →
        r.asked.read = false → r.asked.index = index → r.asked.subindex = subindex →
          r.asked.payload = data
  | _ => True

/-- The device answers no write with a response that misleads the transport. -/
def PlainAnswers (config : Config) (log : List Obs) : Obs → Prop
  | .isduDone s od =>
    ∀ r ∈ (services (odLenForType config.mSeqType) log).head?, r.left = false →
      r.asked.read = false → ¬ Misleads (receivedStream s od)
  | _ => True

/-- What the application and the device have to observe for the reports of writes. -/
def WritesApart (config : Config) (log : List Obs) (o : Obs) : Prop :=
  SameData config log o ∧ PlainAnswers config log o ∧ Unrevived log o

instance (r : Serviced) : Decidable r.Succeeds :=
  inferInstanceAs (Decidable (∀ stream ∈ r.answer, _))

instance (config : Config) (log : List Obs) : DecidablePred (ReportsOwn config log) := by
  intro o
  apply Obs.casesOn (motive := fun o => Decidable (ReportsOwn config log o)) o <;> intros <;>
    unfold ReportsOwn <;> infer_instance

instance (config : Config) (log : List Obs) : DecidablePred (SameData config log) := by
  intro o
  apply Obs.casesOn (motive := fun o => Decidable (SameData config log o)) o <;> intros <;>
    unfold SameData <;> infer_instance

instance (config : Config) (log : List Obs) : DecidablePred (PlainAnswers config log) := by
  intro o
  apply Obs.casesOn (motive := fun o => Decidable (PlainAnswers config log o)) o <;> intros <;>
    unfold PlainAnswers <;> infer_instance

instance (config : Config) (log : List Obs) (o : Obs) : Decidable (WritesApart config log o) :=
  inferInstanceAs (Decidable (_ ∧ _ ∧ _))

/-- A port that attends its services and has reported its writes. -/
structure Reports (config : Config) (w : World) : Prop where
  attended : Attended config w
  reported : Trace.Always (ReportsOwn config) w.log

/-- A report of a write. -/
@[simp]
def Obs.isWrote : Obs → Bool
  | .wrote _ _ _ _ => true
  | _ => false

section

variable {K : Iolinki} {config : Config} {env : Env} {allowed : Service → Prop} {w v : World}
  {log : List Obs}

/-- Observations that report no write. -/
theorem reported_append (os : List Obs) (hos : ∀ o ∈ os, o.isWrote = false)
    (h : Trace.Always (ReportsOwn config) log) :
  Trace.Always (ReportsOwn config) (os ++ log)
  := by
  apply Trace.always_append _ hos h
  intro o l ho
  cases o <;> trivial

/-- The octets that answer a write do not mislead the transport. -/
def Serviced.Plain (r : Serviced) : Prop :=
  r.asked.read = false → ∀ stream ∈ r.answer, ¬ Misleads stream

/-- What an observation adds to a write leaves its answer plain. -/
theorem plain_further {o : Obs} {r : Serviced} (h : PlainAnswers config log o)
    (hr : (services (odLenForType config.mSeqType) log).head? = some r) (hplain : r.Plain) :
  (if initializes log o then { r with left := true }
    else r.further (odLenForType config.mSeqType) o).Plain
  := by
  split
  · apply hplain
  · simp only [Serviced.further]
    split
    · simp only [Serviced.report]
      split
      · split <;> apply hplain
      · apply hplain
    · next hopen =>
      cases o with
      | isduDone s od =>
          intro hread stream hstream
          obtain rfl := Option.some.inj hstream
          apply h r hr (Bool.eq_false_iff.mpr hopen) hread
      | sent st frame =>
          simp only [Serviced.observe]
          split <;> apply hplain
      | _ => apply hplain

/-- No write has been answered with octets that mislead the transport. -/
theorem plain_answer (h : Trace.Always (PlainAnswers config) log) :
  ∀ r ∈ services (odLenForType config.mSeqType) log, r.Plain
  := by
  induction log with
  | nil => simp [services]
  | cons o log ih =>
      have hpast := ih h.1
      cases hstart : o.startsIsdu with
      | true =>
          cases o with
          | isduStart op index subindex data request =>
              intro r hr
              rcases List.mem_cons.mp hr with rfl | hr
              · intro _ stream hstream
                contradiction
              · apply hpast r hr
          | _ => contradiction
      | false =>
          rw [services_cons hstart]
          cases hrs : services (odLenForType config.mSeqType) log with
          | nil => simp
          | cons r rs =>
              rw [hrs] at hpast
              intro t ht
              rw [List.modifyHead_cons, List.mem_cons] at ht
              rcases ht with rfl | ht
              · apply plain_further h.2 (by rw [hrs]; rfl) (hpast r List.mem_cons_self)
              · apply hpast t (List.mem_cons_of_mem _ ht)

/-- A call finds the last service unless it has been left. -/
theorem found_open {odLen : Nat} {r : Serviced} {l : List Serviced}
    (hrs : services odLen log = r :: l) (hopen : r.left = false) :
  found odLen log = some r
  := by
  cases log with
  | nil => contradiction
  | cons o log =>
      cases o with
      | isduLeft s =>
          rw [services_cons rfl] at hrs
          cases hpast : services odLen log with
          | nil =>
              rw [hpast] at hrs
              contradiction
          | cons t ts =>
              rw [hpast, List.modifyHead_cons] at hrs
              obtain ⟨rfl, -⟩ := List.cons.inj hrs
              have hleft : (t.further odLen (.isduLeft s)).left = false := hopen
              rw [further_left] at hleft
              contradiction
      | _ => exact congrArg List.head? hrs

/-- The service a call of `write_isdu` matches. -/
theorem IsduState.Performs.matches {s : IsduState} {r : Serviced} (h : s.Performs r)
    {index : UInt16} {subindex : UInt8} (hmatches : isduMatches s .write index subindex = true) :
  r.asked.read = false ∧ r.asked.index = index ∧ r.asked.subindex = subindex
  := by
  simp only [isduMatches, Bool.and_eq_true, beq_iff_eq] at hmatches
  obtain ⟨⟨hop, hindex⟩, hsubindex⟩ := hmatches
  rw [h.op] at hop
  refine ⟨?_, by rw [← h.index, hindex], by rw [← h.subindex, hsubindex]⟩
  by_contra hread
  rw [Bool.not_eq_false] at hread
  rw [hread, if_pos rfl] at hop
  contradiction

/-- A write call is pending for a service in progress with its data. -/
theorem reportsOwn_pending (h : Attended config w) {index : UInt16} {subindex : UInt8}
    {data : List UInt8} (hstate : acyclicAvailable w.port.state = true)
    (hbusy : isduBusy w.port.isdu = true)
    (hmatches : isduMatches w.port.isdu .write index subindex = true)
    (hsame : SameData config w.log (.wrote index subindex data STATUS_PENDING)) :
  ReportsOwn config w.log (.wrote index subindex data STATUS_PENDING)
  := by
  refine ⟨fun hok => absurd hok (by decide), fun _ => ?_⟩
  have hne : w.port.state ≠ .error := by
    rintro herror
    rw [herror] at hstate
    contradiction
  obtain ⟨hop, hdone⟩ : w.port.isdu.op ≠ .none ∧ w.port.isdu.done = false := by
    simpa [isduBusy] using hbusy
  obtain ⟨r, l, hrs, hopen, hperforms⟩ := (h.attends hne).performs (.inl hop)
  obtain ⟨hread, hindex, hsubindex⟩ := hperforms.matches hmatches
  have hsucceeds : r.Succeeds := by
    intro stream hstream
    rw [hperforms.pending hdone] at hstream
    contradiction
  have hpayload := hsame _ h.entered hstate r (found_open hrs hopen) hopen hsucceeds hread hindex
    hsubindex
  refine ⟨r, by rw [hrs]; rfl, hopen, ?_⟩
  rw [← hread, ← hindex, ← hsubindex, ← hpayload]

/-- A write call that succeeds reports the service it collects. -/
theorem reportsOwn_collected (h : Attended config w) {index : UInt16} {subindex : UInt8}
    {data : List UInt8} (hstate : acyclicAvailable w.port.state = true)
    (hdone : w.port.isdu.done = true)
    (hmatches : isduMatches w.port.isdu .write index subindex = true)
    (herror : w.port.isdu.error = ISDU_ERROR_NONE)
    (hplain : Trace.Always (PlainAnswers config) w.log)
    (hsame : SameData config (.isduLeft w.port.isdu :: w.log)
      (.wrote index subindex data STATUS_OK)) :
  ReportsOwn config (.isduLeft w.port.isdu :: w.log) (.wrote index subindex data STATUS_OK)
  := by
  refine ⟨fun _ => ?_, fun hpending => absurd hpending (by decide)⟩
  have hne : w.port.state ≠ .error := by
    rintro herror
    rw [herror] at hstate
    contradiction
  obtain ⟨r, l, hrs, hopen, hperforms⟩ := (h.attends hne).performs (.inr hdone)
  obtain ⟨hread, hindex, hsubindex⟩ := hperforms.matches hmatches
  obtain ⟨stream, o, hanswer, ho, herror'⟩ := hperforms.answered hdone
  have hconfirms : Confirms stream := by
    apply confirms_of_error ho (herror'.symm.trans herror)
    apply plain_answer hplain r (by rw [hrs]; exact List.mem_cons_self) hread stream hanswer
  have hsucceeds : r.Succeeds := by
    intro stream' hstream
    obtain rfl := Option.some.inj (hanswer.symm.trans hstream)
    apply hconfirms
  have hpayload := hsame _ h.entered hstate r (by rw [found, hrs]; rfl) hopen hsucceeds hread hindex
    hsubindex
  rw [services_open hrs hopen rfl rfl]
  refine ⟨{ r with left := true }, rfl, ⟨hperforms.encoded, ?_, ?_, rfl⟩, ?_,
    hperforms.unreported⟩
  · apply hperforms.transmitted
    intro hopen
    rw [hdone] at hopen
    contradiction
  · exact ⟨stream, hanswer, hconfirms⟩
  · rw [← hread, ← hindex, ← hsubindex, ← hpayload]

/-- A step of a service call reports a write of its own. -/
theorem reports_service (hstep : ServiceStep w v) (h : Reports config w)
    (hapart : Trace.Always (WritesApart config) v.log) :
  Reports config v
  := by
  refine ⟨attended_service hstep h.attended, ?_⟩
  have hreported := h.reported
  have hsilent : ∀ os : List Obs, (∀ o ∈ os, o.isWrote = false) → v.log = os ++ w.log →
      Trace.Always (ReportsOwn config) v.log := by
    intro os hos hlog
    rw [hlog]
    apply reported_append os hos hreported
  cases hstep with
  | tune => exact hreported
  | @note o ho =>
      refine hsilent [o] ?_ rfl
      intro o' ho'
      rw [List.mem_singleton.mp ho']
      cases o <;> first | rfl | contradiction
  | startRead => exact hsilent [_, _] (by simp) rfl
  | startWrite index subindex data =>
      refine ⟨reported_append [_, _] (by simp) hreported, ?_, ?_⟩
      · intro hok
        contradiction
      · intro _
        exact ⟨_, rfl, rfl, rfl⟩
  | giveUpRead | collectRead => exact hsilent [_] (by simp) rfl
  | giveUpWrite index subindex data =>
      refine ⟨reported_append [_] (by simp) hreported, ?_, ?_⟩
      · intro hok
        contradiction
      · intro hpending
        contradiction
  | collectPage => exact hsilent [_, _] (by simp) rfl
  | refuseWrite index subindex data ret hret =>
      refine ⟨hreported, ?_, ?_⟩
      · rintro rfl
        contradiction
      · rintro rfl
        contradiction
  | pendingWrite index subindex data hstate hbusy hmatches =>
      exact ⟨hreported, reportsOwn_pending h.attended hstate hbusy hmatches hapart.2.1⟩
  | collectWrite index subindex data hstate hdone hmatches herror =>
      refine ⟨reported_append [_] (by simp) hreported, ?_⟩
      apply reportsOwn_collected h.attended hstate hdone hmatches herror _ hapart.2.1
      exact Trace.always_combine (fun _ _ h _ => h.2.1) hapart.1.1 hapart.1.1
  | startEvent | consumeEvent => exact hsilent [_, _] (by simp) rfl
  | setPdOut => exact hsilent [_] (by simp) rfl

/-! ### Runs -/

theorem reports_controlPath (hpath : ControlPath w v) (h : Reports config w)
    (hapart : Trace.Always (WritesApart config) v.log) :
  Reports config v
  := by
  apply Trace.invariant_of_path extends_control (Trace.closed_always _) _ hpath h hapart
  intro w v hstep h hapart
  cases hstep with
  | service hstep => apply reports_service hstep h hapart
  | fail =>
      refine ⟨attended_control .fail h.attended, ?_⟩
      exact reported_append [_] (by simp) h.reported

/-- A step of a port reports only writes of its own. -/
theorem reports_step (hK : K.Lawful) (hstep : PortStep K env allowed w v)
    (h : Reports config w) (hapart : Trace.Always (WritesApart config) v.log) :
  Reports config v
  := by
  have hunrevived : Trace.Always Unrevived v.log :=
    Trace.always_combine (fun _ _ h _ => h.2.2) hapart hapart
  have hattended := attended_step hK hstep hunrevived h.attended
  have hreported := h.reported
  cases hstep with
  | put | fill => exact ⟨hattended, hreported⟩
  | @emit o ho =>
      refine ⟨hattended, hreported, ?_⟩
      cases o <;> trivial
  | cycle | connect | fail | overflow | send => exact ⟨hattended, hreported, trivial⟩
  | slot | lost => exact ⟨hattended, ⟨hreported, trivial⟩, trivial⟩
  | sendFailed sent =>
      refine ⟨hattended, ?_, trivial⟩
      cases sent with
      | true => exact ⟨hreported, trivial⟩
      | false => exact hreported
  | hear od =>
      refine ⟨hattended, reported_append _ ?_ hreported⟩
      intro o ho
      rcases List.mem_append.mp ho with ho | ho
      · split at ho
        · rw [List.mem_singleton.mp ho]
          rfl
        · contradiction
      · rw [List.mem_singleton.mp ho]
        rfl
  | validate => exact reports_controlPath (processValidation_path w).1 h hapart
  | call call => exact reports_controlPath (runService_path w call).control h hapart

/-- An initialized port attends no service. -/
theorem reports_entered (hreported : Trace.Always (ReportsOwn config) log)
    (hunlost : lostLast log = false) (phy : PhyApi) {config' : Config}
    (htype : config'.mSeqType = config.mSeqType) :
  Reports config ⟨zeroPort phy config', .enter (zeroPort phy config').state :: log⟩
  := by
  refine ⟨⟨?_, rfl, rfl, fun _ => ?_⟩, hreported, trivial⟩
  · rw [← htype]
    rfl
  · have hinit := initializes_zeroPort phy config' hunlost
    have hvacant : (zeroPort phy config').isdu.Vacant := ⟨rfl, rfl⟩
    rw [services_cons rfl]
    cases services (odLenForType config.mSeqType) log with
    | nil => exact hvacant
    | cons r rs =>
        simp only [List.modifyHead_cons, hinit, if_true, IsduState.Attends]
        exact hvacant

end

/-- In every run in which calls that overlap do not differ in the data alone, no response to a write
misleads the transport, and communication is not given up in the error state, a call of
`write_isdu` reports only the success of its own write, which the device has confirmed, and only
once. -/
theorem write_reports_own {K : Iolinki} (hK : K.Lawful) {phy : PhyApi} {config : Config}
    {allowed : Env → World → Call → Prop} {w : World} (hw : Reach K allowed phy config w)
    (hapart : Trace.Always (WritesApart config) w.log) :
  Trace.Always (ReportsOwn config) w.log
  := by
  have hreports : Reports config w := by
    induction hw with
    | start env hconfig =>
        apply reports_controlPath (started_path env phy config hconfig) _ hapart
        have hnone : Trace.Always (ReportsOwn config) [] := trivial
        exact reports_entered hnone rfl phy rfl
    | @call w env c hw hc ih =>
        have hpast := ih (Trace.closed_always _ (runCall_extends hK env w c) hapart)
        have hagain : ∀ mode, Trace.Always (WritesApart config) (setPortMode env w mode).1.log →
            Reports config (setPortMode env w mode).1 := by
          intro mode hapart
          rcases setPortMode_path env w mode with heq | hpath
          · rw [heq]
            apply hpast
          · apply reports_controlPath hpath _ hapart
            obtain ⟨mode', hmode⟩ := (reachable_port hK hw).1.configured
            have htype : { w.port.config with portMode := mode }.mSeqType = config.mSeqType := by
              rw [hmode]
            exact reports_entered hpast.reported hpast.attended.unlost w.port.phy htype
        cases hinit : c.initializes with
        | false =>
            have hpath : PortPath K env (fun _ => True) w (runCall K env w c) :=
              runCall_portPath hK w hinit fun _ _ => trivial
            exact Trace.invariant_of_path (fun _ _ h => extends_portStep h) (Trace.closed_always _)
              (fun _ _ hstep h hC => reports_step hK hstep h hC) hpath hpast hapart
        | true =>
            cases c with
            | restart => exact hagain w.port.config.portMode hapart
            | setPortMode mode => exact hagain mode hapart
            | _ => contradiction
  apply hreports.reported

/-- The application calls for the start of a parameter download, and makes the call `next` while
that command is in progress and again when the device has confirmed it. -/
def commanding (next : Service) : List (Env × Call) :=
  connecting ++ [(.quiet (reply 0 []), .tickAt .cycleDue 14),
    (.quiet [], .service .beginParameterDownload),
    (.quiet (reply 0 [0x11]), .tickAt .cycleDue 16),
    (.quiet [], .service next),
    (.quiet (reply 0 [0x11]), .tickAt .cycleDue 18),
    (.quiet (reply 0 [0x11]), .tickAt .cycleDue 20),
    (.quiet (reply 0 [0x11]), .tickAt .cycleDue 22),
    (.quiet (reply 0 [0x11]), .tickAt .cycleDue 24),
    (.quiet (reply 0 [0x52, 0x11]), .tickAt .cycleDue 26),
    (.quiet (reply 0 [0x52, 0x11]), .tickAt .cycleDue 28),
    (.quiet [], .service next)]

/-- A call repeated until it succeeds reports its own command. -/
theorem write_reports_own_repeated :
  Trace.Always (ReportsOwn (.bare .type2_1 1 1))
    (run .reference (started (.quiet []) .full (.bare .type2_1 1 1))
      (commanding .beginParameterDownload)).log ∧
  Obs.wrote IDX_SYSTEM_COMMAND 0 [CMD_PARAM_DOWNLOAD_START] STATUS_OK ∈
    (run .reference (started (.quiet []) .full (.bare .type2_1 1 1))
      (commanding .beginParameterDownload)).log
  := by
  have hreach : Reach .reference ticksAndServices .full (.bare .type2_1 1 1)
      (run .reference (started (.quiet []) .full (.bare .type2_1 1 1))
        (commanding .beginParameterDownload)) := by
    apply (Reach.start _ (by decide)).run
    decide +kernel
  refine ⟨?_, by decide +kernel⟩
  apply write_reports_own Iolinki.lawful_reference hreach
  decide +kernel

/-- A call for the end of the download is reported a success with the command for its start, the
only one the device has received. -/
theorem write_reports_own_mistaken :
  Reach .reference ticksAndServices .full (.bare .type2_1 1 1)
    (run .reference (started (.quiet []) .full (.bare .type2_1 1 1))
      (commanding .endParameterDownload)) ∧
  Obs.wrote IDX_SYSTEM_COMMAND 0 [CMD_PARAM_DOWNLOAD_END] STATUS_OK ∈
    (run .reference (started (.quiet []) .full (.bare .type2_1 1 1))
      (commanding .endParameterDownload)).log ∧
  (services 1 (run .reference (started (.quiet []) .full (.bare .type2_1 1 1))
      (commanding .endParameterDownload)).log).map (·.asked)
    = [⟨false, IDX_SYSTEM_COMMAND, 0, [CMD_PARAM_DOWNLOAD_START]⟩] ∧
  ¬ Trace.Always (ReportsOwn (.bare .type2_1 1 1))
    (run .reference (started (.quiet []) .full (.bare .type2_1 1 1))
      (commanding .endParameterDownload)).log
  := by
  refine ⟨?_, ?_, ?_, ?_⟩
  · apply (Reach.start _ (by decide)).run
    decide +kernel
  · decide +kernel
  · decide +kernel
  · decide +kernel

end IolinkMaster
