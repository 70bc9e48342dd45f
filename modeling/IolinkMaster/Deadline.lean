import IolinkMaster.Pacing
import IolinkMaster.Selection

/-!
# The response deadline of OPERATE

The deadline armed for a cyclic frame covers one UART frame and the response delay of the
device; a configured timeout lengthens it.  It covers the exchange of the cyclic frame and its
reply only when the configured timeout does.
-/

namespace IolinkMaster

/-! ### The time of an M-sequence -/

/-- The longest time of an M-sequence with `m` octets of the master and `n` octets of the
device, in bit times: the UART frames, the response delay and the gaps between UART frames. -/
def mSequenceTbit (m n : Nat) : Nat := (m + n) * 11 + 10 + (m - 1) * 1 + (n - 1) * 3

/-- The frame sent last. -/
def sentFrame : List Obs → List UInt8
  | .sent _ frame :: _ => frame
  | _ :: l => sentFrame l
  | [] => []

/-- The octets of the reply to the frame sent last. -/
def replyLen (config : Config) (log : List Obs) : Nat :=
  replyOdLen config (odLenForType config.mSeqType) log + config.pdInLen + 1

/-- A deadline armed for a frame is no earlier than the longest time of its M-sequence after
the tick, at the rate in use. -/
def CoversSequence (config : Config) (log : List Obs) : Obs → Prop
  | .armed deadline =>
    ∀ p ∈ viewed log,
      mSequenceTbit (sentFrame log).length (replyLen config log) * tBitNs (startupBaudrate p)
        ≤ (deadline - UInt32.ofNat (tickTime log)).toNat * 100000
  | _ => True

/-- The longest time of a cyclic M-sequence of a configuration, in bit times. -/
def cyclicTbit (config : Config) : Nat :=
  if config.mSeqType = .type0 then mSequenceTbit 2 2
  else mSequenceTbit (2 + config.pdOutLen + odLenForType config.mSeqType) (config.pdInLen + 1)

/-- The configured response timeout is the longest time of a cyclic M-sequence at least, at
the rate in use. -/
def TimeoutSuffices (config : Config) (log : List Obs) : Obs → Prop
  | .armed _ =>
    ∀ p ∈ viewed log,
      cyclicTbit config * tBitNs (startupBaudrate p) ≤ config.responseTimeout100us.toNat * 100000
  | _ => True

instance (config : Config) (log : List Obs) : DecidablePred (CoversSequence config log) := by
  intro o
  apply Obs.casesOn (motive := fun o => Decidable (CoversSequence config log o)) o <;> intros <;>
    unfold CoversSequence <;> infer_instance

instance (config : Config) (log : List Obs) : DecidablePred (TimeoutSuffices config log) := by
  intro o
  apply Obs.casesOn (motive := fun o => Decidable (TimeoutSuffices config log o)) o <;> intros <;>
    unfold TimeoutSuffices <;> infer_instance

/-- A cyclic M-sequence takes 56 bit times at least. -/
theorem cyclicTbit_ge (config : Config) :
  56 ≤ cyclicTbit config
  := by
  have hod := odLenForType_pos config.mSeqType
  simp only [cyclicTbit, mSequenceTbit]
  split <;> omega

/-- The timeout the port waits is the configured one, or the time of one UART frame and the
response delay. -/
theorem toNat_responseTimeout (p : PortState) :
  (responseTimeout100us p).toNat
    = max p.config.responseTimeout100us.toNat (tbitTo100us (startupBaudrate p) (11 + 10)).toNat
  := by
  have hfloor : (0 : UInt32) < tbitTo100us (startupBaudrate p) (11 + 10) := by
    cases startupBaudrate p <;> decide
  have hconfigured : p.config.responseTimeout100us.toUInt32.toNat
      = p.config.responseTimeout100us.toNat := by
    simp
  simp only [responseTimeout100us, ← hconfigured]
  generalize tbitTo100us (startupBaudrate p) (11 + 10) = floor at hfloor ⊢
  generalize p.config.responseTimeout100us.toUInt32 = configured
  rw [UInt32.lt_iff_toNat_lt] at hfloor
  have hne : ∀ t : UInt32, floor.toNat ≤ t.toNat → t ≠ 0 := by
    rintro t hle rfl
    exact absurd hfloor (not_lt.mpr hle)
  split
  · next hless =>
    rw [if_neg (hne floor (le_refl _)), max_eq_right]
    exact le_of_lt (UInt32.lt_iff_toNat_lt.mp hless)
  · next hge =>
    have hle : floor.toNat ≤ configured.toNat := by
      rw [UInt32.lt_iff_toNat_lt] at hge
      exact not_lt.mp hge
    rw [if_neg (hne configured hle), max_eq_left hle]

/-- The timeout the port waits covers a sequence of 56 bit times or more exactly when the
configured one does. -/
theorem responseTimeout_covers (p : PortState) {bits : Nat} (hbits : 56 ≤ bits) :
  bits * tBitNs (startupBaudrate p) ≤ (responseTimeout100us p).toNat * 100000 ↔
    bits * tBitNs (startupBaudrate p) ≤ p.config.responseTimeout100us.toNat * 100000
  := by
  have hlong : 56 * tBitNs (startupBaudrate p) ≤ bits * tBitNs (startupBaudrate p) :=
    Nat.mul_le_mul_right _ hbits
  have hshort : (tbitTo100us (startupBaudrate p) (11 + 10)).toNat * 100000
      < 56 * tBitNs (startupBaudrate p) := by
    cases startupBaudrate p <;> decide
  rw [toNat_responseTimeout, ← Nat.mul_max_mul_right, le_max_iff]
  exact or_iff_left (not_le.mpr (lt_of_lt_of_le hshort hlong))

/-! ### Runs -/

/-- What a log tells of a deadline armed in it: the slot opened in the state of a well-formed
port, the frame sent is a write, of two octets on a port of TYPE_0, and the timeout counts from
the tick. -/
def ArmedFor (config : Config) (log : List Obs) : Obs → Prop
  | .armed deadline =>
    ∃ p frame rest, log = .sent .operate frame :: .slot :: .view p :: rest ∧
      WellFormed config p ∧ deadline = UInt32.ofNat (tickTime rest) + responseTimeout100us p ∧
      mcIsRead (frame.getD 0 0) = false ∧ (config.mSeqType = .type0 → frame.length = 2)
  | _ => True

theorem armedFor_of_outside {config : Config} {o : Obs} (ho : o.outside = true)
    (log : List Obs) :
  ArmedFor config log o
  := by
  cases o with
  | armed => contradiction
  | _ => trivial

/-- The cyclic frame of a port that carries no octets of a service. -/
def idleFrame (K : Iolinki) (p : PortState) : List UInt8 :=
  if type0Operate p then type0CyclicFrame K (List.replicate 1 0)
  else cyclicFrame K p (List.replicate p.odLen 0)

/-- A cycle is counted in `v` for the frame just sent, a write. -/
structure Counted (w v : World) : Prop where
  config : v.port.config = w.port.config
  startup : v.port.startup = w.port.startup
  sent : ∃ frame, v.log = .sent w.port.state frame :: w.log ∧
    mcIsRead (frame.getD 0 0) = false ∧ (type0Operate w.port = true → frame.length = 2)

/-- The cyclic frame just sent in `v` carries no octets of a service. -/
structure SentIdle (K : Iolinki) (w v : World) : Prop where
  config : v.port.config = w.port.config
  startup : v.port.startup = w.port.startup
  sent : v.log = .sent w.port.state (idleFrame K w.port) :: w.log

section

variable {K : Iolinki} (hK : K.Lawful) {config : Config} {w : World} {env : Env}
include hK

theorem idleFrame_ne_nil (p : PortState) :
  idleFrame K p ≠ []
  := by
  have hne := cyclicFrame_ne_nil hK p
  rw [idleFrame]
  split
  · exact hne _ [] true
  · exact hne [] _ false

/-- The Master Command of a cyclic frame is a write on the process channel. -/
theorem idleFrame_command (p : PortState) :
  (idleFrame K p).getD 0 0 = encodeMasterCommand false .process 0
  := by
  rw [idleFrame]
  split
  · rw [type0CyclicFrame, hK.encodeType0_eq]
    rfl
  · rfl

theorem SentIdle.counted {v : World} (h : SentIdle K w v) :
  Counted w v
  := by
  refine ⟨h.config, h.startup, _, h.sent, ?_, ?_⟩
  · rw [idleFrame_command hK, mcIsRead_encode]
  · intro htype
    rw [idleFrame, if_pos htype, type0CyclicFrame, hK.encodeType0_eq]
    rfl

/-- The cyclic exchange counts the frame it has just sent. -/
theorem processCyclic_counted (hrests : w.port.isdu.RestsWhenDone)
    (hnext : isduNext w.port.isdu w.port.odLen = none)
    (hcount : (processCyclic K env w).port.cycleCount ≠ w.port.cycleCount) :
  SentIdle K w (processCyclic K env w)
  := by
  have hframe : processCyclic K env w =
      let r := sendFull env (w.putIsdu w.port.isdu) (idleFrame K w.port)
      if r.2 then r.1.put (countCycle r.1.port) else r.1 := by
    have hne := idleFrame_ne_nil hK w.port
    cases htype : type0Operate w.port with
    | true =>
        simp only [idleFrame, htype, if_true] at hne ⊢
        simp only [processCyclic, htype, if_true, isduFillOd_idle hrests hnext]
        rw [if_neg hne]
    | false =>
        simp only [idleFrame, htype, Bool.false_eq_true, if_false] at hne ⊢
        simp only [processCyclic, htype, Bool.false_eq_true, if_false,
          isduFillOd_idle hrests hnext]
        exact if_neg hne
  have hcases := sendFull_cases env (w.putIsdu w.port.isdu) (idleFrame K w.port)
  rw [hframe] at hcount ⊢
  revert hcount hcases
  generalize sendFull env (w.putIsdu w.port.isdu) (idleFrame K w.port) = r
  intro hcount hcases
  cases hcases with
  | blocked | failed => exact absurd rfl hcount
  | sent => exact ⟨rfl, rfl, rfl⟩

/-- A slot of OPERATE that counts a cycle has just sent the cyclic frame. -/
theorem processOperate_counted (hrests : w.port.isdu.RestsWhenDone)
    (hcount : (processOperate K env w).port.cycleCount ≠ w.port.cycleCount) :
  SentIdle K w (processOperate K env w)
  := by
  have hevent := sendEvent_cycleCount hK env w
  have hisdu := sendIsdu_cycleCount (K := K) env (sendEvent K env w).1
  simp only [processOperate] at hcount ⊢
  split at hcount
  · contradiction
  · next hunsent =>
    have hkept := sendEvent_unsent_eq hK (Bool.eq_false_iff.mpr hunsent)
    rw [if_neg hunsent]
    rw [hkept] at hcount hisdu ⊢
    split at hcount
    · contradiction
    · next hsilent =>
      have hnext := sendIsdu_unsent_eq hK (Bool.eq_false_iff.mpr hsilent)
      have hsame : (sendIsdu K env w).1 = w := by
        rw [sendIsdu_eq, hnext]
      rw [if_neg hsilent]
      rw [hsame] at hcount ⊢
      apply processCyclic_counted hK hrests hnext hcount

/-- Only a slot of OPERATE counts a cycle. -/
theorem processAt_counted {now : UInt32} {timed : Bool} (hrests : w.port.isdu.RestsWhenDone)
    (hcount : (processAt K env w now timed).port.cycleCount ≠ w.port.cycleCount) :
  w.port.state = .operate ∧ SentIdle K w.openSlot (processAt K env w now timed)
  := by
  have hstate : w.port.state = .operate := by
    by_contra hstate
    have hpath : SlotPath K (fun _ => True) w (processAt K env w now timed) :=
      processAt_path hK env now timed trivial
    rcases processAt_cycleCount hK env w now timed with hsame | ⟨hoperate, -⟩
    · exact hcount hsame
    · exact (hpath.outside hstate).1 hoperate
  refine ⟨hstate, ?_⟩
  simp only [processAt, hstate] at hcount ⊢
  split at hcount
  · contradiction
  · next hopen =>
    rw [if_neg hopen]
    exact processOperate_counted hK (w := w.openSlot) hrests hcount

/-- A slot arms no deadline itself. -/
theorem processAt_unarmed {Q : List Obs → Obs → Prop}
    (hQ : ∀ o log, (∀ d, o ≠ .armed d) → Q log o) (now : UInt32) (timed : Bool)
    (h : Trace.Always Q w.log) :
  Trace.Always Q (processAt K env w now timed).log
  := by
  by_cases hstate : w.port.state = .operate
  · simp only [processAt, hstate]
    split
    · apply h
    · have hopened : Trace.Always Q w.openSlot.log :=
        ⟨⟨h, hQ _ _ (by simp)⟩, hQ _ _ (by simp)⟩
      have hframed := processOperate_framed env hK w.openSlot
      cases hframed with
      | blocked _ hlog =>
          rw [hlog]
          exact ⟨hopened, hQ _ _ (by simp)⟩
      | failed frame _ hlog =>
          rw [hlog]
          exact ⟨⟨hopened, hQ _ _ (by simp)⟩, hQ _ _ (by simp)⟩
      | sent frame _ hlog =>
          rw [hlog]
          exact ⟨hopened, hQ _ _ (by simp)⟩
  · have hpath : SlotPath K (fun _ => True) w (processAt K env w now timed) :=
      processAt_path hK env now timed trivial
    obtain ⟨-, os, hos, hlog⟩ := hpath.outside hstate
    rw [hlog]
    apply Trace.always_append _ hos h
    intro o log ho
    apply hQ
    rintro d rfl
    contradiction

/-- A slot of a timed tick arms the deadline of the cyclic frame it has sent, if any. -/
theorem processSlot_armedFor {now : UInt32} {pace : Bool}
    (hvalid : configRefused config = false) (hformed : WellFormed config w.port)
    (hnow : pace = true → tickTime w.log = now.toNat)
    (h : Trace.Always (ArmedFor config) w.log) :
  Trace.Always (ArmedFor config) (processSlot K env w now pace).log
  := by
  have hunarmed : Trace.Always (ArmedFor config) (processAt K env w now pace).log := by
    apply processAt_unarmed hK _ now pace h
    intro o log ho
    cases o with
    | armed d => exact absurd rfl (ho d)
    | _ => trivial
  simp only [processSlot]
  split
  · next hcounted =>
    rw [Bool.and_eq_true, bne_iff_ne] at hcounted
    obtain ⟨rfl, hcount⟩ := hcounted
    refine ⟨hunarmed, ?_⟩
    obtain ⟨hstate, hidle⟩ := processAt_counted hK hformed.completed hcount
    obtain ⟨hconfig, hstartup, frame, hlog, hread, hlen⟩ := hidle.counted hK
    refine ⟨w.port, frame, w.log, ?_, hformed, ?_, hread, ?_⟩
    · rw [World.put_log, hlog, World.openSlot_port, hstate]
      rfl
    · rw [hnow rfl, UInt32.ofNat_toNat, armCycle_eq]
      exact congrArg (now + ·) (responseTimeout100us_congr hconfig hstartup)
    · intro htype
      apply hlen (hformed.type0Operate hvalid htype)
  · apply hunarmed

omit hK in
/-- What opens no slot arms no deadline. -/
theorem Slotless.armedFor {u v : World} (hslotless : Slotless u v)
    (h : Trace.Always (ArmedFor config) u.log) :
  Trace.Always (ArmedFor config) v.log
  := by
  obtain ⟨os, hos, hlog⟩ := hslotless.outside
  rw [hlog]
  exact Trace.always_append (fun o l ho => armedFor_of_outside ho l) hos h

/-- A tick arms the deadline of the cyclic frame it has sent, if any. -/
theorem tickCommon_armedFor (hvalid : configRefused config = false)
    (hformed : WellFormed config w.port) (event : TickEvent) {now : UInt32} {pace : Bool}
    (hnow : pace = true → tickTime w.log = now.toNat)
    (h : Trace.Always (ArmedFor config) w.log) :
  Trace.Always (ArmedFor config) (tickCommon K env w event pace now).1.log
  := by
  have hpoll : Slotless w (pollRx K env w).1 :=
    Slotless.path (fun _ _ h => slotless_receive h) (pollRx_path hK env w)
  have hpolled := hpoll.armedFor h
  rcases tickCommon_cases K env w event pace now with heq | ⟨-, -, heq⟩ | ⟨-, -, heq⟩
  · rw [heq]
    apply hpolled
  · rw [heq]
    have hpath : TimeoutPath (fun _ _ _ => True) (pollRx K env w).1 _ :=
      tickTimeout_path env (pollRx K env w).1 now pace fun _ _ _ => trivial
    apply (Slotless.path (fun _ _ h => slotless_timeout h) hpath).armedFor hpolled
  · rw [heq]
    apply processSlot_armedFor hK hvalid (pollRx_wellFormed hK env hformed) _ hpolled
    have hquiet : Quiet config w.log (pollRx K env w).1.log := hpoll.quiet
    rw [hquiet.time]
    apply hnow

/-- Every deadline armed in a run is armed for the cyclic frame just sent. -/
theorem reachable_armedFor {phy : PhyApi} {allowed : Env → World → Call → Prop}
    (hw : Reach K allowed phy config w) :
  Trace.Always (ArmedFor config) w.log
  := by
  have hcontrol : ∀ {u v : World}, ControlPath u v → Trace.Always (ArmedFor config) u.log →
      Trace.Always (ArmedFor config) v.log := by
    intro u v hpath
    apply (Slotless.path (fun _ _ h => slotless_control h) hpath).armedFor
  induction hw with
  | start env hconfig =>
      apply hcontrol (started_path env phy config hconfig)
      exact ⟨trivial, trivial⟩
  | @call w env c hw hc ih =>
      have hvalid := hw.accepted
      have hformed := (reachable_port hK hw).1
      have htimed : ∀ event now,
          Trace.Always (ArmedFor config) (IolinkMaster.tickAt K env w event now).1.log := by
        intro event now
        have hticked : WellFormed config (w.emit (.tick now)).port := hformed
        exact tickCommon_armedFor hK hvalid hticked event (fun _ => rfl) ⟨ih, trivial⟩
      have hagain : ∀ mode,
          Trace.Always (ArmedFor config) (IolinkMaster.setPortMode env w mode).1.log := by
        intro mode
        rcases setPortMode_path env w mode with heq | hpath
        · rw [heq]
          apply ih
        · exact hcontrol hpath ⟨ih, trivial⟩
      cases c with
      | tickAt event now => apply htimed event now
      | controllerTickAt now => apply htimed _ now
      | tickEvent event =>
          exact tickCommon_armedFor hK hvalid hformed event (fun hpace => nomatch hpace) ih
      | process =>
          have hpace : false = true → tickTime w.log = (0 : UInt32).toNat := nofun
          exact processSlot_armedFor hK hvalid hformed hpace ih
      | pollRx =>
          have hpath := pollRx_path hK env w
          apply (Slotless.path (fun _ _ h => slotless_receive h) hpath).armedFor ih
      | onRx data handler =>
          have hpath : ReceivePath K (fun _ _ => True) w _ :=
            onRx_path hK env w data handler trivial
          apply (Slotless.path (fun _ _ h => slotless_receive h) hpath).armedFor ih
      | onTimeout =>
          have hpath : TimeoutPath (fun _ _ _ => True) w (onTimeoutAt env w 0 false).1 :=
            onTimeoutAt_path env w w.port.awaitingResponse 0 false (.inr rfl)
              (fun _ _ _ _ => trivial)
          apply (Slotless.path (fun _ _ h => slotless_timeout h) hpath).armedFor ih
      | service call => apply hcontrol (runService_path w call).control ih
      | restart => apply hagain w.port.config.portMode
      | setPortMode mode => apply hagain mode

end

/-! ### Deadlines and M-sequences -/

/-- The armed deadline is covered when the configured timeout suffices, and then only. -/
theorem covers_iff {K : Iolinki} {config : Config} {log : List Obs} {o : Obs}
    (hvalid : configRefused config = false) (harmed : ArmedFor config log o)
    (hlaid : config.mSeqType ≠ .type0 → Trace.Always (TypedLayout K config) log) :
  CoversSequence config log o ↔ TimeoutSuffices config log o
  := by
  cases o with
  | armed deadline =>
      obtain ⟨p, frame, rest, rfl, hformed, rfl, hread, hlen⟩ := harmed
      obtain ⟨mode, hconfig⟩ := hformed.configured
      have hviewed : viewed (.sent .operate frame :: .slot :: .view p :: rest) = some p := rfl
      have htime : tickTime (.sent .operate frame :: .slot :: .view p :: rest) = tickTime rest :=
        rfl
      -- The octets of the M-sequence are those of the configuration.
      have hbits : mSequenceTbit frame.length
          (replyLen config (.sent .operate frame :: .slot :: .view p :: rest))
            = cyclicTbit config := by
        simp only [cyclicTbit, replyLen, replyOdLen, askedRead, hread]
        by_cases htype : config.mSeqType = .type0
        · obtain ⟨hin, -⟩ := pdLen_of_type0 hvalid htype
          simp [htype, hlen htype, hin, odLenForType]
        · have hlength := (hlaid htype).2.2.1
          rw [hread] at hlength
          simp [htype, hlength]
      have hdelay : UInt32.ofNat (tickTime rest) + responseTimeout100us p
          - UInt32.ofNat (tickTime rest) = responseTimeout100us p := by
        rw [UInt32.add_comm, UInt32.add_sub_cancel]
      have hcovers := responseTimeout_covers p (cyclicTbit_ge config)
      rw [hconfig] at hcovers
      simp only [CoversSequence, TimeoutSuffices, hviewed, htime, Option.mem_some_iff,
        forall_eq', sentFrame, hbits, hdelay]
      apply hcovers
  | _ => apply Iff.rfl

/-- A port with a response timeout of one millisecond. -/
def lengthened : Config := { Config.bare .type2_1 1 1 with responseTimeout100us := 10 }

end IolinkMaster
