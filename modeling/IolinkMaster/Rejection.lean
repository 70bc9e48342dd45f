import IolinkMaster.Comlost

/-!
# Rejected replies

What `on_rx` leaves behind when it does not take a reply: the counters of rejected replies,
and the fields of a communication loss once the retries are used up.
-/

namespace IolinkMaster

/-! ### The frame of a rejection -/

/-- The observation is a call of one of the event handlers of the application. -/
def Obs.isCallback : Obs → Bool
  | .eventPending | .event _ => true
  | _ => false

/-- The data of the application, the acyclic services and the cycle count are the same. -/
structure Unaffected (p q : PortState) : Prop where
  pdIn : q.pdIn = p.pdIn
  pdInLen : q.pdInLen = p.pdInLen
  pdValid : q.pdValid = p.pdValid
  pdOut : q.pdOut = p.pdOut
  deviceInfo : q.deviceInfo = p.deviceInfo
  isdu : q.isdu = p.isdu
  event : q.event = p.event
  block : q.block = p.block
  odStatus : q.diagnostics.odStatus = p.diagnostics.odStatus
  eventPending : q.diagnostics.eventPending = p.diagnostics.eventPending
  cycleCount : q.cycleCount = p.cycleCount

theorem Unaffected.refl (p : PortState) :
  Unaffected p p
  := ⟨rfl, rfl, rfl, rfl, rfl, rfl, rfl, rfl, rfl, rfl, rfl⟩

/-- The port after a checksum error has been counted. -/
def checksumCounted (p : PortState) : PortState :=
  { p with
    diagnostics := { p.diagnostics with checksumErrors := p.diagnostics.checksumErrors + 1 } }

/-- The port after a reply with a bad checksum. -/
inductive ChecksumAccounted (env : Env) (p : PortState) : PortState → Prop where
  /-- The answer to a test message is not retried. -/
  | test : ChecksumAccounted env p (checksumCounted p)
  /-- The exchange is to be tried again. -/
  | retry (count : p.diagnostics.rxRetryCount < RX_RETRY_LIMIT) :
      ChecksumAccounted env p
        { checksumCounted p with
          diagnostics :=
            { (checksumCounted p).diagnostics with
              rxRetryCount := p.diagnostics.rxRetryCount + 1 } }
  /-- The retries are used up, and communication restarts. -/
  | lost (count : ¬ p.diagnostics.rxRetryCount < RX_RETRY_LIMIT) :
      ChecksumAccounted env p (restartedPort env (checksumCounted p) 0 false)

/-- Accounting for a bad checksum disturbs nothing else. -/
theorem ChecksumAccounted.unaffected {env : Env} {p q : PortState} (h : ChecksumAccounted env p q) :
  Unaffected p q
  := by
  cases h with
  | test => exact ⟨rfl, rfl, rfl, rfl, rfl, rfl, rfl, rfl, rfl, rfl, rfl⟩
  | retry => exact ⟨rfl, rfl, rfl, rfl, rfl, rfl, rfl, rfl, rfl, rfl, rfl⟩
  | lost =>
      simp only [restartedPort, armSendGate, Bool.false_eq_true, if_false]
      split <;> exact ⟨rfl, rfl, rfl, rfl, rfl, rfl, rfl, rfl, rfl, rfl, rfl⟩

/-- `v` follows `w` by observations that call no event handler. -/
def Silent (w v : World) : Prop :=
  ∃ obs, v.log = obs ++ w.log ∧ ∀ o ∈ obs, o.isCallback = false

/-- A restart of communication calls no event handler. -/
theorem restartObs_silent (env : Env) (p : PortState) :
  ∀ o ∈ restartObs env p, o.isCallback = false
  := by
  intro o ho
  simp only [restartObs, List.mem_append] at ho
  obtain (ho | ho) | ho := ho
  · split at ho
    · simp only [List.mem_singleton] at ho
      rw [ho]
      rfl
    · contradiction
  · split at ho
    · simp only [List.mem_singleton] at ho
      rw [ho]
      rfl
    · contradiction
  · simp only [List.mem_cons, List.not_mem_nil, or_false] at ho
    obtain rfl | rfl := ho <;> rfl

/-- What a refused reply does to the world `w` it is judged in. -/
structure Rejected (env : Env) (w : World) (r : World × Int) : Prop where
  /-- The result is one of the three errors of `on_rx`. -/
  verdict : r.2 = ERR_INVALID_ARG ∨ r.2 = ERR_FRAME ∨ r.2 = ERR_CHECKSUM
  /-- The application, the services and the cycle count notice nothing. -/
  unaffected : Unaffected w.port r.1.port
  /-- No event handler is called. -/
  silent : Silent w r.1
  /-- Only a bad checksum leaves a trace in the port. -/
  whole : r.2 = ERR_INVALID_ARG ∨ r.2 = ERR_FRAME → r.1.port = w.port
  /-- A bad checksum is accounted for. -/
  accounted : r.2 = ERR_CHECKSUM → ChecksumAccounted env w.port r.1.port

/-! ### The branches of `on_rx` -/

variable {K : Iolinki}

/-- A reply refused for its framing. -/
theorem replyUnframed_rejected (env : Env) (w : World) (data : List UInt8) :
  Rejected env w (replyUnframed w data)
  := by
  constructor
  · right
    left
    rfl
  · apply Unaffected.refl
  · use [.badFrame data], rfl
    simp [Obs.isCallback]
  · intro _
    rfl
  · intro h
    have hne : ERR_FRAME ≠ ERR_CHECKSUM := by decide
    contradiction

/-- A port that has accounted for a bad checksum, without a call of an event handler. -/
theorem Rejected.checksum {env : Env} {w v : World} (hport : ChecksumAccounted env w.port v.port)
    (hsilent : Silent w v) :
  Rejected env w (v, ERR_CHECKSUM)
  := by
  constructor
  · right
    right
    rfl
  · apply hport.unaffected
  · apply hsilent
  · intro h
    have hne : ¬ (ERR_CHECKSUM = ERR_INVALID_ARG ∨ ERR_CHECKSUM = ERR_FRAME) := by decide
    contradiction
  · intro _
    apply hport

/-- A bad checksum of the answer to a test message. -/
theorem replyTest_rejected (env : Env) (w : World) (data : List UInt8) :
  Rejected env w (countChecksumError (w.emit (.reject w.port.state data)), ERR_CHECKSUM)
  := by
  apply Rejected.checksum
  · apply ChecksumAccounted.test
  · use [.reject w.port.state data], rfl
    simp [Obs.isCallback]

/-- A bad checksum in PREOPERATE or OPERATE. -/
theorem replyRejected_rejected (env : Env) (w : World) (data : List UInt8) :
  Rejected env w (replyRejected env w data)
  := by
  simp only [replyRejected, restartEstablish_eq]
  split
  · next hcount =>
    have hport : ChecksumAccounted env w.port _ := .retry hcount
    apply Rejected.checksum hport
    · use [.reject w.port.state data], rfl
      simp [Obs.isCallback]
  · next hcount =>
    have hport : ChecksumAccounted env w.port _ := .lost hcount
    apply Rejected.checksum hport
    · use restartObs env (checksumCounted w.port) ++ [.reject w.port.state data]
      constructor
      · rw [List.append_assoc]
        rfl
      · intro o ho
        rw [List.mem_append] at ho
        obtain ho | ho := ho
        · apply restartObs_silent env _ o ho
        · rw [List.mem_singleton] at ho
          rw [ho]
          rfl

/-- A reply is taken or rejected. -/
theorem onRxStartup_rejected (env : Env) {w : World} {data : List UInt8}
    (h : (onRxStartup K w data).2 < 0) :
  Rejected env w (onRxStartup K w data)
  := by
  revert h
  simp only [onRxStartup]
  split
  · intro _
    apply replyUnframed_rejected
  · split
    · intro _
      apply replyUnframed_rejected
    · split
      · intro _
        apply replyTest_rejected
      · intro h
        contradiction

theorem onRxOperateAck_rejected {env : Env} {w : World} {data : List UInt8}
    (h : (onRxOperateAck K env w data).2 < 0) :
  Rejected env w (onRxOperateAck K env w data)
  := by
  revert h
  simp only [onRxOperateAck]
  split
  · intro _
    apply replyUnframed_rejected
  · split
    · intro _
      apply replyRejected_rejected
    · intro h
      contradiction

theorem onRxType0_rejected {env : Env} {w : World} {data : List UInt8}
    (h : (onRxType0 K env w data).2 < 0) :
  Rejected env w (onRxType0 K env w data)
  := by
  revert h
  simp only [onRxType0]
  split
  · intro _
    apply replyUnframed_rejected
  · split
    · intro _
      apply replyRejected_rejected
    · intro h
      contradiction

theorem onRxOperate_rejected {env : Env} {w : World} {data : List UInt8}
    {handler : List Service} (h : (onRxOperate K env w data handler).2 < 0) :
  Rejected env w (onRxOperate K env w data handler)
  := by
  revert h
  simp only [onRxOperate]
  split
  · intro _
    apply replyUnframed_rejected
  · split
    · intro _
      apply replyRejected_rejected
    · intro h
      contradiction

/-- A reply for which `on_rx` returns an error changes nothing but the accounting of bad
checksums, whatever its octets and whatever the state of the port. -/
theorem rejected_reply (env : Env) (w : World) (data : List UInt8) (handler : List Service)
    (h : (onRx K env w data handler).2 < 0) :
  Rejected env w (onRx K env w data handler)
  := by
  revert h
  simp only [onRx]
  split
  · intro _
    constructor
    · left
      rfl
    · apply Unaffected.refl
    · use [], rfl
      simp
    · intro _
      rfl
    · intro h
      have hne : ERR_INVALID_ARG ≠ ERR_CHECKSUM := by decide
      contradiction
  · split
    · apply onRxStartup_rejected
    · split
      · split
        · apply onRxOperateAck_rejected
        · apply onRxType0_rejected
      · split
        · apply onRxType0_rejected
        · apply onRxOperate_rejected

/-- A port whose DeviceOperate is out rejects an acknowledge with a bad checksum. -/
theorem rejected_reply_checksum :
  Rejected (.quiet [])
    (run .reference (started (.quiet []) .full (Config.bare .type2_1 1 1)) connecting)
    (onRx .reference (.quiet [])
      (run .reference (started (.quiet []) .full (Config.bare .type2_1 1 1)) connecting)
      [0x00] [])
  := by
  apply rejected_reply
  decide +kernel

end IolinkMaster
