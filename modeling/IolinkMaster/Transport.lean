import IolinkMaster.Response
import IolinkMaster.Send

/-!
# The ISDU transport as a sender

What one call of `send_isdu` does: the frame it emits and the ISDU state it leaves, as
a function of the ISDU state alone, and what receiving on-request data leaves
untouched.
-/

namespace IolinkMaster

/-! ### Frames of the ISDU channel -/

/-- A frame of the ISDU channel: its direction, its FlowCTRL and, in a write, its
on-request data. -/
structure IsduFrame where
  read : Bool
  flowctrl : UInt8
  od : Option (List UInt8)
  deriving DecidableEq, Repr

/-- A read with the given FlowCTRL. -/
def IsduFrame.poll (flowctrl : UInt8) : IsduFrame := ⟨true, flowctrl, none⟩

/-- The octets of a frame, as a port puts them on the wire. -/
def IsduFrame.octets (K : Iolinki) (p : PortState) (f : IsduFrame) : List UInt8 :=
  buildIsduFrame K p (encodeMasterCommand f.read .isdu f.flowctrl) f.od (isduMulti p)

/-- The frame `send_isdu` emits in an ISDU state, and the state it leaves. -/
def isduNext (s : IsduState) (odLen : Nat) : Option (IsduFrame × IsduState) :=
  if s.abortPending then some (.poll FLOWCTRL_ABORT, { s with abortPending := false })
  else if s.idlePending then some (.poll FLOWCTRL_IDLE, { s with idlePending := false })
  else if s.op = .none ∨ s.done then none
  else if s.phase = .request then
    some (⟨false, s.flowctrl, some (isduFillOd s odLen).1⟩, (isduFillOd s odLen).2)
  else some (.poll s.flowctrl, (isduFillOd s odLen).2)

/-- The hooks of the environment let frames out. -/
structure Env.Transmits (env : Env) : Prop where
  prepareTx : env.prepareTx = STATUS_OK
  prepareRx : env.prepareRx = STATUS_OK
  send : ∀ frame, env.send frame = frame.length

/-- A quiet environment lets frames out. -/
theorem Env.transmits_quiet (octets : List UInt8) :
  (Env.quiet octets).Transmits
  := ⟨rfl, rfl, fun _ => rfl⟩

variable {K : Iolinki} {env : Env}

/-- A frame that goes out is recorded, and with it its direction. -/
theorem sendFull_transmits (henv : env.Transmits) (w : World) (frame : List UInt8) :
  sendFull env w frame
    = (⟨{ w.port with rxOdExpected := mcIsRead (frame.getD 0 0) },
        .sent w.port.state frame :: w.log⟩, true)
  := by
  simp [sendFull, henv.prepareTx, henv.prepareRx, henv.send, World.put, World.emit]

/-- The first octet of a frame of the ISDU channel is its Master Command. -/
theorem IsduFrame.octets_head (hK : K.Lawful) (p : PortState) (f : IsduFrame) :
  ∃ rest, f.octets K p = encodeMasterCommand f.read .isdu f.flowctrl :: rest
  := by
  simp only [IsduFrame.octets, buildIsduFrame]
  split
  · split
    · rw [hK.encodeType0_eq]
      exact ⟨_, rfl⟩
    · exact ⟨_, rfl⟩
  · exact ⟨_, rfl⟩

/-- One call of `send_isdu`: it sends what the ISDU state asks for next. -/
theorem sendIsdu_eq (w : World) :
  sendIsdu K env w
    = match isduNext w.port.isdu w.port.odLen with
      | none => (w, false)
      | some (f, s) => sendFrame env (w.putIsdu s) (f.octets K w.port)
  := by
  simp only [sendIsdu, isduNext, isduTakeAbort, isduTakeIdle, isduChannelAccess, sendIsduRead]
  by_cases habort : w.port.isdu.abortPending = true
  · simp [habort, IsduFrame.octets, IsduFrame.poll, World.putIsdu, isduMulti, buildIsduFrame,
      pdOutOctets]
  · by_cases hidle : w.port.isdu.idlePending = true
    · simp [habort, hidle, IsduFrame.octets, IsduFrame.poll, World.putIsdu, isduMulti,
        buildIsduFrame, pdOutOctets]
    · by_cases hop : w.port.isdu.op = .none
      · simp [habort, hidle, hop]
      · by_cases hdone : w.port.isdu.done = true
        · simp [habort, hidle, hop, hdone]
        · by_cases hphase : w.port.isdu.phase = .request
          · simp [habort, hidle, hop, hdone, hphase, IsduFrame.octets, World.putIsdu, isduMulti,
              buildIsduFrame, pdOutOctets]
          · simp [habort, hidle, hop, hdone, hphase, IsduFrame.octets, IsduFrame.poll,
              World.putIsdu, isduMulti, buildIsduFrame, pdOutOctets]

/-- A call of `send_isdu` in an environment that lets frames out. -/
theorem sendIsdu_transmits (hK : K.Lawful) (henv : env.Transmits) (w : World) :
  sendIsdu K env w
    = match isduNext w.port.isdu w.port.odLen with
      | none => (w, false)
      | some (f, s) =>
        (⟨{ w.port with isdu := s, rxOdExpected := f.read },
          .sent w.port.state (f.octets K w.port) :: w.log⟩, true)
  := by
  rw [sendIsdu_eq]
  cases hnext : isduNext w.port.isdu w.port.odLen with
  | none => rfl
  | some next =>
      obtain ⟨f, s⟩ := next
      obtain ⟨rest, hhead⟩ := IsduFrame.octets_head hK w.port f
      simp [sendFrame, hhead, sendFull_transmits henv, World.putIsdu]

/-! ### What receiving leaves untouched -/

/-- The request side of a service: everything `isdu_on_od` leaves alone. -/
def IsduState.SameRequest (s t : IsduState) : Prop :=
  t.op = s.op ∧ t.index = s.index ∧ t.subindex = s.subindex ∧ t.request = s.request ∧
    t.requestLen = s.requestLen ∧ t.requestPos = s.requestPos

theorem IsduState.SameRequest.refl (s : IsduState) :
  s.SameRequest s
  := ⟨rfl, rfl, rfl, rfl, rfl, rfl⟩

theorem sameRequest_decodeResponse (s : IsduState) :
  s.SameRequest (isduDecodeResponse s) ∧ (isduDecodeResponse s).flowctrl = s.flowctrl
  := by
  simp only [isduDecodeResponse]
  repeat' split
  all_goals exact ⟨⟨rfl, rfl, rfl, rfl, rfl, rfl⟩, rfl⟩

theorem sameRequest_checkComplete (s : IsduState) :
  s.SameRequest (isduCheckComplete s).1 ∧ (isduCheckComplete s).1.flowctrl = s.flowctrl
  := by
  simp only [isduCheckComplete]
  split
  · apply sameRequest_decodeResponse
  · exact ⟨.refl s, rfl⟩

theorem sameRequest_collect (s : IsduState) (byte : UInt8) :
  s.SameRequest (isduCollect s byte).1 ∧ (isduCollect s byte).1.flowctrl = s.flowctrl
  := by
  simp only [isduCollect]
  repeat' split
  all_goals first
    | apply sameRequest_checkComplete
    | exact ⟨⟨rfl, rfl, rfl, rfl, rfl, rfl⟩, rfl⟩

theorem sameRequest_onOctet (s : IsduState) (byte : UInt8) :
  s.SameRequest (isduOnOctet s byte).1
  := by
  simp only [isduOnOctet]
  split
  · split
    · apply IsduState.SameRequest.refl
    · apply (sameRequest_collect (isduBeginResponse s) byte).1
  · apply (sameRequest_collect s byte).1

/-- Receiving on-request data does not touch the request side. -/
theorem sameRequest_onOd (s : IsduState) (od : List UInt8) :
  s.SameRequest (isduOnOd s od)
  := by
  apply Scan.guarded_preserves (P := s.SameRequest) _ (.refl s)
  intro t byte ht
  have hstep := sameRequest_onOctet t byte
  simp only [IsduState.SameRequest] at ht hstep ⊢
  obtain ⟨h₁, h₂, h₃, h₄, h₅, h₆⟩ := ht
  rwa [h₁, h₂, h₃, h₄, h₅, h₆] at hstep

end IolinkMaster
