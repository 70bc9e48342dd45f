import IolinkMaster.Aside
import IolinkMaster.Reconnection

/-!
# When a parameter block is released

What a failed call of `write_parameter_block` leaves behind: the step of the transfer, and the
services started for a payload that cannot be written.
-/

namespace IolinkMaster

/-! ### Transfers that fail -/

/-- No ISDU service starts between two worlds. -/
def Unstarted (w v : World) : Prop :=
  v.log.countP Obs.startsIsdu = w.log.countP Obs.startsIsdu

/-- A call of `write_parameter_block` is made on behalf of the transfer it started. -/
def OnBehalf (b : BlockState) (index : UInt16) (subindex : UInt8) (data : List UInt8) : Prop :=
  b.step = .none ∨ blockMatches b index subindex data = true

/-- A call that fails releases the transfer, and a call for a payload that cannot be encoded
starts no service. -/
structure Releases (tooLong : Bool) (w : World) (r : World × Int) : Prop where
  released : r.2 < 0 → r.1.port.block.step = .none
  unsent : tooLong = true → Unstarted w r.1

/-- `write_isdu` can start a write on the port `p`, or go on with it, or collect its success. -/
structure EngineServes (p : PortState) (index : UInt16) (subindex : UInt8) : Prop where
  available : acyclicAvailable p.state = true
  matched : isduBusy p.isdu = true ∨ p.isdu.done = true →
    isduMatches p.isdu .write index subindex = true
  succeeded : p.isdu.done = true → p.isdu.error = ISDU_ERROR_NONE

/-- A write of a transfer can be served, and the payload of the transfer can be encoded; as long
as that write is in progress, the payload does not matter. -/
def StepServes (tooLong : Bool) (p : PortState) (index : UInt16) (subindex : UInt8) : Prop :=
  EngineServes p index subindex ∧ (tooLong = true → isduBusy p.isdu = true)

/-- The step a call of `write_parameter_block` begins with. -/
def BlockState.entered (b : BlockState) : BlockStep :=
  if b.step = .none then .beginDownload else b.step

/-- The ports on which a call of `write_parameter_block` does not leave the transfer latched
after a failure: the transfer verifies, or its current write can be served. -/
def ServesTransfer (p : PortState) (index : UInt16) (subindex : UInt8) (data : List UInt8) :
    Prop :=
  let tooLong := isduWriteTooLong index subindex data.length
  if data.length > ISDU_BUFFER_SIZE - ISDU_WRITE_HEADER_MAX then p.block.step = .none
  else
    match p.block.entered with
    | .beginDownload | .endDownload => StepServes tooLong p IDX_SYSTEM_COMMAND 0
    | .write => StepServes tooLong p index subindex
    | .verify =>
      tooLong = true → acyclicAvailable p.state = true →
        isduBusy p.isdu = true ∨ p.isdu.done = true
    | .none => False

/-- A call made on behalf of its transfer releases it when it fails, and sends nothing for a
payload that cannot be encoded. -/
def ReleasesOnFailure (w : World) (call : Service) : Prop :=
  ∀ index subindex data, call.blockRequest = some (index, subindex, data) →
    OnBehalf w.port.block index subindex data →
    Releases (isduWriteTooLong index subindex data.length) w (serviceBody w call)

/-- A call made on behalf of its transfer is served. -/
def ServesCall (w : World) (call : Service) : Prop :=
  ∀ index subindex data, call.blockRequest = some (index, subindex, data) →
    OnBehalf w.port.block index subindex data → ServesTransfer w.port index subindex data

/-- The relation `P` holds of every service call of a run and the world it is made in. -/
def Along (P : World → Service → Prop) (K : Iolinki) (w : World) : List (Env × Call) → Prop
  | [] => True
  | (env, c) :: calls =>
    (∀ call, c = .service call → P w call) ∧ Along P K (runCall K env w c) calls

/-! ### A single write -/

section

variable {w u v : World} {index : UInt16} {subindex : UInt8} {tooLong : Bool}

theorem Free.serves (h : Free w.port) (index : UInt16) (subindex : UInt8) :
  EngineServes w.port index subindex
  := by
  refine ⟨h.available, ?_, ?_⟩
  · rintro (hbusy | hdone)
    · rw [h.busy] at hbusy
      contradiction
    · rw [h.done] at hdone
      contradiction
  · intro hdone
    rw [h.done] at hdone
    contradiction

/-- No call of `write_isdu` touches the parameter block. -/
theorem writeIsdu_block (w : World) (index : UInt16) (subindex : UInt8) (data : List UInt8) :
  (writeIsdu w index subindex data).1.port.block = w.port.block
  := by
  have hpath : AsidePath True w (writeIsdu w index subindex data).1 :=
    (OrdinaryPath.writeIsdu .refl index subindex data).aside
  apply hpath.block

/-- A service in progress is not done. -/
theorem notDone_of_busy {s : IsduState} (h : isduBusy s = true) :
  s.done = false
  := by
  rw [isduBusy, Bool.and_eq_true, Bool.not_eq_true'] at h
  apply h.2

/-- A write that cannot be served fails, and starts nothing. -/
theorem writeIsdu_unserved (h : ¬ EngineServes w.port index subindex) (data : List UInt8) :
  (writeIsdu w index subindex data).2 < 0 ∧
    (writeIsdu w index subindex data).1.port.block = w.port.block
  := by
  refine ⟨?_, writeIsdu_block w index subindex data⟩
  simp only [writeIsdu, writeIsduBody]
  split
  · exact (by decide : ISDU_ERR_INVALID_STATE < 0)
  · next havail =>
    rw [Bool.not_eq_true', Bool.not_eq_false] at havail
    split
    · next hbusy =>
      split
      · next hmatches =>
        exfalso
        apply h
        refine ⟨havail, fun _ => hmatches, ?_⟩
        intro hdone
        rw [notDone_of_busy hbusy] at hdone
        contradiction
      · exact (by decide : ISDU_ERR_BUSY < 0)
    · next hbusy =>
      split
      · next hdone =>
        split
        · exact (by decide : ISDU_ERR_BUSY < 0)
        · next hmatches =>
          rw [Bool.not_eq_true', Bool.not_eq_false] at hmatches
          simp only [isduFinishWrite]
          split
          · exact (by decide : ISDU_ERR_DEVICE < 0)
          · next herror => exact absurd ⟨havail, fun _ => hmatches, fun _ => not_not.mp herror⟩ h
      · next hdone =>
        exfalso
        apply h
        apply Free.serves
        exact ⟨havail, Bool.eq_false_iff.mpr hbusy, Bool.eq_false_iff.mpr hdone⟩

/-- A write in progress goes on. -/
theorem writeIsdu_waits (h : EngineServes w.port index subindex)
    (hbusy : isduBusy w.port.isdu = true) (data : List UInt8) :
  (writeIsdu w index subindex data).2 = STATUS_PENDING ∧
    Unstarted w (writeIsdu w index subindex data).1
  := by
  simp only [writeIsdu, writeIsduBody, h.available, hbusy, h.matched (.inl hbusy), Bool.not_true,
    Bool.false_eq_true, if_false, if_true]
  exact ⟨trivial, by simp [Unstarted, Obs.startsIsdu, World.emit]⟩

/-- A write that is complete is collected, and the transport is free. -/
theorem writeIsdu_collects (h : EngineServes w.port index subindex)
    (hdone : w.port.isdu.done = true) (data : List UInt8) :
  (writeIsdu w index subindex data).2 = STATUS_OK ∧
    Unstarted w (writeIsdu w index subindex data).1 ∧
    Free (writeIsdu w index subindex data).1.port ∧
    (writeIsdu w index subindex data).1.port.block = w.port.block
  := by
  have hbusy : isduBusy w.port.isdu = false := by
    simp [isduBusy, hdone]
  have hfreed := (freed_finish w.port STATUS_OK).2
  simp only [writeIsdu, writeIsduBody, h.available, hbusy, hdone, h.matched (.inr hdone),
    isduFinishWrite, h.succeeded hdone, ne_eq, not_true_eq_false, Bool.not_true,
    Bool.false_eq_true, if_false, if_true]
  rw [collect_cleared w hfreed.done]
  refine ⟨trivial, by simp [Unstarted, Obs.startsIsdu, World.emit, World.leaveIsdu, World.put], ?_,
    hfreed.block⟩
  constructor
  · exact (congrArg acyclicAvailable hfreed.state).trans h.available
  · exact congrArg (fun op => op != IsduOp.none && _) hfreed.op
  · apply hfreed.done

/-- A payload that cannot be encoded is refused. -/
theorem writeIsdu_refuses (h : Free w.port) {data : List UInt8}
    (hlong : isduWriteTooLong index subindex data.length = true) :
  (writeIsdu w index subindex data).2 < 0
  := by
  simp only [writeIsdu, writeIsduBody, h.available, h.busy, h.done, hlong, Bool.not_true,
    Bool.false_eq_true, if_false, if_true]
  decide

/-- A write that can be encoded starts on a free transport. -/
theorem writeIsdu_begins (h : Free w.port) {data : List UInt8}
    (hshort : isduWriteTooLong index subindex data.length = false) :
  (writeIsdu w index subindex data).2 = STATUS_PENDING ∧
    ¬ Unstarted w (writeIsdu w index subindex data).1
  := by
  simp only [writeIsdu, writeIsduBody, h.available, h.busy, h.done, hshort, Bool.not_true,
    Bool.false_eq_true, if_false]
  refine ⟨trivial, ?_⟩
  simp [Unstarted, Obs.startsIsdu, World.emit, World.leaveIsdu, World.put, List.countP_cons]

/-! ### The steps of a transfer -/

theorem Unstarted.iff (h : Unstarted w u) :
  Unstarted w v ↔ Unstarted u v
  := by
  rw [Unstarted, Unstarted, h]

/-- What a call does after its first step counts as a whole. -/
theorem Releases.after {r : World × Int} (h : Unstarted w u) :
  Releases tooLong w r ↔ Releases tooLong u r
  := by
  constructor
  · rintro ⟨hreleased, hunsent⟩
    exact ⟨hreleased, fun hlong => h.iff.mp (hunsent hlong)⟩
  · rintro ⟨hreleased, hunsent⟩
    exact ⟨hreleased, fun hlong => h.iff.mpr (hunsent hlong)⟩

/-- A call that is told to wait releases nothing, and may have started a service. -/
theorem Releases.pending {r : World × Int} (h : r.2 = STATUS_PENDING) :
  Releases tooLong w r ↔ (tooLong = true → Unstarted w r.1)
  := by
  constructor
  · intro hreleases
    apply hreleases.unsent
  · intro hunsent
    refine ⟨?_, hunsent⟩
    intro hneg
    rw [h] at hneg
    contradiction

/-- A write of a transfer fails with the transfer latched if it is not served, and otherwise
leads to the rest of the transfer. -/
theorem blockStep_releases {step next : BlockStep} {rest : World → World × Int}
    (hstep : w.port.block.step = step) (hne : step ≠ .none) {data : List UInt8}
    (hlong : isduWriteTooLong index subindex data.length = true → tooLong = true)
    (hrest : ∀ v : World, Free v.port → v.port.block = { w.port.block with step := next } →
      (Releases tooLong v (rest v) ↔ tooLong = false)) :
  Releases tooLong w (blockStep w step next (fun w => writeIsdu w index subindex data) rest) ↔
    StepServes tooLong w.port index subindex
  := by
  have hlatched : ∀ r : World × Int, r.2 < 0 → r.1.port.block = w.port.block →
      ¬ Releases tooLong w r := by
    intro r hret hblock hreleases
    have hnone := hreleases.released hret
    rw [hblock, hstep] at hnone
    contradiction
  have hneg : ∀ ret : Int, ret < 0 → ret ≠ STATUS_OK := by
    intro ret hret
    exact Int.ne_of_lt hret
  have hcall : blockStep w step next (fun w => writeIsdu w index subindex data) rest
      = if (writeIsdu w index subindex data).2 ≠ STATUS_OK then writeIsdu w index subindex data
        else rest (blockSetStep (writeIsdu w index subindex data).1 next) := by
    rw [blockStep, if_pos hstep]
  rw [hcall]
  by_cases hserves : EngineServes w.port index subindex
  · rw [StepServes, and_iff_right hserves]
    cases hbusy : isduBusy w.port.isdu with
    | true =>
        obtain ⟨hret, hunstarted⟩ := writeIsdu_waits hserves hbusy data
        rw [if_pos (by rw [hret]; decide), Releases.pending hret]
        exact ⟨fun _ _ => rfl, fun _ _ => hunstarted⟩
    | false =>
        have hidle : (tooLong = true → false = true) ↔ tooLong = false := by
          cases tooLong <;> simp
        rw [hidle]
        cases hdone : w.port.isdu.done with
        | true =>
            obtain ⟨hret, hunstarted, hfree, hblock⟩ := writeIsdu_collects hserves hdone data
            have hset : Unstarted w (blockSetStep (writeIsdu w index subindex data).1 next) :=
              hunstarted
            rw [if_neg (not_not.mpr hret), Releases.after hset]
            apply hrest
            · exact ⟨hfree.available, hfree.busy, hfree.done⟩
            · rw [← hblock]
              rfl
        | false =>
            have hfree : Free w.port := ⟨hserves.available, hbusy, hdone⟩
            cases hencoded : isduWriteTooLong index subindex data.length with
            | true =>
                have hret := writeIsdu_refuses hfree hencoded
                have hnot := hlatched _ hret (writeIsdu_block w index subindex data)
                rw [if_pos (hneg _ hret)]
                exact iff_of_false hnot (by simp [hlong hencoded])
            | false =>
                obtain ⟨hret, hstarted⟩ := writeIsdu_begins hfree hencoded
                rw [if_pos (by rw [hret]; decide), Releases.pending hret]
                simp [hstarted]
  · obtain ⟨hret, hblock⟩ := writeIsdu_unserved hserves data
    rw [if_pos (hneg _ hret)]
    constructor
    · intro hreleases
      exact absurd hreleases (hlatched _ hret hblock)
    · rintro ⟨h, -⟩
      contradiction

/-- A read starts a service exactly on a free transport. -/
theorem readIsdu_unstarted (w : World) (index : UInt16) (subindex cap : UInt8) :
  Unstarted w (readIsdu w index subindex cap).1 ↔ ¬ Free w.port
  := by
  simp only [readIsdu]
  split
  · next havail =>
    rw [Bool.not_eq_true'] at havail
    refine iff_of_true rfl ?_
    intro hfree
    rw [hfree.available] at havail
    contradiction
  · next havail =>
    rw [Bool.not_eq_true', Bool.not_eq_false] at havail
    split
    · next hbusy =>
      have hnot : ¬ Free w.port := by
        intro hfree
        rw [hfree.busy] at hbusy
        contradiction
      split <;> exact iff_of_true rfl hnot
    · next hbusy =>
      split
      · next hdone =>
        have hnot : ¬ Free w.port := by
          intro hfree
          rw [hfree.done] at hdone
          contradiction
        split
        · exact iff_of_true rfl hnot
        · refine iff_of_true ?_ hnot
          simp only [World.collect]
          split
          · rfl
          · simp [Unstarted, World.leaveIsdu, World.emit, World.put, Obs.startsIsdu]
      · next hdone =>
        refine iff_of_false ?_ ?_
        · simp [Unstarted, World.leaveIsdu, World.emit, World.put, Obs.startsIsdu,
            List.countP_cons]
        · rw [not_not]
          exact ⟨havail, Bool.eq_false_iff.mpr hbusy, Bool.eq_false_iff.mpr hdone⟩

/-- A readback starts a service exactly on a free transport. -/
theorem verify_unstarted (w : World) (index : UInt16) (subindex : UInt8) (data : List UInt8) :
  (Unstarted w (verifyIsdu w index subindex data).1 ↔ ¬ Free w.port) ∧
    (Unstarted w (verifyDataStorage w data).1 ↔ ¬ Free w.port)
  := by
  constructor
  · rw [← readIsdu_unstarted w index subindex 255]
    simp only [verifyIsdu]
    split <;> exact Iff.rfl
  · rw [← readIsdu_unstarted w IDX_DATA_STORAGE 0 255]
    simp only [verifyDataStorage]
    split
    · exact Iff.rfl
    · split <;> exact Iff.rfl

/-- A failed verification always releases the transfer. -/
theorem blockVerify_releases :
  Releases tooLong w (blockVerify w) ↔ (tooLong = true → ¬ Free w.port)
  := by
  have houtcome : ∀ r : World × Int, (Unstarted w r.1 ↔ ¬ Free w.port) →
      ∀ v : World, v = (if r.2 = STATUS_OK ∨ r.2 < 0 then
          r.1.put { r.1.port with block := BlockState.zero } else r.1) →
      (Releases tooLong w (v.put (serviceResult v.port r.2), r.2) ↔
        (tooLong = true → ¬ Free w.port)) := by
    intro r hr v hv
    have hblock : (serviceResult v.port r.2).block = v.port.block := by
      simp only [serviceResult]
      split <;> rfl
    have hlog : v.log = r.1.log := by
      rw [hv]
      split <;> rfl
    have hunstarted : Unstarted w (v.put (serviceResult v.port r.2)) ↔ ¬ Free w.port := by
      rw [← hr, Unstarted, Unstarted, ← hlog]
      exact Iff.rfl
    constructor
    · rintro ⟨-, hunsent⟩ hlong
      apply hunstarted.mp (hunsent hlong)
    · intro hfree
      refine ⟨?_, fun hlong => hunstarted.mpr (hfree hlong)⟩
      intro hneg
      rw [World.put_port, hblock, hv, if_pos (.inr hneg)]
      rfl
  have hverify := verify_unstarted w w.port.block.index w.port.block.subindex w.port.block.data
  simp only [blockVerify]
  apply houtcome _ _ _ rfl
  split
  · apply hverify.2
  · apply hverify.1

/-! ### Whole calls -/

/-- The rest of a transfer after its payload has been written. -/
def blockEnd (w : World) : World × Int :=
  blockStep w .endDownload .verify (fun w => writeSystemCommand w CMD_PARAM_DOWNLOAD_END)
    blockVerify

/-- The rest of a transfer after the download has begun. -/
def blockWrite (w : World) : World × Int :=
  blockStep w .write .endDownload
    (fun w => writeIsdu w w.port.block.index w.port.block.subindex w.port.block.data) blockEnd

/-- The steps of a transfer. -/
def blockBegin (w : World) : World × Int :=
  blockStep w .beginDownload .write (fun w => writeSystemCommand w CMD_PARAM_DOWNLOAD_START)
    blockWrite

/-- The world in which a call of `write_parameter_block` goes through its steps. -/
def latchBlock (w : World) (index : UInt16) (subindex : UInt8) (data : List UInt8) : World :=
  if w.port.block.step = .none then
    w.put { w.port with block := ⟨.beginDownload, index, subindex, data⟩ }
  else w

/-- A call on behalf of its transfer goes through the steps of the transfer. -/
theorem writeParameterBlock_onBehalf {data : List UInt8}
    (hdata : ¬ data.length > ISDU_BUFFER_SIZE - ISDU_WRITE_HEADER_MAX)
    (h : OnBehalf w.port.block index subindex data) :
  writeParameterBlock w index subindex data = blockBegin (latchBlock w index subindex data)
  := by
  have hgoes : ¬ (w.port.block.step ≠ .none && !blockMatches w.port.block index subindex data)
      = true := by
    rcases h with h | h
    · simp [h]
    · simp [h]
  rw [writeParameterBlock, if_neg hdata, if_neg hgoes]
  rfl

/-- The latched transfer is the one of the call. -/
theorem latchBlock_block {data : List UInt8} (h : OnBehalf w.port.block index subindex data) :
  (latchBlock w index subindex data).port.block
    = ⟨w.port.block.entered, index, subindex, data⟩
  := by
  simp only [latchBlock, BlockState.entered]
  split
  · rfl
  · next hstep =>
    rcases h with h | h
    · contradiction
    · simp only [blockMatches, Bool.and_eq_true, beq_iff_eq] at h
      obtain ⟨⟨hindex, hsubindex⟩, hdata⟩ := h
      rw [← hindex, ← hsubindex, ← hdata]

/-- On a free transport, all that matters is whether the payload can be encoded. -/
theorem Free.stepServes (h : Free w.port) (index : UInt16) (subindex : UInt8) :
  StepServes tooLong w.port index subindex ↔ tooLong = false
  := by
  rw [StepServes, and_iff_right (h.serves index subindex), h.busy]
  cases tooLong <;> simp

/-- What serves a step depends on the ISDU transport and the state of the port. -/
theorem StepServes.of_same {p q : PortState} (hisdu : q.isdu = p.isdu) (hstate : q.state = p.state)
    (h : StepServes tooLong p index subindex) :
  StepServes tooLong q index subindex
  := by
  obtain ⟨⟨havail, hmatched, hsucceeded⟩, hlong⟩ := h
  refine ⟨⟨?_, ?_, ?_⟩, ?_⟩
  · rw [hstate, havail]
  · rw [hisdu]
    apply hmatched
  · rw [hisdu]
    apply hsucceeded
  · rw [hisdu]
    apply hlong

/-- A SystemCommand can always be encoded. -/
theorem systemCommand_short (command : UInt8) :
  isduWriteTooLong IDX_SYSTEM_COMMAND 0 [command].length = false
  := rfl

/-- From the end of the download on. -/
theorem blockEnd_releases (hstep : w.port.block.step = .endDownload) :
  Releases tooLong w (blockEnd w) ↔ StepServes tooLong w.port IDX_SYSTEM_COMMAND 0
  := by
  apply blockStep_releases hstep (by decide)
  · intro hlong
    rw [systemCommand_short] at hlong
    contradiction
  · intro v hfree hblock
    rw [blockVerify_releases]
    simp [hfree]

/-- From the write of the payload on. -/
theorem blockWrite_releases (hstep : w.port.block.step = .write)
    (hlong : isduWriteTooLong w.port.block.index w.port.block.subindex w.port.block.data.length
      = tooLong) :
  Releases tooLong w (blockWrite w) ↔
    StepServes tooLong w.port w.port.block.index w.port.block.subindex
  := by
  have hcall : blockWrite w = blockStep w .write .endDownload
      (fun v => writeIsdu v w.port.block.index w.port.block.subindex w.port.block.data) blockEnd := by
    simp only [blockWrite, blockStep]
  rw [hcall]
  apply blockStep_releases hstep (by decide)
  · intro h
    rw [← hlong, h]
  · intro v hfree hblock
    rw [blockEnd_releases (by rw [hblock]), hfree.stepServes]

/-- From the beginning of the download on. -/
theorem blockBegin_releases (hstep : w.port.block.step = .beginDownload)
    (hlong : isduWriteTooLong w.port.block.index w.port.block.subindex w.port.block.data.length
      = tooLong) :
  Releases tooLong w (blockBegin w) ↔ StepServes tooLong w.port IDX_SYSTEM_COMMAND 0
  := by
  apply blockStep_releases hstep (by decide)
  · intro h
    rw [systemCommand_short] at h
    contradiction
  · intro v hfree hblock
    rw [blockWrite_releases (by rw [hblock]) (by rw [hblock]; exact hlong), hfree.stepServes]

/-- A step that is not due is skipped. -/
theorem blockStep_skip {step next : BlockStep} {call rest : World → World × Int}
    (h : w.port.block.step ≠ step) :
  blockStep w step next call rest = rest w
  := by
  rw [blockStep, if_neg h]

/-- A call on behalf of its transfer releases it when it fails, and sends nothing for a payload
that cannot be encoded, exactly if the transfer can be served. -/
theorem writeParameterBlock_releases {data : List UInt8}
    (h : OnBehalf w.port.block index subindex data) :
  Releases (isduWriteTooLong index subindex data.length) w
      (writeParameterBlock w index subindex data) ↔
    ServesTransfer w.port index subindex data
  := by
  by_cases hdata : data.length > ISDU_BUFFER_SIZE - ISDU_WRITE_HEADER_MAX
  · simp only [ServesTransfer, if_pos hdata]
    rw [writeParameterBlock, if_pos hdata]
    constructor
    · intro hreleases
      exact hreleases.released (by decide : ISDU_ERR_BUFFER_TOO_SMALL < 0)
    · intro hstep
      exact ⟨fun _ => hstep, fun _ => rfl⟩
  · rw [writeParameterBlock_onBehalf hdata h]
    have hblock := latchBlock_block h
    have hunstarted : Unstarted w (latchBlock w index subindex data) := by
      simp only [latchBlock]
      split <;> rfl
    have hport : (latchBlock w index subindex data).port.isdu = w.port.isdu ∧
        (latchBlock w index subindex data).port.state = w.port.state := by
      simp only [latchBlock]
      split <;> exact ⟨rfl, rfl⟩
    rw [Releases.after hunstarted]
    simp only [ServesTransfer, if_neg hdata]
    generalize latchBlock w index subindex data = v at *
    have hsame : ∀ index subindex,
        StepServes (isduWriteTooLong v.port.block.index v.port.block.subindex
          v.port.block.data.length) v.port index subindex ↔
        StepServes (isduWriteTooLong v.port.block.index v.port.block.subindex
          v.port.block.data.length) w.port index subindex :=
      fun index subindex => ⟨.of_same hport.1.symm hport.2.symm, .of_same hport.1 hport.2⟩
    obtain ⟨hisdu, hstate⟩ := hport
    obtain rfl : index = v.port.block.index := by rw [hblock]
    obtain rfl : subindex = v.port.block.subindex := by rw [hblock]
    obtain rfl : data = v.port.block.data := by rw [hblock]
    have hstep : v.port.block.step = w.port.block.entered := by rw [hblock]
    cases hentered : w.port.block.entered with
    | none =>
        exfalso
        simp only [BlockState.entered] at hentered
        split at hentered <;> contradiction
    | beginDownload =>
        rw [hentered] at hstep
        rw [blockBegin_releases hstep rfl, hsame]
    | write =>
        rw [hentered] at hstep
        rw [blockBegin, blockStep_skip (by rw [hstep]; decide), blockWrite_releases hstep rfl,
          hsame]
    | endDownload =>
        rw [hentered] at hstep
        rw [blockBegin, blockStep_skip (by rw [hstep]; decide), blockWrite,
          blockStep_skip (by rw [hstep]; decide), blockEnd_releases hstep, hsame]
    | verify =>
        rw [hentered] at hstep
        rw [blockBegin, blockStep_skip (by rw [hstep]; decide), blockWrite,
          blockStep_skip (by rw [hstep]; decide), blockEnd,
          blockStep_skip (by rw [hstep]; decide), blockVerify_releases]
        have hfree : ¬ Free v.port ↔ (acyclicAvailable w.port.state = true →
            isduBusy w.port.isdu = true ∨ w.port.isdu.done = true) := by
          rw [← hstate, ← hisdu]
          constructor
          · intro hnot havail
            by_contra hidle
            rw [not_or, Bool.not_eq_true, Bool.not_eq_true] at hidle
            exact hnot ⟨havail, hidle.1, hidle.2⟩
          · rintro hidle ⟨havail, hbusy, hdone⟩
            have hnot := hidle havail
            rw [hbusy, hdone] at hnot
            simp at hnot
        simp only [hfree]

end

/-- Every call of a run releases its transfer when it fails, and sends nothing for a payload
that cannot be encoded, exactly if every call of the run can be served. -/
theorem transfer_released (K : Iolinki) (w : World) :
  (∀ call : Service, ReleasesOnFailure w call ↔ ServesCall w call) ∧
    ∀ calls : List (Env × Call),
      Along ReleasesOnFailure K w calls ↔ Along ServesCall K w calls
  := by
  have hcall : ∀ (w : World) (call : Service), ReleasesOnFailure w call ↔ ServesCall w call := by
    intro w call
    have hbody : ∀ index subindex data, call.blockRequest = some (index, subindex, data) →
        serviceBody w call = writeParameterBlock w index subindex data := by
      intro index subindex data hrequest
      cases call with
      | writeParameterBlock | restoreDataStorage =>
          obtain ⟨rfl, rfl, rfl⟩ := hrequest
          rfl
      | _ => contradiction
    constructor
    · intro hreleases index subindex data hrequest honbehalf
      rw [← writeParameterBlock_releases honbehalf, ← hbody _ _ _ hrequest]
      apply hreleases _ _ _ hrequest honbehalf
    · intro hserves index subindex data hrequest honbehalf
      rw [hbody _ _ _ hrequest, writeParameterBlock_releases honbehalf]
      apply hserves _ _ _ hrequest honbehalf
  refine ⟨hcall w, ?_⟩
  intro calls
  induction calls generalizing w with
  | nil => exact Iff.rfl
  | cons c calls ih => simp only [Along, hcall, ih]

/-- A port of type 2.1 in PREOPERATE, before and after the application starts a read. -/
def beforeRead : World := run .reference (started (.quiet []) .full (.bare .type2_1 1 1)) connecting

def underRead : World := runService beforeRead (.readIsdu 0x10 0 16)

/-- A transfer refused because of another service stays latched and blocks the next one, and one
whose payload cannot be encoded sends ParamDownloadStart. -/
theorem transfer_released_latched :
  Reach .reference (fun _ _ _ => True) .full (.bare .type2_1 1 1) beforeRead ∧
    ¬ ReleasesOnFailure underRead (.writeParameterBlock 0x40 0 [1]) ∧
    (writeParameterBlock underRead 0x40 0 [1]).2 = ISDU_ERR_BUSY ∧
    (writeParameterBlock underRead 0x40 0 [1]).1.port.block.step = .beginDownload ∧
    (writeParameterBlock (writeParameterBlock underRead 0x40 0 [1]).1 0x41 0 [2]).2
      = ISDU_ERR_BUSY ∧
    ¬ ReleasesOnFailure beforeRead (.writeParameterBlock 0x40 0 (List.replicate 13 0)) ∧
    isduWriteTooLong 0x40 0 13 = true
  := by
  have hrefused : (writeParameterBlock underRead 0x40 0 [1]).2 = ISDU_ERR_BUSY := by decide +kernel
  have hlatched : (writeParameterBlock underRead 0x40 0 [1]).1.port.block.step = .beginDownload := by
    decide +kernel
  refine ⟨?_, ?_, hrefused, hlatched, ?_, ?_, ?_⟩
  · apply (Reach.start _ (by decide)).run
    decide +kernel
  · intro h
    have hreleased := (h 0x40 0 [1] rfl (.inl (by decide +kernel))).released
    simp only [serviceBody, hrefused, hlatched] at hreleased
    exact absurd (hreleased (by decide)) (by decide)
  · decide +kernel
  · intro h
    have hunsent := (h 0x40 0 (List.replicate 13 0) rfl (.inl (by decide +kernel))).unsent
      (by decide +kernel)
    revert hunsent
    simp only [Unstarted]
    decide +kernel
  · decide +kernel

end IolinkMaster
