import IolinkMaster.Release
import IolinkMaster.Remote

/-!
# Parameter blocks over the link

`write_parameter_block`, repeated with ticks in between, against the application behind the device:
begin download, write, end download and readback are each performed once and in this order, up to
the first one that fails.  A transfer that failed stays latched at the step that failed and goes on
from there when it is asked for again.
-/

namespace IolinkMaster

/-! ### The transfer -/

/-- The result code of a service. -/
def Result.ret : Result → Int
  | .data _ | .done | .code _ | .events _ => STATUS_OK
  | .failed _ => ISDU_ERR_DEVICE
  | .refused ret => ret

/-- The readback of the transfer finds what was written. -/
def blockVerdict (b : BlockState) (actual : List UInt8) : Bool :=
  if b.index = IDX_DATA_STORAGE ∧ b.subindex = 0 ∧ dsImageIsValid b.data ∧ dsImageIsValid actual then
    dsImageContainsRecords actual b.data
  else actual == b.data

/-- The result code of the readback. -/
def readbackRet (b : BlockState) : Result → Int
  | .data octets => if blockVerdict b octets then STATUS_OK else ISDU_ERR_VERIFY_FAILED
  | r => r.ret

section

variable {μ : Type} (A : Application μ)

/-- Read the parameter back and compare; this is the end of the transfer. -/
def Application.readback (b : BlockState) (m : μ) : (μ × BlockState) × Int :=
  let (m, r) := A.serve m (.read b.index b.subindex)
  ((m, BlockState.zero), readbackRet b r)

/-- A step of the transfer; where its call fails the transfer stays latched. -/
def Application.transferStep (b : BlockState) (c : IsduCall) (rest : μ → (μ × BlockState) × Int)
    (m : μ) : (μ × BlockState) × Int :=
  let (m, r) := A.serve m c
  if r.ret = STATUS_OK then rest m else ((m, b), r.ret)

/-- The transfer from its end of download on. -/
def Application.transferEnd (b : BlockState) : μ → (μ × BlockState) × Int :=
  A.transferStep { b with step := .endDownload } (.write IDX_SYSTEM_COMMAND 0 [CMD_PARAM_DOWNLOAD_END])
    (A.readback b)

/-- The transfer from its write on. -/
def Application.transferWrite (b : BlockState) : μ → (μ × BlockState) × Int :=
  A.transferStep { b with step := .write } (.write b.index b.subindex b.data) (A.transferEnd b)

/-- The whole transfer. -/
def Application.transferBegin (b : BlockState) : μ → (μ × BlockState) × Int :=
  A.transferStep { b with step := .beginDownload }
    (.write IDX_SYSTEM_COMMAND 0 [CMD_PARAM_DOWNLOAD_START]) (A.transferWrite b)

/-- The transfer from the step at which it is latched on. -/
def Application.transferFrom (b : BlockState) (m : μ) : (μ × BlockState) × Int :=
  match b.step with
  | .none | .beginDownload => A.transferBegin b m
  | .write => A.transferWrite b m
  | .endDownload => A.transferEnd b m
  | .verify => A.readback b m

/-- A parameter block for a device whose application has the memory `t.1`, where the port has
latched the transfer `t.2`. -/
def Application.transfer (t : μ × BlockState) (r : UInt16 × UInt8 × List UInt8) :
    (μ × BlockState) × Int :=
  if r.2.2.length > ISDU_BUFFER_SIZE - ISDU_WRITE_HEADER_MAX then (t, ISDU_ERR_BUFFER_TOO_SMALL)
  else if t.2.step ≠ .none && !blockMatches t.2 r.1 r.2.1 r.2.2 then (t, ISDU_ERR_BUSY)
  else A.transferFrom ⟨t.2.step, r.1, r.2.1, r.2.2⟩ t.1

end

/-- A service, without a result as long as it is pending. -/
def awaited (f : World → World × Int) (w : World) : World × Option Int :=
  let (w, ret) := f w
  (w, if ret = STATUS_PENDING then none else some ret)

/-! ### Services as calls -/

section

variable {w : World} {b : BlockState}

/-- The result code of a write is the one of its call. -/
theorem awaited_write (w : World) (index : UInt16) (subindex : UInt8) (data : List UInt8) :
  awaited (fun w => writeIsdu w index subindex data) w
    = (((IsduCall.write index subindex data).make w).1,
        ((IsduCall.write index subindex data).make w).2.map Result.ret)
  := by
  rw [awaited, IsduCall.make]
  dsimp only
  by_cases hpending : (writeIsdu w index subindex data).2 = STATUS_PENDING
  · rw [if_pos hpending, if_pos hpending]
    rfl
  · rw [if_neg hpending, if_neg hpending]
    by_cases hok : (writeIsdu w index subindex data).2 = STATUS_OK
    · rw [if_pos hok, hok]
      rfl
    · rw [if_neg hok]
      by_cases hdevice : (writeIsdu w index subindex data).2 = ISDU_ERR_DEVICE
      · rw [if_pos hdevice, hdevice]
        rfl
      · rw [if_neg hdevice]
        rfl

/-- What the verification leaves once the readback has a result. -/
def concludeBlock (b : BlockState) (r : Result) (w : World) : World × Int :=
  (w.put (serviceResult { w.port with block := BlockState.zero } (readbackRet b r)),
    readbackRet b r)

theorem concludeBlock_port (b : BlockState) (r : Result) (w : World) :
  ∃ d, (concludeBlock b r w).1.port = { w.port with diagnostics := d, block := BlockState.zero }
  := by
  rw [concludeBlock, World.put_port, serviceResult]
  split
  · exact ⟨_, rfl⟩
  · exact ⟨_, rfl⟩

/-- Give the transfer up once its verification has a result. -/
def giveUpBlock (r : World × Int) : World × Int :=
  let w := if r.2 = STATUS_OK ∨ r.2 < 0 then r.1.put { r.1.port with block := BlockState.zero } else r.1
  (w.put (serviceResult w.port r.2), r.2)

/-- A verified readback is put down and the transfer is given up. -/
theorem giveUpBlock_verified (w : World) (ok : Bool) :
  giveUpBlock (verifyOutcome w ok)
    = (w.put (serviceResult { w.port with block := BlockState.zero }
          (if ok then STATUS_OK else ISDU_ERR_VERIFY_FAILED)),
        if ok then STATUS_OK else ISDU_ERR_VERIFY_FAILED)
  := by
  cases ok <;> rfl

/-- The readback of a transfer, by what the read of its parameter does. -/
theorem verify_readback (w : World) (b : BlockState) :
  (if b.index = IDX_DATA_STORAGE ∧ b.subindex = 0 then verifyDataStorage w b.data
    else verifyIsdu w b.index b.subindex b.data)
    = (let (w, r) := readIsdu w b.index b.subindex 255
      if r.ret ≠ STATUS_OK then (w, r.ret) else verifyOutcome w (blockVerdict b r.data))
  := by
  by_cases hstorage : b.index = IDX_DATA_STORAGE ∧ b.subindex = 0
  · rw [if_pos hstorage, verifyDataStorage, hstorage.1, hstorage.2]
    dsimp only
    split
    · rfl
    · simp only [blockVerdict, hstorage.1, hstorage.2, true_and, Bool.and_eq_true]
      split <;> rfl
  · have hplain : ∀ actual, blockVerdict b actual = (actual == b.data) := by
      intro actual
      rw [blockVerdict, if_neg]
      intro h
      exact hstorage ⟨h.1, h.2.1⟩
    rw [if_neg hstorage, verifyIsdu]
    simp only [hplain]

/-- The verification is a read, and a comparison once it has a result. -/
theorem awaited_verify (hb : w.port.block = { b with step := .verify }) :
  awaited blockVerify w
    = match (IsduCall.read b.index b.subindex).make w with
      | (w, none) => (w, none)
      | (w, some r) => ((concludeBlock b r w).1, some (concludeBlock b r w).2)
  := by
  have hread := readIsdu_ret w b.index b.subindex 255
  have hverify : blockVerify w = giveUpBlock
      (if b.index = IDX_DATA_STORAGE ∧ b.subindex = 0 then verifyDataStorage w b.data
        else verifyIsdu w b.index b.subindex b.data) := by
    rw [blockVerify, hb]
    rfl
  rw [awaited, hverify, verify_readback, IsduCall.make]
  generalize readIsdu w b.index b.subindex 255 = q at *
  obtain ⟨v, ret, len, data⟩ := q
  dsimp only at hread ⊢
  rcases hread with rfl | rfl | hneg
  · have hnow : (if blockVerdict b data then STATUS_OK else ISDU_ERR_VERIFY_FAILED)
        ≠ STATUS_PENDING := by
      cases blockVerdict b data <;> decide
    rw [if_neg (not_not.mpr rfl), giveUpBlock_verified, if_neg hnow]
    rfl
  · rfl
  · have hne : ret ≠ STATUS_OK ∧ ret ≠ STATUS_PENDING := by
      constructor <;> rintro rfl <;> contradiction
    rw [if_pos hne.1, giveUpBlock]
    dsimp only
    rw [if_pos (.inr hneg), if_neg hne.2, if_neg hne.2, if_neg hne.1]
    by_cases hdevice : ret = ISDU_ERR_DEVICE
    · rw [if_pos hdevice, hdevice]
      rfl
    · rw [if_neg hdevice]
      rfl

/-- A step of the transfer that is due makes its call and goes on once that succeeded. -/
theorem awaited_step {step next : BlockStep} {call rest : World → World × Int} {c : IsduCall}
    (hstep : w.port.block.step = step)
    (hcall : awaited call w = ((c.make w).1, (c.make w).2.map Result.ret)) :
  awaited (fun w => blockStep w step next call rest) w
    = match c.make w with
      | (w, none) => (w, none)
      | (w, some r) =>
        if r.ret = STATUS_OK then awaited rest (blockSetStep w next) else (w, some r.ret)
  := by
  rw [awaited, blockStep, if_pos hstep]
  rw [awaited] at hcall
  generalize call w = q at *
  generalize c.make w = q' at *
  obtain ⟨v, ret⟩ := q
  obtain ⟨v', r⟩ := q'
  dsimp only at hcall ⊢
  obtain ⟨rfl, hret⟩ := Prod.mk.inj hcall
  cases r with
  | none =>
      have hpending : ret = STATUS_PENDING := by
        by_contra hne
        rw [if_neg hne] at hret
        contradiction
      rw [hpending, if_pos (by decide)]
      rfl
  | some r =>
      have hne : ret ≠ STATUS_PENDING := by
        intro hpending
        rw [if_pos hpending] at hret
        contradiction
      rw [if_neg hne, Option.map_some, Option.some.injEq] at hret
      dsimp only
      rw [← hret]
      by_cases hok : ret = STATUS_OK
      · rw [if_neg (not_not.mpr hok), if_pos hok]
        rfl
      · rw [if_pos hok, if_neg hok]
        dsimp only
        rw [if_neg hne]

end

/-! ### Transfers over the link -/

section

variable {μ : Type} {K : Iolinki} {A : Application μ} {config : Config}

/-- The transfer `b` is latched at one of the steps `steps`. -/
def Latched (b : BlockState) (steps : List BlockStep) (s : System μ) : Prop :=
  ∃ step ∈ steps, s.world.port.block = { b with step := step }

/-- On a system at rest where the transfer `b` is latched at `step`, the service `f` has, after at
most `n` ticks, the result `spec` of the application; meanwhile the transfer is at `step` or a later
step. -/
def Conducts (K : Iolinki) (A : Application μ) (config : Config) (b : BlockState) (step : BlockStep)
    (later : List BlockStep) (n : Nat) (f : World → World × Int)
    (spec : μ → (μ × BlockState) × Int) : Prop :=
  ∀ s m, AtRest K config s m → s.world.port.block = { b with step := step } →
    ∃ t, Retry.Ends (System.tick K A config) (Latched b (step :: later)) (System.call (awaited f)) n s
        (t, (spec m).2) ∧
      AtRest K config t (spec m).1.1 ∧ t.world.port.block = (spec m).1.2

/-- What only touches the diagnostics and the parameter block leaves the system at rest. -/
theorem AtRest.put {s : System μ} {m : μ} (h : AtRest K config s m) {w : World} {d : Diagnostics}
    {b : BlockState} (hw : w.port = { s.world.port with diagnostics := d, block := b }) :
  AtRest K config { s with world := w } m
  := by
  obtain ⟨⟨od, hs⟩, hcleared, hmemory⟩ := h
  refine ⟨⟨od, hs.called (t := s.world.port.isdu) hw⟩, ?_, hmemory⟩
  dsimp only
  rw [hw]
  apply hcleared

/-- The verification of a transfer. -/
theorem conducts_verify (hK : K.Lawful) (hvalid : configRefused config = false)
    (hfits : A.Fits config) (b : BlockState) :
  Conducts K A config b .verify [] A.patience blockVerify (A.readback b)
  := by
  intro s m hs hb
  obtain ⟨t, hends, ht, hblock⟩ := hs.ends hK hvalid hfits (.read b.index b.subindex) hb
  have hfollows : Retry.Follows (fun s : System μ => s.world.port.block = { b with step := .verify })
      (System.call (awaited blockVerify)) (System.call (IsduCall.read b.index b.subindex).make)
      (fun r t => ({ t with world := (concludeBlock b r t.world).1 },
        some (concludeBlock b r t.world).2)) := by
    intro u hu
    simp only [System.call, awaited_verify hu]
    generalize (IsduCall.read b.index b.subindex).make u.world = q
    obtain ⟨v, _ | r⟩ := q
    · rfl
    · rfl
  have hnow := hends.follow_now hfollows rfl
  obtain ⟨d, hport⟩ := concludeBlock_port b (A.serve m (.read b.index b.subindex)).2 t.world
  refine ⟨_, hnow.mono (fun s hs => ⟨.verify, List.mem_singleton_self _, hs⟩) (Nat.le_refl _), ?_, ?_⟩
  · exact ht.put hport
  · dsimp only
    rw [hport]
    rfl

/-- A step of the transfer and the rest of it. -/
theorem Conducts.step (hK : K.Lawful) (hvalid : configRefused config = false)
    (hfits : A.Fits config) {b : BlockState} {step next : BlockStep} {later : List BlockStep} {n : Nat}
    {call rest : World → World × Int} {restSpec : μ → (μ × BlockState) × Int}
    (hrest : Conducts K A config b next later n rest restSpec) (hstep : step ∉ next :: later)
    {c : IsduCall} (hcall : ∀ w : World, w.port.block = { b with step := step } →
      awaited call w = ((c.make w).1, (c.make w).2.map Result.ret)) :
  Conducts K A config b step (next :: later) (A.patience + n)
    (fun w => blockStep w step next call rest)
    (A.transferStep { b with step := step } c restSpec)
  := by
  intro s m hs hb
  obtain ⟨t, hends, ht, hblock⟩ := hs.ends hK hvalid hfits c hb
  have hfollows : Retry.Follows (fun s : System μ => s.world.port.block = { b with step := step })
      (System.call (awaited fun w => blockStep w step next call rest)) (System.call c.make)
      (fun r t =>
        if r.ret = STATUS_OK then
          System.call (awaited rest) { t with world := blockSetStep t.world next }
        else (t, some r.ret)) := by
    intro u hu
    have hdue : u.world.port.block.step = step := by rw [hu]
    simp only [System.call, awaited_step hdue (hcall u.world hu)]
    generalize c.make u.world = q
    obtain ⟨v, _ | r⟩ := q
    · rfl
    · dsimp only
      split <;> rfl
  have hhere : ∀ s : System μ, s.world.port.block = { b with step := step } →
      Latched b (step :: next :: later) s := fun s hs => ⟨step, List.mem_cons_self, hs⟩
  rw [Application.transferStep]
  dsimp only
  by_cases hok : (A.serve m c).2.ret = STATUS_OK
  · -- The call succeeded, and the rest goes on in the same attempt.
    rw [if_pos hok]
    have hset : AtRest K config { t with world := blockSetStep t.world next } (A.serve m c).1 :=
      ht.put (d := t.world.port.diagnostics) rfl
    have hnext : (blockSetStep t.world next).port.block = { b with step := next } := by
      rw [blockSetStep, World.put_port, hblock]
    obtain ⟨u, hrestEnds, hu, hleft⟩ := hrest _ _ hset hnext
    have hskip : ∀ s : System μ, Latched b (next :: later) s →
        System.call (awaited fun w => blockStep w step next call rest) s
          = System.call (awaited rest) s := by
      rintro s ⟨step', hstep', hs⟩
      have hne : s.world.port.block.step ≠ step := by
        rw [hs]
        rintro rfl
        exact hstep hstep'
      simp only [System.call, awaited, blockStep, if_neg hne]
    refine ⟨u, (hends.follow_later hfollows ?_ hskip hrestEnds).mono ?_ (Nat.le_refl _), hu, hleft⟩
    · rw [if_pos hok]
    · rintro s (hs | ⟨step', hstep', hs⟩)
      · exact hhere s hs
      · exact ⟨step', List.mem_cons_of_mem _ hstep', hs⟩
  · rw [if_neg hok]
    refine ⟨t, (hends.follow_now hfollows ?_).mono hhere (Nat.le_add_right _ _), ht, hblock⟩
    rw [if_neg hok]

theorem conducts_end (hK : K.Lawful) (hvalid : configRefused config = false)
    (hfits : A.Fits config) (b : BlockState) :
  Conducts K A config b .endDownload [.verify] (A.patience + A.patience) blockEnd (A.transferEnd b)
  := by
  apply (conducts_verify hK hvalid hfits b).step hK hvalid hfits (by decide)
  intro w _
  apply awaited_write

theorem conducts_write (hK : K.Lawful) (hvalid : configRefused config = false)
    (hfits : A.Fits config) (b : BlockState) :
  Conducts K A config b .write [.endDownload, .verify] (A.patience + (A.patience + A.patience))
    blockWrite (A.transferWrite b)
  := by
  apply (conducts_end hK hvalid hfits b).step hK hvalid hfits (by decide)
  intro w hw
  rw [← awaited_write]
  simp only [awaited, hw]

theorem conducts_begin (hK : K.Lawful) (hvalid : configRefused config = false)
    (hfits : A.Fits config) (b : BlockState) :
  Conducts K A config b .beginDownload [.write, .endDownload, .verify]
    (A.patience + (A.patience + (A.patience + A.patience))) blockBegin (A.transferBegin b)
  := by
  apply (conducts_write hK hvalid hfits b).step hK hvalid hfits (by decide)
  intro w _
  apply awaited_write

/-- The steps at which a transfer can be latched. -/
def transferSteps : List BlockStep := [.beginDownload, .write, .endDownload, .verify]

theorem Latched.mono {b : BlockState} {steps steps' : List BlockStep} {s : System μ}
    (h : Latched b steps s) (hsteps : ∀ step ∈ steps, step ∈ steps') :
  Latched b steps' s
  := by
  obtain ⟨step, hstep, hs⟩ := h
  exact ⟨step, hsteps step hstep, hs⟩

/-- A latched transfer at none of the steps `steps` is at none of them. -/
theorem Latched.step_ne {b : BlockState} {steps : List BlockStep} {s : System μ}
    (h : Latched b steps s) {step : BlockStep} (hstep : step ∉ steps) :
  s.world.port.block.step ≠ step
  := by
  obtain ⟨step', hstep', hs⟩ := h
  rw [hs]
  rintro rfl
  exact hstep hstep'

/-- A transfer goes on from the step at which it is latched. -/
theorem transferFrom_ends (hK : K.Lawful) (hvalid : configRefused config = false)
    (hfits : A.Fits config) {b : BlockState} (hstep : b.step ≠ .none) {s : System μ} {m : μ}
    (hs : AtRest K config s m) (hb : s.world.port.block = b) :
  ∃ t, Retry.Ends (System.tick K A config) (Latched b transferSteps)
      (System.call (awaited blockBegin)) (4 * A.patience) s (t, (A.transferFrom b m).2) ∧
    AtRest K config t (A.transferFrom b m).1.1 ∧ t.world.port.block = (A.transferFrom b m).1.2
  := by
  obtain ⟨step, index, subindex, data⟩ := b
  cases step with
  | none => contradiction
  | beginDownload =>
      obtain ⟨t, hends, ht⟩ :=
        conducts_begin hK hvalid hfits ⟨.beginDownload, index, subindex, data⟩ s m hs hb
      exact ⟨t, hends.mono (fun _ hs => hs) (by omega), ht⟩
  | write =>
      obtain ⟨t, hends, ht⟩ :=
        conducts_write hK hvalid hfits ⟨.write, index, subindex, data⟩ s m hs hb
      refine ⟨t, (hends.congr ?_).mono (fun _ hs => hs.mono (by decide)) (by omega), ht⟩
      intro s hs
      have hbegin : s.world.port.block.step ≠ .beginDownload := hs.step_ne (by decide)
      simp only [System.call, awaited, blockBegin, blockStep_skip hbegin]
  | endDownload =>
      obtain ⟨t, hends, ht⟩ :=
        conducts_end hK hvalid hfits ⟨.endDownload, index, subindex, data⟩ s m hs hb
      refine ⟨t, (hends.congr ?_).mono (fun _ hs => hs.mono (by decide)) (by omega), ht⟩
      intro s hs
      have hbegin : s.world.port.block.step ≠ .beginDownload := hs.step_ne (by decide)
      have hwrite : s.world.port.block.step ≠ .write := hs.step_ne (by decide)
      simp only [System.call, awaited, blockBegin, blockStep_skip hbegin, blockWrite,
        blockStep_skip hwrite]
  | verify =>
      obtain ⟨t, hends, ht⟩ :=
        conducts_verify hK hvalid hfits ⟨.verify, index, subindex, data⟩ s m hs hb
      refine ⟨t, (hends.congr ?_).mono (fun _ hs => hs.mono (by decide)) (by omega), ht⟩
      intro s hs
      have hbegin : s.world.port.block.step ≠ .beginDownload := hs.step_ne (by decide)
      have hwrite : s.world.port.block.step ≠ .write := hs.step_ne (by decide)
      have hend : s.world.port.block.step ≠ .endDownload := hs.step_ne (by decide)
      simp only [System.call, awaited, blockBegin, blockStep_skip hbegin, blockWrite,
        blockStep_skip hwrite, blockEnd, blockStep_skip hend]

/-- The block that a call of `write_parameter_block` works on. -/
theorem latchBlock_port (w : World) (index : UInt16) (subindex : UInt8) (data : List UInt8) :
  ∃ b, (latchBlock w index subindex data).port = { w.port with block := b }
  := by
  rw [latchBlock]
  split
  · exact ⟨_, rfl⟩
  · exact ⟨w.port.block, rfl⟩

/-- A call for the transfer that is latched goes through its steps. -/
theorem Latched.writeParameterBlock {b : BlockState} {s : System μ}
    (h : Latched b transferSteps s)
    (hdata : ¬ b.data.length > ISDU_BUFFER_SIZE - ISDU_WRITE_HEADER_MAX) :
  writeParameterBlock s.world b.index b.subindex b.data = blockBegin s.world
  := by
  have hstep : s.world.port.block.step ≠ .none := h.step_ne (by decide)
  obtain ⟨step, -, hb⟩ := h
  have hmatches : blockMatches s.world.port.block b.index b.subindex b.data = true := by
    rw [hb]
    simp [blockMatches]
  rw [writeParameterBlock_onBehalf hdata (.inr hmatches), latchBlock, if_neg hstep]

/-- A parameter block, repeated with ticks in between, ends with the result the application gives
it. -/
theorem AtRest.transfer (hK : K.Lawful) (hvalid : configRefused config = false)
    (hfits : A.Fits config) {s : System μ} {m : μ} (hs : AtRest K config s m)
    (r : UInt16 × UInt8 × List UInt8) :
  ∃ t, Retry.Ends (System.tick K A config) (fun _ => True)
      (System.call (awaited fun w => writeParameterBlock w r.1 r.2.1 r.2.2)) (4 * A.patience) s
      (t, (A.transfer (m, s.world.port.block) r).2) ∧
    AtRest K config t (A.transfer (m, s.world.port.block) r).1.1 ∧
    t.world.port.block = (A.transfer (m, s.world.port.block) r).1.2
  := by
  obtain ⟨index, subindex, data⟩ := r
  dsimp only
  simp only [Application.transfer]
  by_cases hdata : data.length > ISDU_BUFFER_SIZE - ISDU_WRITE_HEADER_MAX
  · rw [if_pos hdata]
    refine ⟨s, .now trivial ?_, hs, rfl⟩
    simp only [System.call, awaited, writeParameterBlock, if_pos hdata]
    rfl
  · rw [if_neg hdata]
    by_cases hbusy : (s.world.port.block.step ≠ .none
        && !blockMatches s.world.port.block index subindex data) = true
    · rw [if_pos hbusy]
      refine ⟨{ s with world := s.world.put (serviceResult s.world.port ISDU_ERR_BUSY) },
        .now trivial ?_, hs.put rfl, rfl⟩
      simp only [System.call, awaited, writeParameterBlock, if_neg hdata, if_pos hbusy]
      rfl
    · rw [if_neg hbusy]
      have honbehalf : OnBehalf s.world.port.block index subindex data := by
        simp only [ne_eq, Bool.and_eq_true, decide_eq_true_eq, Bool.not_eq_true', not_and,
          Bool.not_eq_false] at hbusy
        by_cases hnone : s.world.port.block.step = .none
        · exact .inl hnone
        · exact .inr (hbusy hnone)
      have hblock := latchBlock_block honbehalf
      obtain ⟨b, hport⟩ := latchBlock_port s.world index subindex data
      have hlatched : AtRest K config { s with world := latchBlock s.world index subindex data } m :=
        hs.put (d := s.world.port.diagnostics) hport
      have hentered : s.world.port.block.entered ≠ .none := by
        rw [BlockState.entered]
        split
        · decide
        · assumption
      obtain ⟨t, hends, ht⟩ := transferFrom_ends hK hvalid hfits
        (b := ⟨s.world.port.block.entered, index, subindex, data⟩) hentered hlatched hblock
      have hspec : A.transferFrom ⟨s.world.port.block.entered, index, subindex, data⟩ m
          = A.transferFrom ⟨s.world.port.block.step, index, subindex, data⟩ m := by
        rw [BlockState.entered]
        split
        · next hnone =>
          rw [hnone]
          rfl
        · rfl
      rw [hspec] at hends ht
      refine ⟨t, hends.enter ?_ ?_, ht⟩
      · simp only [System.call, awaited, writeParameterBlock_onBehalf hdata honbehalf]
      · intro u hu
        have hcall := hu.writeParameterBlock hdata
        dsimp only at hcall
        simp only [System.call, awaited, hcall]

/-- Ticks between calls leave the latched transfer alone. -/
theorem AtRest.ticks_block (hK : K.Lawful) (hvalid : configRefused config = false)
    (hfits : A.Fits config) {s : System μ} {m : μ} (h : AtRest K config s m) (n : Nat) :
  ((System.tick K A config)^[n] s).world.port.block = s.world.port.block
  := by
  induction n with
  | zero => rfl
  | succ n ih =>
      obtain ⟨od, hbetween⟩ := (h.ticks hK hvalid hfits n).between
      rw [Function.iterate_succ_apply', hbetween.tick_block hK hvalid, ih]

end

end IolinkMaster
