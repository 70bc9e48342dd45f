import IolinkMaster.Pacing

/-!
# The link quality

The share of successful cycles among all attempts, which the diagnostics report as a percentage.
The product by which it is computed exceeds 32 bits long before the counters do.
-/

namespace IolinkMaster

/-! ### Diagnostics -/

/-- The diagnostics of a port with what is measured when they are asked for. -/
structure DiagnosticsSnapshot where
  diagnostics : Diagnostics
  supplyVoltageMv : Int
  shortCircuit : Bool
  linkQualityPercent : UInt8
  deriving DecidableEq, Repr

/-- What the sensing hooks of the PHY return; none where the PHY has no such hook. -/
structure PhySensors where
  voltageMv : Option Int
  shortCircuit : Option Bool
  deriving DecidableEq, Repr

/-- The errors counted in the diagnostics, as the 32-bit sum the link quality is computed from. -/
def errorCount (d : Diagnostics) : UInt32 :=
  d.checksumErrors + d.sendErrors + d.responseTimeouts

/-- The diagnostics of a port. -/
def getDiagnostics (p : PortState) (sensors : PhySensors) : DiagnosticsSnapshot :=
  let totalCount := p.cycleCount + errorCount p.diagnostics
  { diagnostics := p.diagnostics
    supplyVoltageMv := sensors.voltageMv.getD 0
    shortCircuit := sensors.shortCircuit.getD false
    linkQualityPercent :=
      if totalCount = 0 then 100 else (p.cycleCount * 100 / totalCount).toUInt8 }

/-! ### Percentages -/

/-- The share of `c` successes among `c + e` attempts in percent, rounded down. -/
def sharePercent (c e : Nat) : Nat := if c + e = 0 then 100 else 100 * c / (c + e)

/-- A share is at most the whole. -/
theorem sharePercent_le (c e : Nat) :
  sharePercent c e ≤ 100
  := by
  simp only [sharePercent]
  split
  · apply Nat.le_refl
  · apply Nat.div_le_of_le_mul
    rw [Nat.mul_comm]
    apply Nat.mul_le_mul_right
    apply Nat.le_add_right

/-- A share of `q` percent means that `q` percent of the attempts succeeded at least. -/
theorem le_sharePercent {c e q : Nat} (hsome : c + e ≠ 0) :
  q ≤ sharePercent c e ↔ q * (c + e) ≤ 100 * c
  := by
  rw [sharePercent, if_neg hsome, Nat.le_div_iff_mul_le (Nat.pos_of_ne_zero hsome)]

/-- The share does not fall when the successes grow and the failures do not. -/
theorem sharePercent_mono {c c' e e' : Nat} (hc : c ≤ c') (he : e' ≤ e) :
  sharePercent c e ≤ sharePercent c' e'
  := by
  by_cases hnone : c' + e' = 0
  · rw [sharePercent, sharePercent, if_pos hnone]
    apply sharePercent_le
  · rw [le_sharePercent hnone]
    have hwhole := sharePercent_le c e
    by_cases hempty : c + e = 0
    · have hfailures : e' = 0 := by omega
      rw [hfailures, Nat.add_zero]
      apply Nat.mul_le_mul_right _ hwhole
    · have hshare := (le_sharePercent hempty).mp (Nat.le_refl (sharePercent c e))
      generalize sharePercent c e = q at *
      -- The failures take the rest of the hundred percent.
      have hrest : q * e ≤ (100 - q) * c := by
        rw [Nat.sub_mul]
        rw [Nat.mul_add] at hshare
        omega
      calc q * (c' + e')
          = q * c' + q * e' := Nat.mul_add q c' e'
        _ ≤ q * c' + q * e := Nat.add_le_add_left (Nat.mul_le_mul_left q he) _
        _ ≤ q * c' + (100 - q) * c := Nat.add_le_add_left hrest _
        _ ≤ q * c' + (100 - q) * c' := Nat.add_le_add_left (Nat.mul_le_mul_left _ hc) _
        _ = 100 * c' := by rw [← Nat.add_mul, Nat.add_sub_of_le hwhole]

/-- Reducing a dividend modulo a number not below the divisor does not change the quotient exactly
if it does not change the dividend. -/
theorem mod_div_eq_iff {x t m : Nat} (ht : 0 < t) (hm : t ≤ m) :
  x % m / t = x / t ↔ x < m
  := by
  constructor
  · intro heq
    by_contra hwraps
    rw [not_lt] at hwraps
    have hdrop : x % m + t ≤ x := by
      have hle : m ≤ x - x % m := by
        have hpos : 0 < x / m := Nat.div_pos hwraps (Nat.lt_of_lt_of_le ht hm)
        have hsplit := Nat.mod_add_div x m
        have hmul : m * 1 ≤ m * (x / m) := Nat.mul_le_mul_left m hpos
        omega
      omega
    have hquot := Nat.div_le_div_right (c := t) hdrop
    rw [Nat.add_div_right _ ht, heq] at hquot
    exact absurd hquot (Nat.not_succ_le_self _)
  · intro hlt
    rw [Nat.mod_eq_of_lt hlt]

/-! ### The reported share -/

/-- All errors counted in the diagnostics. -/
def errorTotal (d : Diagnostics) : Nat :=
  d.checksumErrors.toNat + d.sendErrors.toNat + d.responseTimeouts.toNat

/-- The true link quality of a port. -/
def trueQuality (p : PortState) : Nat := sharePercent p.cycleCount.toNat (errorTotal p.diagnostics)

/-- The link quality reported for a port. -/
def reportedQuality (p : PortState) (sensors : PhySensors) : Nat :=
  (getDiagnostics p sensors).linkQualityPercent.toNat

section

variable {p : PortState} (sensors : PhySensors)
  (hcounters : p.cycleCount.toNat + errorTotal p.diagnostics < 2 ^ 32)
include hcounters

/-- Counters whose sum fits 32 bits are added exactly. -/
theorem toNat_totalCount :
  (p.cycleCount + errorCount p.diagnostics).toNat
    = p.cycleCount.toNat + errorTotal p.diagnostics
  := by
  simp only [errorTotal] at hcounters ⊢
  simp only [errorCount, UInt32.toNat_add]
  omega

/-- What is reported: the product is taken modulo 2³². -/
theorem reportedQuality_eq :
  reportedQuality p sensors
    = if p.cycleCount.toNat + errorTotal p.diagnostics = 0 then 100
      else 100 * p.cycleCount.toNat % 2 ^ 32 / (p.cycleCount.toNat + errorTotal p.diagnostics)
  := by
  have htotal := toNat_totalCount hcounters
  simp only [reportedQuality, getDiagnostics, ← UInt32.toNat_inj, htotal, UInt32.toNat_zero]
  split
  · rfl
  · next hsome =>
    rw [UInt32.toNat_toUInt8, UInt32.toNat_div, UInt32.toNat_mul, htotal, Nat.mul_comm]
    have hwhole : 100 * p.cycleCount.toNat % 2 ^ 32 / (p.cycleCount.toNat + errorTotal p.diagnostics)
        ≤ 100 := by
      apply (Nat.div_le_div_right (Nat.mod_le _ _)).trans
      have hle := sharePercent_le p.cycleCount.toNat (errorTotal p.diagnostics)
      rw [sharePercent, if_neg hsome] at hle
      apply hle
    apply Nat.mod_eq_of_lt
    apply Nat.lt_of_le_of_lt hwhole (by decide)

/-- The reported link quality is a percentage. -/
theorem reportedQuality_le :
  reportedQuality p sensors ≤ 100
  := by
  rw [reportedQuality_eq sensors hcounters]
  split
  · apply Nat.le_refl
  · next hsome =>
    apply (Nat.div_le_div_right (Nat.mod_le _ _)).trans
    have hle := sharePercent_le p.cycleCount.toNat (errorTotal p.diagnostics)
    rw [sharePercent, if_neg hsome] at hle
    apply hle

/-- The reported link quality is the true one exactly as long as the product fits 32 bits. -/
theorem reportedQuality_true_iff :
  reportedQuality p sensors = trueQuality p ↔ 100 * p.cycleCount.toNat < 2 ^ 32
  := by
  rw [reportedQuality_eq sensors hcounters, trueQuality, sharePercent]
  split
  · next hnone =>
    have hzero : p.cycleCount.toNat = 0 := (Nat.add_eq_zero_iff.mp hnone).1
    rw [hzero]
    decide
  · next hsome => apply mod_div_eq_iff (Nat.pos_of_ne_zero hsome) (Nat.le_of_lt hcounters)

end

/-- For all counters whose sum fits 32 bits the reported link quality is the true percentage, rounded
down, exactly as long as a hundred times the cycles fit 32 bits, too.  It is at most 100, and up
to that bound it does not fall when the cycles grow and the errors do not. -/
theorem link_quality_true (p : PortState) (sensors : PhySensors)
    (hcounters : p.cycleCount.toNat + errorTotal p.diagnostics < 2 ^ 32) :
  (reportedQuality p sensors = trueQuality p ↔ 100 * p.cycleCount.toNat < 2 ^ 32) ∧
  reportedQuality p sensors ≤ 100 ∧
  ∀ q sensors', q.cycleCount.toNat + errorTotal q.diagnostics < 2 ^ 32 →
    100 * q.cycleCount.toNat < 2 ^ 32 → p.cycleCount ≤ q.cycleCount →
      errorTotal q.diagnostics ≤ errorTotal p.diagnostics →
        reportedQuality p sensors ≤ reportedQuality q sensors'
  := by
  refine ⟨reportedQuality_true_iff sensors hcounters, reportedQuality_le sensors hcounters, ?_⟩
  intro q sensors' hfits hq hcycles herrors
  rw [UInt32.le_iff_toNat_le] at hcycles
  have hp : 100 * p.cycleCount.toNat < 2 ^ 32 :=
    Nat.lt_of_le_of_lt (Nat.mul_le_mul_left 100 hcycles) hq
  rw [(reportedQuality_true_iff sensors hcounters).mpr hp,
    (reportedQuality_true_iff sensors' hfits).mpr hq]
  apply sharePercent_mono hcycles herrors

/-! ### A day of cycles -/

/-- The port exchanges process data, and no acyclic service has anything to send. -/
structure Cycling (p : PortState) : Prop where
  state : p.state = .operate
  send : p.phy.send = true
  event : p.event.phase = .none
  isdu : p.isdu = IsduState.zero

/-- A slot of such a port counts a cycle and no error. -/
theorem process_counts {K : Iolinki} (hK : K.Lawful) {env : Env} (henv : env.Transmits) {w : World}
    (h : Cycling w.port) :
  Cycling (runCall K env w .process).port ∧
    (runCall K env w .process).port.cycleCount = w.port.cycleCount + 1 ∧
    (runCall K env w .process).port.diagnostics = w.port.diagnostics
  := by
  have hevent : sendEvent K env w.openSlot = (w.openSlot, false) := by
    simp [sendEvent, eventChannelAccess, h.event]
  have hisdu : sendIsdu K env w.openSlot = (w.openSlot, false) := by
    rw [sendIsdu_eq]
    simp [isduNext, h.isdu, IsduState.zero]
  have hfill : ∀ n, (isduFillOd w.port.isdu n).2 = w.port.isdu := by
    intro n
    simp [isduFillOd, h.isdu, IsduState.zero]
  have hprocess : runCall K env w .process = processCyclic K env w.openSlot := by
    simp [runCall, processAt, h.state, h.send, sendGated, processOperate, hevent, hisdu]
  rw [hprocess]
  simp only [processCyclic]
  rw [if_neg (cyclicFrame_ne_nil hK _ _ _ _), sendFull_transmits henv]
  refine ⟨⟨h.state, h.send, h.event, ?_⟩, rfl, rfl⟩
  exact (hfill _).trans h.isdu

/-- Any number of cycles is counted without an error. -/
theorem processes_count {K : Iolinki} (hK : K.Lawful) {env : Env} (henv : env.Transmits)
    {phy : PhyApi} {config : Config} (n : Nat) {w : World}
    (hw : Reach K (fun _ _ _ => True) phy config w) (h : Cycling w.port) :
  Reach K (fun _ _ _ => True) phy config (run K w (List.replicate n (env, .process))) ∧
    (run K w (List.replicate n (env, .process))).port.cycleCount
      = w.port.cycleCount + UInt32.ofNat n ∧
    (run K w (List.replicate n (env, .process))).port.diagnostics = w.port.diagnostics
  := by
  induction n generalizing w with
  | zero =>
      rw [List.replicate_zero, run_nil]
      exact ⟨hw, (UInt32.add_zero _).symm, rfl⟩
  | succ n ih =>
      obtain ⟨hcycling, hcount, hsame⟩ := process_counts hK henv h
      obtain ⟨hreach, hcounts, hkept⟩ := ih (.call env .process hw trivial) hcycling
      rw [List.replicate_succ, run_cons]
      refine ⟨hreach, ?_, hkept.trans hsame⟩
      rw [hcounts, hcount, UInt32.add_assoc]
      congr 1
      rw [UInt32.add_comm, UInt32.ofNat_add]
      rfl

/-- A port of type 2.1 connects and sends its first cyclic frame. -/
def firstCycle : List (Env × Call) :=
  connecting ++ [(.quiet (reply 0 []), .tickAt .cycleDue 14)]

/-- A quarter of the cycles of a day without an error. -/
theorem link_quality_true_perfect :
  reportedQuality { zeroPort .full (.bare .type2_1 1 1) with cycleCount := 10000000 } ⟨none, none⟩
    = 100
  := by
  have hquality := (link_quality_true
    { zeroPort .full (.bare .type2_1 1 1) with cycleCount := 10000000 } ⟨none, none⟩
    (by decide)).1.mpr (by decide)
  rw [hquality]
  decide

/-- After 42949673 cycles without an error the reported link quality is 0. -/
theorem link_quality_true_overflow :
  ∃ w : World, Reach .reference (fun _ _ _ => True) .full (.bare .type2_1 1 1) w ∧
    w.port.cycleCount = 42949673 ∧ errorTotal w.port.diagnostics = 0 ∧
    trueQuality w.port = 100 ∧ ∀ sensors, reportedQuality w.port sensors = 0
  := by
  have hstart : Reach .reference (fun _ _ _ => True) .full (.bare .type2_1 1 1)
      (run .reference (started (.quiet []) .full (.bare .type2_1 1 1)) firstCycle) := by
    apply (Reach.start _ (by decide)).run
    decide +kernel
  have hcycling : Cycling
      (run .reference (started (.quiet []) .full (.bare .type2_1 1 1)) firstCycle).port := by
    refine ⟨?_, ?_, ?_, ?_⟩ <;> decide +kernel
  have hcounted : (run .reference (started (.quiet []) .full (.bare .type2_1 1 1))
      firstCycle).port.cycleCount = 1 := by
    decide +kernel
  have hclean : errorTotal (run .reference (started (.quiet []) .full (.bare .type2_1 1 1))
      firstCycle).port.diagnostics = 0 := by
    decide +kernel
  obtain ⟨hreach, hcount, hsame⟩ := processes_count Iolinki.lawful_reference
    (Env.transmits_quiet []) 42949672 hstart hcycling
  generalize run .reference _ (List.replicate _ _) = w at *
  rw [hcounted] at hcount
  rw [← hsame] at hclean
  have hcycles : w.port.cycleCount = 42949673 := hcount
  have hnat : w.port.cycleCount.toNat = 42949673 := by
    rw [hcycles]
    rfl
  refine ⟨w, hreach, hcycles, hclean, ?_, ?_⟩
  · rw [trueQuality, hnat, hclean]
    decide
  · intro sensors
    rw [reportedQuality_eq sensors (by rw [hnat, hclean]; decide), hnat, hclean]
    decide

end IolinkMaster
