import IolinkMaster.Encoding
import IolinkMaster.Runs

/-!
# Accepted payload lengths

The requests that have a conformant length field, direct or with ExtLength, beside the
three length guards of `write_isdu`.
-/

namespace IolinkMaster

/-! ### Conformant lengths -/

/-- A conformant encoding of the request exists: its total length fits the Length nibble, or
with the ExtLength octet counted it is an allowed value of ExtLength. -/
def HasEncoding (r : IsduRequest) : Prop :=
  requestTotal r ≤ 15 ∨ (17 ≤ requestTotal r + 1 ∧ requestTotal r + 1 ≤ 238)

instance (r : IsduRequest) : Decidable (HasEncoding r) :=
  inferInstanceAs (Decidable (_ ∨ _ ∧ _))

/-- The length field of an octet stream is conformant: a Length nibble of 2 to 15, or the
nibble 1 with an ExtLength of 17 to 238. -/
def LengthConformant (octets : List UInt8) : Prop :=
  2 ≤ (octets.getD 0 0 &&& 0x0F).toNat ∨
    ((octets.getD 0 0 &&& 0x0F).toNat = 1 ∧
      17 ≤ (octets.getD 1 0).toNat ∧ (octets.getD 1 0).toNat ≤ 238)

/-- A request that has an encoding has an octet stream with a conformant length field that decodes
to it. -/
theorem hasEncoding_decodes (read : Bool) (index : UInt16) (subindex : UInt8)
    (payload : List UInt8) (h : HasEncoding ⟨read, index, subindex, payload⟩) :
  ∃ octets, LengthConformant octets ∧
    decodeRequest octets = some ⟨read, index, subindex, payload⟩
  := by
  have h1 := isduIndexLen_pos index subindex
  have h3 := isduIndexLen_le index subindex
  simp only [HasEncoding, requestTotal] at h
  by_cases hdirect : isduIndexLen index subindex + payload.length + 2 ≤ 15
  · refine ⟨_, ?_, decodeRequest_direct read index subindex payload hdirect⟩
    left
    simp only [withChkpdu, List.cons_append, List.getD_cons_zero, head_nibble read h1 h3 hdirect]
    omega
  · have hbound : isduIndexLen index subindex + payload.length + 3 ≤ 255 := by omega
    refine ⟨_, ?_, decodeRequest_extended read index subindex payload hbound⟩
    right
    simp only [withChkpdu, List.cons_append, List.getD_cons_zero, List.getD_cons_succ,
      head_nibble read h1 h3 (show 1 ≤ 15 by decide), UInt8.toNat_ofNat', true_and]
    omega

/-! ### The guards of `write_isdu` -/

/-- The guards let the payloads pass that have a conformant length, but for one total
length. -/
theorem isduWriteTooLong_iff (index : UInt16) (subindex : UInt8) (payload : List UInt8) :
  isduWriteTooLong index subindex payload.length = false ↔
    HasEncoding ⟨false, index, subindex, payload⟩ ∧
      requestTotal ⟨false, index, subindex, payload⟩ ≠ 16
  := by
  have h3 := isduIndexLen_le index subindex
  simp only [HasEncoding, requestTotal]
  constructor
  · intro h
    obtain ⟨-, hle, h16⟩ := isduWriteTotal_eq h
    omega
  · intro h
    have htotal : isduWriteTotal index subindex payload.length
        = isduIndexLen index subindex + payload.length + 2 := by
      simp only [isduWriteTotal, ISDU_CHKPDU_LEN]
      omega
    simp only [isduWriteTooLong, Bool.or_eq_false_iff, decide_eq_false_iff_not]
    simp only [htotal, ISDU_BUFFER_SIZE, ISDU_WRITE_HEADER_MAX, ISDU_EXT_MAX]
    split <;> omega

/-- A write that finds the transport free starts the service, or is refused for its length. -/
theorem writeIsdu_free {w : World} (hfree : Free w.port) (index : UInt16) (subindex : UInt8)
    (data : List UInt8) :
  (writeIsdu w index subindex data).2
      = (if isduWriteTooLong index subindex data.length then ISDU_ERR_BUFFER_TOO_SMALL
        else STATUS_PENDING) ∧
    (writeIsdu w index subindex data).1.port
      = (if isduWriteTooLong index subindex data.length then w.port
        else { w.port with isdu := isduStartWrite w.port.isdu index subindex data })
  := by
  simp only [writeIsdu, writeIsduBody, hfree.available, hfree.busy, hfree.done, Bool.not_true,
    Bool.false_eq_true, if_false]
  constructor
  · split <;> rfl
  · split <;> rfl

/-- The call starts the service. -/
structure StartsWrite (w : World) (index : UInt16) (subindex : UInt8) (data : List UInt8) :
    Prop where
  pending : (writeIsdu w index subindex data).2 = STATUS_PENDING
  started : (writeIsdu w index subindex data).1.port
    = { w.port with isdu := isduStartWrite w.port.isdu index subindex data }

/-- The call is refused as too long, and the ISDU state stays. -/
structure RefusesLength (w : World) (index : UInt16) (subindex : UInt8) (data : List UInt8) :
    Prop where
  small : (writeIsdu w index subindex data).2 = ISDU_ERR_BUFFER_TOO_SMALL
  kept : (writeIsdu w index subindex data).1.port.isdu = w.port.isdu

/-- The call starts the service exactly when its request has a conformant encoding, and is
refused otherwise. -/
structure ExactLength (w : World) (index : UInt16) (subindex : UInt8) (data : List UInt8) :
    Prop where
  starts : StartsWrite w index subindex data ↔ HasEncoding ⟨false, index, subindex, data⟩
  refuses : ¬ HasEncoding ⟨false, index, subindex, data⟩ → RefusesLength w index subindex data

/-- The acceptance of a payload is exact, except for the total length of 16 octets: it has an
ExtLength of 17, but the guards compare the length without the ExtLength octet with the
reserved value.  A request that has a conformant encoding is what some octets with a conformant
length field decode to. -/
theorem write_length_exact {w : World} (hfree : Free w.port) (index : UInt16) (subindex : UInt8)
    (data : List UInt8) :
  (ExactLength w index subindex data ↔ requestTotal ⟨false, index, subindex, data⟩ ≠ 16) ∧
  (HasEncoding ⟨false, index, subindex, data⟩ → ∃ octets, LengthConformant octets ∧
    decodeRequest octets = some ⟨false, index, subindex, data⟩)
  := by
  obtain ⟨hret, hport⟩ := writeIsdu_free hfree index subindex data
  have hguard := isduWriteTooLong_iff index subindex data
  refine ⟨?_, hasEncoding_decodes false index subindex data⟩
  constructor
  · intro h h16
    have hencoding : HasEncoding ⟨false, index, subindex, data⟩ := by
      right
      omega
    have hlong : isduWriteTooLong index subindex data.length = true := by
      rw [← Bool.not_eq_false, hguard]
      rintro ⟨-, hne⟩
      contradiction
    have hpending := (h.starts.mpr hencoding).pending
    rw [hret, if_pos hlong] at hpending
    contradiction
  · intro h16
    by_cases hencoding : HasEncoding ⟨false, index, subindex, data⟩
    · have hshort := hguard.mpr ⟨hencoding, h16⟩
      rw [hshort, if_neg Bool.false_ne_true] at hret hport
      constructor
      · constructor
        · intro _
          apply hencoding
        · intro _
          constructor
          · apply hret
          · apply hport
      · intro hnot
        contradiction
    · have hlong : isduWriteTooLong index subindex data.length = true := by
        rw [← Bool.not_eq_false, hguard]
        rintro ⟨h, -⟩
        contradiction
      rw [if_pos hlong] at hret hport
      constructor
      · constructor
        · intro hstarts
          rw [hstarts.pending] at hret
          contradiction
        · intro h
          contradiction
      · intro _
        constructor
        · apply hret
        · rw [hport]

/-- A port of type 2.1 brought into PREOPERATE by its first test message. -/
def connectedPort : World :=
  run .reference (started (.quiet []) .full (Config.bare .type2_1 1 1)) connecting

/-- The port is free for a service. -/
theorem free_connectedPort : Free connectedPort.port
  := by
  constructor <;> decide +kernel

/-- At a connected port a write of two octets to index 0x10 starts, and one of 250 octets is
refused. -/
theorem write_length_exact_connected :
  ExactLength connectedPort 0x10 0 [1, 2] ∧
    ExactLength connectedPort 0x10 0 (List.replicate 250 0)
  := by
  constructor
  · rw [(write_length_exact free_connectedPort _ _ _).1]
    decide
  · rw [(write_length_exact free_connectedPort _ _ _).1]
    decide +kernel

/-- A connected port refuses a write of 13 octets to index 0x10, whose request of 17 octets
with ExtLength is conformant. -/
theorem write_length_refused :
  Reach .reference ticksAndServices .full (Config.bare .type2_1 1 1) connectedPort ∧
  Free connectedPort.port ∧ HasEncoding ⟨false, 0x10, 0, List.replicate 13 0⟩ ∧
  ¬ ExactLength connectedPort 0x10 0 (List.replicate 13 0)
  := by
  constructor
  · apply (Reach.start _ (by decide)).run
    decide +kernel
  · refine ⟨free_connectedPort, by decide, ?_⟩
    intro h
    have hpending := (h.starts.mpr (by decide)).pending
    revert hpending
    decide +kernel

end IolinkMaster
