import IolinkMaster.Wire

/-!
# A reference codec

The message checksum and the frame codec as the repository's tests compute them, and
the proof that they have the documented behaviour of the device stack's codec.
-/

namespace IolinkMaster

/-- Bit `i` of an octet. -/
def octetBit (b : UInt8) (i : UInt8) : UInt8 := (b >>> i) &&& 0x01

/-- Compress the XOR of a message to the six checksum bits. -/
def compressChecksum (c : UInt8) : UInt8 :=
  ((octetBit c 7 ^^^ octetBit c 5 ^^^ octetBit c 3 ^^^ octetBit c 1) <<< 5) |||
  ((octetBit c 6 ^^^ octetBit c 4 ^^^ octetBit c 2 ^^^ octetBit c 0) <<< 4) |||
  ((octetBit c 7 ^^^ octetBit c 6) <<< 3) |||
  ((octetBit c 5 ^^^ octetBit c 4) <<< 2) |||
  ((octetBit c 3 ^^^ octetBit c 2) <<< 1) |||
  (octetBit c 1 ^^^ octetBit c 0)

/-- The message checksum: seed, XOR, compression. -/
def wireCk6 (octets : List UInt8) : UInt8 := compressChecksum (octets.foldl (· ^^^ ·) 0x52)

example : wireCk6 [0xA2, 0x00] = 0x00 := by decide
example : wireCk6 [0x1E, 0x00] = 0x28 := by decide

/-- Decode an OPERATE reply of the given process-data and on-request-data widths. -/
def wireDecode (data : List UInt8) (pdInLen odLen : Nat) : Option OperateResponse :=
  if data.length ≠ odLen + pdInLen + 1 then none
  else
    let cks := data.getLastD 0
    let body := data.dropLast
    some
      { checksumOk := decide (wireCk6 (body ++ [cks &&& 0xC0]) = cks &&& CKS_CHECKSUM_MASK)
        status := cks
        eventPending := cks &&& CKS_EVENT != 0
        pdValid := cks &&& CKS_PD_INVALID == 0
        pd := body.drop odLen
        od := body.take odLen }

/-- The reference codec. -/
def Iolinki.reference : Iolinki where
  checksum6 := wireCk6
  encodeType0 mc := [mc, wireCk6 [mc, 0]]
  encodeType0Write mc od := [mc, wireCk6 [mc, 0, od], od]
  decodeOperateResponse := wireDecode

/-- The compressed checksum fits six bits. -/
theorem compressChecksum_mask (c : UInt8) :
  compressChecksum c &&& 0xC0 = 0
  := by
  revert c
  apply forall_octet
  decide +kernel

/-- The reference codec has the documented behaviour. -/
theorem Iolinki.lawful_reference :
  Iolinki.reference.Lawful
  := by
  constructor
  · intro data
    apply compressChecksum_mask
  · intro mc
    rfl
  · intro mc od
    rfl
  · intro data pdIn od
    simp only [Iolinki.reference, wireDecode]
    split
    · next h => simp [h]
    · next h => simp [h]
  · intro od pd c
    have hlen : (od ++ pd ++ [c]).length = od.length + pd.length + 1 := by
      simp only [List.length_append, List.length_singleton]
    have hbody : (od ++ pd ++ [c]).dropLast = od ++ pd := List.dropLast_concat
    have hlast : (od ++ pd ++ [c]).getLastD 0 = c := by simp
    simp only [Iolinki.reference, wireDecode, hlen, ne_eq, not_true_eq_false, if_false, hbody,
      hlast]
    refine ⟨_, rfl, ?_⟩
    simp

end IolinkMaster
