import Mathlib.Data.List.Basic

/-!
# The octets on the wire

The enumerations of the public header, the Master Command octet, the checksum /
M-sequence type octet and the frame codec of the device stack the master links
against, which is a parameter `Iolinki` with its documented behaviour
`Iolinki.Lawful`.
-/

namespace IolinkMaster

/-! ### Enumerations of the public header -/

/-- M-sequence type used on the wire for a port. -/
inductive MSeqType where
  | type0 | type1_1 | type1_2 | type1V | type2_1 | type2_2 | type2V
  deriving DecidableEq, Repr

/-- Communication state of a master port. -/
inductive MasterState where
  | inactive | startup | preoperate | operate | error
  deriving DecidableEq, Repr

/-- Operating mode selected for a master port pin. -/
inductive PortMode where
  | iolink | di | dq | deactivated
  deriving DecidableEq, Repr

/-- Transmission rate of the physical layer. -/
inductive Baudrate where
  | com1 | com2 | com3
  deriving DecidableEq, Repr

/-- Line mode of the physical layer. -/
inductive PhyMode where
  | inactive | sio | sdci
  deriving DecidableEq, Repr

/-- Scheduler stimulus passed to a tick. -/
inductive TickEvent where
  | none | cycleDue | responseTimeout
  deriving DecidableEq, Repr

/-- Device-identity inspection level. -/
inductive InspectionLevel where
  | noCheck | typeComp | identical
  deriving DecidableEq, Repr

/-! ### Result codes

Several negative codes share a value, as in the header. -/

def STATUS_OK : Int := 0
def STATUS_PENDING : Int := 1
def ERR_INVALID_ARG : Int := -1
def ERR_RETRY_LIMIT : Int := -2
def ERR_FRAME : Int := -2
def ERR_BUFFER_TOO_SMALL : Int := -2
def ERR_CHECKSUM : Int := -3
def PARAM_ERR_TOO_SHORT : Int := -2
def PARAM_ERR_REVISION : Int := -2
def PARAM_ERR_CYCLE_TIME : Int := -3
def PARAM_ERR_PD_SIZE : Int := -4
def PARAM_ERR_M_SEQUENCE : Int := -5
def PARAM_ERR_VENDOR_ID : Int := -6
def PARAM_ERR_DEVICE_ID : Int := -7
def PARAM_ERR_PD_DESCRIPTOR : Int := -8
def ISDU_ERR_BUFFER_TOO_SMALL : Int := -2
def ISDU_ERR_BUSY : Int := -3
def ISDU_ERR_DEVICE : Int := -4
def ISDU_ERR_INVALID_STATE : Int := -5
def ISDU_ERR_VERIFY_FAILED : Int := -6

/-! ### The Master Command octet -/

/-- Communication channel of a Master Command. -/
inductive McChannel where
  | process | page | diagnosis | isdu
  deriving DecidableEq, Repr

/-- The two bits of a channel in the Master Command. -/
def McChannel.code : McChannel → UInt8
  | .process => 0
  | .page => 1
  | .diagnosis => 2
  | .isdu => 3

def MC_RW_MASK : UInt8 := 0x80
def MC_COMM_CHANNEL_MASK : UInt8 := 0x60
def MC_COMM_CHANNEL_SHIFT : UInt8 := 5
def MC_ADDR_MASK : UInt8 := 0x1F

/-- Build a Master Command from direction, channel and address. -/
def encodeMasterCommand (read : Bool) (channel : McChannel) (address : UInt8) : UInt8 :=
  let mc := address &&& MC_ADDR_MASK
  let mc := mc ||| ((channel.code <<< MC_COMM_CHANNEL_SHIFT) &&& MC_COMM_CHANNEL_MASK)
  if read then mc ||| MC_RW_MASK else mc

/-- The direction of a Master Command: `true` from device to master. -/
def mcIsRead (mc : UInt8) : Bool := mc &&& MC_RW_MASK != 0

/-- The channel a Master Command addresses. -/
def mcChannel (mc : UInt8) : McChannel :=
  match (mc &&& MC_COMM_CHANNEL_MASK) >>> MC_COMM_CHANNEL_SHIFT with
  | 0 => .process
  | 1 => .page
  | 2 => .diagnosis
  | _ => .isdu

/-- The address bits of a Master Command. -/
def mcAddress (mc : UInt8) : UInt8 := mc &&& MC_ADDR_MASK

/-- A property of every octet, checked octet by octet. -/
theorem forall_octet {P : UInt8 → Prop} (h : ∀ n : Fin 256, P (UInt8.ofNat n)) (b : UInt8) :
  P b
  := by
  have hb := h ⟨b.toNat, b.toNat_lt⟩
  rw [UInt8.ofNat_toNat] at hb
  apply hb

/-- The direction of an encoded Master Command is the one it was built from. -/
@[simp]
theorem mcIsRead_encode (read : Bool) (channel : McChannel) (address : UInt8) :
  mcIsRead (encodeMasterCommand read channel address) = read
  := by
  revert address
  apply forall_octet
  cases read <;> cases channel <;> decide +kernel

/-- The channel of an encoded Master Command is the one it was built from. -/
@[simp]
theorem mcChannel_encode (read : Bool) (channel : McChannel) (address : UInt8) :
  mcChannel (encodeMasterCommand read channel address) = channel
  := by
  revert address
  apply forall_octet
  cases read <;> cases channel <;> decide +kernel

/-- The address of an encoded Master Command is the address modulo the mask. -/
@[simp]
theorem mcAddress_encode (read : Bool) (channel : McChannel) (address : UInt8) :
  mcAddress (encodeMasterCommand read channel address) = address &&& MC_ADDR_MASK
  := by
  revert address
  apply forall_octet
  cases read <;> cases channel <;> decide +kernel

/-! ### M-sequence types -/

/-- The M-sequence type field, bits 6 and 7 of the CKT octet. -/
def cktTypeBits : MSeqType → UInt8
  | .type1_1 | .type1_2 | .type1V => 0x40
  | .type2_1 | .type2_2 | .type2V => 0x80
  | .type0 => 0x00

/-- The number of on-request-data octets of an M-sequence type. -/
def odLenForType : MSeqType → Nat
  | .type1_2 => 2
  | .type1V => 8
  | .type2V => 2
  | _ => 1

theorem odLenForType_pos (t : MSeqType) :
  0 < odLenForType t
  := by
  cases t <;> decide

theorem odLenForType_le (t : MSeqType) :
  odLenForType t ≤ 8
  := by
  cases t <;> decide

/-! ### The frame codec of the device stack -/

def M_SEQ_HEADER_LEN : Nat := 2
def M_SEQ_TYPE0_LEN : Nat := 2
def CKS_EVENT : UInt8 := 0x80
def CKS_PD_INVALID : UInt8 := 0x40
def CKS_CHECKSUM_MASK : UInt8 := 0x3F

/-- What `iolink_frame_decode_operate_response` reports about a reply. -/
structure OperateResponse where
  checksumOk : Bool
  status : UInt8
  eventPending : Bool
  pdValid : Bool
  pd : List UInt8
  od : List UInt8
  deriving DecidableEq, Repr

/-- The functions of the device stack the master calls.  An encoder that fails
answers with no octet. -/
structure Iolinki where
  checksum6 : List UInt8 → UInt8
  encodeType0 : UInt8 → List UInt8
  encodeType0Write : UInt8 → UInt8 → List UInt8
  decodeOperateResponse : List UInt8 → Nat → Nat → Option OperateResponse

namespace Iolinki

variable (K : Iolinki)

/-- The CKS octet with the flags `flags` in bits 6 and 7 that closes the octets `body`. -/
def cks (flags : UInt8) (body : List UInt8) : UInt8 :=
  flags ||| K.checksum6 (body ++ [flags])

/-- The octets of a reply whose last one is a correct CKS octet. -/
def CksOk (reply : List UInt8) : Prop :=
  ∃ body c, reply = body ++ [c] ∧
    K.checksum6 (body ++ [c &&& 0xC0]) = c &&& CKS_CHECKSUM_MASK

/-- The documented behaviour of the codec: a TYPE_0 message is the Master Command and
the CKT octet, followed by the data octet of a write; a reply is the on-request data,
the process data and the CKS octet, and any other length is refused. -/
structure Lawful : Prop where
  checksum6_mask : ∀ data, K.checksum6 data &&& 0xC0 = 0
  encodeType0_eq : ∀ mc, K.encodeType0 mc = [mc, K.checksum6 [mc, 0]]
  encodeType0Write_eq : ∀ mc od, K.encodeType0Write mc od = [mc, K.checksum6 [mc, 0, od], od]
  decode_none_iff : ∀ data pdIn od,
    K.decodeOperateResponse data pdIn od = none ↔ data.length ≠ od + pdIn + 1
  decode_body : ∀ od pd c, ∃ r,
    K.decodeOperateResponse (od ++ pd ++ [c]) pd.length od.length = some r ∧
      r.checksumOk = decide (K.checksum6 (od ++ pd ++ [c &&& 0xC0]) = c &&& CKS_CHECKSUM_MASK) ∧
      r.status = c ∧ r.eventPending = (c &&& CKS_EVENT != 0) ∧
      (r.pdValid = true → c &&& CKS_PD_INVALID = 0 ∧ r.pd = pd) ∧ r.od = od

end Iolinki

/-- Verify the checksum of a TYPE_0 reply `[OD, CKS]`. -/
def type0ReplyOk (K : Iolinki) : List UInt8 → Bool
  | od :: cks :: _ => K.checksum6 [od, cks &&& 0xC0] == cks &&& 0x3F
  | _ => false

end IolinkMaster
