import IolinkMaster.Library.Numeral
import IolinkMaster.ProcessData

/-!
# The gateway record

A port is reported to a gateway as one line of text that names the device and gives its process
data.  The line is assembled in a buffer of its own and copied out whole or not at all; reading it
back gives exactly what it was made of.
-/

namespace IolinkMaster

/-! ### Writing text -/

def GATEWAY_LINE_MAX : Nat := 128

/-- The character that ends a string. -/
def NUL : Char := Char.ofNat 0

/-- A buffer of `n` characters in which a string is assembled: the first `used` characters are its
text so far, and the terminator follows them. -/
structure GatewayText (n : Nat) where
  out : Vector Char n
  used : Nat
  used_lt : used < n
  terminated : out[used] = NUL

/-- The empty string in a buffer that may contain anything. -/
def GatewayText.empty {n : Nat} (line : Vector Char n) (h : 0 < n) : GatewayText n where
  out := line.set 0 NUL h
  used := 0
  used_lt := h
  terminated := by simp

/-- The text assembled so far. -/
def GatewayText.text {n : Nat} (t : GatewayText n) : List Char := t.out.toList.take t.used

/-- Append a character and terminate the string after it, if both fit. -/
def gatewayAppend {n : Nat} (t : GatewayText n) (ch : Char) : Option (GatewayText n) :=
  if h : t.used + 2 > n then none
  else
    some
      { out := (t.out.set t.used ch t.used_lt).set (t.used + 1) NUL (by omega)
        used := t.used + 1
        used_lt := by omega
        terminated := by simp }

/-- Append characters one after the other. -/
def gatewayAppendStr {n : Nat} (t : GatewayText n) : List Char → Option (GatewayText n)
  | [] => some t
  | ch :: text => gatewayAppend t ch >>= fun t => gatewayAppendStr t text

/-- The decimal digits of `n`, the last one first, in an array of `room` characters. -/
def gatewayDigits : Nat → UInt8 → Option (List Char)
  | 0, _ => none
  | room + 1, n =>
    let digit := Char.ofNat ('0'.toNat + (n % 10).toNat)
    if n / 10 ≠ 0 then (gatewayDigits room (n / 10)).map (digit :: ·) else some [digit]

/-- Append a decimal number; its digits are collected in an array of three. -/
def gatewayAppendU8Dec {n : Nat} (t : GatewayText n) (value : UInt8) : Option (GatewayText n) :=
  gatewayDigits 3 value >>= fun digits => gatewayAppendStr t digits.reverse

/-- The hexadecimal digits. -/
def K_HEX : List Char := "0123456789abcdef".toList

/-- Append the lowest hexadecimal digits of `value`, as many as `width` says. -/
def gatewayAppendHex {n : Nat} (t : GatewayText n) (value : UInt32) :
    Nat → Option (GatewayText n)
  | 0 => some t
  | i + 1 =>
    gatewayAppend t (K_HEX.getD ((value >>> UInt32.ofNat (i * 4)) &&& 0x0F).toNat NUL) >>=
      fun t => gatewayAppendHex t value i

/-- Append octets as pairs of hexadecimal digits. -/
def gatewayAppendPd {n : Nat} (t : GatewayText n) : List UInt8 → Option (GatewayText n)
  | [] => some t
  | b :: pd => gatewayAppendHex t b.toUInt32 2 >>= fun t => gatewayAppendPd t pd

/-- Append the first `pdInLen` octets of the process data, or a dash for none. -/
def gatewayAppendPdIn {n : Nat} (t : GatewayText n) (pd : List UInt8) (pdInLen : UInt8) :
    Option (GatewayText n) :=
  if pdInLen = 0 then gatewayAppend t '-' else gatewayAppendPd t (pd.take pdInLen.toNat)

/-- What every line starts with. -/
def GATEWAY_PREFIX : List Char := "iolinki-gw/1 ".toList

/-- Assemble the line in the buffer `line`. -/
def gatewayAssemble (line : Vector Char GATEWAY_LINE_MAX) (portIndex : UInt8) (info : DeviceInfo)
    (pd : List UInt8) (pdInLen : UInt8) : Option (GatewayText GATEWAY_LINE_MAX) := do
  let t := GatewayText.empty line (by decide)
  let t ← gatewayAppendStr t GATEWAY_PREFIX
  let t ← gatewayAppendU8Dec t portIndex
  let t ← gatewayAppend t ' '
  let t ← gatewayAppendHex t info.vendorId.toUInt32 4
  let t ← gatewayAppend t ' '
  let t ← gatewayAppendHex t info.deviceId 8
  let t ← gatewayAppend t ' '
  let t ← gatewayAppendPdIn t pd pdInLen
  gatewayAppend t '\n'

/-- Format the line of a port into `out`.  `pdIn` is absent where the caller passes no pointer, and
`line` is what the buffer of the function contains when it is entered. -/
def formatGatewayLine (line : Vector Char GATEWAY_LINE_MAX) (portIndex : UInt8)
    (info : DeviceInfo) (pdIn : Option (List UInt8)) (pdInLen : UInt8) (out : List Char) :
    Int × List Char :=
  if out.length = 0 ∨ info.valid = false ∨ pdInLen.toNat > PD_IN_MAX_SIZE ∨
      pdInLen > 0 ∧ pdIn = none then
    (ERR_INVALID_ARG, out)
  else
    match gatewayAssemble line portIndex info (pdIn.getD []) pdInLen with
    | none => (ERR_BUFFER_TOO_SMALL, out)
    | some t =>
      if t.used + 1 > out.length then (ERR_BUFFER_TOO_SMALL, out)
      else (STATUS_OK, t.out.toList.take (t.used + 1) ++ out.drop (t.used + 1))

/-- Format the line of the device and the process data of a port into `out`. -/
def writeGatewayLine (line : Vector Char GATEWAY_LINE_MAX) (p : PortState) (portIndex : UInt8)
    (out : List Char) : Int × List Char :=
  if out.length = 0 then (ERR_INVALID_ARG, out)
  else
    let (ret, info) := getDeviceInfo p
    if ret ≠ STATUS_OK then (ret, out)
    else
      let (ret, pdLen, pd) := getPdIn p PD_IN_MAX_SIZE
      if ret = STATUS_PENDING then formatGatewayLine line portIndex info none 0 out
      else if ret ≠ STATUS_OK then (ret, out)
      else formatGatewayLine line portIndex info (some pd) (UInt8.ofNat pdLen) out

/-! ### The grammar of the line -/

/-- What a line says. -/
structure GatewayRecord where
  portIndex : UInt8
  vendorId : UInt16
  deviceId : UInt32
  pd : List UInt8
  deriving DecidableEq, Repr

/-- The hexadecimal digits of `n`, as many as `w` says. -/
def hexField (w n : Nat) : List Char := Numeral.fixed Nat.digitChar 16 w n

/-- The process data in hexadecimal pairs, or a dash for none. -/
def pdField (pd : List UInt8) : List Char :=
  if pd = [] then ['-'] else pd.flatMap fun b => hexField 2 b.toNat

/-- The first field of every line. -/
def GATEWAY_FORMAT : List Char := "iolinki-gw/1".toList

/-- The fields of the line of a record. -/
def GatewayRecord.fields (r : GatewayRecord) : List (List Char) :=
  [GATEWAY_FORMAT, Nat.toDigits 10 r.portIndex.toNat, hexField 4 r.vendorId.toNat,
    hexField 8 r.deviceId.toNat, pdField r.pd]

/-- The line of a record. -/
def GatewayRecord.line (r : GatewayRecord) : List Char := [' '].intercalate r.fields ++ ['\n']

/-- Read a field of hexadecimal digits. -/
def readHex (cs : List Char) : Option Nat := Numeral.read Nat.digitChar 16 cs

/-- Read octets from pairs of hexadecimal digits. -/
def readPairs : List Char → Option (List UInt8)
  | [] => some []
  | [_] => none
  | c :: d :: cs => do
    let n ← readHex [c, d]
    let bs ← readPairs cs
    some (UInt8.ofNat n :: bs)

/-- Read the process data. -/
def readPd (cs : List Char) : Option (List UInt8) :=
  if cs = ['-'] then some [] else if cs = [] then none else readPairs cs

/-- Read a record from a line. -/
def decodeGatewayLine (line : List Char) : Option GatewayRecord :=
  if line.getLast? = some '\n' then
    match line.dropLast.splitOn ' ' with
    | [magic, port, vendor, device, pd] =>
      if magic = GATEWAY_FORMAT ∧ vendor.length = 4 ∧ device.length = 8 then do
        let portIndex ← Numeral.read Nat.digitChar 10 port
        let vendorId ← readHex vendor
        let deviceId ← readHex device
        let pd ← readPd pd
        if portIndex < 256 then
          some ⟨UInt8.ofNat portIndex, UInt16.ofNat vendorId, UInt32.ofNat deviceId, pd⟩
        else none
      else none
    | _ => none
  else none

/-- The string in a buffer. -/
def cString (out : List Char) : List Char := out.takeWhile fun ch => ch ≠ NUL

/-! ### The text in the buffer -/

section Text

variable {n : Nat} {f g : GatewayText n → Option (GatewayText n)} {s r : List Char}

@[simp]
theorem GatewayText.length_text (t : GatewayText n) :
  t.text.length = t.used
  := by
  have hlt := t.used_lt
  simp [GatewayText.text, Nat.le_of_lt hlt]

/-- The terminator follows the text. -/
theorem GatewayText.take_succ (t : GatewayText n) :
  t.out.toList.take (t.used + 1) = t.text ++ [NUL]
  := by
  have hlen : t.used < t.out.toList.length := by
    rw [Vector.length_toList]
    apply t.used_lt
  rw [GatewayText.text, ← List.take_append_getElem hlen, Vector.getElem_toList, t.terminated]

/-- `f` appends the text `s` to every buffer in which it fits with its terminator. -/
def Appends (f : GatewayText n → Option (GatewayText n)) (s : List Char) : Prop :=
  ∀ t, t.used + s.length < n → ∃ t', f t = some t' ∧ t'.text = t.text ++ s

/-- A text in the buffer is as long as what was appended. -/
theorem used_of_text {t t' : GatewayText n} (h : t'.text = t.text ++ s) :
  t'.used = t.used + s.length
  := by
  rw [← t'.length_text, h, List.length_append, t.length_text]

/-- One text is appended after the other. -/
theorem Appends.bind (hf : Appends f s) (hg : Appends g r) :
  Appends (fun t => f t >>= g) (s ++ r)
  := by
  intro t hroom
  rw [List.length_append] at hroom
  obtain ⟨t₁, h₁, htext₁⟩ := hf t (by omega)
  have hused := used_of_text htext₁
  obtain ⟨t₂, h₂, htext₂⟩ := hg t₁ (by omega)
  use t₂
  constructor
  · simp only [h₁]
    apply h₂
  · rw [htext₂, htext₁, List.append_assoc]

/-- Appending nothing. -/
theorem appends_nil :
  Appends (n := n) some []
  := by
  intro t hroom
  use t
  simp

theorem appends_append (ch : Char) :
  Appends (n := n) (fun t => gatewayAppend t ch) [ch]
  := by
  intro t hroom
  have hfits : ¬ t.used + 2 > n := by
    rw [List.length_singleton] at hroom
    omega
  have hlen : t.used < t.out.toList.length := by
    rw [Vector.length_toList]
    apply t.used_lt
  simp only [gatewayAppend, hfits, dif_neg, not_false_eq_true]
  refine ⟨_, rfl, ?_⟩
  -- The terminator is written behind the character.
  simp only [GatewayText.text, Vector.toList_set]
  rw [List.take_set_of_le (Nat.le_refl _), List.take_set, List.take_succ_eq_append_getElem hlen,
    List.set_append_right _ _ (by simp), List.length_take, Nat.min_eq_left (Nat.le_of_lt hlen),
    Nat.sub_self, List.set_cons_zero]

theorem appends_appendStr (text : List Char) :
  Appends (n := n) (fun t => gatewayAppendStr t text) text
  := by
  induction text with
  | nil => apply appends_nil
  | cons ch text ih => apply (appends_append ch).bind ih

/-- The hexadecimal digits are those of the alphabet. -/
theorem k_hex_eq {d : Nat} (h : d < 16) :
  K_HEX.getD d NUL = Nat.digitChar d
  := by
  have hall : ∀ d < 16, K_HEX.getD d NUL = Nat.digitChar d := by decide
  apply hall d h

/-- A nibble of a number is one of its hexadecimal digits. -/
theorem nibble_eq (value : UInt32) {i : Nat} (hi : i < 8) :
  ((value >>> UInt32.ofNat (i * 4)) &&& 0x0F).toNat = value.toNat / 16 ^ i % 16
  := by
  have hshift : (UInt32.ofNat (i * 4)).toNat % 32 = i * 4 := by
    rw [UInt32.toNat_ofNat']
    omega
  have hmask : (0x0F : UInt32).toNat = 2 ^ 4 - 1 := by decide
  rw [UInt32.toNat_and, UInt32.toNat_shiftRight, hshift, hmask, Nat.and_two_pow_sub_one_eq_mod,
    Nat.shiftRight_eq_div_pow, Nat.mul_comm, Nat.pow_mul]

theorem appends_appendHex (value : UInt32) {w : Nat} (hw : w ≤ 8) :
  Appends (n := n) (fun t => gatewayAppendHex t value w) (hexField w value.toNat)
  := by
  induction w with
  | zero => apply appends_nil
  | succ w ih =>
      have hdigit : K_HEX.getD ((value >>> UInt32.ofNat (w * 4)) &&& 0x0F).toNat NUL
          = Nat.digitChar (value.toNat / 16 ^ w % 16) := by
        rw [nibble_eq value (by omega), k_hex_eq (Nat.mod_lt _ (by decide))]
      have hboth : Appends (n := n) (fun t => gatewayAppendHex t value (w + 1))
          ([K_HEX.getD ((value >>> UInt32.ofNat (w * 4)) &&& 0x0F).toNat NUL]
            ++ hexField w value.toNat) :=
        (appends_append _).bind (ih (by omega))
      rw [hdigit] at hboth
      apply hboth

theorem appends_appendPd (pd : List UInt8) :
  Appends (n := n) (fun t => gatewayAppendPd t pd) (pd.flatMap fun b => hexField 2 b.toNat)
  := by
  induction pd with
  | nil => apply appends_nil
  | cons b pd ih =>
      have hhead := appends_appendHex (n := n) b.toUInt32 (w := 2) (by decide)
      rw [UInt8.toNat_toUInt32] at hhead
      apply hhead.bind ih

/-- An array with room for the decimal digits of a number collects them. -/
theorem gatewayDigits_eq {room : Nat} {n : UInt8} (hroom : 0 < room) (h : n.toNat < 10 ^ room) :
  gatewayDigits room n = some (Nat.toDigits 10 n.toNat).reverse
  := by
  induction room generalizing n with
  | zero => contradiction
  | succ room ih =>
      have hlast : Char.ofNat ('0'.toNat + (n % 10).toNat) = Nat.digitChar (n.toNat % 10) := by
        have hall : ∀ d < 10, Char.ofNat ('0'.toNat + d) = Nat.digitChar d := by decide
        rw [UInt8.toNat_mod]
        apply hall _ (Nat.mod_lt _ (by decide))
      have hquot : (n / 10).toNat = n.toNat / 10 := UInt8.toNat_div n 10
      rw [gatewayDigits, hlast, Nat.toDigits_eq_if (by decide)]
      by_cases hmore : n / 10 = 0
      · have hsmall : n.toNat < 10 := by
          rw [hmore] at hquot
          have hzero : n.toNat / 10 = 0 := hquot.symm
          omega
        rw [if_pos hsmall, Nat.mod_eq_of_lt hsmall]
        simp [hmore]
      · have hlarge : ¬ n.toNat < 10 := by
          intro hsmall
          apply hmore
          rw [← UInt8.toNat_inj, hquot]
          apply Nat.div_eq_of_lt hsmall
        have hpos : 0 < room := by
          by_contra hnone
          have hzero : room = 0 := by omega
          rw [hzero] at h
          exact hlarge h
        have hrest : (n / 10).toNat < 10 ^ room := by
          rw [hquot]
          rw [Nat.pow_succ] at h
          omega
        rw [if_neg hlarge, ih hpos hrest, hquot]
        simp [hmore]

theorem appends_appendU8Dec (value : UInt8) :
  Appends (n := n) (fun t => gatewayAppendU8Dec t value) (Nat.toDigits 10 value.toNat)
  := by
  have hvalue : value.toNat < 10 ^ 3 := by
    have := value.toNat_lt
    omega
  have hdigits := gatewayDigits_eq (by decide) hvalue
  intro t hroom
  obtain ⟨t', ht', htext⟩ := appends_appendStr (Nat.toDigits 10 value.toNat) t hroom
  use t'
  constructor
  · simp only [gatewayAppendU8Dec, hdigits]
    rw [← ht']
    simp
  · apply htext

end Text

/-! ### The line is assembled -/

/-- The empty string has no text. -/
@[simp]
theorem GatewayText.text_empty {n : Nat} (line : Vector Char n) (h : 0 < n) :
  (GatewayText.empty line h).text = []
  := by
  simp [GatewayText.text, GatewayText.empty]

/-- The process data as the function writes them. -/
def writtenPd (pd : List UInt8) (pdInLen : UInt8) : List Char :=
  if pdInLen = 0 then ['-'] else (pd.take pdInLen.toNat).flatMap fun b => hexField 2 b.toNat

/-- The fields and separators of a line with the process data written as `pd`. -/
def lineOf (portIndex : UInt8) (vendorId : UInt16) (deviceId : UInt32) (pd : List Char) :
    List Char :=
  GATEWAY_PREFIX ++ (Nat.toDigits 10 portIndex.toNat ++ ([' '] ++
    (hexField 4 vendorId.toNat ++ ([' '] ++ (hexField 8 deviceId.toNat ++ ([' '] ++
      (pd ++ ['\n'])))))))

theorem GatewayRecord.line_eq (r : GatewayRecord) :
  r.line = lineOf r.portIndex r.vendorId r.deviceId (pdField r.pd)
  := by
  have hmagic : GATEWAY_PREFIX = GATEWAY_FORMAT ++ [' '] := by decide
  simp only [GatewayRecord.line, GatewayRecord.fields, lineOf, hmagic, List.intercalate,
    List.intersperse, List.flatten_cons, List.flatten_nil, List.append_assoc, List.append_nil]

/-- The process data are written as their field. -/
theorem writtenPd_eq {pd : List UInt8} {pdInLen : UInt8} (hlen : pdInLen.toNat ≤ pd.length) :
  writtenPd pd pdInLen = pdField (pd.take pdInLen.toNat)
  := by
  by_cases hzero : pdInLen = 0
  · simp [writtenPd, pdField, hzero]
  · have hpos : pdInLen.toNat ≠ 0 := by
      intro h
      apply hzero (UInt8.toNat_inj.mp h)
    have hsome : pd.take pdInLen.toNat ≠ [] := by
      rw [← List.length_pos_iff, List.length_take]
      omega
    rw [writtenPd, pdField, if_neg hzero, if_neg hsome]

theorem length_pairs (pd : List UInt8) :
  (pd.flatMap fun b => hexField 2 b.toNat).length = pd.length * 2
  := by
  simp only [List.length_flatMap, hexField, Numeral.length_fixed, List.map_const',
    List.sum_replicate_nat]

theorem length_writtenPd {pd : List UInt8} {pdInLen : UInt8}
    (hmax : pdInLen.toNat ≤ PD_IN_MAX_SIZE) :
  (writtenPd pd pdInLen).length ≤ 64
  := by
  simp only [PD_IN_MAX_SIZE] at hmax
  rw [writtenPd]
  split
  · decide
  · rw [length_pairs, List.length_take]
    omega

theorem appends_appendPdIn {n : Nat} (pd : List UInt8) (pdInLen : UInt8) :
  Appends (n := n) (fun t => gatewayAppendPdIn t pd pdInLen) (writtenPd pd pdInLen)
  := by
  by_cases hzero : pdInLen = 0
  · simp only [gatewayAppendPdIn, writtenPd, hzero, if_true]
    apply appends_append
  · simp only [gatewayAppendPdIn, writtenPd, hzero, if_false]
    apply appends_appendPd

/-- The longest line leaves room in the buffer. -/
theorem length_lineOf {portIndex : UInt8} {vendorId : UInt16} {deviceId : UInt32}
    {pd : List Char} (hpd : pd.length ≤ 64) :
  (lineOf portIndex vendorId deviceId pd).length ≤ 96
  := by
  have hport : (Nat.toDigits 10 portIndex.toNat).length ≤ 3 := by
    have hlt := portIndex.toNat_lt
    rw [Nat.length_toDigits_le_iff (by decide) (by decide)]
    omega
  have hmagic : GATEWAY_PREFIX.length = 13 := by decide
  simp only [lineOf, List.length_append, hmagic, hexField, Numeral.length_fixed,
    List.length_singleton]
  omega

/-- The buffer of the function has room for every line, whatever it contained. -/
theorem gatewayAssemble_eq (line : Vector Char GATEWAY_LINE_MAX) (portIndex : UInt8)
    (info : DeviceInfo) (pd : List UInt8) {pdInLen : UInt8}
    (hmax : pdInLen.toNat ≤ PD_IN_MAX_SIZE) :
  ∃ t, gatewayAssemble line portIndex info pd pdInLen = some t ∧
    t.text = lineOf portIndex info.vendorId info.deviceId (writtenPd pd pdInLen)
  := by
  have hvendor := appends_appendHex (n := GATEWAY_LINE_MAX) info.vendorId.toUInt32
    (w := 4) (by decide)
  have hdevice := appends_appendHex (n := GATEWAY_LINE_MAX) info.deviceId (w := 8) (by decide)
  rw [UInt16.toNat_toUInt32] at hvendor
  have hline := (appends_appendStr GATEWAY_PREFIX).bind
    ((appends_appendU8Dec portIndex).bind ((appends_append ' ').bind (hvendor.bind
      ((appends_append ' ').bind (hdevice.bind ((appends_append ' ').bind
        ((appends_appendPdIn pd pdInLen).bind (appends_append '\n'))))))))
  have hlen : (lineOf portIndex info.vendorId info.deviceId (writtenPd pd pdInLen)).length ≤ 96 :=
    length_lineOf (length_writtenPd hmax)
  obtain ⟨t, ht, htext⟩ := hline (GatewayText.empty line (by decide)) (by
    change 0 + (lineOf portIndex info.vendorId info.deviceId (writtenPd pd pdInLen)).length < 128
    omega)
  use t
  constructor
  · apply ht
  · rw [htext, GatewayText.text_empty, List.nil_append]
    rfl

/-! ### The line is read back -/

theorem readHex_hexField {w n : Nat} (hw : 0 < w) (hn : n < 16 ^ w) :
  readHex (hexField w n) = some n
  := Numeral.read_fixed (Numeral.distinct_digitChar (Nat.le_refl 16)) (by decide) hw hn

/-- Hexadecimal pairs are read back as the octets they were written for. -/
theorem readPairs_flatMap (pd : List UInt8) :
  readPairs (pd.flatMap fun b => hexField 2 b.toNat) = some pd
  := by
  induction pd with
  | nil => rfl
  | cons b pd ih =>
      have hpair : readHex (hexField 2 b.toNat) = some b.toNat :=
        readHex_hexField (by decide) b.toNat_lt
      rw [List.flatMap_cons]
      simp only [hexField, Numeral.fixed, List.cons_append, List.nil_append, readPairs] at hpair ih ⊢
      rw [hpair, ih]
      simp

theorem readPd_pdField (pd : List UInt8) :
  readPd (pdField pd) = some pd
  := by
  rcases pd with _ | ⟨b, pd⟩
  · decide
  · have hlen : ((b :: pd).flatMap fun b => hexField 2 b.toNat).length = (pd.length + 1) * 2 :=
      length_pairs (b :: pd)
    have hdash : ((b :: pd).flatMap fun b => hexField 2 b.toNat) ≠ ['-'] := by
      intro h
      rw [h, List.length_singleton] at hlen
      omega
    have hsome : ((b :: pd).flatMap fun b => hexField 2 b.toNat) ≠ [] := by
      intro h
      rw [h, List.length_nil] at hlen
      omega
    rw [pdField, if_neg (List.cons_ne_nil b pd), readPd, if_neg hdash, if_neg hsome,
      readPairs_flatMap]

/-- A character that is neither a digit nor a dash nor in the format's name occurs in no field. -/
theorem not_mem_fields {c : Char} (hdigit : Numeral.digitValue Nat.digitChar 16 c = none)
    (hdecimal : Numeral.digitValue Nat.digitChar 10 c = none) (hdash : c ≠ '-')
    (hformat : c ∉ GATEWAY_FORMAT) (r : GatewayRecord) :
  ∀ field ∈ r.fields, c ∉ field
  := by
  have hhex : ∀ {w n : Nat}, 0 < w → n < 16 ^ w → c ∉ hexField w n := by
    intro w n hw hn
    apply Numeral.not_mem_of_read (readHex_hexField hw hn) hdigit
  intro field hfield
  simp only [GatewayRecord.fields, List.mem_cons, List.not_mem_nil, or_false] at hfield
  rcases hfield with rfl | rfl | rfl | rfl | rfl
  · apply hformat
  · apply Numeral.not_mem_of_read (Numeral.read_toDigits (by decide) (by decide) _) hdecimal
  · apply hhex (by decide) r.vendorId.toNat_lt
  · apply hhex (by decide) r.deviceId.toNat_lt
  · rw [pdField]
    split
    · simpa using hdash
    · intro hmem
      obtain ⟨b, -, hb⟩ := List.mem_flatMap.mp hmem
      apply hhex (by decide) b.toNat_lt hb

/-- A character that occurs in no field and is no separator does not occur in the line. -/
theorem not_mem_intercalate {c sep : Char} {fields : List (List Char)} (hne : c ≠ sep)
    (h : ∀ field ∈ fields, c ∉ field) :
  c ∉ [sep].intercalate fields
  := by
  induction fields with
  | nil => simp
  | cons field fields ih =>
      have hrest := ih fun l hl => h l (List.mem_cons_of_mem field hl)
      have hhead := h field List.mem_cons_self
      by_cases hnil : fields = []
      · rw [hnil, List.intercalate_singleton]
        apply hhead
      · rw [List.intercalate_cons_of_ne_nil hnil]
        simp [hhead, hne, hrest]

/-- Reading a line gives the record it was made of. -/
theorem decodeGatewayLine_line (r : GatewayRecord) :
  decodeGatewayLine r.line = some r
  := by
  have hspace := not_mem_fields (c := ' ') (by decide) (by decide) (by decide) (by decide) r
  have hsplit : r.line.dropLast.splitOn ' ' = r.fields := by
    rw [GatewayRecord.line, List.dropLast_concat]
    apply List.splitOn_intercalate ' ' hspace
    simp [GatewayRecord.fields]
  have hlast : r.line.getLast? = some '\n' := by
    simp [GatewayRecord.line]
  have hport : Numeral.read Nat.digitChar 10 (Nat.toDigits 10 r.portIndex.toNat)
      = some r.portIndex.toNat := Numeral.read_toDigits (by decide) (by decide) _
  have hvendor : readHex (hexField 4 r.vendorId.toNat) = some r.vendorId.toNat :=
    readHex_hexField (by decide) r.vendorId.toNat_lt
  have hdevice : readHex (hexField 8 r.deviceId.toNat) = some r.deviceId.toNat :=
    readHex_hexField (by decide) r.deviceId.toNat_lt
  have hwidth : ∀ w n, (hexField w n).length = w := by
    intro w n
    apply Numeral.length_fixed
  simp only [decodeGatewayLine, hlast, if_true, hsplit, GatewayRecord.fields, hwidth, and_self,
    hport, hvendor, hdevice, readPd_pdField]
  simp [r.portIndex.toNat_lt]

/-- Different records have different lines. -/
theorem GatewayRecord.line_injective {r r' : GatewayRecord} (h : r.line = r'.line) :
  r = r'
  := by
  have hread := decodeGatewayLine_line r
  rw [h, decodeGatewayLine_line] at hread
  exact (Option.some.inj hread).symm

/-- A line is a string of one line. -/
theorem GatewayRecord.line_clean (r : GatewayRecord) :
  NUL ∉ r.line ∧ '\n' ∉ r.line.dropLast
  := by
  have hnul := not_mem_fields (c := NUL) (by decide) (by decide) (by decide) (by decide) r
  have hnewline := not_mem_fields (c := '\n') (by decide) (by decide) (by decide) (by decide) r
  constructor
  · rw [GatewayRecord.line, List.mem_append, not_or]
    constructor
    · apply not_mem_intercalate (by decide) hnul
    · decide
  · rw [GatewayRecord.line, List.dropLast_concat]
    apply not_mem_intercalate (by decide) hnewline

/-- The string in a buffer ends at its first terminator. -/
theorem cString_terminated {text rest : List Char} (h : NUL ∉ text) :
  cString (text ++ NUL :: rest) = text
  := by
  have hall : ∀ ch ∈ text, decide (ch ≠ NUL) = true := by
    intro ch hch
    rw [decide_eq_true_eq]
    rintro rfl
    apply h hch
  rw [cString, List.takeWhile_append_of_pos hall]
  simp

/-! ### The line that is handed out -/

/-- The arguments `pd_in` and `pd_in_len` pass the octets `pd`; the pointer may be absent where
there are none. -/
def PassesPd (pdIn : Option (List UInt8)) (pdInLen : UInt8) (pd : List UInt8) : Prop :=
  pd.length = pdInLen.toNat ∧ (pdIn = none ∧ pd = [] ∨ ∃ octets, pdIn = some octets ∧ pd <+: octets)

/-- What the line of a call is made of. -/
def recordOf (portIndex : UInt8) (info : DeviceInfo) (pd : List UInt8) : GatewayRecord :=
  ⟨portIndex, info.vendorId, info.deviceId, pd⟩

section Arguments

variable {pdIn : Option (List UInt8)} {pdInLen : UInt8} {pd : List UInt8}

theorem PassesPd.take (h : PassesPd pdIn pdInLen pd) :
  (pdIn.getD []).take pdInLen.toNat = pd
  := by
  obtain ⟨hlen, ⟨rfl, rfl⟩ | ⟨octets, rfl, hprefix⟩⟩ := h
  · simp
  · rw [← hlen]
    apply (List.prefix_iff_eq_take.mp hprefix).symm

theorem PassesPd.length_le (h : PassesPd pdIn pdInLen pd) :
  pdInLen.toNat ≤ (pdIn.getD []).length
  := by
  have hlen := congrArg List.length h.take
  rw [List.length_take, h.1] at hlen
  omega

/-- The pointer is there where octets are announced. -/
theorem PassesPd.pointer (h : PassesPd pdIn pdInLen pd) :
  ¬ (pdInLen > 0 ∧ pdIn = none)
  := by
  rintro ⟨hpos, hnone⟩
  obtain ⟨hlen, ⟨-, rfl⟩ | ⟨octets, hsome, -⟩⟩ := h
  · have hzero : pdInLen = 0 := UInt8.toNat_inj.mp hlen.symm
    rw [hzero] at hpos
    contradiction
  · rw [hsome] at hnone
    contradiction

/-- A call with valid arguments hands out the whole line if it fits with its terminator, and
nothing otherwise. -/
theorem formatGatewayLine_eq {line : Vector Char GATEWAY_LINE_MAX} {portIndex : UInt8}
    {info : DeviceInfo} {out : List Char} (hvalid : info.valid = true)
    (hpd : PassesPd pdIn pdInLen pd) (hmax : pd.length ≤ PD_IN_MAX_SIZE) (hout : 1 ≤ out.length) :
  formatGatewayLine line portIndex info pdIn pdInLen out
    = if (recordOf portIndex info pd).line.length < out.length then
        (STATUS_OK, (recordOf portIndex info pd).line ++
          NUL :: out.drop ((recordOf portIndex info pd).line.length + 1))
      else (ERR_BUFFER_TOO_SMALL, out)
  := by
  rw [hpd.1] at hmax
  have haccepted : ¬ (out.length = 0 ∨ info.valid = false ∨ pdInLen.toNat > PD_IN_MAX_SIZE ∨
      pdInLen > 0 ∧ pdIn = none) := by
    have hpointer := hpd.pointer
    simp only [hvalid, hpointer, Bool.true_eq_false, or_false, false_or]
    omega
  obtain ⟨t, ht, htext⟩ := gatewayAssemble_eq line portIndex info (pdIn.getD []) hmax
  have hline : t.text = (recordOf portIndex info pd).line := by
    rw [htext, writtenPd_eq hpd.length_le, hpd.take, GatewayRecord.line_eq]
    rfl
  rw [formatGatewayLine, if_neg haccepted, ht, ← hline, t.length_text]
  simp only [t.take_succ, List.append_assoc, List.singleton_append]
  by_cases hfits : t.used < out.length
  · rw [if_pos hfits, if_neg (by omega)]
  · rw [if_neg hfits, if_pos (by omega)]

end Arguments

/-- Whatever the arguments are, a call that does not succeed leaves the buffer of the caller
untouched. -/
theorem formatGatewayLine_untouched {line : Vector Char GATEWAY_LINE_MAX} {portIndex : UInt8}
    {info : DeviceInfo} {pdIn : Option (List UInt8)} {pdInLen : UInt8} {out : List Char}
    (h : (formatGatewayLine line portIndex info pdIn pdInLen out).1 ≠ STATUS_OK) :
  (formatGatewayLine line portIndex info pdIn pdInLen out).2 = out
  := by
  revert h
  simp only [formatGatewayLine]
  repeat' split
  · simp
  · simp
  · simp
  · intro h
    contradiction

/-- The record of a port as the service of the port reports it: valid process data, or none. -/
def portRecord (portIndex : UInt8) (p : PortState) : GatewayRecord :=
  recordOf portIndex p.deviceInfo (if p.pdValid then p.pdIn.take p.pdInLen else [])

/-- The line written for a port is read back as the device it knows and the process data it
holds. -/
theorem writeGatewayLine_decodes {line : Vector Char GATEWAY_LINE_MAX} {p : PortState}
    {portIndex : UInt8} {out : List Char} (hheld : p.pdInLen ≤ p.pdIn.length)
    (h : (writeGatewayLine line p portIndex out).1 = STATUS_OK) :
  decodeGatewayLine (cString (writeGatewayLine line p portIndex out).2)
    = some (portRecord portIndex p)
  := by
  have hformat : ∀ {pdIn pdInLen pd}, p.deviceInfo.valid = true → PassesPd pdIn pdInLen pd →
      pd.length ≤ PD_IN_MAX_SIZE → 1 ≤ out.length →
      (formatGatewayLine line portIndex p.deviceInfo pdIn pdInLen out).1 = STATUS_OK →
      decodeGatewayLine (cString (formatGatewayLine line portIndex p.deviceInfo pdIn pdInLen out).2)
        = some (recordOf portIndex p.deviceInfo pd) := by
    intro pdIn pdInLen pd hvalid hpd hmax hout hok
    rw [formatGatewayLine_eq hvalid hpd hmax hout] at hok ⊢
    split at hok
    · next hfits =>
      rw [if_pos hfits, cString_terminated (GatewayRecord.line_clean _).1]
      apply decodeGatewayLine_line
    · contradiction
  by_cases hout : out.length = 0
  · rw [writeGatewayLine, if_pos hout] at h
    contradiction
  · by_cases hvalid : p.deviceInfo.valid = true
    · by_cases hsmall : PD_IN_MAX_SIZE < p.pdInLen
      · simp [writeGatewayLine, hout, getDeviceInfo, hvalid, getPdIn, hsmall, STATUS_OK,
          STATUS_PENDING, ERR_BUFFER_TOO_SMALL] at h
      · cases hpdValid : p.pdValid with
        | false =>
            simp only [writeGatewayLine, hout, if_false, getDeviceInfo, hvalid, getPdIn, hsmall,
              hpdValid, Bool.not_true, Bool.not_false, Bool.false_eq_true, if_true, ne_eq,
              not_true_eq_false] at h ⊢
            rw [portRecord, hpdValid]
            apply hformat hvalid ⟨rfl, .inl ⟨rfl, rfl⟩⟩ (by decide) (by omega) h
        | true =>
            have hne : STATUS_OK ≠ STATUS_PENDING := by decide
            simp only [writeGatewayLine, hout, if_false, getDeviceInfo, hvalid, getPdIn, hsmall,
              hpdValid, Bool.not_true, Bool.false_eq_true, hne, ne_eq,
              not_true_eq_false] at h ⊢
            rw [portRecord, hpdValid]
            have hlen : (p.pdIn.take p.pdInLen).length = (UInt8.ofNat p.pdInLen).toNat := by
              simp only [PD_IN_MAX_SIZE] at hsmall
              rw [List.length_take, UInt8.toNat_ofNat']
              omega
            apply hformat hvalid ⟨hlen, .inr ⟨_, rfl, List.prefix_rfl⟩⟩ _ (by omega) h
            rw [List.length_take]
            omega
    · simp [writeGatewayLine, hout, getDeviceInfo, hvalid, STATUS_OK, STATUS_PENDING] at h

/-- The record of a port is faithful.  With valid arguments, a call succeeds exactly if the buffer
of the caller is longer than the line; then the buffer holds the line, which is a single one and
terminated, and reading it back gives exactly the port, the identity of the device and its process
data.  A call that does not succeed leaves the buffer untouched.  Different records have different
lines.  The buffer in which the line is assembled has room for it whatever it contained, and
process data for which it might not are refused before.  The line written for a port is read back
as the device it knows and the process data it holds. -/
theorem gateway_line_faithful :
  (∀ (line : Vector Char GATEWAY_LINE_MAX) (portIndex : UInt8) (info : DeviceInfo)
      (pdIn : Option (List UInt8)) (pdInLen : UInt8) (pd : List UInt8) (out : List Char),
    info.valid = true → PassesPd pdIn pdInLen pd → pd.length ≤ PD_IN_MAX_SIZE → 1 ≤ out.length →
    let r : GatewayRecord := ⟨portIndex, info.vendorId, info.deviceId, pd⟩
    let result := formatGatewayLine line portIndex info pdIn pdInLen out
    (result.1 = STATUS_OK ↔ r.line.length < out.length) ∧
      (result.1 = STATUS_OK →
        result.2 = r.line ++ NUL :: out.drop (r.line.length + 1) ∧
          cString result.2 = r.line ∧ '\n' ∉ r.line.dropLast ∧
          decodeGatewayLine (cString result.2) = some r) ∧
      (result.1 ≠ STATUS_OK → result = (ERR_BUFFER_TOO_SMALL, out))) ∧
  (∀ (line : Vector Char GATEWAY_LINE_MAX) (portIndex : UInt8) (info : DeviceInfo)
      (pdIn : Option (List UInt8)) (pdInLen : UInt8) (out : List Char),
    (formatGatewayLine line portIndex info pdIn pdInLen out).1 ≠ STATUS_OK →
      (formatGatewayLine line portIndex info pdIn pdInLen out).2 = out) ∧
  Function.Injective GatewayRecord.line ∧
  (∀ (line : Vector Char GATEWAY_LINE_MAX) (portIndex : UInt8) (info : DeviceInfo)
      (pd : List UInt8) (pdInLen : UInt8),
    (pdInLen.toNat ≤ PD_IN_MAX_SIZE →
      ∃ t, gatewayAssemble line portIndex info pd pdInLen = some t ∧ t.used ≤ 96) ∧
    (PD_IN_MAX_SIZE < pdInLen.toNat → ∀ out,
      formatGatewayLine line portIndex info (some pd) pdInLen out = (ERR_INVALID_ARG, out))) ∧
  ∀ (line : Vector Char GATEWAY_LINE_MAX) (p : PortState) (portIndex : UInt8) (out : List Char),
    p.pdInLen ≤ p.pdIn.length → (writeGatewayLine line p portIndex out).1 = STATUS_OK →
      decodeGatewayLine (cString (writeGatewayLine line p portIndex out).2)
        = some (portRecord portIndex p)
  := by
  refine ⟨?_, ?_, ?_, ?_, ?_⟩
  · intro line portIndex info pdIn pdInLen pd out hvalid hpd hmax hout r result
    have hresult : result = if r.line.length < out.length then
        (STATUS_OK, r.line ++ NUL :: out.drop (r.line.length + 1))
      else (ERR_BUFFER_TOO_SMALL, out) := formatGatewayLine_eq hvalid hpd hmax hout
    have hclean := r.line_clean
    by_cases hfits : r.line.length < out.length
    · rw [if_pos hfits] at hresult
      rw [hresult]
      refine ⟨by simp [hfits], ?_, by simp⟩
      intro _
      refine ⟨rfl, cString_terminated hclean.1, hclean.2, ?_⟩
      rw [cString_terminated hclean.1]
      apply decodeGatewayLine_line
    · rw [if_neg hfits] at hresult
      rw [hresult]
      have hrefused : ERR_BUFFER_TOO_SMALL ≠ STATUS_OK := by decide
      simp [hfits, hrefused]
  · intro line portIndex info pdIn pdInLen out h
    apply formatGatewayLine_untouched h
  · intro r r' h
    apply GatewayRecord.line_injective h
  · intro line portIndex info pd pdInLen
    constructor
    · intro hmax
      obtain ⟨t, ht, htext⟩ := gatewayAssemble_eq line portIndex info pd hmax
      use t, ht
      rw [← t.length_text, htext]
      apply length_lineOf (length_writtenPd hmax)
    · intro hmax out
      rw [formatGatewayLine, if_pos]
      simp [hmax]
  · intro line p portIndex out hheld h
    apply writeGatewayLine_decodes hheld h

/-- A device with one octet of process data. -/
def gatewayInfo : DeviceInfo :=
  { DeviceInfo.zero with valid := true, vendorId := 0xABCD, deviceId := 0x10 }

/-- A line of 32 characters fits a buffer of 33, and not one of 32. -/
theorem gateway_line_faithful_boundary :
  (formatGatewayLine (Vector.replicate 128 'Z') 2 gatewayInfo (some [0xAA]) 1
    (List.replicate 33 'Z')).1 = STATUS_OK ∧
  formatGatewayLine (Vector.replicate 128 'Z') 2 gatewayInfo (some [0xAA]) 1
    (List.replicate 32 'Z') = (ERR_BUFFER_TOO_SMALL, List.replicate 32 'Z')
  := by
  have hpd : PassesPd (some [0xAA]) 1 [0xAA] := ⟨rfl, .inr ⟨[0xAA], rfl, List.prefix_rfl⟩⟩
  have hlong := gateway_line_faithful.1 (Vector.replicate 128 'Z') 2 gatewayInfo (some [0xAA]) 1
    [0xAA] (List.replicate 33 'Z') rfl hpd (by decide) (by decide)
  have hshort := gateway_line_faithful.1 (Vector.replicate 128 'Z') 2 gatewayInfo (some [0xAA]) 1
    [0xAA] (List.replicate 32 'Z') rfl hpd (by decide) (by decide)
  constructor
  · apply hlong.1.mpr
    decide +kernel
  · apply hshort.2.2
    rw [ne_eq, hshort.1]
    decide +kernel

end IolinkMaster
