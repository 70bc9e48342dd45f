import IolinkMaster.Library.Loop
import IolinkMaster.Runs

/-!
# Data Storage images

A Data Storage image is a sequence of records, each with the length of its value in the last
octet of its header.  What `verify_data_storage` checks is stated on the records; the scanning
loops with their 8-bit cursors compute it.
-/

namespace IolinkMaster

/-! ### Records -/

/-- A Data Storage record: a header and the value it declares. -/
def IsDsRecord (record : List UInt8) : Prop :=
  ∃ header value : List UInt8, record = header ++ value ∧ header.length = DS_RECORD_HEADER_LEN ∧
    (header.getD (DS_RECORD_HEADER_LEN - 1) 0).toNat = value.length

/-- The image `data` consists of the records `records`. -/
def IsDsImage (data : List UInt8) (records : List (List UInt8)) : Prop :=
  data = records.flatten ∧ ∀ record ∈ records, IsDsRecord record

/-- The first record of an image is split off. -/
theorem dsNextRecord_some {data record rest : List UInt8} :
  dsNextRecord data = some (record, rest) ↔ data = record ++ rest ∧ IsDsRecord record
  := by
  constructor
  · intro h
    simp only [dsNextRecord] at h
    split at h
    · contradiction
    · next hheader =>
      split at h
      · contradiction
      · next hvalue =>
        simp only [List.splitAt_eq, Option.some.injEq, Prod.mk.injEq] at h
        obtain ⟨rfl, rfl⟩ := h
        simp only [DS_RECORD_HEADER_LEN] at *
        refine ⟨(List.take_append_drop _ data).symm, data.take 4, (data.drop 4).take
          (data.getD 3 0).toNat, ?_, ?_, ?_⟩
        · rw [← List.take_add]
        · rw [List.length_take, DS_RECORD_HEADER_LEN]
          omega
        · have hlast : (data.take 4).getD 3 0 = data.getD 3 0 := by
            simp [List.getD_eq_getElem?_getD]
          change ((data.take 4).getD 3 0).toNat = _
          change ¬ (data.getD 3 0).toNat > _ at hvalue
          rw [hlast, List.length_take, List.length_drop]
          omega
  · rintro ⟨rfl, header, value, rfl, hheader, hvalue⟩
    have hlast : (header ++ value ++ rest).getD (DS_RECORD_HEADER_LEN - 1) 0
        = header.getD (DS_RECORD_HEADER_LEN - 1) 0 := by
      rw [List.append_assoc, List.getD_eq_getElem?_getD, List.getD_eq_getElem?_getD,
        List.getElem?_append_left]
      rw [hheader]
      decide
    simp only [dsNextRecord, hlast, hvalue, List.length_append, List.splitAt_eq]
    rw [if_neg (by omega), if_neg (by omega), ← hheader, ← List.length_append, List.take_left,
      List.drop_left]

/-- A record is not empty. -/
theorem IsDsRecord.ne_nil {record : List UInt8} (h : IsDsRecord record) :
  record ≠ []
  := by
  obtain ⟨header, value, rfl, hheader, -⟩ := h
  intro hnil
  rw [List.append_eq_nil_iff] at hnil
  rw [hnil.1] at hheader
  contradiction

theorem isDsImage_cons {data : List UInt8} {record : List UInt8} {records : List (List UInt8)} :
  IsDsImage data (record :: records) ↔
    ∃ rest, dsNextRecord data = some (record, rest) ∧ IsDsImage rest records
  := by
  simp only [IsDsImage, List.flatten_cons, List.forall_mem_cons, dsNextRecord_some]
  constructor
  · rintro ⟨rfl, hrecord, hrecords⟩
    exact ⟨_, ⟨rfl, hrecord⟩, rfl, hrecords⟩
  · rintro ⟨_, ⟨rfl, hrecord⟩, rfl, hrecords⟩
    exact ⟨rfl, hrecord, hrecords⟩

/-- An image without records is empty. -/
theorem isDsImage_nil {data : List UInt8} :
  IsDsImage data [] ↔ data = []
  := by
  simp [IsDsImage]

/-- An image that is not empty starts with a record. -/
theorem IsDsImage.ne_nil {data record : List UInt8} {records : List (List UInt8)}
    (h : IsDsImage data (record :: records)) :
  data ≠ []
  := by
  obtain ⟨rfl, hrecords⟩ := h
  intro hnil
  rw [List.flatten_cons, List.append_eq_nil_iff] at hnil
  exact (hrecords record List.mem_cons_self).ne_nil hnil.1

/-- The valid images are the sequences of records. -/
theorem dsImageIsValid_iff {data : List UInt8} :
  dsImageIsValid data = true ↔ ∃ records, IsDsImage data records
  := by
  fun_induction dsImageIsValid data with
  | case1 => exact iff_of_true rfl ⟨[], isDsImage_nil.mpr rfl⟩
  | case2 data hne hnone =>
      refine iff_of_false (by simp) ?_
      rintro ⟨_ | ⟨record, records⟩, h⟩
      · exact hne (isDsImage_nil.mp h)
      · obtain ⟨rest, hsome, -⟩ := isDsImage_cons.mp h
        rw [hnone] at hsome
        contradiction
  | case3 data hne record rest hsome ih =>
      rw [ih]
      constructor
      · rintro ⟨records, h⟩
        exact ⟨record :: records, isDsImage_cons.mpr ⟨rest, hsome, h⟩⟩
      · rintro ⟨_ | ⟨record', records⟩, h⟩
        · exact absurd (isDsImage_nil.mp h) hne
        · obtain ⟨rest', hsome', h'⟩ := isDsImage_cons.mp h
          rw [hsome] at hsome'
          cases hsome'
          exact ⟨records, h'⟩

/-- A record is found in an image exactly if it is one of its records. -/
theorem dsImageFindsRecord_iff {record actual : List UInt8} {records : List (List UInt8)}
    (h : IsDsImage actual records) :
  dsImageFindsRecord record actual = true ↔ record ∈ records
  := by
  induction records generalizing actual with
  | nil =>
      rw [isDsImage_nil.mp h, dsImageFindsRecord]
      simp
  | cons first records ih =>
      obtain ⟨rest, hsome, hrest⟩ := isDsImage_cons.mp h
      rw [dsImageFindsRecord, if_neg h.ne_nil, hsome, Bool.or_eq_true, beq_iff_eq, ih hrest,
        List.mem_cons, eq_comm]

/-- An image contains the records of another exactly if each of them is one of its own. -/
theorem dsImageContainsRecords_iff {actual expected : List UInt8}
    {records expectedRecords : List (List UInt8)} (h : IsDsImage actual records)
    (hexpected : IsDsImage expected expectedRecords) :
  dsImageContainsRecords actual expected = true ↔ expectedRecords ⊆ records
  := by
  induction expectedRecords generalizing expected with
  | nil =>
      rw [isDsImage_nil.mp hexpected, dsImageContainsRecords]
      simp
  | cons first expectedRecords ih =>
      obtain ⟨rest, hsome, hrest⟩ := isDsImage_cons.mp hexpected
      rw [dsImageContainsRecords, if_neg hexpected.ne_nil, hsome, Bool.and_eq_true,
        dsImageFindsRecord_iff h, ih hrest, List.cons_subset]

/-- The records of an image are determined by its octets. -/
theorem IsDsImage.unique {data : List UInt8} {records records' : List (List UInt8)}
    (h : IsDsImage data records) (h' : IsDsImage data records') :
  records = records'
  := by
  induction records generalizing data records' with
  | nil =>
      cases records' with
      | nil => rfl
      | cons record' records' => exact absurd (isDsImage_nil.mp h) h'.ne_nil
  | cons record records ih =>
      obtain ⟨rest, hsome, hrest⟩ := isDsImage_cons.mp h
      cases records' with
      | nil => exact absurd (isDsImage_nil.mp h') h.ne_nil
      | cons record' records' =>
          obtain ⟨rest', hsome', hrest'⟩ := isDsImage_cons.mp h'
          rw [hsome, Option.some.injEq, Prod.mk.injEq] at hsome'
          obtain ⟨rfl, rfl⟩ := hsome'
          rw [ih hrest hrest']

/-! ### Cursors -/

/-- A record found in an image: its first octet, its length and the cursor after it. -/
structure DsSpan where
  start : UInt8
  len : UInt8
  next : UInt8
  deriving DecidableEq, Repr

/-- The octets of a record of the image `data`. -/
def DsSpan.octets (r : DsSpan) (data : List UInt8) : List UInt8 :=
  (data.drop r.start.toNat).take r.len.toNat

/-- The length of an image as the services pass it on. -/
def dsLen (data : List UInt8) : UInt8 := UInt8.ofNat data.length

/-- Parse the record at the cursor `pos` of `data[0 .. len)`. -/
def dsNextRecordAt (data : List UInt8) (len pos : UInt8) : Option DsSpan :=
  let header := UInt8.ofNat DS_RECORD_HEADER_LEN
  if pos > len ∨ len - pos < header then none
  else
    let valueLen := data.getD (pos + (header - 1)).toNat 0
    if valueLen > len - pos - header then none
    else some ⟨pos, header + valueLen, pos + (header + valueLen)⟩

/-- One round of the loop of `ds_image_is_valid`. -/
def dsValidRound (data : List UInt8) (pos : UInt8) : Option (UInt8 ⊕ Bool) :=
  if pos < dsLen data then
    match dsNextRecordAt data (dsLen data) pos with
    | none => some (.inr false)
    | some r => some (.inl r.next)
  else some (.inr true)

/-- The loop of `ds_image_is_valid`. -/
def dsImageIsValidAt (fuel : Nat) (data : List UInt8) : Option Bool :=
  Loop.run (dsValidRound data) fuel 0

/-- One round of the inner loop of `ds_image_contains_records`, which looks for the record `e`
of `expected` in `actual`.  The result `false` ends the outer loop as well. -/
def dsFindRound (actual expected : List UInt8) (e : DsSpan) (pos : UInt8) :
    Option (UInt8 ⊕ Bool) :=
  if pos < dsLen actual then
    match dsNextRecordAt actual (dsLen actual) pos with
    | none => some (.inr false)
    | some r =>
      if r.len = e.len ∧ (actual.drop r.start.toNat).take e.len.toNat = e.octets expected then
        some (.inr true)
      else some (.inl r.next)
  else some (.inr false)

/-- One round of the outer loop of `ds_image_contains_records`. -/
def dsContainsRound (fuel : Nat) (actual expected : List UInt8) (pos : UInt8) :
    Option (UInt8 ⊕ Bool) :=
  if pos < dsLen expected then
    match dsNextRecordAt expected (dsLen expected) pos with
    | none => some (.inr false)
    | some e =>
      (Loop.run (dsFindRound actual expected e) fuel 0).map
        fun found => if found then .inl e.next else .inr false
  else some (.inr true)

/-- The loops of `ds_image_contains_records`. -/
def dsImageContainsRecordsAt (fuel : Nat) (actual expected : List UInt8) : Option Bool :=
  Loop.run (dsContainsRound fuel actual expected) fuel 0

/-- The arithmetic at the cursor `pos` of the image `data` is that of unbounded numbers, and
the cursor stays within the image. -/
structure CursorExact (data : List UInt8) (pos : UInt8) : Prop where
  within : pos.toNat ≤ data.length
  left : (dsLen data - pos).toNat = data.length - pos.toNat
  header : DS_RECORD_HEADER_LEN ≤ data.length - pos.toNat →
    (pos + 3).toNat = pos.toNat + 3 ∧
      (dsLen data - pos - 4).toNat = data.length - pos.toNat - DS_RECORD_HEADER_LEN
  advance : ∀ r, dsNextRecordAt data (dsLen data) pos = some r →
    r.start = pos ∧
      r.len.toNat = DS_RECORD_HEADER_LEN + (data.getD (pos.toNat + 3) 0).toNat ∧
      r.next.toNat = pos.toNat + r.len.toNat ∧ r.next.toNat ≤ data.length

theorem toNat_dsLen {data : List UInt8} (h : data.length ≤ 255) :
  (dsLen data).toNat = data.length
  := by
  rw [dsLen, UInt8.toNat_ofNat']
  omega

/-- At a cursor within an image of at most 255 octets nothing wraps. -/
theorem cursorExact {data : List UInt8} (h : data.length ≤ 255) {pos : UInt8}
    (hpos : pos.toNat ≤ data.length) :
  CursorExact data pos
  := by
  have hlen := toNat_dsLen h
  have hleft : (dsLen data - pos).toNat = data.length - pos.toNat := by
    rw [UInt8.toNat_sub_of_le _ _ (UInt8.le_iff_toNat_le.mpr (by omega)), hlen]
  have hheader : DS_RECORD_HEADER_LEN ≤ data.length - pos.toNat →
      (pos + 3).toNat = pos.toNat + 3 ∧
        (dsLen data - pos - 4).toNat = data.length - pos.toNat - DS_RECORD_HEADER_LEN := by
    intro hfour
    simp only [DS_RECORD_HEADER_LEN] at hfour ⊢
    have h3 : (3 : UInt8).toNat = 3 := rfl
    have h4 : (4 : UInt8).toNat = 4 := rfl
    constructor
    · rw [UInt8.toNat_add, h3]
      omega
    · rw [UInt8.toNat_sub_of_le _ _ (UInt8.le_iff_toNat_le.mpr (by omega)), hleft, h4]
  constructor
  · apply hpos
  · apply hleft
  · apply hheader
  · intro r hr
    have h4 : (4 : UInt8).toNat = 4 := rfl
    simp only [dsNextRecordAt] at hr
    split at hr
    · contradiction
    · next hfits =>
      rw [not_or, UInt8.lt_iff_toNat_lt, hleft] at hfits
      change _ ∧ ¬ _ < 4 at hfits
      obtain ⟨hthree, hvalue⟩ := hheader (by simp only [DS_RECORD_HEADER_LEN]; omega)
      split at hr
      · contradiction
      · next hroom =>
        change ¬ data.getD (pos + 3).toNat 0 > dsLen data - pos - 4 at hroom
        rw [gt_iff_lt, UInt8.lt_iff_toNat_lt, hvalue, hthree] at hroom
        simp only [DS_RECORD_HEADER_LEN] at hroom
        rw [Option.some.injEq] at hr
        subst hr
        change pos = pos ∧ (4 + data.getD (pos + 3).toNat 0).toNat = _ ∧
          (pos + (4 + data.getD (pos + 3).toNat 0)).toNat
            = pos.toNat + (4 + data.getD (pos + 3).toNat 0).toNat ∧
          (pos + (4 + data.getD (pos + 3).toNat 0)).toNat ≤ data.length
        simp only [UInt8.toNat_add, hthree, h4, DS_RECORD_HEADER_LEN, true_and]
        omega

/-- The parser at a cursor splits off the next record of the octets from the cursor on. -/
theorem dsNextRecordAt_eq {data : List UInt8} (h : data.length ≤ 255) {pos : UInt8}
    (hpos : pos.toNat ≤ data.length) :
  dsNextRecord (data.drop pos.toNat)
    = (dsNextRecordAt data (dsLen data) pos).map
        fun r => (r.octets data, data.drop r.next.toNat)
  := by
  have hexact := cursorExact h hpos
  have hle : ¬ pos > dsLen data := by
    rw [gt_iff_lt, UInt8.lt_iff_toNat_lt, toNat_dsLen h]
    omega
  have hfits : dsLen data - pos < UInt8.ofNat DS_RECORD_HEADER_LEN ↔
      data.length - pos.toNat < DS_RECORD_HEADER_LEN := by
    rw [UInt8.lt_iff_toNat_lt, hexact.left]
    rfl
  by_cases hheader : data.length - pos.toNat < DS_RECORD_HEADER_LEN
  · rw [dsNextRecord, if_pos (by rw [List.length_drop]; apply hheader), dsNextRecordAt,
      if_pos (Or.inr (hfits.mpr hheader))]
    rfl
  · obtain ⟨hthree, hroom⟩ := hexact.header (Nat.not_lt.mp hheader)
    have hcond := not_or.mpr ⟨hle, fun hc => hheader (hfits.mp hc)⟩
    have hvalue : (data.drop pos.toNat).getD (DS_RECORD_HEADER_LEN - 1) 0
        = data.getD (pos + (UInt8.ofNat DS_RECORD_HEADER_LEN - 1)).toNat 0 := by
      change _ = data.getD (pos + 3).toNat 0
      rw [hthree, List.getD_eq_getElem?_getD, List.getD_eq_getElem?_getD, List.getElem?_drop]
      rfl
    have hover : data.getD (pos + (UInt8.ofNat DS_RECORD_HEADER_LEN - 1)).toNat 0
          > dsLen data - pos - UInt8.ofNat DS_RECORD_HEADER_LEN ↔
        ((data.drop pos.toNat).getD (DS_RECORD_HEADER_LEN - 1) 0).toNat
          > (data.drop pos.toNat).length - DS_RECORD_HEADER_LEN := by
      rw [gt_iff_lt, UInt8.lt_iff_toNat_lt, hvalue, List.length_drop, ← hroom]
      exact Iff.rfl
    cases hnext : dsNextRecordAt data (dsLen data) pos with
    | none =>
        simp only [dsNextRecordAt] at hnext
        rw [if_neg hcond] at hnext
        split at hnext
        · next hlong =>
          rw [dsNextRecord, if_neg (by rw [List.length_drop]; apply hheader),
            if_pos (hover.mp hlong)]
          rfl
        · contradiction
    | some r =>
        obtain ⟨hstart, hlen, hadvance, -⟩ := hexact.advance r hnext
        simp only [dsNextRecordAt] at hnext
        rw [if_neg hcond] at hnext
        split at hnext
        · contradiction
        · next hlong =>
          rw [dsNextRecord, if_neg (by rw [List.length_drop]; apply hheader)]
          have hspan : DS_RECORD_HEADER_LEN
              + ((data.drop pos.toNat).getD (DS_RECORD_HEADER_LEN - 1) 0).toNat
                = r.len.toNat := by
            rw [hlen, hvalue]
            change _ + (data.getD (pos + 3).toNat 0).toNat = _
            rw [hthree]
          rw [if_neg (fun hc => hlong (hover.mpr hc)), hspan, List.splitAt_eq, List.drop_drop,
            ← hadvance, Option.map_some, DsSpan.octets, hstart]

/-! ### The loops -/

/-- A cursor within the image `data`. -/
def CursorWithin (data : List UInt8) (pos : UInt8) : Prop := pos.toNat ≤ data.length

/-- The number of octets from the cursor on. -/
def octetsLeft (data : List UInt8) (pos : UInt8) : Nat := data.length - pos.toNat

/-- The cursor of a record found is within the image and leaves fewer octets. -/
theorem next_within {data : List UInt8} (h : data.length ≤ 255) {pos : UInt8}
    (hpos : CursorWithin data pos) {r : DsSpan}
    (hr : dsNextRecordAt data (dsLen data) pos = some r) :
  CursorWithin data r.next ∧ octetsLeft data r.next < octetsLeft data pos
  := by
  obtain ⟨-, hlen, hadvance, hle⟩ := (cursorExact h hpos).advance r hr
  simp only [CursorWithin, octetsLeft, DS_RECORD_HEADER_LEN] at hpos hlen ⊢
  omega

/-- The loop condition says that octets are left. -/
theorem lt_dsLen {data : List UInt8} (h : data.length ≤ 255) {pos : UInt8} :
  pos < dsLen data ↔ data.drop pos.toNat ≠ []
  := by
  rw [UInt8.lt_iff_toNat_lt, toNat_dsLen h, ne_eq, List.drop_eq_nil_iff]
  omega

/-- The loop of `ds_image_is_valid` makes progress. -/
theorem dsValidRound_progress {data : List UInt8} (h : data.length ≤ 255) (pos : UInt8)
    (hpos : CursorWithin data pos) :
  Loop.Round (CursorWithin data) (octetsLeft data)
    (fun pos => dsImageIsValid (data.drop pos.toNat)) (dsValidRound data) pos
  := by
  have hnext := dsNextRecordAt_eq h hpos
  rw [Loop.Round, dsValidRound, dsImageIsValid]
  by_cases hleft : data.drop pos.toNat = []
  · left
    rw [if_neg (by rw [lt_dsLen h]; simpa using hleft), if_pos hleft]
  · rw [if_pos ((lt_dsLen h).mpr hleft), if_neg hleft]
    cases hr : dsNextRecordAt data (dsLen data) pos with
    | none =>
        left
        rw [hr, Option.map_none] at hnext
        rw [hnext]
    | some r =>
        right
        obtain ⟨hwithin, hsize⟩ := next_within h hpos hr
        rw [hr, Option.map_some] at hnext
        rw [hnext]
        exact ⟨r.next, rfl, hwithin, hsize, rfl⟩

/-- `ds_image_is_valid` returns, and accepts the sequences of records. -/
theorem dsImageIsValidAt_eq {data : List UInt8} (h : data.length ≤ 255) {fuel : Nat}
    (hfuel : data.length < fuel) :
  dsImageIsValidAt fuel data = some (dsImageIsValid data)
  := by
  have hrun := Loop.run_eq (dsValidRound_progress h) (s := 0) (Nat.zero_le _) hfuel
  apply hrun

/-- A record found lies within the image. -/
theorem length_octets {data : List UInt8} (h : data.length ≤ 255) {pos : UInt8}
    (hpos : CursorWithin data pos) {r : DsSpan}
    (hr : dsNextRecordAt data (dsLen data) pos = some r) :
  (r.octets data).length = r.len.toNat
  := by
  obtain ⟨hstart, -, hadvance, hle⟩ := (cursorExact h hpos).advance r hr
  rw [DsSpan.octets, List.length_take, List.length_drop, hstart]
  omega

/-- Two records agree in length and octets as they are compared exactly if they are equal. -/
theorem sameRecord_iff {actual expected : List UInt8} {r e : DsSpan}
    (hr : (r.octets actual).length = r.len.toNat) (he : (e.octets expected).length = e.len.toNat) :
  (r.len = e.len ∧ (actual.drop r.start.toNat).take e.len.toNat = e.octets expected) ↔
    r.octets actual = e.octets expected
  := by
  constructor
  · rintro ⟨hlen, hoctets⟩
    rw [← hoctets, ← hlen]
    rfl
  · intro heq
    have hlen : r.len = e.len := by
      rw [← UInt8.toNat_inj, ← hr, ← he, heq]
    constructor
    · apply hlen
    · rw [← heq, ← hlen]
      rfl

/-- The inner loop of `ds_image_contains_records` makes progress. -/
theorem dsFindRound_progress {actual expected : List UInt8} (h : actual.length ≤ 255)
    {e : DsSpan} (he : (e.octets expected).length = e.len.toNat) (pos : UInt8)
    (hpos : CursorWithin actual pos) :
  Loop.Round (CursorWithin actual) (octetsLeft actual)
    (fun pos => dsImageFindsRecord (e.octets expected) (actual.drop pos.toNat))
    (dsFindRound actual expected e) pos
  := by
  have hnext := dsNextRecordAt_eq h hpos
  rw [Loop.Round, dsFindRound, dsImageFindsRecord]
  by_cases hleft : actual.drop pos.toNat = []
  · left
    rw [if_neg (by rw [lt_dsLen h]; simpa using hleft), if_pos hleft]
  · rw [if_pos ((lt_dsLen h).mpr hleft), if_neg hleft]
    cases hr : dsNextRecordAt actual (dsLen actual) pos with
    | none =>
        left
        rw [hr, Option.map_none] at hnext
        rw [hnext]
    | some r =>
        obtain ⟨hwithin, hsize⟩ := next_within h hpos hr
        have hsame := sameRecord_iff (length_octets h hpos hr) he
        rw [hr, Option.map_some] at hnext
        rw [hnext]
        by_cases heq : r.octets actual = e.octets expected
        · left
          simp only [if_pos (hsame.mpr heq), heq, beq_self_eq_true, Bool.true_or]
        · right
          refine ⟨r.next, ?_, hwithin, hsize, ?_⟩
          · simp only [if_neg (fun hc => heq (hsame.mp hc))]
          · simp only [beq_eq_false_iff_ne.mpr heq, Bool.false_or]

/-- The outer loop of `ds_image_contains_records` makes progress, given fuel for the inner
one. -/
theorem dsContainsRound_progress {actual expected : List UInt8} (ha : actual.length ≤ 255)
    (h : expected.length ≤ 255) {fuel : Nat} (hfuel : actual.length < fuel) (pos : UInt8)
    (hpos : CursorWithin expected pos) :
  Loop.Round (CursorWithin expected) (octetsLeft expected)
    (fun pos => dsImageContainsRecords actual (expected.drop pos.toNat))
    (dsContainsRound fuel actual expected) pos
  := by
  have hnext := dsNextRecordAt_eq h hpos
  rw [Loop.Round, dsContainsRound, dsImageContainsRecords]
  by_cases hleft : expected.drop pos.toNat = []
  · left
    rw [if_neg (by rw [lt_dsLen h]; simpa using hleft), if_pos hleft]
  · rw [if_pos ((lt_dsLen h).mpr hleft), if_neg hleft]
    cases he : dsNextRecordAt expected (dsLen expected) pos with
    | none =>
        left
        rw [he, Option.map_none] at hnext
        rw [hnext]
    | some e =>
        obtain ⟨hwithin, hsize⟩ := next_within h hpos he
        have hfind : Loop.run (dsFindRound actual expected e) fuel 0
            = some (dsImageFindsRecord (e.octets expected) actual) := by
          apply Loop.run_eq (dsFindRound_progress ha (length_octets h hpos he)) (s := 0)
            (Nat.zero_le _) hfuel
        rw [he, Option.map_some] at hnext
        rw [hnext]
        cases hfound : dsImageFindsRecord (e.octets expected) actual with
        | true =>
            right
            refine ⟨e.next, ?_, hwithin, hsize, ?_⟩
            · simp only [hfind, hfound, Option.map_some, if_true]
            · simp only [hfound, Bool.true_and]
        | false =>
            left
            simp only [hfind, hfound, Option.map_some, Bool.false_eq_true, if_false,
              Bool.false_and]

/-- `ds_image_contains_records` returns, and compares the records. -/
theorem dsImageContainsRecordsAt_eq {actual expected : List UInt8} (ha : actual.length ≤ 255)
    (h : expected.length ≤ 255) {fuel : Nat} (hfuel : actual.length < fuel)
    (hfuel' : expected.length < fuel) :
  dsImageContainsRecordsAt fuel actual expected = some (dsImageContainsRecords actual expected)
  := by
  apply Loop.run_eq (dsContainsRound_progress ha h hfuel) (s := 0) (Nat.zero_le _) hfuel'

/-! ### The verdict -/

/-- What `verify_data_storage` compares once the image is read back. -/
def dsVerdict (fuel : Nat) (actual expected : List UInt8) : Option Bool :=
  (dsImageIsValidAt fuel expected).bind fun expectedValid =>
    (if expectedValid then dsImageIsValidAt fuel actual else some false).bind fun valid =>
      if valid then dsImageContainsRecordsAt fuel actual expected
      else some (actual == expected)

/-- `verify_data_storage` with its scanning loops; no result if they run out of fuel. -/
def verifyDataStorageAt (fuel : Nat) (w : World) (expected : List UInt8) :
    World × Option Int :=
  let (w, r) := readIsdu w IDX_DATA_STORAGE 0 255
  if r.ret ≠ STATUS_OK then (w, some r.ret)
  else
    match dsVerdict fuel r.data expected with
    | none => (w, none)
    | some ok =>
      let (w, ret) := verifyOutcome w ok
      (w, some ret)

/-- The image read back matches the expected one: both are sequences of records and every
expected record occurs, or at least one is not and the octets are the same. -/
def ImagesMatch (actual expected : List UInt8) : Prop :=
  (∃ records expectedRecords, IsDsImage actual records ∧ IsDsImage expected expectedRecords ∧
    ∀ record ∈ expectedRecords, record ∈ records) ∨
  (¬ ((∃ records, IsDsImage actual records) ∧ ∃ records, IsDsImage expected records) ∧
    actual = expected)

/-- The verdict is reached, and it is that the images match. -/
theorem dsVerdict_iff {actual expected : List UInt8} (ha : actual.length ≤ 255)
    (h : expected.length ≤ 255) {fuel : Nat} (hfuel : 255 < fuel) :
  ∃ ok, dsVerdict fuel actual expected = some ok ∧ (ok = true ↔ ImagesMatch actual expected)
  := by
  have hexpected := dsImageIsValidAt_eq h (show expected.length < fuel by omega)
  have hactual := dsImageIsValidAt_eq ha (show actual.length < fuel by omega)
  have hcontains := dsImageContainsRecordsAt_eq ha h (show actual.length < fuel by omega)
    (show expected.length < fuel by omega)
  by_cases hvalid : (∃ records, IsDsImage actual records) ∧ ∃ records, IsDsImage expected records
  · obtain ⟨⟨records, hr⟩, expectedRecords, he⟩ := hvalid
    have hav := dsImageIsValid_iff.mpr ⟨records, hr⟩
    have hev := dsImageIsValid_iff.mpr ⟨expectedRecords, he⟩
    refine ⟨dsImageContainsRecords actual expected, ?_, ?_⟩
    · simp only [dsVerdict, hexpected, hactual, hcontains, hav, hev, Option.bind_some, if_true]
    · rw [dsImageContainsRecords_iff hr he]
      constructor
      · intro hsub
        left
        exact ⟨records, expectedRecords, hr, he, hsub⟩
      · rintro (⟨records', expectedRecords', hr', he', hsub⟩ | ⟨hnot, -⟩)
        · rw [hr.unique hr', he.unique he']
          apply hsub
        · exact absurd ⟨⟨records, hr⟩, expectedRecords, he⟩ hnot
  · refine ⟨actual == expected, ?_, ?_⟩
    · rw [dsVerdict, hexpected, Option.bind_some]
      cases hev : dsImageIsValid expected with
      | false => simp only [Bool.false_eq_true, if_false, Option.bind_some]
      | true =>
          have hav : dsImageIsValid actual = false := by
            rw [Bool.eq_false_iff, ne_eq, dsImageIsValid_iff]
            intro hvalid'
            exact hvalid ⟨hvalid', dsImageIsValid_iff.mp hev⟩
          simp only [hactual, hav, if_true, Option.bind_some, Bool.false_eq_true, if_false]
    · rw [beq_iff_eq]
      constructor
      · intro heq
        right
        exact ⟨hvalid, heq⟩
      · rintro (⟨records, expectedRecords, hr, he, -⟩ | ⟨-, heq⟩)
        · exact absurd ⟨⟨records, hr⟩, expectedRecords, he⟩ hvalid
        · apply heq

/-- Sequences of records match when the expected records occur. -/
theorem imagesMatch_iff {actual expected : List UInt8} {records expectedRecords : List (List UInt8)}
    (hr : IsDsImage actual records) (he : IsDsImage expected expectedRecords) :
  ImagesMatch actual expected ↔ ∀ record ∈ expectedRecords, record ∈ records
  := by
  constructor
  · rintro (⟨records', expectedRecords', hr', he', hsub⟩ | ⟨hnot, -⟩)
    · rw [hr.unique hr', he.unique he']
      apply hsub
    · exact absurd ⟨⟨records, hr⟩, expectedRecords, he⟩ hnot
  · intro hsub
    left
    exact ⟨records, expectedRecords, hr, he, hsub⟩

/-- An image matches itself. -/
theorem imagesMatch_refl (data : List UInt8) :
  ImagesMatch data data
  := by
  by_cases h : ∃ records, IsDsImage data records
  · obtain ⟨records, hr⟩ := h
    rw [imagesMatch_iff hr hr]
    intro _
    exact id
  · right
    constructor
    · rintro ⟨hvalid, -⟩
      contradiction
    · rfl

/-- The order of the records in an image does not matter. -/
theorem imagesMatch_perm {records records' expectedRecords expectedRecords' : List (List UInt8)}
    (hr : ∀ record ∈ records, IsDsRecord record)
    (he : ∀ record ∈ expectedRecords, IsDsRecord record)
    (hperm : records.Perm records') (hperm' : expectedRecords.Perm expectedRecords') :
  ImagesMatch records.flatten expectedRecords.flatten ↔
    ImagesMatch records'.flatten expectedRecords'.flatten
  := by
  have hr' : ∀ record ∈ records', IsDsRecord record := fun _ h => hr _ (hperm.mem_iff.mpr h)
  have he' : ∀ record ∈ expectedRecords', IsDsRecord record :=
    fun _ h => he _ (hperm'.mem_iff.mpr h)
  rw [imagesMatch_iff ⟨rfl, hr⟩ ⟨rfl, he⟩, imagesMatch_iff ⟨rfl, hr'⟩ ⟨rfl, he'⟩]
  constructor
  · intro h record hmem
    exact hperm.mem_iff.mp (h record (hperm'.mem_iff.mpr hmem))
  · intro h record hmem
    exact hperm.mem_iff.mpr (h record (hperm'.mem_iff.mp hmem))

/-- Verdicts on images that match alike are the same. -/
theorem dsVerdict_congr {actual expected actual' expected' : List UInt8} {fuel : Nat}
    (hfuel : 255 < fuel) (ha : actual.length ≤ 255) (h : expected.length ≤ 255)
    (ha' : actual'.length ≤ 255) (h' : expected'.length ≤ 255)
    (hmatch : ImagesMatch actual expected ↔ ImagesMatch actual' expected') :
  dsVerdict fuel actual expected = dsVerdict fuel actual' expected'
  := by
  obtain ⟨ok, hok, hiff⟩ := dsVerdict_iff ha h hfuel
  obtain ⟨ok', hok', hiff'⟩ := dsVerdict_iff ha' h' hfuel
  rw [hok, hok', Option.some.injEq, Bool.eq_iff_iff, hiff, hiff', hmatch]

/-- A service that is collected fits the buffer of the caller. -/
theorem readIsdu_fits {w : World} {index : UInt16} {subindex cap : UInt8}
    (h : (readIsdu w index subindex cap).2.ret = STATUS_OK) :
  (readIsdu w index subindex cap).2.data.length ≤ cap.toNat
  := by
  have hfit : ∀ p : PortState, (isduFinishRead p cap).2.data.length ≤ cap.toNat := by
    intro p
    simp only [isduFinishRead]
    split
    · apply Nat.zero_le
    · split
      · apply Nat.zero_le
      · next hfits =>
        rw [Nat.not_lt] at hfits
        apply hfits
  revert h
  simp only [readIsdu]
  split
  · intro _
    apply Nat.zero_le
  · split
    · split <;> intro _ <;> apply Nat.zero_le
    · split
      · split
        · intro _
          apply Nat.zero_le
        · intro _
          apply hfit
      · intro _
        apply Nat.zero_le

/-- The verdict on the records is that of the loops. -/
theorem verifyDataStorageAt_eq (w : World) {expected : List UInt8} (h : expected.length ≤ 255)
    {fuel : Nat} (hfuel : 255 < fuel) :
  verifyDataStorageAt fuel w expected
    = ((verifyDataStorage w expected).1, some (verifyDataStorage w expected).2)
  := by
  have hfits : (readIsdu w IDX_DATA_STORAGE 0 255).2.ret = STATUS_OK →
      (readIsdu w IDX_DATA_STORAGE 0 255).2.data.length ≤ 255 := readIsdu_fits
  simp only [verifyDataStorageAt, verifyDataStorage]
  generalize readIsdu w IDX_DATA_STORAGE 0 255 = c at hfits
  obtain ⟨v, r⟩ := c
  by_cases hret : r.ret = STATUS_OK
  · have ha : r.data.length ≤ 255 := hfits hret
    have hexpected := dsImageIsValidAt_eq h (show expected.length < fuel by omega)
    have hactual := dsImageIsValidAt_eq ha (show r.data.length < fuel by omega)
    have hcontains := dsImageContainsRecordsAt_eq ha h (show r.data.length < fuel by omega)
      (show expected.length < fuel by omega)
    rw [if_neg (not_not.mpr hret), if_neg (not_not.mpr hret), dsVerdict, hexpected,
      Option.bind_some]
    cases hev : dsImageIsValid expected with
    | false => rfl
    | true =>
        rw [if_pos rfl, hactual, Option.bind_some]
        cases hav : dsImageIsValid r.data with
        | false => rfl
        | true =>
            rw [if_pos rfl, hcontains]
            rfl
  · rw [if_pos hret, if_pos hret]

/-! ### Data Storage verification -/

/-- The scan of an image by `ds_image_is_valid`. -/
structure ImageScanned (data : List UInt8) : Prop where
  /-- The loop ends, in acceptance exactly for a sequence of records. -/
  returns : ∀ fuel, data.length < fuel → ∃ valid, dsImageIsValidAt fuel data = some valid ∧
    (valid = true ↔ ∃ records, IsDsImage data records)
  unique : ∀ records records', IsDsImage data records → IsDsImage data records' →
    records = records'
  exact : ∀ pos, Loop.Visits (dsValidRound data) 0 pos → CursorExact data pos

/-- The comparison of two images by `ds_image_contains_records`. -/
structure RecordsCompared (actual expected : List UInt8) : Prop where
  returns : ∀ fuel, actual.length < fuel → expected.length < fuel →
    ∃ found, dsImageContainsRecordsAt fuel actual expected = some found
  outer : ∀ fuel pos, Loop.Visits (dsContainsRound fuel actual expected) 0 pos →
    CursorExact expected pos
  inner : ∀ e pos, Loop.Visits (dsFindRound actual expected e) 0 pos → CursorExact actual pos

/-- The verification of the image that is read back in `w`. -/
structure ReadbackVerified (w : World) (expected : List UInt8) : Prop where
  returns : ∀ fuel, 255 < fuel → verifyDataStorageAt fuel w expected
    = ((verifyDataStorage w expected).1, some (verifyDataStorage w expected).2)
  ok : (verifyDataStorage w expected).2 = STATUS_OK ↔
    ImagesMatch (readIsdu w IDX_DATA_STORAGE 0 255).2.data expected
  fails : (verifyDataStorage w expected).2 ≠ STATUS_OK →
    (verifyDataStorage w expected).2 = ISDU_ERR_VERIFY_FAILED

/-- A cursor that goes on to the next record stays within the image. -/
theorem imageScanned {data : List UInt8} (h : data.length ≤ 255) :
  ImageScanned data
  := by
  constructor
  · intro fuel hfuel
    exact ⟨_, dsImageIsValidAt_eq h hfuel, dsImageIsValid_iff⟩
  · intro records records' hr hr'
    exact hr.unique hr'
  · intro pos hpos
    apply cursorExact h
    apply hpos.invariant _ (Nat.zero_le _)
    intro pos pos' hwithin hround
    rw [dsValidRound] at hround
    split at hround
    · cases hr : dsNextRecordAt data (dsLen data) pos with
      | none =>
          rw [hr] at hround
          cases hround
      | some r =>
          rw [hr] at hround
          cases hround
          exact (next_within h hwithin hr).1
    · cases hround

theorem recordsCompared {actual expected : List UInt8} (ha : actual.length ≤ 255)
    (h : expected.length ≤ 255) :
  RecordsCompared actual expected
  := by
  constructor
  · intro fuel hfuel hfuel'
    exact ⟨_, dsImageContainsRecordsAt_eq ha h hfuel hfuel'⟩
  · intro fuel pos hpos
    apply cursorExact h
    apply hpos.invariant _ (Nat.zero_le _)
    intro pos pos' hwithin hround
    rw [dsContainsRound] at hround
    split at hround
    · cases he : dsNextRecordAt expected (dsLen expected) pos with
      | none =>
          rw [he] at hround
          cases hround
      | some e =>
          rw [he] at hround
          simp only [Option.map_eq_some_iff] at hround
          obtain ⟨found, -, hfound⟩ := hround
          cases found with
          | true =>
              cases hfound
              exact (next_within h hwithin he).1
          | false => cases hfound
    · cases hround
  · intro e pos hpos
    apply cursorExact ha
    apply hpos.invariant _ (Nat.zero_le _)
    intro pos pos' hwithin hround
    rw [dsFindRound] at hround
    split at hround
    · cases hr : dsNextRecordAt actual (dsLen actual) pos with
      | none =>
          rw [hr] at hround
          cases hround
      | some r =>
          rw [hr] at hround
          simp only at hround
          split at hround
          · cases hround
          · cases hround
            exact (next_within ha hwithin hr).1
    · cases hround

theorem readbackVerified {w : World} {expected : List UInt8} (h : expected.length ≤ 255)
    (hread : (readIsdu w IDX_DATA_STORAGE 0 255).2.ret = STATUS_OK) :
  ReadbackVerified w expected
  := by
  have hfits := readIsdu_fits hread
  obtain ⟨ok, hok, hiff⟩ := dsVerdict_iff hfits h (show 255 < 256 by decide)
  have hat := verifyDataStorageAt_eq w h (show 255 < 256 by decide)
  have hret : (verifyDataStorage w expected).2
      = if ok then STATUS_OK else ISDU_ERR_VERIFY_FAILED := by
    simp only [verifyDataStorageAt, hread, ne_eq, not_true_eq_false, if_false, hok] at hat
    have hsnd := congrArg Prod.snd hat
    rw [Option.some.injEq] at hsnd
    rw [← hsnd]
    rfl
  constructor
  · intro fuel hfuel
    apply verifyDataStorageAt_eq w h hfuel
  · rw [hret, ← hiff]
    cases ok with
    | true => simp
    | false => simp [STATUS_OK, ISDU_ERR_VERIFY_FAILED]
  · rw [hret]
    cases ok with
    | true => simp
    | false => simp

/-- Data Storage verification: the images that are accepted as valid are the sequences of
records, in one way each; the scanning loops end and their 8-bit cursors stay exact; a readback
is confirmed exactly when it matches; and the verdict depends neither on the order of the
records nor fails an image against itself. -/
theorem data_storage_verified :
  (∀ data : List UInt8, data.length ≤ 255 → ImageScanned data) ∧
  (∀ actual expected : List UInt8, actual.length ≤ 255 → expected.length ≤ 255 →
    RecordsCompared actual expected) ∧
  (∀ (w : World) (expected : List UInt8), expected.length ≤ 255 →
    (readIsdu w IDX_DATA_STORAGE 0 255).2.ret = STATUS_OK → ReadbackVerified w expected) ∧
  (∀ records records' expectedRecords expectedRecords' : List (List UInt8),
    (∀ record ∈ records, IsDsRecord record) → (∀ record ∈ expectedRecords, IsDsRecord record) →
    records.flatten.length ≤ 255 → expectedRecords.flatten.length ≤ 255 →
    records.Perm records' → expectedRecords.Perm expectedRecords' →
    ∀ fuel, 255 < fuel → dsVerdict fuel records.flatten expectedRecords.flatten
      = dsVerdict fuel records'.flatten expectedRecords'.flatten) ∧
  ∀ data : List UInt8, data.length ≤ 255 → ∀ fuel, 255 < fuel →
    dsVerdict fuel data data = some true
  := by
  refine ⟨fun _ => imageScanned, fun _ _ => recordsCompared, fun _ _ => readbackVerified, ?_, ?_⟩
  · intro records records' expectedRecords expectedRecords' hr he hlen hlen' hperm hperm' fuel hfuel
    apply dsVerdict_congr hfuel hlen hlen'
    · rw [← hperm.flatten.length_eq]
      apply hlen
    · rw [← hperm'.flatten.length_eq]
      apply hlen'
    · apply imagesMatch_perm hr he hperm hperm'
  · intro data hlen fuel hfuel
    obtain ⟨ok, hok, hiff⟩ := dsVerdict_iff hlen hlen hfuel
    rw [hok, hiff.mpr (imagesMatch_refl data)]

/-- An image of two records, and its records in the other order. -/
def twoRecords : List UInt8 := [0, 1, 0, 1, 0xAA, 0, 2, 0, 0]
def twoRecordsSwapped : List UInt8 := [0, 2, 0, 0, 0, 1, 0, 1, 0xAA]

/-- A port of type 2.1 connects and reads the Data Storage of a device that holds two
records. -/
def readingDataStorage : List (Env × Call) :=
  connecting ++ [(.quiet [], .service (.verifyDataStorage twoRecordsSwapped)),
      (.quiet (reply 0 []), .tickAt .cycleDue 14)] ++
    List.replicate 3 (.quiet (reply 0 [0x00]), .tickAt .cycleDue 16) ++
    (readResponse twoRecords).map
      (fun octet => (.quiet (reply 0 [octet, 0x00]), .tickAt .cycleDue 18))

/-- The readback is verified against the image with the records in the other order. -/
theorem data_storage_verified_swapped :
  ReadbackVerified
    (run .reference (started (.quiet []) .full (.bare .type2_1 1 1)) readingDataStorage)
    twoRecordsSwapped ∧
  dsVerdict 256 twoRecords twoRecords = some true
  := by
  constructor
  · apply data_storage_verified.2.2.1 _ _ (by decide)
    decide +kernel
  · apply data_storage_verified.2.2.2.2 _ (by decide) _ (by decide)

end IolinkMaster
