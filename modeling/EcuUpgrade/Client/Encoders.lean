import EcuUpgrade.Client.RequestMachine
import EcuUpgrade.Lib.BigEndian
import Mathlib.Tactic.IntervalCases

/-!
# The functions that make requests

The functions `UDSSend…` of the client, each as what it does between `PreRequestCheck` and
`_SendRequest`: it fills the send buffer and sets the length of the request, or it returns an error.
Data are given with their length, which is a `uint16_t`.

## Main definitions

* `udsSendECUReset`, …, `udsSendSecurityAccess`: the functions.
* `Encoder.Writes`: what a function writes.

## Main results

* `sizeBytes_eq_toBytes`, `sizeBytes_zero`: the bytes of a size.
* `writes_ofBytes`, `writes_ofParts`, `writes_udsSendRDBI`: what the functions write.
* `bytes_beginRequest`: the message that is sent, with the suppress bit.
-/

namespace EcuUpgrade

open BigEndian Memory

/-- Data with a length of type `uint16_t`. -/
abbrev Payload : Type := { data : Bytes // data.length ≤ 65535 }

/-- A function that writes bytes to the start of the send buffer. -/
def Encoder.ofBytes (bytes : Bytes) : Encoder where
  fill c := (.ok, { c with
    sendBuf := store c.sendBuf 0 bytes
    sendSize := UInt16.ofNat bytes.length })
  writes _ := ⟨_, _, rfl⟩

/-- A function that writes a header, checks whether the data fit, and then writes the data behind
the header. -/
def Encoder.ofParts (header : Bytes) (fits : UInt16 → Bool) (data : Bytes) : Encoder where
  fill c :=
    let buf := store c.sendBuf 0 header
    if fits c.sendBufSize then
      (.ok, { c with
        sendBuf := store buf header.length data
        sendSize := UInt16.ofNat (header.length + data.length) })
    else (.bufsiz, { c with sendBuf := buf })
  writes c := by
    dsimp only
    split_ifs
    · exact ⟨_, _, rfl⟩
    · exact ⟨_, c.sendSize, rfl⟩

/-! ### The functions -/

/-- `UDSSendECUReset`. -/
def udsSendECUReset (type : UInt8) : Encoder := .ofBytes [kSIDEcuReset, type]

/-- `UDSSendDiagSessCtrl`. -/
def udsSendDiagSessCtrl (mode : UInt8) : Encoder :=
  .ofBytes [kSIDDiagnosticSessionControl, mode]

/-- `UDSSendCommCtrl`. -/
def udsSendCommCtrl (ctrl comm : UInt8) : Encoder :=
  .ofBytes [kSIDCommunicationControl, ctrl, comm]

/-- `UDSSendTesterPresent`. -/
def udsSendTesterPresent : Encoder := .ofBytes [kSIDTesterPresent, 0]

/-- The loop of `UDSSendRDBI` from the `i`-th identifier on, with a send buffer of a size. -/
def writeDIDs (size : UInt16) : ℕ → List UInt16 → (ℕ → UInt8) → UDSErrT × (ℕ → UInt8)
  | _, [], buf => (.ok, buf)
  | i, did :: dids, buf =>
    let offset := (1 + 2 * i) % 2 ^ 16
    if size.toNat < offset + 2 then (.invalidArg, buf)
    else writeDIDs size (i + 1) dids (store buf offset (didBytes did))

/-- `UDSSendRDBI`. -/
def udsSendRDBI (didList : List UInt16) : Encoder where
  fill c :=
    match writeDIDs c.sendBufSize 0 didList (store c.sendBuf 0 [kSIDReadDataByIdentifier]) with
    | (.ok, buf) => (.ok, { c with
        sendBuf := buf
        sendSize := UInt16.ofNat (1 + didList.length * 2) })
    | (err, buf) => (err, { c with sendBuf := buf })
  writes c := by
    split
    · exact ⟨_, _, rfl⟩
    · exact ⟨_, c.sendSize, rfl⟩

/-- `UDSSendWDBI`. It writes the identifier after the check. -/
def udsSendWDBI (dataIdentifier : UInt16) (data : Payload) : Encoder :=
  .ofParts [kSIDWriteDataByIdentifier]
    (fun size => !(size ≤ 3 || size.toNat - 3 < data.1.length))
    (didBytes dataIdentifier ++ data.1)

/-- `UDSSendRoutineCtrl`. The size of the send buffer is converted to an `unsigned int`. -/
def udsSendRoutineCtrl (type : UInt8) (routineIdentifier : UInt16) (data : Payload) : Encoder :=
  .ofParts ([kSIDRoutineControl, type] ++ didBytes routineIdentifier)
    (fun size => UInt32.ofNat data.1.length ≤ size.toUInt32 - 4 || data.1 = []) data.1

variable (shl : ℕ → ℕ)

/-- `0xFF << (8 * i)` as a `size_t`. The operand is an `int` of 32 bits: its sign is extended when
the highest byte is set, and `shl` says what comes of a shift by its width or more. -/
def byteMask (i : ℕ) : ℕ :=
  if i < 3 then 0xFF <<< (8 * i) else if i = 3 then 0xFFFFFFFFFF000000 else shl i

/-- The loop `for (int i = k - 1; i >= 0; i--)` over the bytes of a size or an address. -/
def sizeBytes : ℕ → ℕ → Bytes
  | 0, _ => []
  | i + 1, n => UInt8.ofNat ((n &&& byteMask shl i) >>> (8 * i)) :: sizeBytes i n

/-- The common body of `UDSSendRequestDownload` and `UDSSendRequestUpload`. -/
def udsSendRequestTransfer (sid dataFormatIdentifier addressAndLengthFormatIdentifier : UInt8)
    (memoryAddress memorySize : ℕ) : Encoder :=
  let numMemorySizeBytes := ((addressAndLengthFormatIdentifier &&& 0xF0) >>> 4).toNat
  let numMemoryAddressBytes := (addressAndLengthFormatIdentifier &&& 0x0F).toNat
  .ofBytes ([sid, dataFormatIdentifier, addressAndLengthFormatIdentifier] ++
    sizeBytes shl numMemoryAddressBytes memoryAddress ++
    sizeBytes shl numMemorySizeBytes memorySize)

/-- `UDSSendRequestDownload`. -/
def udsSendRequestDownload (dataFormatIdentifier addressAndLengthFormatIdentifier : UInt8)
    (memoryAddress memorySize : ℕ) : Encoder :=
  udsSendRequestTransfer shl kSIDRequestDownload dataFormatIdentifier
    addressAndLengthFormatIdentifier memoryAddress memorySize

/-- `UDSSendRequestUpload`. -/
def udsSendRequestUpload (dataFormatIdentifier addressAndLengthFormatIdentifier : UInt8)
    (memoryAddress memorySize : ℕ) : Encoder :=
  udsSendRequestTransfer shl kSIDRequestUpload dataFormatIdentifier
    addressAndLengthFormatIdentifier memoryAddress memorySize

/-- `UDSSendTransferData`, and `UDSSendTransferDataStream` when `fread` has read `data`. -/
def udsSendTransferData (blockSequenceCounter : UInt8) (data : Payload) : Encoder :=
  .ofBytes ([kSIDTransferData, blockSequenceCounter] ++ data.1)

/-- `UDSSendRequestTransferExit`. -/
def udsSendRequestTransferExit : Encoder := .ofBytes [kSIDRequestTransferExit]

/-- `UDSCtrlDTCSetting`. The data are empty if the pointer is null. -/
def udsCtrlDTCSetting (dtcSettingType : UInt8) (data : Payload) : Encoder :=
  .ofParts [kSIDControlDTCSetting, dtcSettingType]
    (fun size => data.1 = [] || (data.1.length : ℤ) ≤ size.toNat - 2) data.1

/-- `UDSSendSecurityAccess`. A level that is reserved is refused before anything is written. -/
def udsSendSecurityAccess (level : UInt8) (data : Payload) : Encoder where
  fill c :=
    if udsSecurityAccessLevelIsReserved level then (.invalidArg, c)
    else (Encoder.ofParts [kSIDSecurityAccess, level]
      (fun size => UInt32.ofNat data.1.length ≤ size.toUInt32 - 2 || data.1 = []) data.1).fill c
  writes c := by
    split_ifs
    · exact ⟨c.sendBuf, c.sendSize, rfl⟩
    · exact (Encoder.ofParts _ _ _).writes c

/-! ### The bytes of a size -/

variable {shl}

@[simp] theorem length_sizeBytes (k n : ℕ) : (sizeBytes shl k n).length = k := by
  induction k with
  | zero => rfl
  | succ k ih => rw [sizeBytes, List.length_cons, ih]

theorem ofNat_eq_ofNat {a b : ℕ} (h : a % 256 = b % 256) : UInt8.ofNat a = UInt8.ofNat b := by
  apply UInt8.toNat.inj
  simpa only [UInt8.toNat_ofNat'] using h

/-- The masks of the lower four bytes select their byte. -/
theorem testBit_byteMask {i j : ℕ} (hi : i ≤ 3) (hj : j < 8) :
    (byteMask shl i).testBit (8 * i + j) = true := by
  unfold byteMask
  by_cases hlow : i < 3
  · have hff : (0xFF : ℕ) = 2 ^ 8 - 1 := rfl
    rw [if_pos hlow, Nat.testBit_shiftLeft, Nat.add_sub_cancel_left, hff,
      Nat.testBit_two_pow_sub_one]
    simp [hj]
  · obtain rfl : i = 3 := by omega
    rw [if_neg hlow, if_pos rfl]
    interval_cases j <;> decide

/-- The lower four bytes are written correctly. -/
theorem sizeByte_low {i : ℕ} (hi : i ≤ 3) (n : ℕ) :
    UInt8.ofNat ((n &&& byteMask shl i) >>> (8 * i)) = UInt8.ofNat (n / 256 ^ i) := by
  have hpow : 256 ^ i = 2 ^ (8 * i) := by rw [pow_mul]; norm_num
  rw [hpow, ← Nat.shiftRight_eq_div_pow]
  refine ofNat_eq_ofNat (Nat.eq_of_testBit_eq fun j => ?_)
  have hmod : (256 : ℕ) = 2 ^ 8 := by norm_num
  rw [hmod, Nat.testBit_mod_two_pow, Nat.testBit_mod_two_pow, Nat.testBit_shiftRight,
    Nat.testBit_shiftRight, Nat.testBit_and]
  by_cases hj : j < 8
  · rw [testBit_byteMask hi hj, Bool.and_true]
  · simp [hj]

/-- The upper bytes of a number below `2 ^ 32` are zero, whatever their masks are. -/
theorem sizeByte_high (shl : ℕ → ℕ) {i n : ℕ} (hi : 4 ≤ i) (hn : n < 2 ^ 32) :
    UInt8.ofNat ((n &&& byteMask shl i) >>> (8 * i)) = UInt8.ofNat (n / 256 ^ i) := by
  have hpow : 2 ^ 32 ≤ 256 ^ i := by
    calc 2 ^ 32 = 256 ^ 4 := by norm_num
      _ ≤ 256 ^ i := Nat.pow_le_pow_right (by norm_num) hi
  have hpow' : 256 ^ i = 2 ^ (8 * i) := by rw [pow_mul]; norm_num
  have hand : n &&& byteMask shl i < 2 ^ (8 * i) :=
    (Nat.and_le_left.trans_lt hn).trans_le (hpow' ▸ hpow)
  rw [Nat.shiftRight_eq_div_pow, Nat.div_eq_of_lt hand, Nat.div_eq_of_lt (hn.trans_le hpow)]

/-- **A number below `2 ^ 32` is written correctly.** -/
theorem sizeBytes_eq_toBytes {n : ℕ} (hn : n < 2 ^ 32) (k : ℕ) :
    sizeBytes shl k n = toBytes k n := by
  induction k with
  | zero => rfl
  | succ i ih =>
    rw [sizeBytes, toBytes_succ, ih]
    rcases Nat.lt_or_ge i 4 with hi | hi
    · rw [sizeByte_low (by omega)]
    · rw [sizeByte_high shl hi hn]

/-- **When the wide shifts give zero, only the lower four bytes are written.** -/
theorem sizeBytes_zero (k n : ℕ) : sizeBytes (fun _ => 0) k n = toBytes k (n % 2 ^ 32) := by
  induction k with
  | zero => rfl
  | succ i ih =>
    rw [sizeBytes, toBytes_succ, ih]
    congr 1
    rcases Nat.lt_or_ge i 4 with hi | hi
    · rw [sizeByte_low (by omega)]
      refine ofNat_eq_ofNat ?_
      interval_cases i <;> omega
    · have hmask : byteMask (fun _ => 0) i = 0 := by
        rw [byteMask, if_neg (by omega), if_neg (by omega)]
      have hmod : n % 2 ^ 32 < 2 ^ 32 := Nat.mod_lt _ (by norm_num)
      rw [← sizeByte_high (fun _ => 0) hi hmod, hmask, Nat.and_zero, Nat.and_zero]

/-! ### Messages -/

/-- When a function succeeds, it has written certain bytes and set the length to theirs. -/
def Encoder.Writes (e : Encoder) (bytes : Bytes) : Prop :=
  ∀ c, (e.fill c).1 = .ok →
    cells (e.fill c).2.sendBuf 0 (e.fill c).2.sendSize.toNat = bytes

theorem toNat_ofNat_of_le {n : ℕ} (h : n ≤ 65535) : (UInt16.ofNat n).toNat = n :=
  UInt16.toNat_ofNat_of_lt' (Nat.lt_succ_of_le h)

theorem writes_ofBytes {bytes : Bytes} (h : bytes.length ≤ 65535) :
    (Encoder.ofBytes bytes).Writes bytes := by
  intro c _
  change cells (store c.sendBuf 0 bytes) 0 (UInt16.ofNat bytes.length).toNat = bytes
  rw [toNat_ofNat_of_le h, cells_store]

theorem writes_ofParts {header data : Bytes} {fits : UInt16 → Bool}
    (h : header.length + data.length ≤ 65535) :
    (Encoder.ofParts header fits data).Writes (header ++ data) := by
  intro c hok
  unfold Encoder.ofParts at hok ⊢
  dsimp only at hok ⊢
  split_ifs at hok ⊢
  rw [toNat_ofNat_of_le h, cells_store_append, cells_store]

/-- **The loop of `UDSSendRDBI`.** As it checks the offset, it does not wrap around. -/
theorem writeDIDs_cells {size : UInt16} {dids : List UInt16} {i : ℕ} {buf buf' : ℕ → UInt8}
    (hi : 1 + 2 * i ≤ 65535) (h : writeDIDs size i dids buf = (.ok, buf')) :
    1 + 2 * (i + dids.length) ≤ 65535 ∧ cells buf' 0 (1 + 2 * (i + dids.length)) =
      cells buf 0 (1 + 2 * i) ++ dids.flatMap didBytes := by
  induction dids generalizing i buf with
  | nil =>
    obtain rfl := (Prod.mk.inj h).2
    simpa using hi
  | cons did dids ih =>
    have hoffset : (1 + 2 * i) % 2 ^ 16 = 1 + 2 * i := Nat.mod_eq_of_lt (by omega)
    have hsize := size.toNat_lt
    unfold writeDIDs at h
    dsimp only at h
    rw [hoffset] at h
    split_ifs at h with hfull
    · cases (Prod.mk.inj h).1
    · have hlength : i + (did :: dids).length = i + 1 + dids.length := by
        rw [List.length_cons]
        omega
      have hwritten : cells (store buf (1 + 2 * i) (didBytes did)) 0 (1 + 2 * (i + 1)) =
          cells buf 0 (1 + 2 * i) ++ didBytes did :=
        cells_store_append buf (1 + 2 * i) (didBytes did)
      obtain ⟨hle, hcells⟩ := ih (i := i + 1) (by omega) h
      rw [hlength, hcells, hwritten, List.flatMap_cons, List.append_assoc]
      exact ⟨hle, rfl⟩

theorem writes_udsSendRDBI (didList : List UInt16) :
    (udsSendRDBI didList).Writes ([kSIDReadDataByIdentifier] ++ didList.flatMap didBytes) := by
  intro c hok
  unfold udsSendRDBI at hok ⊢
  dsimp only at hok ⊢
  split at hok
  · next buf hwrite =>
    obtain ⟨hle, hcells⟩ := writeDIDs_cells (i := 0) (by norm_num) hwrite
    have hsize : (UInt16.ofNat (1 + didList.length * 2)).toNat = 1 + 2 * (0 + didList.length) := by
      rw [toNat_ofNat_of_le (by omega)]
      omega
    have hsid : cells (store c.sendBuf 0 [kSIDReadDataByIdentifier]) 0 (1 + 2 * 0) =
        [kSIDReadDataByIdentifier] :=
      cells_store c.sendBuf 0 [kSIDReadDataByIdentifier]
    dsimp only
    rw [hsize, hcells, hsid]
  · next err buf hne hwrite => exact (hne hok).elim

/-! ### What is sent -/

/-- A message, with the suppress bit if the option is set. -/
def withSuppressBit (options : UInt8) (bytes : Bytes) : Bytes :=
  if hasOption options udsSuppressPosResp then bytes.modify 1 (· ||| 0x80) else bytes

/-- The first field of a message, with the suppress bit if the option is set. -/
def suppressing (options b : UInt8) : UInt8 :=
  if hasOption options udsSuppressPosResp then b ||| 0x80 else b

theorem withSuppressBit_cons (options sid b : UInt8) (rest : Bytes) :
    withSuppressBit options (sid :: b :: rest) = sid :: suppressing options b :: rest := by
  unfold withSuppressBit suppressing
  split_ifs <;> rfl

theorem cells_store_modify (mem : ℕ → UInt8) (n : ℕ) :
    cells (store mem 1 [mem 1 ||| 0x80]) 0 n = (cells mem 0 n).modify 1 (· ||| 0x80) := by
  refine List.ext_getElem (by simp) fun i hi hi' => ?_
  simp only [cells, List.getElem_modify, List.getElem_map, List.getElem_range', Nat.zero_add,
    Nat.one_mul]
  by_cases hi : 1 = i
  · rw [if_pos hi, ← hi]
    rfl
  · rw [if_neg hi]
    exact store_apply_of_outside (by rw [List.length_singleton]; omega)

/-- The suppress bit in a message that was written at the start of the send buffer. -/
theorem sendBuf_beginRequest {c : UDSClientT} {mem : ℕ → UInt8} {sid b : UInt8} {rest : Bytes}
    (h : c.sendBuf = store mem 0 (sid :: b :: rest)) :
    c.beginRequest.sendBuf = store mem 0 (sid :: suppressing c.options b :: rest) := by
  unfold UDSClientT.beginRequest suppressing
  dsimp only
  split_ifs
  · rw [h]
    exact store_store_cell mem (by simp) _
  · exact h

/-- **The message that is sent** is the one that was written, with the suppress bit. -/
theorem bytes_beginRequest (c : UDSClientT) :
    c.beginRequest.sent.bytes = withSuppressBit c.options (cells c.sendBuf 0 c.sendSize.toNat) := by
  unfold UDSClientT.beginRequest UDSClientT.sent SentRequest.bytes withSuppressBit
  dsimp only
  split_ifs
  · exact cells_store_modify _ _
  · rfl

end EcuUpgrade
