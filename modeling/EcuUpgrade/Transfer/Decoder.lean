import EcuUpgrade.Server.TransferServices

/-!
# The decoder of `RequestFileTransfer`

The fields of a `RequestFileTransfer` request are found through two lengths that are part of the
request: that of the path and that of the file sizes. The grammar of the request is stated on the
received bytes, the decoder of the server reads the receive buffer. The two agree exactly on the
requests all of whose fields were received: the decoder does not compare any offset with the
number of received bytes, which `decodeAddressAndLength` does for the other transfers.

## Main definitions

* `FileTransferMessage`: the grammar, with the values a message encodes.
* `prescribedEnd`: where the fields that the mode prescribes end.
* `DecodesExactly`: the decoder hands over the encoded values of the messages of the grammar,
  refuses all others and reads received bytes only.

## Main results

* `run_fileTransferArgs`, `mem_indices_fileTransferArgs`: what the decoder computes and reads.
* `decodesExactly_iff`: it decodes exactly when the prescribed fields were received.
-/

namespace EcuUpgrade

open ResponseCode BigEndian

variable {B : Build} {env : Env} {s : Sys} {q : Request}

theorem bytesAt_add (buf : ℕ → UInt8) (off k l : ℕ) :
    bytesAt buf off (k + l) = bytesAt buf off k ++ bytesAt buf (off + k) l := by
  rw [bytesAt, bytesAt, bytesAt, ← List.map_append, List.range'_append_1]

/-- The bytes of a request that were received. -/
def Request.received (q : Request) : Bytes := bytesAt q.buf 0 q.len

/-- The mode of a `RequestFileTransfer` request is one that stores a file. -/
def Request.HasSizes (q : Request) : Prop := q.buf 1 = kAddFile ∨ q.buf 1 = kReplaceFile

instance : Decidable q.HasSizes := inferInstanceAs (Decidable (_ ∨ _))

/-- The length of the path in a `RequestFileTransfer` request. -/
def filePathLen (buf : ℕ → UInt8) : ℕ := (word16 (buf 2) (buf 3)).toNat

theorem toNat_word16 (hi lo : UInt8) : (word16 hi lo).toNat = ofBytes [hi, lo] := by
  have hhi := hi.toNat_lt
  have hlo := lo.toNat_lt
  simp [word16, Nat.shiftLeft_eq]
  omega

theorem filePathLen_eq (buf : ℕ → UInt8) : filePathLen buf = ofBytes [buf 2, buf 3] :=
  toNat_word16 _ _

/-! ### The decoder -/

theorem orLoop_getD (bs : Bytes) : orLoop (fun i => bs.getD i 0) bs.length = ofBytes bs := by
  rw [orLoop_eq_ofBytes]
  congr 1
  refine List.ext_getElem (by simp) fun i h₁ h₂ => ?_
  simp [List.getElem?_eq_getElem h₂]

@[simp] theorem run_readFileSize (buf : ℕ → UInt8) (off k : ℕ) :
    (readFileSize off k).run buf = ofBytes (bytesAt buf off k) := by
  have hlen : (bytesAt buf off k).length = k := length_bytesAt _ _ _
  rw [← orLoop_getD, hlen]
  simp [readFileSize, bytesAt]

@[simp] theorem indices_readFileSize (buf : ℕ → UInt8) (off k : ℕ) :
    (readFileSize off k).indices buf = List.range' off k := by
  simp [readFileSize]

/-- What the decoder computes. -/
theorem run_fileTransferArgs (buf : ℕ → UInt8) :
    fileTransferArgs.run buf =
      let p := filePathLen buf
      let k := buf (4 + p + 1)
      if buf 1 = kAddFile ∨ buf 1 = kReplaceFile then
        if 8 < k then .error kRequestOutOfRange
        else .ok ⟨buf 1, bytesAt buf 4 p, buf (4 + p), ofBytes (bytesAt buf (4 + p + 2) k.toNat),
          ofBytes (bytesAt buf (4 + p + 2 + k.toNat) k.toNat)⟩
      else if buf 1 = kReadFile then .ok ⟨buf 1, bytesAt buf 4 p, buf (4 + p), 0, 0⟩
      else .ok ⟨buf 1, bytesAt buf 4 p, 0, 0, 0⟩ := by
  unfold fileTransferArgs
  simp only [Reads.run_bind, Reads.run_ite, Reads.run_pure, Reads.run_slice, run_readFileSize]
  rfl

/-- Where the fields end that the mode of a request prescribes. When the length byte of the file
sizes is out of range, nothing behind it is prescribed. -/
def prescribedEnd (buf : ℕ → UInt8) : ℕ :=
  let p := filePathLen buf
  let k := buf (4 + p + 1)
  if buf 1 = kAddFile ∨ buf 1 = kReplaceFile then
    if 8 < k then 4 + p + 2 else 4 + p + 2 + k.toNat + k.toNat
  else if buf 1 = kReadFile then 4 + p + 1
  else 4 + p

/-- The cells the decoder reads behind the path length. -/
theorem indices_fileTransferArgs (buf : ℕ → UInt8) :
    fileTransferArgs.indices buf = [1, 2, 3] ++
      let p := filePathLen buf
      let k := buf (4 + p + 1)
      if buf 1 = kAddFile ∨ buf 1 = kReplaceFile then
        [4 + p, 4 + p + 1] ++ if 8 < k then [] else
          List.range' (4 + p + 2) k.toNat ++ (List.range' (4 + p + 2 + k.toNat) k.toNat ++
            List.range' 4 p)
      else if buf 1 = kReadFile then (4 + p) :: List.range' 4 p
      else List.range' 4 p := by
  unfold fileTransferArgs
  simp only [Reads.indices_bind, Reads.indices_cell, Reads.indices_ite, Reads.indices_pure,
    Reads.indices_slice, indices_readFileSize, List.append_nil]
  rfl

/-- The decoder reads no cell behind the prescribed fields, and it reads the last of them. -/
theorem mem_indices_fileTransferArgs (buf : ℕ → UInt8) :
    (∀ i ∈ fileTransferArgs.indices buf, i < prescribedEnd buf) ∧
      prescribedEnd buf - 1 ∈ fileTransferArgs.indices buf := by
  rw [indices_fileTransferArgs]
  unfold prescribedEnd
  dsimp only
  split_ifs <;> refine ⟨fun i hi => ?_, ?_⟩ <;>
    simp only [List.mem_append, List.mem_cons, List.not_mem_nil, List.mem_range'_1,
      or_false] at * <;>
    omega

/-! ### The grammar -/

/-- The `RequestFileTransfer` messages, with the values they encode. -/
inductive FileTransferMessage : FileTransferArgs → Bytes → Prop
  | write {mode : UInt8} (hmode : mode = kAddFile ∨ mode = kReplaceFile) (path : Bytes)
      (hpath : path.length < 65536) (format k : UInt8) (hk : k ≤ 8)
      (uncompressed compressed : Bytes)
      (huncompressed : uncompressed.length = k.toNat) (hcompressed : compressed.length = k.toNat) :
      FileTransferMessage ⟨mode, path, format, ofBytes uncompressed, ofBytes compressed⟩
        ([kSIDRequestFileTransfer, mode] ++ toBytes 2 path.length ++ path ++ [format, k] ++
          uncompressed ++ compressed)
  | read (path : Bytes) (hpath : path.length < 65536) (format : UInt8) :
      FileTransferMessage ⟨kReadFile, path, format, 0, 0⟩
        ([kSIDRequestFileTransfer, kReadFile] ++ toBytes 2 path.length ++ path ++ [format])
  | other {mode : UInt8} (hmode : mode ≠ kAddFile ∧ mode ≠ kReplaceFile ∧ mode ≠ kReadFile)
      (path : Bytes) (hpath : path.length < 65536) :
      FileTransferMessage ⟨mode, path, 0, 0, 0⟩
        ([kSIDRequestFileTransfer, mode] ++ toBytes 2 path.length ++ path)

/-- The received bytes begin with a message that encodes the values. -/
def Request.Encodes (q : Request) (args : FileTransferArgs) : Prop :=
  ∃ m, FileTransferMessage args m ∧ m <+: q.received

theorem isPrefix_received_iff {m : Bytes} :
    m <+: q.received ↔ m.length ≤ q.len ∧ bytesAt q.buf 0 m.length = m := by
  constructor
  · intro h
    have hlen : m.length ≤ q.len := by simpa [Request.received] using h.length_le
    refine ⟨hlen, ?_⟩
    have hsplit : q.received =
        bytesAt q.buf 0 m.length ++ bytesAt q.buf m.length (q.len - m.length) := by
      rw [Request.received, ← Nat.add_sub_cancel' hlen, bytesAt_add, Nat.zero_add,
        Nat.add_sub_cancel' hlen]
    obtain ⟨rest, hrest⟩ := h
    exact (List.append_inj (hsplit.symm.trans hrest.symm) (by simp)).1
  · rintro ⟨hlen, hm⟩
    refine ⟨bytesAt q.buf m.length (q.len - m.length), ?_⟩
    rw [Request.received, ← Nat.add_sub_cancel' hlen, bytesAt_add, Nat.zero_add, hm,
      Nat.add_sub_cancel' hlen]

/-- The first four bytes of a request are those of a message with the given mode and path length
if and only if the decoder reads them so. -/
theorem bytesAt_header_iff {buf : ℕ → UInt8} {mode : UInt8} {n : ℕ}
    (hsid : buf 0 = kSIDRequestFileTransfer) (hn : n < 65536) :
    bytesAt buf 0 4 = [kSIDRequestFileTransfer, mode] ++ toBytes 2 n ↔
      buf 1 = mode ∧ filePathLen buf = n := by
  have hbytes : bytesAt buf 0 4 = [kSIDRequestFileTransfer, buf 1] ++ [buf 2, buf 3] := by
    rw [← hsid]
    rfl
  have hlen : [buf 2, buf 3] = toBytes 2 n ↔ filePathLen buf = n := by
    rw [filePathLen_eq]
    constructor
    · intro h
      rw [h, ofBytes_toBytes_of_lt (by simpa using hn)]
    · rintro rfl
      exact (toBytes_ofBytes [buf 2, buf 3]).symm
  rw [hbytes, ← hlen]
  simp

theorem filePathLen_lt (buf : ℕ → UInt8) : filePathLen buf < 65536 :=
  UInt16.toNat_lt _

/-- The fields of a request with sizes of `k` bytes each. -/
theorem bytesAt_write (buf : ℕ → UInt8) (p k : ℕ) :
    bytesAt buf 0 (4 + p + 2 + k + k) = bytesAt buf 0 4 ++ bytesAt buf 4 p ++
      [buf (4 + p), buf (4 + p + 1)] ++ bytesAt buf (4 + p + 2) k ++
        bytesAt buf (4 + p + 2 + k) k := by
  rw [bytesAt_add, bytesAt_add, bytesAt_add, bytesAt_add]
  simp only [Nat.zero_add]
  rfl

theorem bytesAt_read (buf : ℕ → UInt8) (p : ℕ) :
    bytesAt buf 0 (4 + p + 1) = bytesAt buf 0 4 ++ bytesAt buf 4 p ++ [buf (4 + p)] := by
  rw [bytesAt_add, bytesAt_add]
  simp only [Nat.zero_add]
  rfl

theorem bytesAt_other (buf : ℕ → UInt8) (p : ℕ) :
    bytesAt buf 0 (4 + p) = bytesAt buf 0 4 ++ bytesAt buf 4 p := by
  rw [bytesAt_add, Nat.zero_add]

/-- A request all of whose prescribed fields were received encodes what the decoder computes. -/
theorem Request.encodes_of_run {args : FileTransferArgs} (hsid : q.buf 0 = kSIDRequestFileTransfer)
    (hend : prescribedEnd q.buf ≤ q.len) (hrun : fileTransferArgs.run q.buf = .ok args) :
    q.Encodes args := by
  have hpath := filePathLen_lt q.buf
  have hheader := (bytesAt_header_iff hsid hpath).2 ⟨rfl, rfl⟩
  rw [run_fileTransferArgs] at hrun
  unfold prescribedEnd at hend
  dsimp only at hrun hend
  set p := filePathLen q.buf with hp
  set k := q.buf (4 + p + 1) with hk
  split_ifs at hrun hend with hmode hsize hmode'
  · obtain rfl := Except.ok.inj hrun
    have hm := FileTransferMessage.write hmode (bytesAt q.buf 4 p) (by simpa) (q.buf (4 + p)) k
      (Nat.not_lt.1 hsize) (bytesAt q.buf (4 + p + 2) k.toNat)
      (bytesAt q.buf (4 + p + 2 + k.toNat) k.toNat) (length_bytesAt _ _ _) (length_bytesAt _ _ _)
    rw [length_bytesAt, ← hheader, hk, ← bytesAt_write, ← hk] at hm
    exact ⟨_, hm, isPrefix_received_iff.2 (by simpa using hend)⟩
  · obtain rfl := Except.ok.inj hrun
    have hm := FileTransferMessage.read (bytesAt q.buf 4 p) (by simpa) (q.buf (4 + p))
    rw [length_bytesAt, ← hmode', ← hheader, ← bytesAt_read] at hm
    exact ⟨_, hm, isPrefix_received_iff.2 (by simpa using hend)⟩
  · obtain rfl := Except.ok.inj hrun
    have hm := FileTransferMessage.other ⟨fun h => hmode (.inl h), fun h => hmode (.inr h), hmode'⟩
      (bytesAt q.buf 4 p) (by simpa)
    rw [length_bytesAt, ← hheader, ← bytesAt_other] at hm
    exact ⟨_, hm, isPrefix_received_iff.2 (by simpa using hend)⟩

/-- The decoder computes what a request encodes, and all its prescribed fields were received. -/
theorem Request.Encodes.run {args : FileTransferArgs} (hsid : q.buf 0 = kSIDRequestFileTransfer)
    (h : q.Encodes args) :
    4 ≤ q.len ∧ prescribedEnd q.buf ≤ q.len ∧ fileTransferArgs.run q.buf = .ok args := by
  obtain ⟨m, hm, hprefix⟩ := h
  obtain ⟨hlen, hbytes⟩ := isPrefix_received_iff.1 hprefix
  rw [run_fileTransferArgs, prescribedEnd]
  cases hm with
  | @write mode hmode path hpath format k hk uncompressed compressed huncompressed hcompressed =>
    have hmlen : ([kSIDRequestFileTransfer, mode] ++ toBytes 2 path.length ++ path ++ [format, k] ++
        uncompressed ++ compressed).length = 4 + path.length + 2 + k.toNat + k.toNat := by
      simp [huncompressed, hcompressed]
      omega
    rw [hmlen] at hlen hbytes
    rw [bytesAt_write] at hbytes
    obtain ⟨hbytes, hcompressed'⟩ := List.append_inj hbytes (by simp [huncompressed]; omega)
    obtain ⟨hbytes, huncompressed'⟩ := List.append_inj hbytes (by simp; omega)
    obtain ⟨hbytes, hsize⟩ := List.append_inj hbytes (by simp; omega)
    obtain ⟨hheader, hpath'⟩ := List.append_inj hbytes (by simp)
    obtain ⟨rfl, hp⟩ := (bytesAt_header_iff hsid hpath).1 hheader
    obtain ⟨rfl, rfl⟩ : q.buf (4 + path.length) = format ∧ q.buf (4 + path.length + 1) = k := by
      simpa using hsize
    have hk' : ¬8 < q.buf (4 + path.length + 1) := Nat.not_lt.2 hk
    dsimp only
    rw [hp, if_pos hmode, if_pos hmode, if_neg hk', if_neg hk', hpath', huncompressed',
      hcompressed']
    exact ⟨by omega, hlen, rfl⟩
  | read path hpath format =>
    have hmlen : ([kSIDRequestFileTransfer, kReadFile] ++ toBytes 2 path.length ++ path ++
        [format]).length = 4 + path.length + 1 := by
      simp
      omega
    rw [hmlen] at hlen hbytes
    rw [bytesAt_read] at hbytes
    obtain ⟨hbytes, hformat⟩ := List.append_inj hbytes (by simp; omega)
    obtain ⟨hheader, hpath'⟩ := List.append_inj hbytes (by simp)
    obtain ⟨hmode, hp⟩ := (bytesAt_header_iff hsid hpath).1 hheader
    obtain rfl : q.buf (4 + path.length) = format := by simpa using hformat
    dsimp only
    rw [hp, hmode, hpath']
    exact ⟨by omega, hlen, rfl⟩
  | @other mode hmode path hpath =>
    have hmlen : ([kSIDRequestFileTransfer, mode] ++ toBytes 2 path.length ++ path).length =
        4 + path.length := by
      simp
      omega
    rw [hmlen] at hlen hbytes
    rw [bytesAt_other] at hbytes
    obtain ⟨hheader, hpath'⟩ := List.append_inj hbytes (by simp)
    obtain ⟨rfl, hp⟩ := (bytesAt_header_iff hsid hpath).1 hheader
    have hmode' : ¬(q.buf 1 = kAddFile ∨ q.buf 1 = kReplaceFile) := by simp [hmode.1, hmode.2.1]
    dsimp only
    rw [hp, if_neg hmode', if_neg hmode', if_neg hmode.2.2, if_neg hmode.2.2, hpath']
    exact ⟨by omega, hlen, rfl⟩

/-! ### Exact decoding -/

/-- The handler of `RequestFileTransfer` was called with given arguments. -/
def HandsOver (s t : Sys) (args : FileTransferArgs) : Prop :=
  ∃ effects, t.log = s.log ++ .emit (.requestFileTransfer args) :: effects

/-- **What the service has to do with a request**: it hands the encoded values over for the
messages of the grammar; for all other requests it answers negatively and calls no handler; and
its decoder and handler look at received bytes only. -/
structure DecodesExactly (B : Build) (env : Env) (s : Sys) (q : Request) : Prop where
  handsOver : ∀ args, HandsOver s (requestFileTransfer0x38 B env (s.receive B env q)).2 args ↔
    q.Encodes args
  refuses : (¬∃ args, q.Encodes args) → ∃ err, err ≠ kPositiveResponse ∧
    requestFileTransfer0x38 B env (s.receive B env q) = (s.receive B env q).negativeResponse err
  bounded : 4 ≤ q.len → ∀ i ∈ fileTransferArgs.indices q.buf, i < q.len

theorem handsOver_append {args args' : FileTransferArgs} {u : Sys} {effects : List Effect}
    (hlog : u.log = s.log ++ .emit (.requestFileTransfer args) :: effects) :
    HandsOver s u args' ↔ args' = args := by
  constructor
  · rintro ⟨effects', heq⟩
    have htail := List.append_cancel_left (hlog.symm.trans heq)
    simpa using (List.cons.inj htail).1.symm
  · rintro rfl
    exact ⟨effects, hlog⟩

theorem not_handsOver_of_log_eq {u : Sys} (hlog : u.log = s.log) (args : FileTransferArgs) :
    ¬HandsOver s u args := by
  rintro ⟨effects, heq⟩
  rw [hlog] at heq
  simp at heq

/-- **When the service calls its handler**: if the request has a header, with what the decoder
computes. Otherwise it answers negatively. -/
theorem requestFileTransfer0x38_handsOver (hinactive : s.srv.xferIsActive = false) :
    (∀ args, HandsOver s (requestFileTransfer0x38 B env (s.receive B env q)).2 args ↔
        4 ≤ q.len ∧ fileTransferArgs.run q.buf = .ok args) ∧
      ((¬∃ args, 4 ≤ q.len ∧ fileTransferArgs.run q.buf = .ok args) →
        ∃ err, err ≠ kPositiveResponse ∧ requestFileTransfer0x38 B env (s.receive B env q) =
          (s.receive B env q).negativeResponse err) := by
  rcases requestFileTransfer0x38_cases B env (s.receive B env q) with
    ⟨err, hrefusal, herr, heq⟩ | ⟨args, -, hlen, hargs, heq⟩
  · have hnot (args : FileTransferArgs) :
        ¬(4 ≤ q.len ∧ fileTransferArgs.run q.buf = .ok args) := by
      rintro ⟨hlen, hargs⟩
      unfold Sys.fileTransferRefusal at hrefusal
      rw [receive_recvLen, receive_recvBuf, hargs, if_neg (Nat.not_lt.2 hlen)] at hrefusal
      have hactive : ¬(s.receive B env q).srv.xferIsActive = true := by
        simpa [Sys.receive] using hinactive
      rw [if_neg hactive] at hrefusal
      cases hrefusal
    rw [heq]
    exact ⟨fun args => iff_of_false (not_handsOver_of_log_eq rfl args) (hnot args),
      fun _ => ⟨err, herr, rfl⟩⟩
  · have hiff (args' : FileTransferArgs) : args' = args ↔
        4 ≤ q.len ∧ fileTransferArgs.run q.buf = .ok args' := by
      constructor
      · rintro rfl
        exact ⟨hlen, hargs⟩
      · rintro ⟨-, hargs'⟩
        exact Except.ok.inj (hargs'.symm.trans hargs)
    refine ⟨fun args' => ?_, fun hnone => absurd ⟨args, hlen, hargs⟩ hnone⟩
    have hlog : (requestFileTransfer0x38 B env (s.receive B env q)).2.log =
        s.log ++ [.emit (.requestFileTransfer args), .fopen (cStr (B.fwFilename args))] := by
      rw [heq]
      split_ifs <;>
        simp [Sys.openTransfer, Sys.failToOpen, Sys.emitEvent, Sys.emit, Sys.setFwFilename,
          Sys.setFwFile, Sys.setFile, Sys.startTransfer, Sys.resetTransfer, Sys.setSend,
          Sys.negativeResponse, Sys.receive]
    exact (handsOver_append hlog).trans (hiff args')

/-- **The decoder is exact on the requests whose prescribed fields were all received**, and on
those that are refused because they have no header, and on no others. -/
theorem decodesExactly_iff (hinactive : s.srv.xferIsActive = false)
    (hsid : q.buf 0 = kSIDRequestFileTransfer) :
    DecodesExactly B env s q ↔ q.len < 4 ∨ prescribedEnd q.buf ≤ q.len := by
  obtain ⟨hbefore, hlast⟩ := mem_indices_fileTransferArgs q.buf
  obtain ⟨hhandsOver, hrefuses⟩ := requestFileTransfer0x38_handsOver (B := B) hinactive
  constructor
  · intro h
    refine (Nat.lt_or_ge q.len 4).imp_right fun hlen => ?_
    have hlt := h.bounded hlen _ hlast
    omega
  · intro hcond
    have hiff (args : FileTransferArgs) : q.Encodes args ↔
        4 ≤ q.len ∧ fileTransferArgs.run q.buf = .ok args := by
      constructor
      · intro henc
        obtain ⟨hlen, -, hrun⟩ := henc.run hsid
        exact ⟨hlen, hrun⟩
      · rintro ⟨hlen, hrun⟩
        exact Request.encodes_of_run hsid (hcond.resolve_left (Nat.not_lt.2 hlen)) hrun
    refine ⟨fun args => (hhandsOver args).trans (hiff args).symm, fun hnone => ?_,
      fun hlen i hi => ?_⟩
    · exact hrefuses fun ⟨args, hargs⟩ => hnone ⟨args, (hiff args).2 hargs⟩
    · have hend := hcond.resolve_left (Nat.not_lt.2 hlen)
      exact Nat.lt_of_lt_of_le (hbefore i hi) hend

/-- A complete request that adds a file named `a` of three bytes is decoded exactly. -/
theorem decodesExactly_addFile :
    DecodesExactly ⟨65535, .test⟩ (.fair 0) (udsServerInit (.fair 0) fun _ => none)
      (.ofBytes [0x38, 1, 0, 1, 0x61, 0, 1, 3, 3] (by simp) fun _ => 0) :=
  (decodesExactly_iff rfl rfl).2 (.inr (by decide +kernel))

/-- A request that ends behind the path length. -/
def truncatedRequest : Request := .ofBytes [0x38, 1, 0, 0] (by simp) fun _ => 0

/-- A request that ends behind the path length is taken for one that adds a file: the format and
the file sizes are read behind its end. -/
theorem not_decodesExactly_truncatedRequest :
    ¬DecodesExactly ⟨65535, .test⟩ (.fair 0) (udsServerInit (.fair 0) fun _ => none)
      truncatedRequest := by
  intro hexact
  have hlt : 5 < truncatedRequest.len := hexact.bounded (by decide) 5 (by decide +kernel)
  exact absurd hlt (by decide)

end EcuUpgrade
