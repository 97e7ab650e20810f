import EcuUpgrade.Client.Encoders
import EcuUpgrade.Transfer.Decoder

/-!
# The encoder of `RequestFileTransfer`

`UDSSendRequestFileTransfer` assembles a request in the send buffer of the transport. It computes
the length of the message, the places of its fields and the masks for the bytes of the file sizes
apart from each other. The length counts one byte for the format identifier and another for the
width of the file sizes, whereas only the modes `AddFile` and `ReplaceFile` write the latter; and
the masks are shifted as an `int`, which has 32 bits.

## Main definitions

* `udsSendRequestFileTransfer`: the encoder.
* `EncodesFaithfully`: a request is written completely and decoded to what it was made from.

## Main results

* `sentMessage_eq`: the message that is sent.
* `encodesFaithfully_iff`: the requests that are encoded faithfully.
-/

namespace EcuUpgrade

open ResponseCode BigEndian Memory

/-! ### The encoder -/

/-- `enum FileOperationMode`. -/
inductive FileOperationMode
  | addFile
  | deleteFile
  | replaceFile
  | readFile
  | readDir
  deriving DecidableEq, Repr

/-- The number of a mode. -/
def FileOperationMode.toByte : FileOperationMode → UInt8
  | .addFile => 1
  | .deleteFile => 2
  | .replaceFile => 3
  | .readFile => 4
  | .readDir => 5

/-- The arguments of `UDSSendRequestFileTransfer`. The path is given by its bytes before the NUL. -/
structure FileTransferParams where
  mode : FileOperationMode
  filePath : Bytes
  dataFormatIdentifier : UInt8
  fileSizeParameterLength : UInt8
  fileSizeUncompressed : ℕ
  fileSizeCompressed : ℕ

variable (shl : ℕ → ℕ) (p : FileTransferParams)

/-- The modes for which a format identifier is written. -/
def FileOperationMode.hasFormat : FileOperationMode → Bool
  | .addFile | .replaceFile | .readFile => true
  | _ => false

/-- The modes for which file sizes are written. -/
def FileOperationMode.hasSizes : FileOperationMode → Bool
  | .addFile | .replaceFile => true
  | _ => false

/-- `bufSize`. -/
def requestSize (filePathLen : UInt16) : ℕ :=
  let fileSizeBytes := if p.mode.hasSizes then p.fileSizeParameterLength.toNat else 0
  5 + filePathLen.toNat + fileSizeBytes + fileSizeBytes + if p.mode.hasFormat then 1 else 0

/-- The assignments of `UDSSendRequestFileTransfer` to the send buffer. -/
def writeRequest (filePathLen : UInt16) (buf : ℕ → UInt8) : ℕ → UInt8 :=
  let pathLen := filePathLen.toNat
  let buf := store buf 0 [kSIDRequestFileTransfer]
  let buf := store buf 1 [p.mode.toByte]
  let buf := store buf 2 [(filePathLen >>> 8).toUInt8]
  let buf := store buf 3 [filePathLen.toUInt8]
  let buf := store buf 4 (p.filePath.take pathLen)
  let buf := if p.mode.hasFormat then store buf (4 + pathLen) [p.dataFormatIdentifier] else buf
  if p.mode.hasSizes then
    let k := p.fileSizeParameterLength.toNat
    let buf := store buf (5 + pathLen) [p.fileSizeParameterLength]
    let buf := store buf (6 + pathLen) (sizeBytes shl k p.fileSizeUncompressed)
    store buf (6 + pathLen + k) (sizeBytes shl k p.fileSizeCompressed)
  else buf

/-- `UDSSendRequestFileTransfer`. -/
def udsSendRequestFileTransfer : Encoder where
  fill c :=
    let filePathLen := UInt16.ofNat p.filePath.length
    if filePathLen < 1 then (.udsErr, c)
    else
      let bufSize := requestSize p filePathLen
      if c.sendBufSize.toNat < bufSize then (.bufsiz, c)
      else (.ok, { c with
        sendBuf := writeRequest shl p filePathLen c.sendBuf
        sendSize := UInt16.ofNat bufSize })
  writes c := by
    dsimp only
    split_ifs
    · exact ⟨c.sendBuf, c.sendSize, rfl⟩
    · exact ⟨c.sendBuf, c.sendSize, rfl⟩
    · exact ⟨_, _, rfl⟩

/-! ### Faithful requests -/

/-- The client with a send buffer that holds `mem`. -/
def UDSClientT.withSendBuf (c : UDSClientT) (mem : ℕ → UInt8) : UDSClientT :=
  { c with sendBuf := mem }

/-- A request received by the server is the message a client sent. -/
def SentRequest.Carries (a : SentRequest) (q : Request) : Prop :=
  q.len = a.size.toNat ∧ ∀ i < a.size.toNat, q.buf i = a.buf i

/-- The arguments handed to the handler are those the request was made from, as far as its mode has
them. -/
structure AgreesWith (args : FileTransferArgs) : Prop where
  operation : args.modeOfOperation = p.mode.toByte
  path : args.filePath = p.filePath
  format : p.mode.hasFormat = true → args.dataFormatIdentifier = p.dataFormatIdentifier
  sizes : p.mode.hasSizes = true → args.fileSizeUnCompressed = p.fileSizeUncompressed ∧
    args.fileSizeCompressed = p.fileSizeCompressed

variable (env : ClientEnv) (client : UDSClientT)

/-- The message that the client has made, when the send buffer held `mem` before. -/
def sentMessage (mem : ℕ → UInt8) : SentRequest :=
  ((client.withSendBuf mem).request env (udsSendRequestFileTransfer shl p)).2.1.sent

/-- **A request is encoded faithfully**: the length of its message is the number of bytes written,
no byte of the message is left as it was before, and whatever the send buffer held, the server
decodes the message to what it was made from. -/
def EncodesFaithfully : Prop :=
  (client.request env (udsSendRequestFileTransfer shl p)).1 = .ok ∧ ∀ mem,
    let sent := sentMessage shl p env client mem
    let written := assigned fun mem' => (sentMessage shl p env client mem').buf
    sent.size.toNat = written.ncard ∧ (∀ i < sent.size.toNat, i ∈ written) ∧
      ∀ (B : Build) (env : Env) (s : Sys) (q : Request), s.srv.xferIsActive = false →
        sent.Carries q →
        ∃ args, HandsOver s (requestFileTransfer0x38 B env (s.receive B env q)).2 args ∧
          AgreesWith p args

/-- The arguments `UDSSendRequestFileTransfer` is meant for, with a message that fits the send
buffer. -/
structure FileTransferParams.Valid (p : FileTransferParams) (sendBufSize : UInt16) : Prop where
  path_ne_nil : p.filePath ≠ []
  path_le : p.filePath.length ≤ 65535
  width_le : p.fileSizeParameterLength ≤ 8
  uncompressed_lt : p.fileSizeUncompressed < 256 ^ p.fileSizeParameterLength.toNat
  compressed_lt : p.fileSizeCompressed < 256 ^ p.fileSizeParameterLength.toNat
  fits : requestSize p (UInt16.ofNat p.filePath.length) ≤ sendBufSize.toNat

variable {shl}

/-! ### The message -/

variable {p env client} {mode : FileOperationMode}

variable (shl p) in
/-- The bytes written for a request, with `b` for its mode. -/
def writtenBytes (b : UInt8) : Bytes :=
  kSIDRequestFileTransfer :: b :: (toBytes 2 p.filePath.length ++ p.filePath ++
    (if p.mode.hasFormat then [p.dataFormatIdentifier] else []) ++
    (if p.mode.hasSizes then [p.fileSizeParameterLength] ++
      sizeBytes shl p.fileSizeParameterLength.toNat p.fileSizeUncompressed ++
      sizeBytes shl p.fileSizeParameterLength.toNat p.fileSizeCompressed else []))

theorem toBytes_two (w : UInt16) : toBytes 2 w.toNat = [(w >>> 8).toUInt8, w.toUInt8] := by
  have hhigh : UInt8.ofNat (w.toNat / 256) = (w >>> 8).toUInt8 := by
    apply UInt8.toNat.inj
    simp [Nat.shiftRight_eq_div_pow]
  have hlow : UInt8.ofNat w.toNat = w.toUInt8 := by
    apply UInt8.toNat.inj
    simp
  simp [hhigh, hlow]

theorem FileOperationMode.hasSizes_iff :
    mode.hasSizes = true ↔ mode = .addFile ∨ mode = .replaceFile := by
  cases mode <;> simp [FileOperationMode.hasSizes]

theorem FileOperationMode.hasFormat_of_hasSizes (h : mode.hasSizes = true) :
    mode.hasFormat = true := by
  cases mode <;> first | rfl | cases h

/-- Writing a field behind the fields that were written. -/
theorem store_field {buf mem : ℕ → UInt8} {bs : Bytes} (h : buf = store mem 0 bs) (off : ℕ)
    (cs : Bytes) (hoff : off = bs.length) : store buf off cs = store mem 0 (bs ++ cs) := by
  rw [h, hoff, store_store_length]

/-- A field that is written under a condition. -/
theorem store_ite {c : Bool} {x y mem : ℕ → UInt8} {bs cs : Bytes}
    (hx : c = true → x = store mem 0 (bs ++ cs)) (hy : y = store mem 0 bs) :
    (if c then x else y) = store mem 0 (bs ++ if c then cs else []) := by
  cases c with
  | true => exact hx rfl
  | false => simpa using hy

/-- **What the encoder writes**, before the suppress bit is set. -/
theorem writeRequest_eq (mem : ℕ → UInt8) {filePathLen : UInt16}
    (hlen : filePathLen.toNat = p.filePath.length) :
    writeRequest shl p filePathLen mem = store mem 0 (writtenBytes shl p p.mode.toByte) := by
  have hsid : store mem 0 [kSIDRequestFileTransfer] = store mem 0 [kSIDRequestFileTransfer] := rfl
  have hheader := store_field (store_field (store_field hsid 1 [p.mode.toByte] rfl)
    2 [(filePathLen >>> 8).toUInt8] rfl) 3 [filePathLen.toUInt8] rfl
  have hpath := store_field hheader 4 (p.filePath.take p.filePath.length) rfl
  have hformat := store_ite (c := p.mode.hasFormat) (fun _ => store_field hpath
    (4 + p.filePath.length) [p.dataFormatIdentifier] (by simp; omega)) hpath
  have hsizes := store_ite (c := p.mode.hasSizes) (fun hc => by
    have hf : p.mode.hasFormat = true := FileOperationMode.hasFormat_of_hasSizes hc
    have hwidth := store_field hformat (5 + p.filePath.length) [p.fileSizeParameterLength]
      (by simp [hf]; omega)
    have huncompressed := store_field hwidth (6 + p.filePath.length)
      (sizeBytes shl p.fileSizeParameterLength.toNat p.fileSizeUncompressed) (by simp [hf]; omega)
    have hcompressed := store_field huncompressed
      (6 + p.filePath.length + p.fileSizeParameterLength.toNat)
      (sizeBytes shl p.fileSizeParameterLength.toNat p.fileSizeCompressed) (by simp [hf]; omega)
    simpa only [List.append_assoc] using hcompressed) hformat
  unfold writeRequest
  rw [writtenBytes, ← hlen, toBytes_two]
  rw [← hlen] at hsizes
  simpa only [List.append_assoc, List.nil_append, List.cons_append, List.take_length, hlen]
    using hsizes

theorem toNat_ofNat_pathLen {sendBufSize : UInt16} (hp : p.Valid sendBufSize) :
    (UInt16.ofNat p.filePath.length).toNat = p.filePath.length :=
  toNat_ofNat_of_le hp.path_le

/-- What `PreRequestCheck` does, whatever the send buffer holds. -/
theorem preRequestCheck_withSendBuf {checked : UDSClientT}
    (h : client.preRequestCheck env = (.ok, checked)) (mem : ℕ → UInt8) :
    (client.withSendBuf mem).preRequestCheck env = (.ok, checked.withSendBuf mem) ∧
      checked.options = client.options := by
  unfold UDSClientT.preRequestCheck at h ⊢
  unfold UDSClientT.withSendBuf
  dsimp only at h ⊢
  split_ifs at h ⊢
  · cases h
  · split at h
    · cases h
    · split_ifs at h ⊢
      · cases h
      · obtain ⟨-, rfl⟩ := Prod.mk.inj h
        exact ⟨rfl, rfl⟩

variable (shl) in
/-- **The message that is sent**: the bytes written for it, its length, and the options. -/
theorem sentMessage_eq {checked : UDSClientT}
    (hclient : client.preRequestCheck env = (.ok, checked)) (hp : p.Valid checked.sendBufSize)
    (mem : ℕ → UInt8) :
    ((client.withSendBuf mem).request env (udsSendRequestFileTransfer shl p)).1 = .ok ∧
      (sentMessage shl p env client mem).buf =
        store mem 0 (writtenBytes shl p (suppressing client.options p.mode.toByte)) ∧
      (sentMessage shl p env client mem).size.toNat =
        requestSize p (UInt16.ofNat p.filePath.length) := by
  have hpathLen := toNat_ofNat_pathLen hp
  have hpos : ¬UInt16.ofNat p.filePath.length < 1 := by
    rw [UInt16.lt_iff_toNat_lt, hpathLen]
    have hne : p.filePath.length ≠ 0 := fun h =>
      hp.path_ne_nil (List.eq_nil_of_length_eq_zero h)
    simpa using hne
  obtain ⟨hchecked, hoptions⟩ := preRequestCheck_withSendBuf hclient mem
  -- the client when the send buffer is filled
  set filled : UDSClientT := { checked.withSendBuf mem with
    sendBuf := writeRequest shl p (UInt16.ofNat p.filePath.length) mem
    sendSize := UInt16.ofNat (requestSize p (UInt16.ofNat p.filePath.length)) } with hfilled
  have hfill : (udsSendRequestFileTransfer shl p).fill (checked.withSendBuf mem) =
      (.ok, filled) :=
    (if_neg hpos).trans (if_neg (Nat.not_lt.2 hp.fits))
  have hrequest : (client.withSendBuf mem).request env (udsSendRequestFileTransfer shl p) =
      (.ok, filled.sendRequest env) := by
    unfold UDSClientT.request
    rw [hchecked]
    dsimp only
    rw [hfill]
  have hsent : sentMessage shl p env client mem = filled.beginRequest.sent := by
    rw [sentMessage, hrequest]
    exact pollLowLevel_sent env filled.beginRequest
  refine ⟨by rw [hrequest], ?_, ?_⟩
  · have hwritten : filled.sendBuf = store mem 0 (writtenBytes shl p p.mode.toByte) :=
      writeRequest_eq mem hpathLen
    rw [hsent, ← hoptions]
    exact sendBuf_beginRequest hwritten
  · have hlt := checked.sendBufSize.toNat_lt
    have hfits := hp.fits
    rw [hsent]
    exact toNat_ofNat_of_le (by omega)

/-! ### Decoding -/

variable (shl) in
/-- One byte more than is written is counted, unless there are file sizes. -/
theorem length_writtenBytes (b : UInt8) {sendBufSize : UInt16} (hp : p.Valid sendBufSize) :
    requestSize p (UInt16.ofNat p.filePath.length) =
      (writtenBytes shl p b).length + if p.mode.hasSizes then 0 else 1 := by
  rw [requestSize, toNat_ofNat_pathLen hp, writtenBytes]
  cases p.mode <;> simp [FileOperationMode.hasSizes, FileOperationMode.hasFormat] <;> omega

variable {sent : SentRequest} {q : Request} {mem : ℕ → UInt8}

/-- A request that carries a message begins with the bytes written for it. -/
theorem SentRequest.Carries.isPrefix {bs : Bytes} (hq : sent.Carries q)
    (hbs : sent.buf = store mem 0 bs) (hlen : bs.length ≤ sent.size.toNat) : bs <+: q.received := by
  have hcells : cells q.buf 0 bs.length = bs := by
    rw [cells_congr fun i _ hi => hq.2 i (by omega), hbs, cells_store]
  exact isPrefix_received_iff.2 ⟨hq.1 ▸ hlen, hcells⟩

/-- The message as it is received. -/
def SentRequest.message (sent : SentRequest) : Request where
  buf := sent.buf
  len := sent.size.toNat
  len_le := by
    have hlt := sent.size.toNat_lt
    omega

theorem carries_message (sent : SentRequest) : sent.Carries sent.message := ⟨rfl, fun _ _ => rfl⟩

/-- The mode that is decoded is the second byte. -/
theorem modeOfOperation_eq {buf : ℕ → UInt8} {args : FileTransferArgs}
    (h : fileTransferArgs.run buf = .ok args) : args.modeOfOperation = buf 1 := by
  rw [run_fileTransferArgs] at h
  dsimp only at h
  split_ifs at h <;> obtain rfl := Except.ok.inj h <;> rfl

/-- What a request with file sizes encodes. -/
def decodedArgs (shl : ℕ → ℕ) (p : FileTransferParams) : FileTransferArgs :=
  ⟨p.mode.toByte, p.filePath, p.dataFormatIdentifier,
    ofBytes (sizeBytes shl p.fileSizeParameterLength.toNat p.fileSizeUncompressed),
    ofBytes (sizeBytes shl p.fileSizeParameterLength.toNat p.fileSizeCompressed)⟩

theorem encodes_of_isPrefix {sendBufSize : UInt16} (hp : p.Valid sendBufSize)
    (hmode : p.mode.hasSizes = true)
    (hwritten : writtenBytes shl p p.mode.toByte <+: q.received) :
    q.Encodes (decodedArgs shl p) := by
  have hbyte : p.mode.toByte = kAddFile ∨ p.mode.toByte = kReplaceFile := by
    rcases FileOperationMode.hasSizes_iff.1 hmode with h | h <;> rw [h]
    · exact .inl rfl
    · exact .inr rfl
  have hlen : p.filePath.length < 65536 := Nat.lt_succ_of_le hp.path_le
  refine ⟨_, .write hbyte p.filePath hlen p.dataFormatIdentifier p.fileSizeParameterLength
    hp.width_le _ _ (length_sizeBytes _ _) (length_sizeBytes _ _), ?_⟩
  have hformat := FileOperationMode.hasFormat_of_hasSizes hmode
  rw [writtenBytes, if_pos hmode, if_pos hformat] at hwritten
  simpa using hwritten

theorem suppressing_mode_iff {options : UInt8} :
    suppressing options mode.toByte = mode.toByte ↔ options &&& udsSuppressPosResp = 0 := by
  unfold suppressing hasOption
  by_cases hsuppress : options &&& udsSuppressPosResp = 0
  · simp [hsuppress]
  · rw [if_pos (by simpa using hsuppress)]
    refine iff_of_false ?_ hsuppress
    cases mode <;> decide

/-- The server decodes the mode byte of every message. -/
theorem operation_of_carries {B : Build} {env : Env} {s : Sys} {args : FileTransferArgs}
    (hinactive : s.srv.xferIsActive = false) (hq : sent.Carries q) {b : UInt8}
    (hbytes : sent.buf = store mem 0 (writtenBytes shl p b)) (hsize : 1 < sent.size.toNat)
    (h : HandsOver s (requestFileTransfer0x38 B env (s.receive B env q)).2 args) :
    args.modeOfOperation = b := by
  obtain ⟨-, hrun⟩ := ((requestFileTransfer0x38_handsOver hinactive).1 args).1 h
  rw [modeOfOperation_eq hrun, hq.2 1 hsize, hbytes]
  rfl

/-- The server decodes the fields of a message with file sizes. -/
theorem handsOver_of_carries {B : Build} {env : Env} {s : Sys} {sendBufSize : UInt16}
    (hinactive : s.srv.xferIsActive = false) (hq : sent.Carries q)
    (hp : p.Valid sendBufSize) (hmode : p.mode.hasSizes = true)
    (hbytes : sent.buf = store mem 0 (writtenBytes shl p p.mode.toByte))
    (hsize : sent.size.toNat = (writtenBytes shl p p.mode.toByte).length)
    (args : FileTransferArgs) :
    HandsOver s (requestFileTransfer0x38 B env (s.receive B env q)).2 args ↔
      args = decodedArgs shl p := by
  have hprefix := hq.isPrefix hbytes hsize.ge
  have hpos : 0 < sent.size.toNat := by simp [hsize, writtenBytes]
  have hsid : q.buf 0 = kSIDRequestFileTransfer := by
    rw [hq.2 0 hpos, hbytes]
    rfl
  obtain ⟨hlen, -, hrun⟩ := (encodes_of_isPrefix hp hmode hprefix).run hsid
  rw [(requestFileTransfer0x38_handsOver hinactive).1 args, hrun]
  simp [hlen, eq_comm]

variable (shl) in
/-- The bytes of the message that are written. -/
theorem assigned_sentMessage {checked : UDSClientT}
    (hclient : client.preRequestCheck env = (.ok, checked)) (hp : p.Valid checked.sendBufSize) :
    (assigned fun mem => (sentMessage shl p env client mem).buf) =
      Set.Iio (writtenBytes shl p (suppressing client.options p.mode.toByte)).length := by
  have : Nontrivial UInt8 := ⟨0, 1, by decide⟩
  rw [← assigned_store]
  exact congrArg assigned (funext fun mem => (sentMessage_eq shl hclient hp mem).2.1)

/-- **When a request is encoded faithfully**, for given results of the wide shifts. -/
theorem encodesFaithfully_iff_sizeBytes {checked : UDSClientT}
    (hclient : client.preRequestCheck env = (.ok, checked)) (hp : p.Valid checked.sendBufSize) :
    EncodesFaithfully shl p env client ↔
      p.mode.hasSizes = true ∧ client.options &&& udsSuppressPosResp = 0 ∧
        (decodedArgs shl p).fileSizeUnCompressed = p.fileSizeUncompressed ∧
        (decodedArgs shl p).fileSizeCompressed = p.fileSizeCompressed := by
  have hassigned := assigned_sentMessage shl hclient hp
  have hlength := length_writtenBytes shl (suppressing client.options p.mode.toByte) hp
  unfold EncodesFaithfully
  dsimp only
  rw [hassigned, Set.ncard_Iio_nat]
  constructor
  · rintro ⟨-, hsent⟩
    obtain ⟨hcount, -, hdecode⟩ := hsent client.sendBuf
    obtain ⟨-, hbytes, hsize⟩ := sentMessage_eq shl hclient hp client.sendBuf
    have hmode : p.mode.hasSizes = true := by
      by_contra hno
      rw [hsize, hlength, if_neg hno] at hcount
      omega
    have hcarries := carries_message (sentMessage shl p env client client.sendBuf)
    obtain ⟨args, hargs, hagree⟩ :=
      hdecode ⟨65535, .test⟩ (.fair 0) (udsServerInit (.fair 0) fun _ => none) _ rfl hcarries
    have hone : 1 < (sentMessage shl p env client client.sendBuf).size.toNat := by
      simp [hcount, writtenBytes]
    have hbyte := (operation_of_carries rfl hcarries hbytes hone hargs).symm.trans hagree.operation
    rw [hbyte] at hbytes hcount
    obtain rfl := (handsOver_of_carries rfl hcarries hp hmode hbytes hcount args).1 hargs
    exact ⟨hmode, suppressing_mode_iff.1 hbyte, hagree.sizes hmode⟩
  · rintro ⟨hmode, hsuppress, hsizes⟩
    rw [if_pos hmode, Nat.add_zero] at hlength
    refine ⟨(sentMessage_eq shl hclient hp client.sendBuf).1, fun mem => ?_⟩
    obtain ⟨-, hbytes, hsize⟩ := sentMessage_eq shl hclient hp mem
    refine ⟨hsize.trans hlength, fun i hi => hsize.trans hlength ▸ hi, ?_⟩
    intro B env s q hinactive hq
    rw [suppressing_mode_iff.2 hsuppress] at hbytes hlength
    exact ⟨_, (handsOver_of_carries hinactive hq hp hmode hbytes (hsize.trans hlength) _).2 rfl,
      ⟨rfl, rfl, fun _ => rfl, fun _ => hsizes⟩⟩

/-- **Exactly the requests of `AddFile` and `ReplaceFile` with file sizes below `2 ^ 32`** and
without the suppress bit are encoded faithfully, whatever the wide shifts give. -/
theorem encodesFaithfully_iff {checked : UDSClientT}
    (hclient : client.preRequestCheck env = (.ok, checked)) (hp : p.Valid checked.sendBufSize) :
    (∀ shl, EncodesFaithfully shl p env client) ↔
      (p.mode = .addFile ∨ p.mode = .replaceFile) ∧ client.options &&& udsSuppressPosResp = 0 ∧
        p.fileSizeUncompressed < 2 ^ 32 ∧ p.fileSizeCompressed < 2 ^ 32 := by
  simp only [encodesFaithfully_iff_sizeBytes hclient hp, decodedArgs]
  rw [← FileOperationMode.hasSizes_iff]
  have hsmall (n : ℕ) (h : ofBytes (sizeBytes (fun _ => 0) p.fileSizeParameterLength.toNat n) = n) :
      n < 2 ^ 32 := by
    rw [sizeBytes_zero, ofBytes_toBytes] at h
    calc n = n % 2 ^ 32 % 256 ^ p.fileSizeParameterLength.toNat := h.symm
      _ ≤ n % 2 ^ 32 := Nat.mod_le _ _
      _ < 2 ^ 32 := Nat.mod_lt _ (by norm_num)
  constructor
  · intro h
    obtain ⟨hmode, hsuppress, hu, hc⟩ := h fun _ => 0
    exact ⟨hmode, hsuppress, hsmall _ hu, hsmall _ hc⟩
  · rintro ⟨hmode, hsuppress, hu, hc⟩ shl
    refine ⟨hmode, hsuppress, ?_, ?_⟩
    · rw [sizeBytes_eq_toBytes hu, ofBytes_toBytes_of_lt hp.uncompressed_lt]
    · rw [sizeBytes_eq_toBytes hc, ofBytes_toBytes_of_lt hp.compressed_lt]

/-- A transport with a send buffer of 4095 bytes that accepts what is sent. -/
def clientEnv : ClientEnv := ⟨0, some 4095, false, 10, fun _ => 0, 0, .physical⟩

/-- A client that sends nothing at present. -/
def idleClient : UDSClientT := .clientInit (fun _ => 0) fun _ => 0

/-- The client after `PreRequestCheck`. -/
def checkedClient : UDSClientT := { idleClient with sendBufSize := 4095 }

/-- A request to add the file `a` is encoded faithfully if its file sizes have two bytes, and not
for all results of the wide shifts if one is `2 ^ 32`. -/
theorem encodesFaithfully_iff_addFile :
    EncodesFaithfully (fun _ => 0) ⟨.addFile, [0x61], 0, 2, 512, 300⟩ clientEnv idleClient ∧
      ¬∀ shl, EncodesFaithfully shl ⟨.addFile, [0x61], 0, 5, 2 ^ 32, 300⟩ clientEnv idleClient := by
  have hiff {p : FileTransferParams} (hp : p.Valid checkedClient.sendBufSize) :=
    encodesFaithfully_iff (rfl : idleClient.preRequestCheck clientEnv = (.ok, checkedClient)) hp
  constructor
  · exact (hiff ⟨by simp, by simp, by decide, by decide, by decide, by decide⟩).2
      ⟨.inl rfl, by decide, by decide, by decide⟩ _
  · rw [hiff ⟨by simp, by simp, by decide, by decide, by decide, by decide⟩]
    rintro ⟨-, -, hsize, -⟩
    exact lt_irrefl _ hsize

/-- The request to read the file `a`. -/
def readRequest : FileTransferParams := ⟨.readFile, [0x61], 0, 0, 0, 0⟩

/-- The length of a message that reads a file counts a byte that is not written. -/
theorem not_encodesFaithfully_readRequest :
    ¬∀ (env : ClientEnv) (client checked : UDSClientT) (shl : ℕ → ℕ) (p : FileTransferParams),
      client.options = 0 → client.preRequestCheck env = (.ok, checked) →
      p.Valid checked.sendBufSize → EncodesFaithfully shl p env client := by
  intro hclaim
  have hvalid : readRequest.Valid checkedClient.sendBufSize :=
    ⟨by simp [readRequest], by simp [readRequest], by decide, by decide, by decide, by decide⟩
  have hfaithful := hclaim clientEnv idleClient checkedClient (fun _ => 0) readRequest rfl rfl
    hvalid
  have hmode := ((encodesFaithfully_iff_sizeBytes rfl hvalid).1 hfaithful).1
  cases hmode

end EcuUpgrade
