import EcuUpgrade.Client.Codec
import EcuUpgrade.Routines.Checksum
import EcuUpgrade.Security.Unlock

/-!
# What the client reads from responses

The functions `UDSUnpack…` of `iso14229.c` take a response apart. What they return are the records
that the server has put into it: a list of identifiers is unpacked by a call for each of them, which
the offset in the response is passed on between.

## Main definitions

* `ReceivedResponse.unpackRDBI`, `ReceivedResponse.unpackSecurityAccess`,
  `ReceivedResponse.unpackRoutineControl`: the functions.
* `ReceivedResponse.unpackRecords`: the calls for a list of identifiers.
* `Conveys`: a response conveys what a request asks for.

## Main results

* `unpackRecords_eq`: the records of a response are unpacked.
* `ServerStep.conveys`: what a positive response conveys.
* `responses_are_understood`.
-/

namespace EcuUpgrade

open Memory Requester ResponseCode

/-! ### The functions -/

namespace ReceivedResponse

variable (b : ReceivedResponse)

/-- `UDSUnpackRDBIResponse`, on the response in the receive buffer: the offset after the call, and
the data. -/
def unpackRDBI (did dataSize offset : UInt16) : UInt16 × Except UDSErrT Bytes :=
  let offset := if offset = 0 then 1 else offset
  if b.size.toNat < offset.toNat + 2 then (offset, .error .respTooShort)
  else
    let theirDID := word16 (b.buf offset.toNat) (b.buf (offset.toNat + 1))
    if theirDID ≠ did then (offset, .error .didMismatch)
    else if b.size.toNat < offset.toNat + 2 + dataSize.toNat then (offset, .error .respTooShort)
    else (offset + (2 + dataSize), .ok (cells b.buf (offset.toNat + 2) dataSize.toNat))

/-- The calls for a list of identifiers, with the sizes of their data. -/
def unpackRecords : UInt16 → List (UInt16 × UInt16) → UInt16 × Except UDSErrT (List Bytes)
  | offset, [] => (offset, .ok [])
  | offset, (did, dataSize) :: rest =>
    match b.unpackRDBI did dataSize offset with
    | (offset, .error err) => (offset, .error err)
    | (offset, .ok data) =>
      match unpackRecords offset rest with
      | (offset, .error err) => (offset, .error err)
      | (offset, .ok datas) => (offset, .ok (data :: datas))

/-- `UDSUnpackSecurityAccessResponse`: the type and the seed. -/
def unpackSecurityAccess : Except UDSErrT (UInt8 × Bytes) :=
  if b.buf 0 ≠ responseSidOf kSIDSecurityAccess then .error .sidMismatch
  else if b.size < 2 then .error .respTooShort
  else .ok (b.buf 1, cells b.buf 2 (b.size.toNat - 2))

/-- `UDSUnpackRoutineControlResponse`: the type, the identifier and the status record. -/
def unpackRoutineControl : Except UDSErrT (UInt8 × UInt16 × Bytes) :=
  if b.buf 0 ≠ responseSidOf kSIDRoutineControl then .error .sidMismatch
  else if b.size < 4 then .error .respTooShort
  else .ok (b.buf 1, word16 (b.buf 2) (b.buf 3), cells b.buf 4 (b.size.toNat - 4))

end ReceivedResponse

variable {b : ReceivedResponse}

theorem unpackSecurityAccess_eq {level : UInt8} {seed : Bytes}
    (h : b.bytes = [responseSidOf kSIDSecurityAccess, level] ++ seed) :
    b.unpackSecurityAccess = .ok (level, seed) := by
  obtain ⟨hsize, hheader, hseed⟩ := cells_eq_append h
  change [b.buf 0, b.buf 1] = [responseSidOf kSIDSecurityAccess, level] at hheader
  obtain ⟨hsid, hlevel⟩ : b.buf 0 = responseSidOf kSIDSecurityAccess ∧ b.buf 1 = level := by
    simpa using hheader
  change b.size.toNat = 2 + seed.length at hsize
  have hlong : ¬b.size < 2 := by
    rw [UInt16.lt_iff_toNat_lt, hsize]
    exact not_lt.2 (Nat.le_add_right 2 _)
  unfold ReceivedResponse.unpackSecurityAccess
  rw [if_neg (not_not.2 hsid), if_neg hlong, hlevel, hsize, Nat.add_sub_cancel_left]
  exact congrArg (fun bs => Except.ok (level, bs)) hseed

theorem unpackRoutineControl_eq {type : UInt8} {id : UInt16} {record : Bytes}
    (h : b.bytes = ([responseSidOf kSIDRoutineControl, type] ++ didBytes id) ++ record) :
    b.unpackRoutineControl = .ok (type, id, record) := by
  obtain ⟨hsize, hheader, hrecord⟩ := cells_eq_append h
  change [b.buf 0, b.buf 1, b.buf 2, b.buf 3] =
    [responseSidOf kSIDRoutineControl, type, (id >>> 8).toUInt8, id.toUInt8] at hheader
  obtain ⟨hsid, htype, hhigh, hlow⟩ : b.buf 0 = responseSidOf kSIDRoutineControl ∧
      b.buf 1 = type ∧ b.buf 2 = (id >>> 8).toUInt8 ∧ b.buf 3 = id.toUInt8 := by
    simpa using hheader
  change b.size.toNat = 4 + record.length at hsize
  have hlong : ¬b.size < 4 := by
    rw [UInt16.lt_iff_toNat_lt, hsize]
    exact not_lt.2 (Nat.le_add_right 4 _)
  unfold ReceivedResponse.unpackRoutineControl
  rw [if_neg (not_not.2 hsid), if_neg hlong, htype, hhigh, hlow, word16_didBytes, hsize,
    Nat.add_sub_cancel_left]
  exact congrArg (fun bs => Except.ok (type, id, bs)) hrecord

/-- **The call for a record** returns its data and moves the offset behind it. -/
theorem unpackRDBI_eq {did offset : UInt16} {data rest : Bytes} (hpos : 1 ≤ offset.toNat)
    (hsize : b.size.toNat = offset.toNat + (2 + data.length + rest.length))
    (h : cells b.buf offset.toNat (2 + data.length + rest.length) =
      (didBytes did ++ data) ++ rest) :
    b.unpackRDBI did (UInt16.ofNat data.length) offset =
        (UInt16.ofNat (offset.toNat + (2 + data.length)), .ok data) ∧
      cells b.buf (offset.toNat + (2 + data.length)) rest.length = rest := by
  have hlt := b.size.toNat_lt
  have hlength : (UInt16.ofNat data.length).toNat = data.length := toNat_ofNat_of_le (by omega)
  rw [cells_add, cells_add] at h
  obtain ⟨hrecord, hrest⟩ := List.append_inj h (by simp)
  obtain ⟨hdid, hdata⟩ := List.append_inj hrecord (by simp)
  have hword : word16 (b.buf offset.toNat) (b.buf (offset.toNat + 1)) = did := by
    obtain ⟨hhigh, hlow⟩ : b.buf offset.toNat = (did >>> 8).toUInt8 ∧
        b.buf (offset.toNat + 1) = did.toUInt8 := by
      simpa [cells, didBytes, List.range'_succ] using hdid
    rw [hhigh, hlow, word16_didBytes]
  have hzero : offset ≠ 0 := fun hzero => by simp [hzero] at hpos
  refine ⟨?_, hrest⟩
  unfold ReceivedResponse.unpackRDBI
  dsimp only
  rw [if_neg hzero, if_neg (by omega), if_neg (not_not.2 hword), hlength, if_neg (by omega), hdata]
  refine congrArg (·, Except.ok data) (UInt16.toNat_inj.1 ?_)
  rw [UInt16.toNat_add, UInt16.toNat_add, hlength, toNat_ofNat_of_le (by omega)]
  change (offset.toNat + (2 + data.length) % 2 ^ 16) % 2 ^ 16 = _
  omega

/-- **The records of a response are unpacked**, and the offset ends up behind them. -/
theorem unpackRecords_eq {records : List (UInt16 × Bytes)} {offset : UInt16}
    (hpos : 1 ≤ offset.toNat)
    (hsize : b.size.toNat = offset.toNat +
      (records.flatMap fun r => didBytes r.1 ++ r.2).length)
    (h : cells b.buf offset.toNat (records.flatMap fun r => didBytes r.1 ++ r.2).length =
      records.flatMap fun r => didBytes r.1 ++ r.2) :
    b.unpackRecords offset (records.map fun r => (r.1, UInt16.ofNat r.2.length)) =
      (b.size, .ok (records.map Prod.snd)) := by
  induction records generalizing offset with
  | nil =>
    have hoffset : offset = b.size := UInt16.toNat_inj.1 hsize.symm
    rw [hoffset]
    rfl
  | cons record records ih =>
    obtain ⟨did, data⟩ := record
    have hlt := b.size.toNat_lt
    set rest := records.flatMap fun r => didBytes r.1 ++ r.2 with hrest
    have hflat : ((did, data) :: records).flatMap (fun r => didBytes r.1 ++ r.2) =
        (didBytes did ++ data) ++ rest := List.flatMap_cons
    have hlength : ((didBytes did ++ data) ++ rest).length = 2 + data.length + rest.length := by
      simp [Nat.add_assoc]
    rw [hflat, hlength] at hsize h
    obtain ⟨hcall, hbehind⟩ := unpackRDBI_eq hpos hsize h
    have hoffset : (UInt16.ofNat (offset.toNat + (2 + data.length))).toNat =
        offset.toNat + (2 + data.length) := toNat_ofNat_of_le (by omega)
    have hrecords := @ih (UInt16.ofNat (offset.toNat + (2 + data.length)))
    rw [hoffset] at hrecords
    unfold ReceivedResponse.unpackRecords
    rw [List.map_cons]
    dsimp only
    rw [hcall]
    dsimp only
    rw [hrecords (by omega) (by omega) hbehind]
    rfl

/-- With the offset 0, the first call begins behind the service identifier. -/
theorem unpackRecords_zero {records : List (UInt16 × UInt16)} (h : records ≠ []) :
    b.unpackRecords 0 records = b.unpackRecords 1 records := by
  cases records with
  | nil => exact absurd rfl h
  | cons record records => rfl

/-! ### What the server responds -/

variable {B : Build} {env : Env} {s t : Sys} {x : Exchange}

/-- **What a response conveys**, in a state of the server: the records of the identifiers, the bytes
of the seed, and the status of the routine, each with what the request was about. -/
def Conveys (B : Build) (s : Sys) (env : Env) (b : ReceivedResponse) : ClientRequest → Prop
  | .rdbi didList =>
    b.unpackRecords 0 (didList.map fun did =>
        (did, UInt16.ofNat (s.didRecord B env did).length)) =
      (b.size, .ok (didList.map (s.didRecord B env)))
  | .securityAccess level _ =>
    if level % 2 = 0 then b.unpackSecurityAccess = .ok (level, [])
    else ∃ seed ∈ s.seedBytes env level, b.unpackSecurityAccess = .ok (level, seed)
  | .routineCtrl type id data =>
    ∃ status, b.unpackRoutineControl = .ok (type, id, [status]) ∧
      (id = 0x0202 → (status = 0 ↔
        calcFileChecksum env.md5Text env.chsumInit.toList = .ok data.1))
  | _ => True

/-- An identifier that cannot be read is refused. -/
theorem readDataLoop_readable {n did : ℕ} (hdid : did + n ≤ 256)
    (h : (readDataLoop B env n did s).1 = kPositiveResponse) :
    ∀ i ∈ List.range' did n,
      IsReadable (word16 (s.srv.r.recvBuf (1 + i * 2)) (s.srv.r.recvBuf (1 + i * 2 + 1))) := by
  induction n generalizing did s with
  | zero => simp
  | succ n ih =>
    have hidx : (1 + did * 2) % 2 ^ 16 = 1 + did * 2 := Nat.mod_eq_of_lt (by omega)
    unfold readDataLoop at h
    dsimp only at h
    rw [hidx] at h
    set dataId := word16 (s.srv.r.recvBuf (1 + did * 2)) (s.srv.r.recvBuf (1 + did * 2 + 1))
      with hdataId
    set v := (s.setSend (s.srv.r.sendBuf ++ [(dataId >>> 8).toUInt8, dataId.toUInt8])).emitEvent
      (.readDataByIdent dataId) with hv
    split_ifs at h with hfull hrefused
    · simp [Sys.negativeResponse] at h
    · exact absurd h hrefused
    · have hbuf : (handleReadDataByIdent B env v dataId).2.srv.r.recvBuf = s.srv.r.recvBuf :=
        (handleReadDataByIdent_same (k := .request) dataId).1
      have hrest := ih (by omega) h
      rw [hbuf] at hrest
      intro i hi
      rw [List.range'_succ] at hi
      rcases List.mem_cons.1 hi with rfl | hi
      · by_contra hid
        obtain ⟨hbsp, hfile⟩ := not_or.1 hid
        refine hrefused ?_
        unfold handleReadDataByIdent
        rw [if_neg hbsp, if_neg hfile]
        simp
      · exact hrest i hi

theorem length_flatMap_didAnswer_le (s : Sys) (env : Env) (ids : List UInt16) :
    (ids.flatMap (s.didAnswer B env)).length ≤ 23 * ids.length := by
  induction ids with
  | nil => simp
  | cons id ids ih =>
    have hle : (s.didAnswer B env id).length ≤ 23 := by
      rw [Sys.didAnswer, List.length_append, length_didBytes, length_didRecord]
      split_ifs <;> omega
    rw [List.flatMap_cons, List.length_append, List.length_cons]
    omega

/-- **A positive response to a list of identifiers** answers all of them. -/
theorem ServerStep.sent_of_readable (hs : Settings s) (hmtu : B.udsTpMtu = 65535)
    (h : ServerStep B s x t) {didList : List UInt16} (hle : didList.length ≤ 255)
    (hreq : x.req.received = listRequest didList) (hcode : x.code = kPositiveResponse) :
    didList ≠ [] ∧ x.sent = s.wholeAnswer B x.env didList := by
  obtain ⟨hlen, hsid, hbytes⟩ := Request.reads_of_received hreq
  have hservice : x.service = some .readDataByIdentifier := by
    rw [Exchange.service, Exchange.sid, hsid]
    rfl
  obtain ⟨u, hcall, -, -⟩ := h.call_sent hs hservice
  have hcall' : readDataByIdentifier0x22 B x.env (s.receive B x.env x.req) = (x.code, u) :=
    Except.ok.inj hcall
  set v := (s.receive B x.env x.req).setSend [responseSidOf kSIDReadDataByIdentifier] with hv
  have hvlen : v.srv.r.recvLen = 1 + didList.length * 2 := hlen
  have hnumber : v.srv.r.recvLen / 2 % 256 = didList.length := by
    rw [hvlen]
    omega
  have hodd : ¬ subSize v.srv.r.recvLen 1 % 2 ≠ 0 := by
    rw [subSize_of_le (by omega), hvlen]
    omega
  rw [readDataByIdentifier0x22, ← hv, if_neg hodd, hnumber] at hcall'
  dsimp only at hcall'
  split_ifs at hcall' with hnone
  · rw [← (Prod.mk.inj hcall').1] at hcode
    simp at hcode
  have hpositive : (readDataLoop B x.env didList.length 0 v).1 = kPositiveResponse := by
    rw [hcall']
    exact hcode
  have hreadable := readDataLoop_readable (by omega) hpositive
  have hnumbers : (List.range' 0 didList.length).map (fun did => UDSServerEvent.readDataByIdent
      (word16 (x.req.buf (1 + did * 2)) (x.req.buf (1 + did * 2 + 1)))) =
        didList.map .readDataByIdent :=
    ClientRequest.map_range'_receive 0 (by simpa using hbytes didList.length le_rfl)
  have hids : ∀ id ∈ didList, IsReadable id := by
    intro id hid
    have hmem := List.mem_map_of_mem (f := UDSServerEvent.readDataByIdent) hid
    rw [← hnumbers] at hmem
    obtain ⟨i, hi, heq⟩ := List.mem_map.1 hmem
    exact UDSServerEvent.readDataByIdent.inj heq ▸ hreadable i hi
  have hfits : (s.wholeAnswer B x.env didList).length ≤ B.udsTpMtu.toNat := by
    have hbound := length_flatMap_didAnswer_le (B := B) s x.env didList
    rw [hmtu, Sys.wholeAnswer, List.length_cons]
    change _ ≤ 65535
    omega
  have hmod : didList.length % 256 = didList.length := Nat.mod_eq_of_lt (by omega)
  refine ⟨fun hnil => hnone (congrArg List.length hnil), ?_⟩
  rw [h.sent_of_reads hs hids hreq hfits, hmod, if_neg hnone, List.take_length]

theorem conveys_rdbi {didList : List UInt16} (hne : didList ≠ [])
    (hb : b.bytes = s.wholeAnswer B env didList) : Conveys B s env b (.rdbi didList) := by
  set records := didList.map fun did => (did, s.didRecord B env did) with hrecords
  have hflat : records.flatMap (fun r => didBytes r.1 ++ r.2) =
      didList.flatMap (s.didAnswer B env) := by
    rw [hrecords, List.flatMap_map]
    rfl
  have hbytes : cells b.buf 0 b.size.toNat = [responseSidOf kSIDReadDataByIdentifier] ++
      records.flatMap fun r => didBytes r.1 ++ r.2 := hflat ▸ hb
  obtain ⟨hsize, -, hcells⟩ := cells_eq_append hbytes
  have hall : b.unpackRecords 1 (records.map fun r => (r.1, UInt16.ofNat r.2.length)) =
      (b.size, .ok (records.map Prod.snd)) := unpackRecords_eq le_rfl hsize hcells
  rw [hrecords, List.map_map, List.map_map] at hall
  change b.unpackRecords 0 _ = _
  rw [unpackRecords_zero (by simpa using hne)]
  exact hall

/-- A key that is accepted is answered without data. -/
theorem ServerStep.sent_of_key (hs : Settings s) (h : ServerStep B s x t)
    (hservice : x.service = some .securityAccess) (heven : x.req.buf 1 % 2 = 0)
    (hcode : x.code = kPositiveResponse) (hsent : x.sent ≠ []) :
    x.sent = [responseSidOf kSIDSecurityAccess, x.req.buf 1] := by
  obtain ⟨hpass, hkey⟩ := (h.keyAnswer hs hservice heven).1 hcode
  obtain ⟨u, hcall, -, -⟩ := h.call_sent hs hservice
  have hcall' : securityAccess0x27 x.env (s.receive B x.env x.req) = (x.code, u) :=
    Except.ok.inj hcall
  have hseed : (s.securityAccess B x.env x.req).app.seed = s.app.seed := rfl
  rw [securityAccess0x27_of_passes hpass, if_pos heven, sendKey0x27_eq, hseed, if_pos hkey]
    at hcall'
  rw [h.sent_of_positive hs hservice rfl hcall hcode] at hsent ⊢
  split_ifs at hsent ⊢
  · rw [← (Prod.mk.inj hcall').2]
    rfl
  · exact absurd rfl hsent

theorem conveys_securityAccess (hs : Settings s) (h : ServerStep B s x t) {level : UInt8}
    {data : Payload} (hservice : x.service = some .securityAccess) (hlevel : x.req.buf 1 = level)
    (hcode : x.code = kPositiveResponse) (hsent : x.sent ≠ []) (hb : b.bytes = x.sent) :
    Conveys B s x.env b (.securityAccess level data) := by
  unfold Conveys
  dsimp only
  split_ifs with heven
  · refine unpackSecurityAccess_eq (hb.trans ?_)
    rw [h.sent_of_key hs hservice (hlevel ▸ heven) hcode hsent, hlevel]
    rfl
  · obtain ⟨hpositive, hseed⟩ := h.seedAnswer hs ⟨hservice, hlevel, hlevel ▸ heven⟩
    obtain ⟨-, seed, hmem, -⟩ := hpositive.1 hcode
    have hanswer := hseed hcode seed hmem
    refine ⟨seed, hmem, unpackSecurityAccess_eq (hb.trans ?_)⟩
    rw [hanswer] at hsent ⊢
    split_ifs at hsent ⊢
    · rfl
    · exact absurd rfl hsent

theorem requestUpgradeFw_sendBuf {result : UInt8} (h : requestUpgradeFw B s = .ok (result, t)) :
    t.srv.r = s.srv.r := by
  unfold requestUpgradeFw at h
  dsimp only at h
  split_ifs at h
  rw [← (Prod.mk.inj (Except.ok.inj h)).2]
  cases B.target <;> rfl

theorem queryUpgradeProgress_sendBuf (B : Build) (s : Sys) :
    (queryUpgradeProgress B s).2.srv.r = s.srv.r := by
  unfold queryUpgradeProgress
  split <;> split_ifs <;> rfl

/-- **A routine that succeeds appends its status**, if there is room for it. -/
theorem handleRoutineCtrl_status {ctrlType : UInt8} {id : UInt16} {optionRecord : Bytes}
    (hroom : s.srv.r.sendBuf.length < s.srv.r.sendBufSize)
    (hlength : s.srv.r.sendBuf.length < 2 ^ 64)
    (h : handleRoutineCtrl B env s ctrlType id optionRecord = .ok (kPositiveResponse, t)) :
    ∃ status, t.srv.r.sendBuf = s.srv.r.sendBuf ++ [status] ∧
      (id = 0x0202 → (status = 0 ↔
        calcFileChecksum env.md5Text env.chsumInit.toList = .ok optionRecord)) := by
  have hcopy {u : Sys} {status : UInt8} (hu : u.srv.r = s.srv.r)
      (heq : (Except.ok (kPositiveResponse, (u.safeCopy [status]).2) :
        Except Fault (ResponseCode × Sys)) = .ok (kPositiveResponse, t)) :
      t.srv.r.sendBuf = s.srv.r.sendBuf ++ [status] := by
    rw [← (Prod.mk.inj (Except.ok.inj heq)).2]
    rw [← hu] at hroom hlength ⊢
    exact Sys.safeCopy_status u hroom.ne' hlength
  have hrefused {c : ResponseCode} {u : Sys} (hc : c ≠ kPositiveResponse)
      (heq : (Except.ok (c, u) : Except Fault (ResponseCode × Sys)) =
        .ok (kPositiveResponse, t)) : False :=
    hc (Prod.mk.inj (Except.ok.inj heq)).1
  unfold handleRoutineCtrl at h
  dsimp only at h
  split_ifs at h with hchecksum hstart hsixteen hthird hthird' hupgrade hstart' hresults
  · exact (hrefused (by simp) h).elim
  · exact (hrefused (by simp) h).elim
  · split at h
    · cases h
    · next chsum hchsum =>
      refine ⟨_, hcopy ?_ h, fun _ => ?_⟩
      · rfl
      have hlen : chsum.length = optionRecord.length := by
        rw [calcFileChecksum_length hchsum, Vector.length_toList, not_not.1 hsixteen]
      rw [hchsum, compareLoop_eq hlen]
      split_ifs with heq
      · exact iff_of_true rfl (congrArg _ heq)
      · exact iff_of_false (by decide) fun hok => heq (Except.ok.inj hok)
  · exact (hrefused (by simp) h).elim
  · refine ⟨_, hcopy ?_ h, fun hid => absurd hid hchecksum⟩
    rfl
  · split at h
    · cases h
    · next hrequest =>
      exact ⟨_, hcopy (requestUpgradeFw_sendBuf hrequest) h, fun hid => absurd hid hchecksum⟩
  · exact ⟨_, hcopy (queryUpgradeProgress_sendBuf B s) h, fun hid => absurd hid hchecksum⟩
  · exact (hrefused (by simp) h).elim
  · exact (hrefused (by simp) h).elim

theorem conveys_routineCtrl (hs : Settings s) (hmtu : B.udsTpMtu = 65535) (h : ServerStep B s x t)
    {type : UInt8} {id : UInt16} {data : Payload} (hservice : x.service = some .routineControl)
    (hlen : 4 ≤ x.req.len) (htype : x.req.buf 1 &&& 0x7F = type)
    (hid : word16 (x.req.buf 2) (x.req.buf 3) = id)
    (hdata : bytesAt x.req.buf 4 (x.req.len - 4) = data.1) (hcode : x.code = kPositiveResponse)
    (hsent : x.sent ≠ []) (hb : b.bytes = x.sent) :
    Conveys B s x.env b (.routineCtrl type id data) := by
  obtain ⟨u, hcall, -, -⟩ := h.call_sent hs hservice
  have hcall' : routineControl0x31 B x.env (s.receive B x.env x.req) = .ok (x.code, u) := hcall
  have hrecord : (s.receive B x.env x.req).srv.r.recvSlice 4
      (subSize16 (s.receive B x.env x.req).srv.r.recvLen 4) = data.1 :=
    (ClientRequest.recvSlice_receive B x.env s hlen).trans hdata
  rw [h.sent_of_positive hs hservice rfl hcall hcode] at hsent hb
  split_ifs at hsent hb with hbit
  · unfold routineControl0x31 at hcall'
    rw [receive_recvBuf, hrecord, htype, hid, receive_recvLen, if_neg (by omega)] at hcall'
    dsimp only at hcall'
    split_ifs at hcall' with hknown
    · split at hcall'
      · cases hcall'
      · next err v hhandler =>
        split_ifs at hcall' with herr
        · obtain ⟨hc, -⟩ := Prod.mk.inj (Except.ok.inj hcall')
          exact absurd (hc.trans hcode) herr
        · obtain ⟨-, rfl⟩ := Prod.mk.inj (Except.ok.inj hcall')
          rw [not_not.1 herr] at hhandler
          obtain ⟨status, hsend, hchecksum⟩ := handleRoutineCtrl_status
            (by change 4 < B.udsTpMtu.toNat; rw [hmtu]; decide) (by change 4 < 2 ^ 64; decide)
            hhandler
          refine ⟨status, unpackRoutineControl_eq (hb.trans ?_), hchecksum⟩
          exact hsend
    · obtain ⟨hc, -⟩ := Prod.mk.inj (Except.ok.inj hcall')
      rw [hcode] at hc
      simp at hc
  · exact absurd rfl hsent

/-- **What a positive response conveys** to the client that made the request. -/
theorem ServerStep.conveys (hs : Settings s) (hmtu : B.udsTpMtu = 65535) (h : ServerStep B s x t)
    {r : ClientRequest} {options : UInt8} (hr : r.WellFormed options)
    (hreq : x.req.received = withSuppressBit options r.message) (hcode : x.code = kPositiveResponse)
    (hsent : x.sent ≠ []) (hb : b.bytes = x.sent) : Conveys B s x.env b r := by
  have hservice : x.service = some r.service := r.service_of_received hreq
  cases r with
  | rdbi didList =>
    have hmessage := hr.received_eq hreq
      (by simp [ClientRequest.service, UDSService.hasSubFunction])
    obtain ⟨hne, hanswer⟩ := h.sent_of_readable hs hmtu hr.inRange hmessage hcode
    exact conveys_rdbi hne (hb.trans hanswer)
  | securityAccess level data =>
    obtain ⟨-, hlevel, -⟩ := ClientRequest.reads_securityAccess hr hreq
    exact conveys_securityAccess hs h hservice hlevel hcode hsent hb
  | routineCtrl type id data =>
    obtain ⟨hlen, htype, hid, hdata⟩ := ClientRequest.reads_routineCtrl hr hreq
    exact conveys_routineCtrl hs hmtu h hservice hlen htype hid hdata hcode hsent hb
  | _ => trivial

/-! ### Client and server -/

variable {tr : List DialogueEvent} {d : Dialogue}

/-- What was served is an exchange of a poll of the server. -/
theorem DialogueRun.exchange_of_served (hmtu : B.udsTpMtu = 65535) (h : DialogueRun B tr d)
    {message : Bytes × Bytes} (hserved : message ∈ served tr) :
    ∃ pre p post d' x u, tr = pre ++ .server p :: post ∧ DialogueRun B pre d' ∧ x ∈ p.exchanges ∧
      Settings (d'.server.pollTimers B p.env) ∧
      ServerStep B (d'.server.pollTimers B p.env) x u ∧ message = (x.req.received, x.sent) := by
  obtain ⟨l, hl, hmessage⟩ := List.mem_flatMap.1 hserved
  obtain ⟨pre, post, rfl⟩ := List.append_of_mem hl
  obtain ⟨d', hpre, hpath⟩ := Runs.Run.append_iff.1 h
  obtain ⟨hs, -⟩ := DialogueRun.understood hmtu hpre
  cases hpath with
  | cons hstep hpost =>
    cases hstep with
    | request env e htime hresponds => cases hmessage
    | poll env htime hresponds => cases hmessage
    | setOptions options defaultOptions => cases hmessage
    | server p t hpoll hrequest =>
      obtain ⟨x, hx, rfl⟩ := List.mem_map.1 hmessage
      rcases hpoll.exchanges hs with ⟨hnone, -⟩ | ⟨y, u, hone, hserver, -⟩
      · rw [hnone] at hx
        cases hx
      · obtain rfl : x = y := by
          rw [hone] at hx
          exact List.mem_singleton.1 hx
        exact ⟨pre, p, post, d', x, u, rfl, hpre, hx, hs.pollTimers, hserver, rfl⟩

/-- **Responses are understood.** As long as the client gives no request up, each response it gets
is what a poll of the server has made when it evaluated the request. If the request is the message
of one of the functions and the response is positive, unpacking it gives what the server has put
into it in that state: the record of every identifier, the bytes of the seed, or the status of the
routine. -/
theorem responses_are_understood (hmtu : B.udsTpMtu = 65535) (h : DialogueRun B tr d)
    (hkept : ∀ e ∈ clientEvents tr, ¬GivesUp e) {message : Bytes}
    (hresponse : (message, b.bytes) ∈ responded tr) :
    ∃ pre p post d' x, tr = pre ++ .server p :: post ∧ DialogueRun B pre d' ∧ x ∈ p.exchanges ∧
      x.req.received = message ∧ x.sent = b.bytes ∧
      ∀ (r : ClientRequest) (options : UInt8), r.WellFormed options →
        message = withSuppressBit options r.message → b.buf 0 ≠ 0x7F →
        Conveys B (d'.server.pollTimers B p.env) x.env b r := by
  obtain ⟨done, last, haligned, hserved⟩ := h.aligned hmtu hkept
  have hmem : (message, b.bytes) ∈ served tr := by
    rw [← hserved]
    exact List.mem_append_left _ (haligned.responded.subset hresponse)
  obtain ⟨pre, p, post, d', x, u, hsplit, hpre, hx, hs, hstep, hexchange⟩ :=
    h.exchange_of_served hmtu hmem
  obtain ⟨hreq, hsent⟩ := Prod.mk.inj hexchange
  refine ⟨pre, p, post, d', x, hsplit, hpre, hx, hreq.symm, hsent.symm,
    fun r options hr hmessage hpositive => ?_⟩
  have hne : x.sent ≠ [] := hsent ▸ haligned.nonempty _ hresponse
  have hcode : x.code = kPositiveResponse := by
    by_contra hnegative
    obtain ⟨form, hform⟩ := hstep.hasForm hs hmtu
    cases form with
    | positive => exact hnegative hform.1
    | suppressed => exact hnegative hform.1
    | negative =>
      have hbytes : b.bytes = [0x7F] ++ [x.req.buf 0, x.code.toByte] := hsent.trans hform.2
      obtain ⟨-, hhead, -⟩ := cells_eq_append hbytes
      exact hpositive (List.cons.inj hhead).1
  exact hstep.conveys hs hmtu hr (hreq.symm.trans hmessage) hcode hne hsent

/-- The version of the board support package is asked for and read. -/
theorem responses_are_understood_bspVersion : ∃ tr d b, DialogueRun ⟨65535, .test⟩ tr d ∧
    ([0x22, 0xF1, 0x95], b.bytes) ∈ responded tr ∧
    ∃ pre p post d' x, tr = pre ++ .server p :: post ∧ DialogueRun ⟨65535, .test⟩ pre d' ∧
      x ∈ p.exchanges ∧ x.req.received = [0x22, 0xF1, 0x95] ∧ x.sent = b.bytes ∧
      Conveys ⟨65535, .test⟩ (d'.server.pollTimers ⟨65535, .test⟩ p.env) x.env b
        (.rdbi [0xF195]) := by
  let b : ReceivedResponse := ⟨fun i => ([0x62, 0xF1, 0x95, 0xFF] : Bytes).getD i 0, 24⟩
  have hrun : (Runs.follow (Dialogue.next ⟨65535, .test⟩) freshDialogue
      [.request 0 3 (udsSendRDBI [0xF195]), .poll 1, .server 2, .server 100, .poll 101,
        .poll 102]).map (fun r : List DialogueEvent × Dialogue =>
          (decide (∀ e ∈ clientEvents r.1, ¬GivesUp e), responded r.1)) =
        some (true, [([0x22, 0xF1, 0x95], b.bytes)]) := by
    decide +kernel
  obtain ⟨⟨tr, d⟩, hfollow, hobserved⟩ := Option.map_eq_some_iff.1 hrun
  obtain ⟨hkept, hresponded⟩ := Prod.mk.inj hobserved
  have hpath := Runs.follow_path (Dialogue.next ⟨65535, .test⟩)
    (fun _ _ _ _ => dialogueStep_of_next) hfollow
  have hstart : DialogueStart freshDialogue :=
    ⟨⟨_, _, rfl⟩, ⟨_, _, rfl⟩, rfl, rfl, rfl, rfl⟩
  have h : DialogueRun ⟨65535, .test⟩ tr d := (Runs.Run.start hstart).append hpath
  have hresponse : ([0x22, 0xF1, 0x95], b.bytes) ∈ responded tr :=
    hresponded ▸ List.mem_singleton_self _
  have hlength : [(0xF195 : UInt16)].length ≤ 255 := by decide
  have hr : (ClientRequest.rdbi [0xF195]).WellFormed 0 := ⟨hlength, by decide, by decide⟩
  obtain ⟨pre, p, post, d', x, hsplit, hpre, hx, hreq, hsent, hconveys⟩ :=
    responses_are_understood rfl h (of_decide_eq_true hkept) hresponse
  exact ⟨tr, d, b, h, hresponse, pre, p, post, d', x, hsplit, hpre, hx, hreq, hsent,
    hconveys _ 0 hr rfl (by decide)⟩

end EcuUpgrade
