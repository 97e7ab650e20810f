import EcuUpgrade.Transfer.Channel

/-!
# Reading a list of identifiers

A `ReadDataByIdentifier` request may ask for many records at once. The service keeps their number
in eight bits, so that it answers a list only up to a multiple of 256, and refuses one whose length
is such a multiple.

## Main definitions

* `listRequest`: the request for a list of identifiers.
* `Sys.didAnswer`, `Sys.wholeAnswer`: what should be answered for an identifier, and for a list.

## Main results

* `readDataLoop_answers`: what the loop over the identifiers appends to the response.
* `ServerStep.answer_of_reads`: what is answered to the request for a list.
* `answersWholeList_iff`: **a list is answered as a whole if and only if it has at most 255
  identifiers.**
-/

namespace EcuUpgrade

open ResponseCode BigEndian

variable {B : Build} {env : Env} {s t : Sys} {q : Request} {x : Exchange} {tr : List Exchange}
  {ids : List UInt16}

/-! ### Records -/

/-- The request for a list of identifiers. -/
def listRequest (ids : List UInt16) : Bytes := kSIDReadDataByIdentifier :: ids.flatMap didBytes

variable (B env s) in
/-- The record of an identifier: the version of the board support package, or the contents of the
file of `0xF15A`, in an array of a fixed size. -/
def Sys.didRecord (dataId : UInt16) : Bytes :=
  if dataId = 0xF195 then freadInto (ffArray 21) env.bspVersion
  else freadInto (ffArray 12) (if env.fopenDidRead then s.fs B.didFile else none)

variable (B env s) in
/-- An identifier with its record. -/
def Sys.didAnswer (dataId : UInt16) : Bytes := didBytes dataId ++ s.didRecord B env dataId

variable (B env s) in
/-- The answer to the request for a list of identifiers. -/
def Sys.wholeAnswer (ids : List UInt16) : Bytes :=
  responseSidOf kSIDReadDataByIdentifier :: ids.flatMap (s.didAnswer B env)

/-- The identifiers that can be read. -/
def IsReadable (dataId : UInt16) : Prop := dataId = 0xF195 ∨ dataId = 0xF15A

instance (dataId : UInt16) : Decidable (IsReadable dataId) := inferInstanceAs (Decidable (_ ∨ _))

theorem length_freadInto (buf : Bytes) (contents : Option Bytes) :
    (freadInto buf contents).length = buf.length := by
  cases contents with
  | none => rfl
  | some c =>
    rw [freadInto, List.length_append, List.length_take, List.length_drop]
    omega

theorem length_didRecord (dataId : UInt16) :
    (s.didRecord B env dataId).length = if dataId = 0xF195 then 21 else 12 := by
  unfold Sys.didRecord
  split_ifs
  · exact length_freadInto _ _
  · exact length_freadInto _ _
  · exact length_freadInto _ _

theorem le_length_didAnswer (dataId : UInt16) : 14 ≤ (s.didAnswer B env dataId).length := by
  rw [Sys.didAnswer, List.length_append, length_didBytes, length_didRecord]
  split_ifs <;> omega

/-- The two bytes of an identifier are read as the identifier. -/
theorem word16_didBytes (dataId : UInt16) :
    word16 (dataId >>> 8).toUInt8 dataId.toUInt8 = dataId := by
  have hlt := dataId.toNat_lt
  apply UInt16.toNat_inj.1
  rw [toNat_word16]
  simp [ofBytes, Nat.shiftRight_eq_div_pow]
  omega

/-! ### The loop -/

theorem handleReadDataByIdent_of_room {dataId : UInt16} (hid : IsReadable dataId)
    (hroom : s.srv.r.sendBuf.length + (s.didRecord B env dataId).length ≤ s.srv.r.sendBufSize) :
    handleReadDataByIdent B env s dataId =
      (kPositiveResponse, s.setSend (s.srv.r.sendBuf ++ s.didRecord B env dataId)) := by
  have hcopy : (s.safeCopy (s.didRecord B env dataId)).2 =
      s.setSend (s.srv.r.sendBuf ++ s.didRecord B env dataId) := by
    rw [Sys.safeCopy, subSize_of_le (by omega), if_pos (by omega)]
  rw [← hcopy, handleReadDataByIdent]
  rcases hid with rfl | rfl
  · rfl
  · rfl

/-- **The loop over the identifiers** appends the answers to the response. -/
theorem readDataLoop_answers (did : ℕ) (hids : ∀ id ∈ ids, IsReadable id)
    (hbytes : bytesAt s.srv.r.recvBuf (1 + did * 2) (ids.length * 2) = ids.flatMap didBytes)
    (hindex : 1 + (did + ids.length) * 2 ≤ 2 ^ 16)
    (hroom : s.srv.r.sendBuf.length + (ids.flatMap (s.didAnswer B env)).length ≤
      s.srv.r.sendBufSize) :
    ∃ t, readDataLoop B env ids.length did s = (kPositiveResponse, t) ∧
      t.srv.r.sendBuf = s.srv.r.sendBuf ++ ids.flatMap (s.didAnswer B env) := by
  induction ids generalizing did s with
  | nil => exact ⟨s, rfl, by simp⟩
  | cons id ids ih =>
    rw [List.length_cons, Nat.succ_mul, bytesAt_succ, bytesAt_succ, List.flatMap_cons] at hbytes
    obtain ⟨hhigh, hlow, hrest⟩ : s.srv.r.recvBuf (1 + did * 2) = (id >>> 8).toUInt8 ∧
        s.srv.r.recvBuf (1 + did * 2 + 1) = id.toUInt8 ∧
        bytesAt s.srv.r.recvBuf (1 + did * 2 + 1 + 1) (ids.length * 2) =
          ids.flatMap didBytes := by
      simpa [didBytes] using hbytes
    rw [List.length_cons] at hindex
    rw [List.flatMap_cons, List.length_append] at hroom
    have hlong : 14 ≤ (s.didAnswer B env id).length := le_length_didAnswer id
    have hid : IsReadable id := hids id List.mem_cons_self
    -- the process when the handler is called
    set u := (s.setSend (s.srv.r.sendBuf ++ didBytes id)).emitEvent (.readDataByIdent id) with hu
    have hhandler : handleReadDataByIdent B env u id =
        (kPositiveResponse, u.setSend (s.srv.r.sendBuf ++ s.didAnswer B env id)) := by
      rw [handleReadDataByIdent_of_room hid]
      · rw [Sys.didAnswer, ← List.append_assoc]
        rfl
      · have hlen : (s.didAnswer B env id).length = 2 + (s.didRecord B env id).length := by
          rw [Sys.didAnswer, List.length_append, length_didBytes]
        show (s.srv.r.sendBuf ++ didBytes id).length + (s.didRecord B env id).length ≤
          s.srv.r.sendBufSize
        rw [List.length_append, length_didBytes]
        omega
    have hroom' : (s.srv.r.sendBuf ++ s.didAnswer B env id).length +
        (ids.flatMap (s.didAnswer B env)).length ≤ s.srv.r.sendBufSize := by
      rw [List.length_append]
      omega
    have hoffset : 1 + did * 2 + 1 + 1 = 1 + (did + 1) * 2 := by omega
    rw [hoffset] at hrest
    obtain ⟨t, hloop, hsend⟩ := ih (s := u.setSend (s.srv.r.sendBuf ++ s.didAnswer B env id))
      (did + 1) (fun i hi => hids i (List.mem_cons_of_mem _ hi)) hrest (by omega) hroom'
    refine ⟨t, ?_, ?_⟩
    · rw [List.length_cons, readDataLoop]
      dsimp only
      rw [Nat.mod_eq_of_lt (by omega), hhigh, hlow, word16_didBytes, if_neg (by omega)]
      have hpair : [(id >>> 8).toUInt8, id.toUInt8] = didBytes id := rfl
      rw [hpair, ← hu, hhandler]
      dsimp only
      rw [if_neg (not_not.2 rfl), hloop]
    · rw [hsend, List.flatMap_cons, ← List.append_assoc]
      rfl

/-! ### Requests -/

theorem length_flatMap_didBytes (ids : List UInt16) :
    (ids.flatMap didBytes).length = ids.length * 2 := by
  induction ids with
  | nil => rfl
  | cons id ids ih =>
    rw [List.flatMap_cons, List.length_append, ih, length_didBytes, List.length_cons]
    omega

/-- The bytes of the request for a list, and those of its first identifiers. -/
theorem Request.reads_of_received (h : q.received = listRequest ids) :
    q.len = 1 + ids.length * 2 ∧ q.buf 0 = kSIDReadDataByIdentifier ∧
      ∀ k ≤ ids.length, bytesAt q.buf 1 (k * 2) = (ids.take k).flatMap didBytes := by
  have hlen : q.len = 1 + ids.length * 2 := by
    have hlength := congrArg List.length h
    rw [Request.received, length_bytesAt, listRequest, List.length_cons,
      length_flatMap_didBytes] at hlength
    omega
  rw [Request.received, hlen, Nat.add_comm, bytesAt_succ, listRequest] at h
  obtain ⟨hsid, hids⟩ := List.cons.inj h
  refine ⟨hlen, hsid, fun k hk => ?_⟩
  have hsplit : ids.length * 2 = k * 2 + (ids.length - k) * 2 := by omega
  rw [hsplit, bytesAt_add, ← List.take_append_drop k ids, List.flatMap_append] at hids
  have hprefix := (List.append_inj hids ?_).1
  · simpa using hprefix
  · rw [length_bytesAt, length_flatMap_didBytes]
    simp [hk]

theorem Sys.le_length_flatMap_didAnswer (ids : List UInt16) :
    14 * ids.length ≤ (ids.flatMap (s.didAnswer B env)).length := by
  induction ids with
  | nil => simp
  | cons id ids ih =>
    have hle : 14 ≤ (s.didAnswer B env id).length := le_length_didAnswer id
    rw [List.flatMap_cons, List.length_append, List.length_cons]
    omega

/-- The answer to the first identifiers, and to the others. -/
theorem Sys.length_wholeAnswer (k : ℕ) : (s.wholeAnswer B env ids).length =
    (s.wholeAnswer B env (ids.take k)).length +
      ((ids.drop k).flatMap (s.didAnswer B env)).length := by
  have hsplit : (ids.flatMap (s.didAnswer B env)).length =
      ((ids.take k).flatMap (s.didAnswer B env)).length +
        ((ids.drop k).flatMap (s.didAnswer B env)).length := by
    rw [← List.length_append, ← List.flatMap_append, List.take_append_drop]
  rw [Sys.wholeAnswer, Sys.wholeAnswer, List.length_cons, List.length_cons]
  omega

/-- **What is answered to the request for a list**: as many of its first identifiers as the length
leaves over modulo 256, and a refusal if that is none. -/
theorem ServerStep.answer_of_reads (hs : Settings s) (h : ServerStep B s x t)
    (hids : ∀ id ∈ ids, IsReadable id) (hreq : x.req.received = listRequest ids)
    (hfits : (s.wholeAnswer B x.env ids).length ≤ B.udsTpMtu.toNat) :
    (x.code, x.sent) = if ids.length % 256 = 0 then
        (kIncorrectMessageLengthOrInvalidFormat,
          [0x7F, kSIDReadDataByIdentifier, kIncorrectMessageLengthOrInvalidFormat.toByte])
      else (kPositiveResponse, s.wholeAnswer B x.env (ids.take (ids.length % 256))) := by
  obtain ⟨hlen, hsid, hbytes⟩ := Request.reads_of_received hreq
  have hservice : x.service = some .readDataByIdentifier := by
    rw [Exchange.service, Exchange.sid, hsid]
    rfl
  obtain ⟨u, hcall, -, hsent⟩ := h.call_sent hs hservice
  rw [if_neg (by simp [UDSService.hasSubFunction])] at hsent
  have hcall' : readDataByIdentifier0x22 B x.env (s.receive B x.env x.req) = (x.code, u) :=
    Except.ok.inj hcall
  set v := (s.receive B x.env x.req).setSend [responseSidOf kSIDReadDataByIdentifier] with hv
  have hvlen : v.srv.r.recvLen = 1 + ids.length * 2 := hlen
  have hnumber : v.srv.r.recvLen / 2 % 256 = ids.length % 256 := by
    rw [hvlen]
    omega
  have hodd : ¬ subSize v.srv.r.recvLen 1 % 2 ≠ 0 := by
    rw [subSize_of_le (by omega), hvlen]
    omega
  rw [readDataByIdentifier0x22, ← hv, if_neg hodd, hnumber] at hcall'
  dsimp only at hcall'
  rw [hsent]
  by_cases hzero : ids.length % 256 = 0
  · rw [if_pos hzero] at hcall' ⊢
    rw [← (Prod.mk.inj hcall').1, ← (Prod.mk.inj hcall').2]
    show (_, [0x7F, x.req.buf 0, _]) = _
    rw [hsid]
  · rw [if_neg hzero] at hcall' ⊢
    have hk : ids.length % 256 ≤ ids.length := Nat.mod_le _ _
    have htake : (ids.take (ids.length % 256)).length = ids.length % 256 := by
      rw [List.length_take, min_eq_left hk]
    have hbytes' : bytesAt v.srv.r.recvBuf (1 + 0 * 2)
        ((ids.take (ids.length % 256)).length * 2) =
          (ids.take (ids.length % 256)).flatMap didBytes := by
      rw [htake]
      exact hbytes _ hk
    have hroom : v.srv.r.sendBuf.length +
        ((ids.take (ids.length % 256)).flatMap (v.didAnswer B x.env)).length ≤
          v.srv.r.sendBufSize := by
      rw [Sys.length_wholeAnswer (ids.length % 256), Sys.wholeAnswer, List.length_cons] at hfits
      show 1 + ((ids.take (ids.length % 256)).flatMap (s.didAnswer B x.env)).length ≤
        B.udsTpMtu.toNat
      omega
    obtain ⟨w, hloop, hw⟩ := readDataLoop_answers 0
      (fun id hid => hids id (List.mem_of_mem_take hid)) hbytes' (by omega) hroom
    rw [htake, hcall'] at hloop
    rw [(Prod.mk.inj hloop).1, (Prod.mk.inj hloop).2, hw]
    rfl

/-- What is sent in answer to the request for a list. -/
theorem ServerStep.sent_of_reads (hs : Settings s) (h : ServerStep B s x t)
    (hids : ∀ id ∈ ids, IsReadable id) (hreq : x.req.received = listRequest ids)
    (hfits : (s.wholeAnswer B x.env ids).length ≤ B.udsTpMtu.toNat) :
    x.sent = if ids.length % 256 = 0 then
        [0x7F, kSIDReadDataByIdentifier, kIncorrectMessageLengthOrInvalidFormat.toByte]
      else s.wholeAnswer B x.env (ids.take (ids.length % 256)) := by
  have hanswer := congrArg Prod.snd (h.answer_of_reads hs hids hreq hfits)
  rw [apply_ite Prod.snd] at hanswer
  exact hanswer

/-- **When a list is answered as a whole.** In every reachable state, a list of identifiers that can
be read, with an answer that fits the send buffer, is answered as a whole if and only if it has at
most 255 identifiers. -/
theorem answersWholeList_iff (hB : B.udsTpMtu = 65535) (hrun : ServerRun B tr s)
    (h : ServerStep B s x t) (hne : ids ≠ []) (hids : ∀ id ∈ ids, IsReadable id)
    (hreq : x.req.received = listRequest ids)
    (hfits : (s.wholeAnswer B x.env ids).length ≤ 65535) :
    x.sent = s.wholeAnswer B x.env ids ↔ ids.length ≤ 255 := by
  have hfits' : (s.wholeAnswer B x.env ids).length ≤ B.udsTpMtu.toNat := by
    rw [hB]
    exact hfits
  have hpos : 0 < ids.length := List.length_pos_iff.2 hne
  rw [h.sent_of_reads (ServerRun.settings hrun) hids hreq hfits']
  constructor
  · intro heq
    by_contra hlong
    have hlength := congrArg List.length heq
    split_ifs at hlength with hzero
    · have hle : 14 * ids.length ≤ (ids.flatMap (s.didAnswer B x.env)).length :=
        Sys.le_length_flatMap_didAnswer ids
      rw [Sys.wholeAnswer, List.length_cons] at hlength
      simp only [List.length_cons, List.length_nil] at hlength
      omega
    · have hle : 14 * (ids.drop (ids.length % 256)).length ≤
          ((ids.drop (ids.length % 256)).flatMap (s.didAnswer B x.env)).length :=
        Sys.le_length_flatMap_didAnswer _
      have hsplit : (s.wholeAnswer B x.env ids).length =
          (s.wholeAnswer B x.env (ids.take (ids.length % 256))).length +
            ((ids.drop (ids.length % 256)).flatMap (s.didAnswer B x.env)).length :=
        Sys.length_wholeAnswer _
      rw [List.length_drop] at hle
      omega
  · intro hle
    have hmod : ids.length % 256 = ids.length := Nat.mod_eq_of_lt (by omega)
    rw [hmod, if_neg (by omega), List.take_length]

/-- The records of both identifiers, in one answer. -/
theorem answersWholeList_iff_both : ∃ (s t : Sys) (x : Exchange),
    ServerStep ⟨65535, .test⟩ s x t ∧ x.req.received = listRequest [0xF15A, 0xF195] ∧
      x.sent = s.wholeAnswer ⟨65535, .test⟩ x.env [0xF15A, 0xF195] := by
  obtain ⟨x, t, hstep, hreq, henv⟩ := exists_serverStep ⟨65535, .test⟩
    (udsServerInit (.fair 0) fun _ => none) (.fair 0)
    (.ofBytes (listRequest [0xF15A, 0xF195]) (by decide) fun _ => 0) (by decide +kernel)
  have hreceived : x.req.received = listRequest [0xF15A, 0xF195] := by
    rw [hreq]
    exact received_ofBytes _ _
  refine ⟨_, t, x, hstep, hreceived, ?_⟩
  have hids : ∀ id ∈ ([0xF15A, 0xF195] : List UInt16), IsReadable id := by
    simp [IsReadable]
  refine (answersWholeList_iff rfl (.start ⟨_, _, rfl⟩) hstep (by simp) hids hreceived ?_).2
    (by decide)
  rw [henv]
  decide +kernel

/-- A list of 256 identifiers is refused. -/
theorem not_answersWholeList : ∃ (t : Sys) (x : Exchange),
    ServerStep ⟨65535, .test⟩ (udsServerInit (.fair 0) fun _ => none) x t ∧
      x.req.received = listRequest (List.replicate 256 0xF15A) ∧
      ((udsServerInit (.fair 0) fun _ => none).wholeAnswer ⟨65535, .test⟩ x.env
        (List.replicate 256 0xF15A)).length ≤ 65535 ∧
      x.sent ≠ (udsServerInit (.fair 0) fun _ => none).wholeAnswer ⟨65535, .test⟩ x.env
        (List.replicate 256 0xF15A) := by
  obtain ⟨x, t, hstep, hreq, henv⟩ := exists_serverStep ⟨65535, .test⟩
    (udsServerInit (.fair 0) fun _ => none) (.fair 0)
    (.ofBytes (listRequest (List.replicate 256 0xF15A)) (by decide +kernel) fun _ => 0)
    (by decide +kernel)
  have hreceived : x.req.received = listRequest (List.replicate 256 0xF15A) := by
    rw [hreq]
    exact received_ofBytes _ _
  have hfits : ((udsServerInit (.fair 0) fun _ => none).wholeAnswer ⟨65535, .test⟩ x.env
      (List.replicate 256 0xF15A)).length ≤ 65535 := by
    rw [henv]
    decide +kernel
  refine ⟨t, x, hstep, hreceived, hfits, ?_⟩
  have hids : ∀ id ∈ List.replicate 256 (0xF15A : UInt16), IsReadable id := by
    intro id hid
    rw [List.eq_of_mem_replicate hid]
    exact .inr rfl
  rw [hstep.sent_of_reads (settings_udsServerInit _ _) hids hreceived hfits,
    List.length_replicate, if_pos rfl]
  intro heq
  exact absurd (List.cons.inj heq).1 (by decide)

end EcuUpgrade
