import EcuUpgrade.Server.Dependence
import EcuUpgrade.Transfer.Decoder

/-!
# Bytes behind a request

The receive buffer is not cleared between requests, so that the memory behind a request holds what
earlier requests left there. Most services compare the positions they read with the number of
received bytes, or hand what they read behind it to a handler that ignores it. Two do not:
`SecurityAccess` reads its sub-function without a look at the length, and `RequestFileTransfer`
finds its fields through lengths that are part of the request.

## Main definitions

* `handlerEffects`: what the handlers did, without the events that led to their calls.
* `SameOutcome`: two evaluations that differ in nothing but the receive buffer.
* `NoInfluence`: every receive buffer with the same received bytes gives the same outcome.
* `Covered`: the fields on which the outcome depends were received.

## Main results

* `AlikeResult.sameOutcome`: what depends on received bytes only has the same outcome.
* `noInfluence_iff`: what lies behind a request has no influence if and only if it is covered.
-/

namespace EcuUpgrade

open ResponseCode BigEndian Runs

/-! ### Outcomes that differ in the receive buffer only -/

/-- The effect is not an event, but something a handler did. -/
def Effect.isHandlerEffect : Effect → Bool
  | .emit _ => false
  | _ => true

/-- The effects of the handlers. -/
def handlerEffects (log : List Effect) : List Effect := log.filter Effect.isHandlerEffect

/-- The second process is the first one with another receive buffer and other events, and the
handlers had the same effects. -/
def SameButBuffer (s t : Sys) : Prop :=
  ∃ buf log, t = { s with srv.r.recvBuf := buf, log := log } ∧
    handlerEffects log = handlerEffects s.log

/-- Two evaluations end the process in the same way, or they answer the same code and leave
processes that differ in nothing but the receive buffer. -/
inductive SameOutcome :
    Except Fault (ResponseCode × Sys) → Except Fault (ResponseCode × Sys) → Prop
  | error (e : Fault) : SameOutcome (.error e) (.error e)
  | ok {c : ResponseCode} {s t : Sys} (h : SameButBuffer s t) :
    SameOutcome (.ok (c, s)) (.ok (c, t))

/-- The second request has the received bytes of the first. -/
structure Request.Agrees (q q' : Request) : Prop where
  len : q'.len = q.len
  buf : ∀ i, i < q.len → q'.buf i = q.buf i

variable (B : Build) (env : Env) (s : Sys) (q : Request)

/-- What lies behind the request has no influence. -/
def NoInfluence : Prop :=
  ∀ q', q.Agrees q' → SameOutcome (processRequest B env s q) (processRequest B env s q')

/-- Where the fields of a `RequestFileTransfer` end on which its outcome depends: all that the mode
prescribes if the file can be opened, and otherwise the path and the length byte of the sizes. -/
def Request.neededEnd : ℕ :=
  if env.fopenFw then prescribedEnd q.buf
  else 4 + filePathLen q.buf + if q.HasSizes then 2 else 0

/-- The fields on which the outcome depends were received: the sub-function of `SecurityAccess`, and
those of a `RequestFileTransfer` that is looked into. -/
structure Covered : Prop where
  subFunction : getServiceForSID (q.buf 0) = some .securityAccess → 2 ≤ q.len
  fields : getServiceForSID (q.buf 0) = some .requestFileTransfer →
    s.srv.xferIsActive = false → 4 ≤ q.len → q.neededEnd env ≤ q.len

variable {B env s q} {t u v : Sys} {c : ResponseCode} {q' : Request}
  {r r' : Except Fault (ResponseCode × Sys)}

/-! ### Elementary steps -/

theorem handlerEffects_append (l m : List Effect) :
    handlerEffects (l ++ m) = handlerEffects l ++ handlerEffects m :=
  List.filter_append l m

/-- An event is not an effect of a handler. -/
theorem handlerEffects_emit (l : List Effect) (ev : UDSServerEvent) :
    handlerEffects (l ++ [.emit ev]) = handlerEffects l := by
  rw [handlerEffects_append]
  exact List.append_nil _

namespace SameButBuffer

theorem setSend (h : SameButBuffer s t) (bs : Bytes) :
    SameButBuffer (s.setSend bs) (t.setSend bs) := by
  obtain ⟨buf, log, rfl, hlog⟩ := h
  exact ⟨buf, log, rfl, hlog⟩

theorem emitEvent (h : SameButBuffer s t) (ev ev' : UDSServerEvent) :
    SameButBuffer (s.emitEvent ev) (t.emitEvent ev') := by
  obtain ⟨buf, log, rfl, hlog⟩ := h
  exact ⟨buf, log ++ [.emit ev'], rfl, (handlerEffects_emit log ev').trans
    (hlog.trans (handlerEffects_emit s.log ev).symm)⟩

theorem emit (h : SameButBuffer s t) (e : Effect) : SameButBuffer (s.emit e) (t.emit e) := by
  obtain ⟨buf, log, rfl, hlog⟩ := h
  refine ⟨buf, log ++ [e], rfl, ?_⟩
  rw [handlerEffects_append, hlog]
  exact (handlerEffects_append s.log [e]).symm

theorem setFwFilename (h : SameButBuffer s t) (name : Bytes) :
    SameButBuffer (s.setFwFilename name) (t.setFwFilename name) := by
  obtain ⟨buf, log, rfl, hlog⟩ := h
  exact ⟨buf, log, rfl, hlog⟩

theorem setFwFile (h : SameButBuffer s t) (file : Option Path) :
    SameButBuffer (s.setFwFile file) (t.setFwFile file) := by
  obtain ⟨buf, log, rfl, hlog⟩ := h
  exact ⟨buf, log, rfl, hlog⟩

theorem negativeResponse (h : SameButBuffer s t) (hcell : t.srv.r.recvBuf 0 = s.srv.r.recvBuf 0)
    (c : ResponseCode) :
    SameOutcome (.ok (s.negativeResponse c)) (.ok (t.negativeResponse c)) := by
  unfold Sys.negativeResponse
  rw [hcell]
  exact .ok (h.setSend _)

end SameButBuffer

/-- Two processes that agree on everything but the receive buffer differ in nothing else. -/
theorem Alike.sameButBuffer {C : ℕ → Prop} {l : List Effect}
    (h : Alike (· ≠ .request) C l l s t) (hsent : t.srv.r.sendBuf = s.srv.r.sendBuf) :
    SameButBuffer s t := by
  obtain ⟨effects, hs, ht⟩ := h.effects
  refine ⟨t.srv.r.recvBuf, t.log, ?_, by rw [hs, ht]⟩
  refine Sys.eq_of_same (fun k => ?_) hsent rfl
  cases k with
  | request => exact ⟨rfl, h.recvLen, h.sendBufSize⟩
  | notOpened => exact Iff.rfl
  | settings => exact h.same .settings (by simp)
  | session => exact h.same .session (by simp)
  | s3Timer => exact h.same .s3Timer (by simp)
  | reset => exact h.same .reset (by simp)
  | authFailTimer => exact h.same .authFailTimer (by simp)
  | securityLevel => exact h.same .securityLevel (by simp)
  | seed => exact h.same .seed (by simp)
  | transfer => exact h.same .transfer (by simp)
  | fwFilename => exact h.same .fwFilename (by simp)
  | fwFile => exact h.same .fwFile (by simp)
  | upgrading => exact h.same .upgrading (by simp)
  | upgradeThread => exact h.same .upgradeThread (by simp)
  | file path => exact h.same (.file path) (by simp)

/-- What depends on received bytes only has the same outcome. -/
theorem AlikeResult.sameOutcome {C : ℕ → Prop} {l : List Effect}
    (h : AlikeResult (· ≠ .request) C l l r r') : SameOutcome r r' := by
  cases h with
  | error e => exact .error e
  | @ok p p' hout =>
    obtain ⟨c, u⟩ := p
    obtain ⟨c', u'⟩ := p'
    obtain rfl : c' = c := hout.code
    exact .ok (hout.alike.sameButBuffer hout.sent)

/-! ### Two requests with the same received bytes -/

theorem Request.Agrees.receive_alike (h : q.Agrees q') :
    Alike (· ≠ .request) (· < q.len) s.log s.log (s.receive B env q) (s.receive B env q') :=
  EcuUpgrade.receive_alike (fun _ _ => .refl _ _) ⟨rfl, rfl, rfl, rfl, rfl⟩ h.len h.buf
    (fun hreq => absurd rfl hreq) fun _ => rfl

theorem Request.Agrees.receive_sameButBuffer (h : q.Agrees q') :
    SameButBuffer (s.receive B env q) (s.receive B env q') := by
  refine ⟨q'.buf, s.log, ?_, rfl⟩
  unfold Sys.receive
  rw [h.len]

/-- The format byte alone decides whether an address is refused. -/
theorem decodeAddressAndLength_congr {r r' : UDSReq} {off : ℕ} (hlen : r'.recvLen = r.recvLen)
    (hoff : r'.recvBuf off = r.recvBuf off) :
    (∃ e, decodeAddressAndLength r off = .error e ∧ decodeAddressAndLength r' off = .error e) ∨
      ∃ p p', decodeAddressAndLength r off = .ok p ∧ decodeAddressAndLength r' off = .ok p' := by
  unfold decodeAddressAndLength
  rw [hlen, hoff]
  dsimp only
  split_ifs
  · exact .inl ⟨_, rfl, rfl⟩
  · exact .inl ⟨_, rfl, rfl⟩
  · exact .inl ⟨_, rfl, rfl⟩
  · exact .inl ⟨_, rfl, rfl⟩
  · exact .inr ⟨_, _, rfl, rfl⟩

/-- Whatever address is read, it is refused by the handler. -/
theorem readMemoryByAddress0x23_sameOutcome (h : SameButBuffer s t)
    (hlen : t.srv.r.recvLen = s.srv.r.recvLen)
    (hcells : ∀ i, i < s.srv.r.recvLen → t.srv.r.recvBuf i = s.srv.r.recvBuf i)
    (hpos : 0 < s.srv.r.recvLen) :
    SameOutcome (.ok (readMemoryByAddress0x23 s)) (.ok (readMemoryByAddress0x23 t)) := by
  have hcell := hcells 0 hpos
  unfold readMemoryByAddress0x23
  rw [hlen]
  by_cases hshort : s.srv.r.recvLen < 4
  · rw [if_pos hshort, if_pos hshort]
    exact h.negativeResponse hcell _
  rw [if_neg hshort, if_neg hshort]
  rcases decodeAddressAndLength_congr hlen (hcells 1 (by omega)) with
    ⟨e, hs, ht⟩ | ⟨p, p', hs, ht⟩
  · rw [hs, ht]
    exact h.negativeResponse hcell _
  · rw [hs, ht]
    exact ((h.setSend _).emitEvent _ _).negativeResponse hcell _

/-- Whatever address is read, the handlers refuse the transfer. -/
theorem requestTransfer_sameOutcome (h : SameButBuffer s t)
    (hlen : t.srv.r.recvLen = s.srv.r.recvLen)
    (hcells : ∀ i, i < s.srv.r.recvLen → t.srv.r.recvBuf i = s.srv.r.recvBuf i)
    (hpos : 0 < s.srv.r.recvLen) (sid : UInt8) (event : ℕ → ℕ → UInt8 → UDSServerEvent)
    {handler : ResponseCode} (hhandler : handler ≠ kPositiveResponse) :
    SameOutcome (.ok (requestTransfer B s sid event handler))
      (.ok (requestTransfer B t sid event handler)) := by
  have hcell := hcells 0 hpos
  have hactive : t.srv.xferIsActive = s.srv.xferIsActive := by
    obtain ⟨buf, log, rfl, -⟩ := h
    rfl
  unfold requestTransfer
  rw [hactive, hlen]
  by_cases hbusy : s.srv.xferIsActive = true
  · rw [if_pos hbusy, if_pos hbusy]
    exact h.negativeResponse hcell _
  rw [if_neg hbusy, if_neg hbusy]
  by_cases hshort : s.srv.r.recvLen < 3
  · rw [if_pos hshort, if_pos hshort]
    exact h.negativeResponse hcell _
  rw [if_neg hshort, if_neg hshort]
  rcases decodeAddressAndLength_congr hlen (hcells 2 (by omega)) with
    ⟨e, hs, ht⟩ | ⟨p, p', hs, ht⟩
  · rw [hs, ht]
    exact h.negativeResponse hcell _
  · rw [hs, ht]
    dsimp only
    split_ifs
    · exact (h.emitEvent _ _).negativeResponse hcell _
    · exact (h.emitEvent _ _).negativeResponse hcell _

/-! ### RequestFileTransfer -/

theorem bytesAt_congr {buf buf' : ℕ → UInt8} {off k : ℕ}
    (h : ∀ i, off ≤ i → i < off + k → buf' i = buf i) : bytesAt buf' off k = bytesAt buf off k := by
  refine List.map_congr_left fun i hi => ?_
  obtain ⟨hle, hlt⟩ := List.mem_range'_1.1 hi
  exact h i hle hlt

theorem Request.Agrees.filePathLen (h : q.Agrees q') (hlen : 4 ≤ q.len) :
    EcuUpgrade.filePathLen q'.buf = EcuUpgrade.filePathLen q.buf := by
  unfold EcuUpgrade.filePathLen
  rw [h.buf 2 (by omega), h.buf 3 (by omega)]

/-- If the path and the length byte of the sizes were received, both requests are refused, or they
name the same path. -/
theorem Request.Agrees.filePath (h : q.Agrees q') (hlen : 4 ≤ q.len)
    (hend : 4 + EcuUpgrade.filePathLen q.buf + (if q.HasSizes then 2 else 0) ≤ q.len) :
    (∃ e, fileTransferArgs.run q.buf = .error e ∧ fileTransferArgs.run q'.buf = .error e) ∨
      ∃ a a', fileTransferArgs.run q.buf = .ok a ∧ fileTransferArgs.run q'.buf = .ok a' ∧
        a'.filePath = a.filePath := by
  have hmode : q'.buf 1 = q.buf 1 := h.buf 1 (by omega)
  have hpath : bytesAt q'.buf 4 (EcuUpgrade.filePathLen q.buf) =
      bytesAt q.buf 4 (EcuUpgrade.filePathLen q.buf) :=
    bytesAt_congr fun i _ hi => h.buf i (by omega)
  rw [run_fileTransferArgs, run_fileTransferArgs, h.filePathLen hlen, hmode]
  dsimp only
  rw [hpath]
  by_cases hsizes : q.HasSizes
  · rw [if_pos hsizes] at hend
    have hsizes : q.buf 1 = kAddFile ∨ q.buf 1 = kReplaceFile := hsizes
    rw [if_pos hsizes, if_pos hsizes, h.buf (4 + EcuUpgrade.filePathLen q.buf + 1) (by omega)]
    split_ifs
    · exact .inl ⟨_, rfl, rfl⟩
    · exact .inr ⟨_, _, rfl, rfl, rfl⟩
  · have hsizes : ¬(q.buf 1 = kAddFile ∨ q.buf 1 = kReplaceFile) := hsizes
    rw [if_neg hsizes, if_neg hsizes]
    split_ifs
    · exact .inr ⟨_, _, rfl, rfl, rfl⟩
    · exact .inr ⟨_, _, rfl, rfl, rfl⟩

/-- **A covered `RequestFileTransfer` does not depend on what lies behind it.** -/
theorem requestFileTransfer0x38_sameOutcome (h : q.Agrees q') (hpos : 1 ≤ q.len)
    (hcov : s.srv.xferIsActive = false → 4 ≤ q.len → q.neededEnd env ≤ q.len) :
    SameOutcome (.ok (requestFileTransfer0x38 B env (s.receive B env q)))
      (.ok (requestFileTransfer0x38 B env (s.receive B env q'))) := by
  have hsame : SameButBuffer (s.receive B env q) (s.receive B env q') := h.receive_sameButBuffer
  have hcell : (s.receive B env q').srv.r.recvBuf 0 = (s.receive B env q).srv.r.recvBuf 0 :=
    h.buf 0 hpos
  have hactive (q : Request) : (s.receive B env q).srv.xferIsActive = s.srv.xferIsActive := rfl
  by_cases hbusy : s.srv.xferIsActive = true
  · unfold requestFileTransfer0x38
    rw [hactive, hactive, if_pos hbusy, if_pos hbusy]
    exact hsame.negativeResponse hcell _
  by_cases hshort : q.len < 4
  · unfold requestFileTransfer0x38
    rw [hactive, hactive, if_neg hbusy, if_neg hbusy, receive_recvLen, receive_recvLen, h.len,
      if_pos hshort, if_pos hshort]
    exact hsame.negativeResponse hcell _
  have hlen : 4 ≤ q.len := Nat.not_lt.1 hshort
  have hend := hcov (by simpa using hbusy) hlen
  unfold Request.neededEnd at hend
  cases hopen : env.fopenFw with
  | true =>
    rw [hopen, if_pos rfl] at hend
    refine AlikeResult.sameOutcome (.ok (requestFileTransfer0x38_alike h.receive_alike rfl
      (by simp) (by omega) fun _ i hi => ?_))
    exact ((mem_indices_fileTransferArgs q.buf).1 i hi).trans_le hend
  | false =>
    rw [hopen, if_neg Bool.false_ne_true] at hend
    unfold requestFileTransfer0x38
    rw [hactive, hactive, if_neg hbusy, if_neg hbusy, receive_recvLen, receive_recvLen, h.len,
      if_neg hshort, if_neg hshort, receive_recvBuf, receive_recvBuf]
    rcases h.filePath hlen hend with ⟨e, hq, hq'⟩ | ⟨a, a', hq, hq', hpath⟩
    · rw [hq, hq']
      exact hsame.negativeResponse hcell _
    · rw [hq, hq']
      dsimp only
      rw [handleRequestFileTransfer_eq, handleRequestFileTransfer_eq, hopen, Build.fwFilename,
        Build.fwFilename, hpath]
      exact ((((hsame.emitEvent _ _).setFwFilename _).emit _).setFwFile _).negativeResponse hcell _

/-! ### Covered requests -/

/-- A request without sub-function is refused by every service that has one. -/
theorem UDSService.call_short (service : UDSService) (hsub : service.hasSubFunction = true)
    (hsec : service ≠ .securityAccess) (hlen : s.srv.r.recvLen < 2)
    {p : ResponseCode × Sys} (h : service.call B env s = .ok p) : p.1 ≠ kPositiveResponse := by
  have hthree : s.srv.r.recvLen < 3 := by omega
  have hfour : s.srv.r.recvLen < 4 := by omega
  cases service with
  | diagnosticSessionControl =>
    obtain rfl := Except.ok.inj h
    simp [diagnosticSessionControl0x10, hlen]
  | ecuReset =>
    obtain rfl := Except.ok.inj h
    simp [ecuReset0x11, hlen]
  | securityAccess => exact absurd rfl hsec
  | communicationControl =>
    obtain rfl := Except.ok.inj h
    simp [communicationControl0x28, hthree]
  | routineControl =>
    unfold UDSService.call routineControl0x31 at h
    rw [if_pos hfour] at h
    obtain rfl := Except.ok.inj h
    simp
  | testerPresent =>
    obtain rfl := Except.ok.inj h
    simp [testerPresent0x3E, hlen]
  | controlDTCSetting =>
    obtain rfl := Except.ok.inj h
    simp [controlDTCSetting0x85, hlen]
  | _ => exact absurd hsub Bool.false_ne_true

/-- **What lies behind a covered request has no influence.** -/
theorem Covered.noInfluence (hs : Settings s) (hpos : 1 ≤ q.len) (hcov : Covered env s q) :
    NoInfluence B env s q := by
  intro q' h
  have halike : Alike (· ≠ .request) (· < q.len) s.log s.log (s.receive B env q)
    (s.receive B env q') := h.receive_alike
  have hcells : ∀ i, i < (s.receive B env q).srv.r.recvLen →
      (s.receive B env q').srv.r.recvBuf i = (s.receive B env q).srv.r.recvBuf i := h.buf
  have hsid : q'.buf 0 = q.buf 0 := h.buf 0 hpos
  by_cases hbehind : ∃ service, getServiceForSID (q.buf 0) = some service ∧
      service.ReadsBehind (s.receive B env q)
  · obtain ⟨service, hservice, hreads⟩ := hbehind
    have hservice' : getServiceForSID (q'.buf 0) = some service := hsid ▸ hservice
    cases service with
    | readMemoryByAddress =>
      rw [processRequest_eq_call hs hservice rfl, processRequest_eq_call hs hservice' rfl]
      exact readMemoryByAddress0x23_sameOutcome h.receive_sameButBuffer h.len hcells hpos
    | requestDownload =>
      rw [processRequest_eq_call hs hservice rfl, processRequest_eq_call hs hservice' rfl]
      exact requestTransfer_sameOutcome h.receive_sameButBuffer h.len hcells hpos _ _ (by decide)
    | requestUpload =>
      rw [processRequest_eq_call hs hservice rfl, processRequest_eq_call hs hservice' rfl]
      exact requestTransfer_sameOutcome h.receive_sameButBuffer h.len hcells hpos _ _ (by decide)
    | requestFileTransfer =>
      rw [processRequest_eq_call hs hservice rfl, processRequest_eq_call hs hservice' rfl]
      exact requestFileTransfer0x38_sameOutcome h hpos (hcov.fields hservice)
    | securityAccess => exact absurd (hcov.subFunction hservice) (Nat.not_le.2 hreads)
    | requestTransferExit => exact absurd hpos (Nat.not_le.2 hreads)
    | _ => exact hreads.elim
  · refine AlikeResult.sameOutcome (evaluateServiceResponse_alike halike hpos
      fun service hservice => ⟨fun hsub => ?_, ?_⟩)
    · by_cases hlen : 1 < q.len
      · exact .inl hlen
      · have hsec : service ≠ .securityAccess := by
          rintro rfl
          exact hlen (hcov.subFunction hservice)
        have hone : q.len < 2 := Nat.lt_succ_of_le (Nat.not_lt.1 hlen)
        exact .inr fun p hp => service.call_short hsub hsec hone hp
    · exact service.call_alike halike (fun k hk hreq => by
        subst hreq
        cases service <;> simp [UDSService.Reads] at hk) hpos (fun _ hi => hi)
        fun hreads => absurd ⟨service, hservice, hreads⟩ hbehind

/-! ### Uncovered requests -/

/-- The request with another byte in its buffer. -/
def Request.set (q : Request) (i : ℕ) (b : UInt8) : Request :=
  { q with buf := Function.update q.buf i b }

@[simp] theorem Request.set_len (i : ℕ) (b : UInt8) : (q.set i b).len = q.len := rfl

@[simp] theorem Request.set_buf_self (q : Request) (i : ℕ) (b : UInt8) : (q.set i b).buf i = b := by
  simp [Request.set]

theorem Request.set_buf_of_ne {i j : ℕ} (h : j ≠ i) (b : UInt8) : (q.set i b).buf j = q.buf j := by
  simp [Request.set, h]

theorem Request.agrees_set {i : ℕ} (hi : q.len ≤ i) (b : UInt8) : q.Agrees (q.set i b) :=
  ⟨rfl, fun _ hj => Request.set_buf_of_ne (by omega) b⟩

/-- Without influence, all requests with the received bytes have the same outcome. -/
theorem NoInfluence.same (h : NoInfluence B env s q) {q₀ q₁ : Request} (h₀ : q.Agrees q₀)
    (h₁ : q.Agrees q₁) {c₀ c₁ : ResponseCode} {t₀ t₁ : Sys}
    (hp₀ : processRequest B env s q₀ = .ok (c₀, t₀))
    (hp₁ : processRequest B env s q₁ = .ok (c₁, t₁)) : c₁ = c₀ ∧ SameButBuffer t₀ t₁ := by
  have hq₀ := h q₀ h₀
  have hq₁ := h q₁ h₁
  rw [hp₀] at hq₀
  rw [hp₁] at hq₁
  generalize processRequest B env s q = r at hq₀ hq₁
  cases hq₀ with
  | @ok c u _ hu =>
    cases hq₁ with
    | ok hv =>
      obtain ⟨buf, log, rfl, hlog⟩ := hu
      obtain ⟨buf', log', rfl, hlog'⟩ := hv
      exact ⟨rfl, buf', log', rfl, hlog'.trans hlog.symm⟩

theorem SameButBuffer.sent (h : SameButBuffer s t) : t.srv.r.sendBuf = s.srv.r.sendBuf := by
  obtain ⟨buf, log, rfl, -⟩ := h
  rfl

theorem SameButBuffer.app (h : SameButBuffer s t) : t.app = s.app := by
  obtain ⟨buf, log, rfl, -⟩ := h
  rfl

theorem SameButBuffer.total (h : SameButBuffer s t) :
    t.srv.xferTotalBytes = s.srv.xferTotalBytes := by
  obtain ⟨buf, log, rfl, -⟩ := h
  rfl

/-- The code of an evaluation is that of its service. -/
theorem processRequest_of_call {service : UDSService} {p : ResponseCode × Sys}
    (hq : getServiceForSID (q.buf 0) = some service)
    (hcall : service.call B env (s.receive B env q) = .ok p) :
    ∃ t, processRequest B env s q = .ok (p.1, t) := by
  unfold processRequest evaluateServiceResponse
  rw [receive_recvBuf, hq]
  dsimp only
  rw [hcall]
  dsimp only
  split_ifs <;> exact ⟨_, rfl⟩

/-- A reserved sub-function has a code of its own. -/
theorem securityAccess0x27_reserved (h : s.srv.r.recvBuf 1 = 0) :
    (securityAccess0x27 env s).1 = kIncorrectMessageLengthOrInvalidFormat := by
  unfold securityAccess0x27
  dsimp only
  rw [h, if_pos (by decide)]
  rfl

theorem safeCopy_fst_ne_incorrectLength (src : Bytes) :
    (s.safeCopy src).1 ≠ kIncorrectMessageLengthOrInvalidFormat := by
  unfold Sys.safeCopy
  split_ifs <;> simp

/-- A request for a seed has another one. -/
theorem securityAccess0x27_requestSeed (h : s.srv.r.recvBuf 1 = 1) :
    (securityAccess0x27 env s).1 ≠ kIncorrectMessageLengthOrInvalidFormat := by
  have hreserved : ¬udsSecurityAccessLevelIsReserved 1 = true := by decide
  have hodd : ¬(1 : UInt8) % 2 = 0 := by decide
  unfold securityAccess0x27
  dsimp only
  rw [h, if_neg hreserved, if_neg hodd]
  split_ifs
  · simp
  · simp
  · unfold requestSeed0x27
    dsimp only
    split_ifs with hlevel hseed
    · exact safeCopy_fst_ne_incorrectLength _
    · unfold handleRequestSeed at hseed ⊢
      cases env.urandom with
      | none => simp
      | some bytes => exact safeCopy_fst_ne_incorrectLength _
    · simp
    · simp

/-- Without influence, a sub-function was received. -/
theorem NoInfluence.subFunction (h : NoInfluence B env s q) (hpos : 1 ≤ q.len)
    (hq : getServiceForSID (q.buf 0) = some .securityAccess) : 2 ≤ q.len := by
  by_contra hlt
  have hagrees (b : UInt8) : q.Agrees (q.set 1 b) := Request.agrees_set (by omega) b
  have hservice (b : UInt8) : getServiceForSID ((q.set 1 b).buf 0) = some .securityAccess := by
    rw [Request.set_buf_of_ne (by simp) b, hq]
  have hcall (b : UInt8) : UDSService.securityAccess.call B env (s.receive B env (q.set 1 b)) =
      .ok (securityAccess0x27 env (s.receive B env (q.set 1 b))) := rfl
  obtain ⟨t₀, hp₀⟩ := processRequest_of_call (hservice 0) (hcall 0)
  obtain ⟨t₁, hp₁⟩ := processRequest_of_call (hservice 1) (hcall 1)
  obtain ⟨hcode, -⟩ := h.same (hagrees 0) (hagrees 1) hp₀ hp₁
  have hcell (b : UInt8) : (s.receive B env (q.set 1 b)).srv.r.recvBuf 1 = b :=
    q.set_buf_self 1 b
  exact securityAccess0x27_requestSeed (hcell 1)
    (hcode.trans (securityAccess0x27_reserved (hcell 0)))

/-- The last byte of a path is that of the name without directories. -/
theorem getLast?_eraseDirs (filename : Bytes) :
    (eraseDirs filename).getLast? = filename.getLast? := by
  unfold eraseDirs
  cases hslash : filename.reverse.findIdx? (· = 0x2F) with
  | none => rfl
  | some k =>
    have hk : k < filename.reverse.length := (List.findIdx?_eq_some_iff_getElem.1 hslash).1
    rw [List.length_reverse] at hk
    dsimp only
    rw [List.getLast?_drop, if_neg (by omega)]

/-- Files with different last bytes of their paths are stored under different names. -/
theorem getLast?_fwFilename {args : FileTransferArgs} {path : Bytes} {b : UInt8}
    (h : args.filePath = path ++ [b]) : (B.fwFilename args).getLast? = some b := by
  rw [Build.fwFilename, List.getLast?_append, getLast?_eraseDirs, h, List.getLast?_concat]
  rfl

/-- The fields of a request that names no sizes. -/
theorem Request.run_path (hsizes : ¬q.HasSizes) : ∃ a, fileTransferArgs.run q.buf = .ok a ∧
    a.filePath = bytesAt q.buf 4 (EcuUpgrade.filePathLen q.buf) ∧
      (q.buf 1 = kReadFile →
        a.dataFormatIdentifier = q.buf (4 + EcuUpgrade.filePathLen q.buf)) := by
  have hsizes : ¬(q.buf 1 = kAddFile ∨ q.buf 1 = kReplaceFile) := hsizes
  rw [run_fileTransferArgs]
  dsimp only
  rw [if_neg hsizes]
  by_cases hread : q.buf 1 = kReadFile
  · exact ⟨_, if_pos hread, rfl, fun _ => rfl⟩
  · exact ⟨_, if_neg hread, rfl, fun h => absurd h hread⟩

/-- The fields of a request that names sizes, by the length byte of the sizes. -/
theorem Request.run_sizes (hsizes : q.HasSizes) {k : UInt8}
    (hk : q.buf (4 + EcuUpgrade.filePathLen q.buf + 1) = k) :
    (8 < k → fileTransferArgs.run q.buf = .error kRequestOutOfRange) ∧
      (¬8 < k → ∃ a, fileTransferArgs.run q.buf = .ok a ∧ a.fileSizeCompressed =
        BigEndian.ofBytes
          (bytesAt q.buf (4 + EcuUpgrade.filePathLen q.buf + 2 + k.toNat) k.toNat)) := by
  have hsizes : q.buf 1 = kAddFile ∨ q.buf 1 = kReplaceFile := hsizes
  rw [run_fileTransferArgs]
  dsimp only
  rw [if_pos hsizes, hk]
  exact ⟨fun h => if_pos h, fun h => ⟨_, if_neg h, rfl⟩⟩

/-- A byte behind the path length does not change where the fields are. -/
theorem Request.set_header {i : ℕ} (hi : 4 ≤ i) (b : UInt8) :
    ((q.set i b).HasSizes ↔ q.HasSizes) ∧ (q.set i b).buf 1 = q.buf 1 ∧
      EcuUpgrade.filePathLen (q.set i b).buf = EcuUpgrade.filePathLen q.buf := by
  have hcell {j : ℕ} (hj : j < 4) : (q.set i b).buf j = q.buf j :=
    Request.set_buf_of_ne (by omega) b
  unfold Request.HasSizes EcuUpgrade.filePathLen
  rw [hcell (by decide), hcell (by decide), hcell (by decide)]
  exact ⟨Iff.rfl, rfl, rfl⟩

theorem bytesAt_concat (buf : ℕ → UInt8) (off k : ℕ) :
    bytesAt buf off (k + 1) = bytesAt buf off k ++ [buf (off + k)] :=
  bytesAt_add buf off k 1

/-- Numbers with different last bytes differ. -/
theorem ofBytes_concat_inj {bs cs : Bytes} {b c : UInt8}
    (h : ofBytes (bs ++ [b]) = ofBytes (cs ++ [c])) : b = c := by
  rw [ofBytes_append, ofBytes_append] at h
  have hb := b.toNat_lt
  have hc := c.toNat_lt
  simp only [ofBytes_cons, ofBytes_nil, List.length_nil, List.length_cons, pow_zero, mul_one] at h
  exact UInt8.toNat.inj (by omega)

/-- What the fields of a `RequestFileTransfer` leave in the process. -/
theorem processRequest_fileTransfer_reached (B : Build) (env : Env) (hs : Settings s)
    (hq : getServiceForSID (q.buf 0) = some .requestFileTransfer)
    (hinactive : s.srv.xferIsActive = false) (hlen : 4 ≤ q.len) {args : FileTransferArgs}
    (hrun : fileTransferArgs.run q.buf = .ok args) :
    ∃ c t, processRequest B env s q = .ok (c, t) ∧ c ≠ kRequestOutOfRange ∧
      t.app.fwFilename = B.fwFilename args ∧ (env.fopenFw = true →
        t.srv.xferTotalBytes = args.fileSizeCompressed ∧
          t.srv.r.sendBuf.getLast? = some args.dataFormatIdentifier) := by
  rw [processRequest_fileTransfer_ok hs hq hinactive hlen hrun]
  cases env.fopenFw with
  | false => exact ⟨_, _, rfl, by simp, rfl, fun h => absurd h Bool.false_ne_true⟩
  | true => exact ⟨_, _, rfl, by simp, rfl, fun _ => ⟨rfl, List.getLast?_concat⟩⟩

section Fields

variable (hs : Settings s) (hq : getServiceForSID (q.buf 0) = some .requestFileTransfer)
  (hinactive : s.srv.xferIsActive = false) (hlen : 4 ≤ q.len)

include hs hq hinactive hlen

/-- Without influence, the fields of all requests with the received bytes store the file under the
same name, and if it can be opened they agree on its size and format. -/
theorem NoInfluence.fields_eq (h : NoInfluence B env s q) {q₀ q₁ : Request} (h₀ : q.Agrees q₀)
    (h₁ : q.Agrees q₁) {a₀ a₁ : FileTransferArgs} (hrun₀ : fileTransferArgs.run q₀.buf = .ok a₀)
    (hrun₁ : fileTransferArgs.run q₁.buf = .ok a₁) :
    B.fwFilename a₁ = B.fwFilename a₀ ∧ (env.fopenFw = true →
      a₁.fileSizeCompressed = a₀.fileSizeCompressed ∧
        a₁.dataFormatIdentifier = a₀.dataFormatIdentifier) := by
  have hq₀ : getServiceForSID (q₀.buf 0) = some .requestFileTransfer :=
    (h₀.buf 0 (by omega)).symm ▸ hq
  have hq₁ : getServiceForSID (q₁.buf 0) = some .requestFileTransfer :=
    (h₁.buf 0 (by omega)).symm ▸ hq
  obtain ⟨c₀, t₀, hp₀, -, hname₀, hok₀⟩ := processRequest_fileTransfer_reached B env
    hs hq₀ hinactive (by rw [h₀.len]; exact hlen) hrun₀
  obtain ⟨c₁, t₁, hp₁, -, hname₁, hok₁⟩ := processRequest_fileTransfer_reached B env
    hs hq₁ hinactive (by rw [h₁.len]; exact hlen) hrun₁
  obtain ⟨-, hsame⟩ := h.same h₀ h₁ hp₀ hp₁
  refine ⟨?_, fun hopen => ?_⟩
  · rw [← hname₀, ← hname₁, hsame.app]
  · obtain ⟨htotal₀, hformat₀⟩ := hok₀ hopen
    obtain ⟨htotal₁, hformat₁⟩ := hok₁ hopen
    refine ⟨?_, ?_⟩
    · rw [← htotal₀, ← htotal₁, hsame.total]
    · have hlast := congrArg List.getLast? hsame.sent
      exact Option.some.inj (hformat₁.symm.trans (hlast.trans hformat₀))

/-- Without influence, the requests with the received bytes are all refused for their fields, or
none of them is. -/
theorem NoInfluence.not_refused (h : NoInfluence B env s q) {q₀ q₁ : Request} (h₀ : q.Agrees q₀)
    (h₁ : q.Agrees q₁) {a : FileTransferArgs} {e : ResponseCode}
    (hrun₀ : fileTransferArgs.run q₀.buf = .ok a) :
    fileTransferArgs.run q₁.buf ≠ .error e := by
  intro hrun₁
  have hq₀ : getServiceForSID (q₀.buf 0) = some .requestFileTransfer :=
    (h₀.buf 0 (by omega)).symm ▸ hq
  have hq₁ : getServiceForSID (q₁.buf 0) = some .requestFileTransfer :=
    (h₁.buf 0 (by omega)).symm ▸ hq
  obtain ⟨c₀, t₀, hp₀, hcode, -⟩ := processRequest_fileTransfer_reached B env
    hs hq₀ hinactive (by rw [h₀.len]; exact hlen) hrun₀
  have hp₁ : processRequest B env s q₁ = .ok ((s.receive B env q₁).negativeResponse e) :=
    processRequest_fileTransfer_error hs hq₁ hinactive (by rw [h₁.len]; exact hlen) hrun₁
  obtain ⟨rfl, -⟩ := h.same h₀ h₁ hp₀ hp₁
  exact hcode (fileTransferArgs_run_error hrun₁)

/-- Without influence, the path was received. -/
theorem NoInfluence.path_received (h : NoInfluence B env s q) (hsizes : ¬q.HasSizes) :
    4 + EcuUpgrade.filePathLen q.buf ≤ q.len := by
  by_contra hshort
  obtain ⟨p, hp⟩ : ∃ p, EcuUpgrade.filePathLen q.buf = p + 1 :=
    Nat.exists_eq_succ_of_ne_zero (by omega)
  have hagrees (b : UInt8) : q.Agrees (q.set (4 + p) b) := Request.agrees_set (by omega) b
  -- the last byte of the path is not part of the request
  have hlast (b : UInt8) : ∃ a, fileTransferArgs.run (q.set (4 + p) b).buf = .ok a ∧
      (B.fwFilename a).getLast? = some b := by
    obtain ⟨hmode, -, hpath⟩ := q.set_header (i := 4 + p) (by omega) b
    obtain ⟨a, hrun, hname, -⟩ := Request.run_path fun hs => hsizes (hmode.1 hs)
    rw [hpath, hp, bytesAt_concat, Request.set_buf_self] at hname
    exact ⟨a, hrun, getLast?_fwFilename hname⟩
  obtain ⟨a₀, hrun₀, hlast₀⟩ := hlast 0
  obtain ⟨a₁, hrun₁, hlast₁⟩ := hlast 1
  obtain ⟨hname, -⟩ := h.fields_eq hs hq hinactive hlen (hagrees 0) (hagrees 1) hrun₀ hrun₁
  rw [hname, hlast₀] at hlast₁
  cases hlast₁

/-- Without influence, the length byte of the sizes was received. -/
theorem NoInfluence.size_received (h : NoInfluence B env s q) (hsizes : q.HasSizes) :
    4 + EcuUpgrade.filePathLen q.buf + 2 ≤ q.len := by
  by_contra hshort
  set i := 4 + EcuUpgrade.filePathLen q.buf + 1 with hi
  have hagrees (b : UInt8) : q.Agrees (q.set i b) := Request.agrees_set (by omega) b
  have hcell (b : UInt8) :
      (q.set i b).buf (4 + EcuUpgrade.filePathLen (q.set i b).buf + 1) = b := by
    rw [(q.set_header (by omega) b).2.2, ← hi, Request.set_buf_self]
  have hmode (b : UInt8) : (q.set i b).HasSizes := (q.set_header (by omega) b).1.2 hsizes
  obtain ⟨a, hok, -⟩ := (Request.run_sizes (hmode 0) (hcell 0)).2 (by decide)
  exact h.not_refused hs hq hinactive hlen (hagrees 0) (hagrees 9) hok
    ((Request.run_sizes (hmode 9) (hcell 9)).1 (by decide))

/-- Without influence, the sizes were received if the file can be opened. -/
theorem NoInfluence.sizes_received (h : NoInfluence B env s q) (hopen : env.fopenFw = true)
    (hsizes : q.HasSizes) {k : UInt8} (hk : q.buf (4 + EcuUpgrade.filePathLen q.buf + 1) = k)
    (hrange : ¬8 < k) : 4 + EcuUpgrade.filePathLen q.buf + 2 + k.toNat + k.toNat ≤ q.len := by
  have hsize := h.size_received hs hq hinactive hlen hsizes
  by_contra hshort
  obtain ⟨n, hn⟩ : ∃ n, k.toNat = n + 1 := Nat.exists_eq_succ_of_ne_zero (by omega)
  set off := 4 + EcuUpgrade.filePathLen q.buf + 2 + k.toNat with hoff
  have hagrees (b : UInt8) : q.Agrees (q.set (off + n) b) := Request.agrees_set (by omega) b
  -- the last byte of the compressed size is not part of the request
  have hlast (b : UInt8) : ∃ a, fileTransferArgs.run (q.set (off + n) b).buf = .ok a ∧
      a.fileSizeCompressed = ofBytes (bytesAt (q.set (off + n) b).buf off n ++ [b]) := by
    obtain ⟨hmode, -, hpath⟩ := q.set_header (i := off + n) (by omega) b
    have hcell : (q.set (off + n) b).buf
        (4 + EcuUpgrade.filePathLen (q.set (off + n) b).buf + 1) = k := by
      rw [hpath, Request.set_buf_of_ne (by omega), hk]
    obtain ⟨a, hrun, htotal⟩ := (Request.run_sizes (hmode.2 hsizes) hcell).2 hrange
    refine ⟨a, hrun, ?_⟩
    rw [htotal, hpath, ← hoff, hn, bytesAt_concat, Request.set_buf_self]
  obtain ⟨a₀, hrun₀, hlast₀⟩ := hlast 0
  obtain ⟨a₁, hrun₁, hlast₁⟩ := hlast 1
  obtain ⟨-, hok⟩ := h.fields_eq hs hq hinactive hlen (hagrees 0) (hagrees 1) hrun₀ hrun₁
  have htotal := (hok hopen).1
  rw [hlast₀, hlast₁] at htotal
  exact absurd (ofBytes_concat_inj htotal) (by decide)

/-- Without influence, the format of a file to be read was received if the file can be opened. -/
theorem NoInfluence.format_received (h : NoInfluence B env s q) (hopen : env.fopenFw = true)
    (hread : q.buf 1 = kReadFile) : 4 + EcuUpgrade.filePathLen q.buf + 1 ≤ q.len := by
  by_contra hshort
  have hsizes : ¬q.HasSizes := by
    unfold Request.HasSizes
    rw [hread]
    decide
  set i := 4 + EcuUpgrade.filePathLen q.buf with hi
  have hagrees (b : UInt8) : q.Agrees (q.set i b) := Request.agrees_set (by omega) b
  -- the format is not part of the request
  have hformat (b : UInt8) : ∃ a, fileTransferArgs.run (q.set i b).buf = .ok a ∧
      a.dataFormatIdentifier = b := by
    obtain ⟨hmode, hmode', hpath⟩ := q.set_header (i := i) (by omega) b
    obtain ⟨a, hrun, -, hformat⟩ := Request.run_path fun hs => hsizes (hmode.1 hs)
    refine ⟨a, hrun, ?_⟩
    rw [hformat (hmode'.trans hread), hpath, ← hi, Request.set_buf_self]
  obtain ⟨a₀, hrun₀, hformat₀⟩ := hformat 0
  obtain ⟨a₁, hrun₁, hformat₁⟩ := hformat 1
  obtain ⟨-, hok⟩ := h.fields_eq hs hq hinactive hlen (hagrees 0) (hagrees 1) hrun₀ hrun₁
  have hsame := (hok hopen).2
  rw [hformat₀, hformat₁] at hsame
  cases hsame

/-- Without influence, all prescribed fields were received if the file can be opened. -/
theorem NoInfluence.prescribed_received (h : NoInfluence B env s q) (hopen : env.fopenFw = true) :
    prescribedEnd q.buf ≤ q.len := by
  unfold prescribedEnd
  dsimp only
  split_ifs with hsizes hrange hread
  · exact h.size_received hs hq hinactive hlen hsizes
  · exact h.sizes_received hs hq hinactive hlen hopen hsizes rfl hrange
  · exact h.format_received hs hq hinactive hlen hopen hread
  · exact h.path_received hs hq hinactive hlen hsizes

end Fields

/-- **When what lies behind a request has no influence**: in every reachable state, if and only if
the fields were received on which the outcome of `SecurityAccess` and `RequestFileTransfer`
depends. The other services never look behind a request in vain. -/
theorem noInfluence_iff {tr : List Exchange} (h : ServerRun B tr s) (env : Env) (q : Request)
    (hpos : 1 ≤ q.len) : NoInfluence B env s q ↔ Covered env s q := by
  have hs : Settings s := h.settings
  refine ⟨fun hno => ⟨fun hq => hno.subFunction hpos hq, fun hq hinactive hlen => ?_⟩,
    fun hcov => hcov.noInfluence hs hpos⟩
  unfold Request.neededEnd
  cases hopen : env.fopenFw with
  | true => exact hno.prescribed_received hs hq hinactive hlen hopen
  | false =>
    rw [if_neg Bool.false_ne_true]
    by_cases hsizes : q.HasSizes
    · rw [if_pos hsizes]
      exact hno.size_received hs hq hinactive hlen hsizes
    · rw [if_neg hsizes]
      exact hno.path_received hs hq hinactive hlen hsizes

/-- The start-up process, with no files. -/
private abbrev startedSys : Sys := udsServerInit (.fair 0) fun _ => none

private theorem run_startedSys : ServerRun ⟨65535, .test⟩ [] startedSys :=
  Runs.Run.start ⟨.fair 0, _, rfl⟩

/-- A request to delete the file `a` is as good as its received bytes. -/
theorem noInfluence_deleteFile : NoInfluence ⟨65535, .test⟩ (.fair 0) startedSys
    (.ofBytes [0x38, 2, 0, 1, 0x61] (by simp) fun _ => 0) :=
  (noInfluence_iff run_startedSys _ _ (by decide)).2
    ⟨fun h => absurd h (by decide), fun _ _ _ => by decide +kernel⟩

/-- A request for security access without sub-function is answered by what an earlier request left
behind it, and so is a request to add a file `a` that ends behind the path. -/
theorem not_noInfluence_truncated :
    ¬NoInfluence ⟨65535, .test⟩ (.fair 0) startedSys
        (.ofBytes [0x27] (by simp) fun _ => 0) ∧
      ¬NoInfluence ⟨65535, .test⟩ (.fair 0) startedSys
        (.ofBytes [0x38, 1, 0, 1, 0x61] (by simp) fun _ => 0) := by
  have hs : Settings startedSys := run_startedSys.settings
  constructor
  · intro h
    have hlen := h.subFunction (by decide) rfl
    exact absurd hlen (by decide)
  · intro h
    have hlen := h.size_received hs rfl rfl (by decide) (by decide)
    exact absurd hlen (by decide +kernel)

end EcuUpgrade
