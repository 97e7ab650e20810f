import EcuUpgrade.Server.Runs

/-!
# Unlocking a security level

`SecurityAccess` ties every `sendKey` to the `requestSeed` of its level. The seed, however, is kept
by `UpgradeServer`, which does not know levels, and the UDS server keeps no record of the level a
seed was sent for. Which level that is can be told from the requests and the states in which they
arrive: `seedWatch` follows a run and keeps the level for which the present seed was sent, as long
as no request for the seed of another level is answered. The runs in which a valid key only
arrives for the watched level are those in which an unlock has its own seed.

## Main definitions

* `IssuedSince`: the seed was sent for a level, and since then none for another was answered.
* `UnlockedBySeed`: a key is the one of a seed sent for its level.
* `seedWatch`, `KeyedRun`: the level of the present seed, and the runs in which keys fit it.

## Main results

* `ServerRun.exists_watched`: `seedWatch` follows every run.
* `unlock_has_seed`: in these runs, every unlock has its own seed.
* `unlock_without_seed`: in others, not even a seed is needed.
-/

namespace EcuUpgrade

open ResponseCode BigEndian Runs

variable {B : Build} {env : Env} {s t : Sys} {q : Request} {x : Exchange} {tr : List Exchange}
  {level : UInt8} {seed : UInt32}

/-! ### Seeds and keys on the wire -/

/-- The bytes of a 32-bit word. -/
def wordBytes (w : UInt32) : Bytes := toBytes 4 w.toNat

theorem toNat_word32 (b : ℕ → UInt8) : (word32 b).toNat = ofBytes [b 0, b 1, b 2, b 3] := by
  have h₀ := (b 0).toNat_lt
  have h₁ := (b 1).toNat_lt
  have h₂ := (b 2).toNat_lt
  have h₃ := (b 3).toNat_lt
  simp [word32, Nat.shiftLeft_eq]
  omega

theorem wordBytes_word32 {bs : Bytes} (h : bs.length = 4) :
    wordBytes (word32 fun i => bs.getD i 0) = bs := by
  match bs, h with
  | [b₀, b₁, b₂, b₃], _ =>
    rw [wordBytes, toNat_word32]
    exact toBytes_ofBytes [b₀, b₁, b₂, b₃]

/-- The request asks for the seed of a level. -/
def Exchange.IsSeedRequest (x : Exchange) (level : UInt8) : Prop :=
  x.service = some .securityAccess ∧ x.req.buf 1 = level ∧ level % 2 ≠ 0

/-- The request for the seed of a level is answered positively. -/
def Exchange.AnswersSeedRequest (x : Exchange) (level : UInt8) : Prop :=
  x.IsSeedRequest level ∧ x.code = kPositiveResponse ∧ x.sent ≠ []

/-- The request for the seed of a level is answered positively with a seed. -/
def Exchange.AnswersSeed (x : Exchange) (level : UInt8) (seed : UInt32) : Prop :=
  x.IsSeedRequest level ∧ x.code = kPositiveResponse ∧
    x.sent = [responseSidOf kSIDSecurityAccess, level] ++ wordBytes seed

/-- The request sends a key, and the security level is set to a level for it. -/
def Exchange.Unlocks (x : Exchange) (level : UInt8) : Prop :=
  x.Accepted .securityAccess ∧ x.req.buf 1 % 2 = 0 ∧ level = x.req.buf 1 - 1

instance (x : Exchange) (level : UInt8) : Decidable (x.IsSeedRequest level) :=
  inferInstanceAs (Decidable (_ ∧ _))

instance (x : Exchange) (level : UInt8) (seed : UInt32) : Decidable (x.AnswersSeed level seed) :=
  inferInstanceAs (Decidable (_ ∧ _))

instance (x : Exchange) (level : UInt8) : Decidable (x.Unlocks level) :=
  inferInstanceAs (Decidable (_ ∧ _))

/-- The key in a request. -/
def Request.key (q : Request) : Bytes := bytesAt q.buf 2 (subSize16 q.len 2)

/-- A seed was sent for a level, and since then no request for another level was answered. -/
def IssuedSince (tr : List Exchange) (level : UInt8) (seed : UInt32) : Prop :=
  ∃ pre y mid, tr = pre ++ y :: mid ∧ y.AnswersSeed level seed ∧
    ∀ z ∈ mid, ∀ level', z.AnswersSeedRequest level' → level' = level

/-- The key of a request is that of a seed which was sent for a level, and since then no request
for another level was answered. -/
def UnlockedBySeed (tr : List Exchange) (x : Exchange) (level : UInt8) : Prop :=
  ∃ seed, IssuedSince tr level seed ∧ x.req.key = wordBytes (seedToKey seed learmask)

theorem IssuedSince.snoc (h : IssuedSince tr level seed)
    (hx : ∀ level', x.AnswersSeedRequest level' → level' = level) :
    IssuedSince (tr ++ [x]) level seed := by
  obtain ⟨pre, y, mid, rfl, hy, hmid⟩ := h
  refine ⟨pre, y, mid ++ [x], by simp, hy, fun z hz => ?_⟩
  rcases List.mem_append.1 hz with hz | hz
  · exact hmid z hz
  · rw [List.mem_singleton.1 hz]
    exact hx

theorem issuedSince_of_answersSeed (tr : List Exchange) (hx : x.AnswersSeed level seed) :
    IssuedSince (tr ++ [x]) level seed :=
  ⟨tr, x, [], rfl, hx, by simp⟩

/-! ### Following a run -/

/-- The checks of `SecurityAccess` before it looks at the sub-function. -/
def passesChecks (s : Sys) (env : Env) (q : Request) : Bool :=
  !udsSecurityAccessLevelIsReserved (q.buf 1) &&
    udsTimeAfter (env.udsMillis 0) s.srv.secAccessBootDelayTimer &&
    udsTimeAfter (env.udsMillis 1) s.srv.secAccessAuthFailTimer

/-- The code with which the checks refuse a sub-function. -/
def accessRefusal (s : Sys) (env : Env) (subFunction : UInt8) : Option ResponseCode :=
  if udsSecurityAccessLevelIsReserved subFunction then some kIncorrectMessageLengthOrInvalidFormat
  else if !udsTimeAfter (env.udsMillis 0) s.srv.secAccessBootDelayTimer then
    some kRequiredTimeDelayNotExpired
  else if !udsTimeAfter (env.udsMillis 1) s.srv.secAccessAuthFailTimer then
    some kExceedNumberOfAttempts
  else none

/-- The room that is left in the send buffer after the first two bytes of the answer. -/
def seedRoom (B : Build) : ℕ := subSize B.udsTpMtu.toNat 2

/-- The level for which the present seed was sent, after another request has arrived in a state.
A request for the seed of an unlocked level is answered without one; a seed that is drawn but not
sent belongs to no level. -/
def seedWatch (B : Build) (s : Sys) (env : Env) (q : Request) (watched : Option UInt8) :
    Option UInt8 :=
  let level := q.buf 1
  if getServiceForSID (q.buf 0) = some .securityAccess ∧ level % 2 ≠ 0 ∧ passesChecks s env q then
    if level = s.srv.securityLevel then
      if level &&& 0x80 = 0 ∧ 2 ≤ seedRoom B ∧ watched ≠ some level then none else watched
    else if env.urandom = none then watched
    else if level &&& 0x80 = 0 ∧ 4 ≤ seedRoom B then some level
    else none
  else watched

/-- The request sends the key that belongs to the present seed. -/
def SendsKey (s : Sys) (env : Env) (q : Request) : Prop :=
  getServiceForSID (q.buf 0) = some .securityAccess ∧ q.buf 1 % 2 = 0 ∧ passesChecks s env q ∧
    q.key = wordBytes (seedToKey s.app.seed learmask)

instance (s : Sys) (env : Env) (q : Request) : Decidable (SendsKey s env q) :=
  inferInstanceAs (Decidable (_ ∧ _))

/-- The process, with the level for which the present seed was sent. -/
structure Watched where
  sys : Sys
  level : Option UInt8

/-- An exchange, followed by `seedWatch`. -/
def WatchedStep (B : Build) (w : Watched) (x : Exchange) (w' : Watched) : Prop :=
  ServerStep B w.sys x w'.sys ∧ w'.level = seedWatch B w.sys x.env x.req w.level

/-- An exchange in which the key of the present seed arrives only for the level of the seed. -/
def KeyedStep (B : Build) (w : Watched) (x : Exchange) (w' : Watched) : Prop :=
  WatchedStep B w x w' ∧ (SendsKey w.sys x.env x.req → w.level = some (x.req.buf 1 - 1))

/-- The start of a run that is followed by `seedWatch`. -/
def WatchedStart (w : Watched) : Prop := ServerStart w.sys ∧ w.level = none

/-- A run of the server all of whose exchanges are keyed. -/
abbrev KeyedRun (B : Build) : List Exchange → Watched → Prop := Run WatchedStart (KeyedStep B)

/-! ### Outcomes of `SecurityAccess` -/

theorem accessRefusal_eq_none_iff : accessRefusal s env (q.buf 1) = none ↔
    passesChecks s env q = true := by
  unfold accessRefusal passesChecks
  split_ifs <;> simp_all

/-- The checks refuse a request with the code that `accessRefusal` says. -/
theorem securityAccess0x27_of_refusal {code : ResponseCode}
    (h : accessRefusal s env (q.buf 1) = some code) :
    securityAccess0x27 env (s.receive B env q) = (s.receive B env q).negativeResponse code := by
  unfold accessRefusal at h
  split_ifs at h with hreserved hboot hfail
  · obtain rfl := Option.some.inj h
    exact if_pos hreserved
  · obtain rfl := Option.some.inj h
    exact (if_neg hreserved).trans (if_pos hboot)
  · obtain rfl := Option.some.inj h
    exact (if_neg hreserved).trans ((if_neg hboot).trans (if_pos hfail))

theorem accessRefusal_negative {code : ResponseCode}
    (h : accessRefusal s env level = some code) : code ≠ kPositiveResponse := by
  unfold accessRefusal at h
  split_ifs at h
  all_goals
    obtain rfl := Option.some.inj h
    simp

theorem securityAccess0x27_of_not_passes (h : ¬passesChecks s env q) :
    ∃ err, err ≠ kPositiveResponse ∧
      securityAccess0x27 env (s.receive B env q) = (s.receive B env q).negativeResponse err := by
  cases hrefusal : accessRefusal s env (q.buf 1) with
  | none => exact absurd (accessRefusal_eq_none_iff.1 hrefusal) h
  | some err =>
    exact ⟨err, accessRefusal_negative hrefusal, securityAccess0x27_of_refusal hrefusal⟩

/-- The process that works on the sub-function of a `SecurityAccess` request. -/
def Sys.securityAccess (s : Sys) (B : Build) (env : Env) (q : Request) : Sys :=
  (s.receive B env q).setSend [responseSidOf kSIDSecurityAccess, q.buf 1]

theorem securityAccess0x27_of_passes (h : passesChecks s env q) :
    securityAccess0x27 env (s.receive B env q) =
      if q.buf 1 % 2 = 0 then sendKey0x27 env (s.securityAccess B env q) (q.buf 1) q.key
      else requestSeed0x27 env (s.securityAccess B env q) (q.buf 1) q.key := by
  unfold passesChecks at h
  simp only [Bool.and_eq_true, Bool.not_eq_true'] at h
  obtain ⟨⟨hreserved, hboot⟩, hfail⟩ := h
  have hboot' : udsTimeAfter (env.udsMillis 0)
      (s.receive B env q).srv.secAccessBootDelayTimer = true := hboot
  have hfail' : udsTimeAfter (env.udsMillis 1)
      (s.receive B env q).srv.secAccessAuthFailTimer = true := hfail
  unfold securityAccess0x27
  dsimp only
  rw [receive_recvBuf, hreserved, hboot', hfail']
  rfl

theorem word32_wordBytes (w : UInt32) : (word32 fun i => (wordBytes w).getD i 0) = w := by
  have hlen : (wordBytes w).length = 4 := length_toBytes 4 _
  apply UInt32.toNat.inj
  have hbytes : ofBytes (wordBytes (word32 fun i => (wordBytes w).getD i 0)) =
      ofBytes (wordBytes w) := by rw [wordBytes_word32 hlen]
  rwa [wordBytes, wordBytes, ofBytes_toBytes_of_lt (UInt32.toNat_lt _),
    ofBytes_toBytes_of_lt (UInt32.toNat_lt _)] at hbytes

/-- **The handler accepts exactly the key of the present seed.** -/
theorem handleValidateKey_eq (s : Sys) (key : Bytes) : handleValidateKey s key =
    if key = wordBytes (seedToKey s.app.seed learmask) then kPositiveResponse
    else kGeneralReject := by
  unfold handleValidateKey
  by_cases hlen : key.length = 4
  · have hword : word32 (fun i => key.getD i 0) = seedToKey s.app.seed learmask ↔
        key = wordBytes (seedToKey s.app.seed learmask) := by
      constructor
      · intro h
        rw [← h, wordBytes_word32 hlen]
      · intro h
        rw [h, word32_wordBytes]
    rw [if_neg (not_not.2 hlen), ite_not]
    exact if_congr hword rfl rfl
  · have hne : key ≠ wordBytes (seedToKey s.app.seed learmask) := by
      intro h
      rw [h] at hlen
      exact hlen (length_toBytes 4 _)
    rw [if_pos hlen, if_neg hne]

theorem handleValidateKey_iff (key : Bytes) :
    handleValidateKey s key = kPositiveResponse ↔
      key = wordBytes (seedToKey s.app.seed learmask) := by
  rw [handleValidateKey_eq]
  split_ifs with hkey
  · exact iff_of_true rfl hkey
  · exact iff_of_false (by simp) hkey

/-- A right key sets the security level, and a wrong one arms the delay. -/
theorem sendKey0x27_eq (env : Env) (s : Sys) (subFunction : UInt8) (record : Bytes) :
    sendKey0x27 env s subFunction record =
      if record = wordBytes (seedToKey s.app.seed learmask) then
        (kPositiveResponse, ((s.emitEvent (.secAccessValidateKey (subFunction - 1) record)
          ).setSecurityLevel (subFunction - 1)).setSend
            [responseSidOf kSIDSecurityAccess, subFunction])
      else ((s.emitEvent (.secAccessValidateKey (subFunction - 1) record)).setAuthFailTimer
        (env.udsMillis 2 + bruteForceMitigationAuthFailDelayMs)).negativeResponse
          kGeneralReject := by
  have hseed : (s.emitEvent (.secAccessValidateKey (subFunction - 1) record)).app.seed =
      s.app.seed := rfl
  unfold sendKey0x27
  dsimp only
  rw [handleValidateKey_eq, hseed]
  by_cases hkey : record = wordBytes (seedToKey s.app.seed learmask)
  · have hpositive : ¬kPositiveResponse ≠ kPositiveResponse := not_not.2 rfl
    rw [if_pos hkey, if_pos hkey, if_neg hpositive]
  · have hreject : kGeneralReject ≠ kPositiveResponse := by simp
    rw [if_neg hkey, if_neg hkey, if_pos hreject]

/-- A key is answered positively if and only if it is that of the present seed. -/
theorem sendKey0x27_positive_iff (subFunction : UInt8) (record : Bytes) :
    (sendKey0x27 env s subFunction record).1 = kPositiveResponse ↔
      record = wordBytes (seedToKey s.app.seed learmask) := by
  rw [sendKey0x27_eq]
  split_ifs with hkey
  · exact iff_of_true rfl hkey
  · exact iff_of_false (by simp) hkey

/-- **The outcomes of asking for a seed**: a request for the unlocked level is answered with two
zeros; otherwise a seed is drawn, if possible, and sent if there is room for it. -/
theorem requestSeed0x27_cases (env : Env) (subFunction : UInt8) (record : Bytes)
    (hsend : s.srv.r.sendBuf.length = 2) :
    (subFunction = s.srv.securityLevel ∧
        requestSeed0x27 env s subFunction record = s.safeCopy [0x00, 0x00]) ∨
      (subFunction ≠ s.srv.securityLevel ∧ env.urandom = none ∧
        (requestSeed0x27 env s subFunction record).1 = kGeneralReject ∧
        (requestSeed0x27 env s subFunction record).2.app.seed = s.app.seed) ∨
      ∃ buf, subFunction ≠ s.srv.securityLevel ∧ env.urandom = some buf ∧
        (requestSeed0x27 env s subFunction record).2.app.seed =
          word32 (fun i => buf.toList.getD i 0) ∧
        ((requestSeed0x27 env s subFunction record).1 = kPositiveResponse ↔
          4 ≤ subSize s.srv.r.sendBufSize 2) ∧
        (4 ≤ subSize s.srv.r.sendBufSize 2 →
          (requestSeed0x27 env s subFunction record).2.srv.r.sendBuf =
            s.srv.r.sendBuf ++ buf.toList) := by
  unfold requestSeed0x27
  by_cases hlevel : subFunction = s.srv.securityLevel
  · exact .inl ⟨hlevel, if_pos hlevel⟩
  rw [if_neg hlevel]
  cases hurandom : env.urandom with
  | none =>
    refine .inr (.inl ⟨hlevel, rfl, ?_⟩)
    simp [handleRequestSeed, hurandom, Sys.setSend, Sys.negativeResponse, Sys.emitEvent, Sys.emit]
  | some buf =>
    refine .inr (.inr ⟨buf, hlevel, rfl, ?_⟩)
    set u := (s.emitEvent (.secAccessRequestSeed subFunction record)).setSeed
      (word32 fun i => buf.toList.getD i 0) with hu
    have hlen : buf.toList.length = 4 := by simp
    have hsend' : u.srv.r.sendBuf.length = 2 := hsend
    have hcopy : handleRequestSeed env (s.emitEvent (.secAccessRequestSeed subFunction record)) =
        if 4 ≤ subSize s.srv.r.sendBufSize 2 then
          (kPositiveResponse, u.setSend (s.srv.r.sendBuf ++ buf.toList))
        else (kResponseTooLong, u) := by
      rw [handleRequestSeed, hurandom]
      dsimp only
      rw [← hu, Sys.safeCopy, hlen, hsend']
      rfl
    dsimp only
    rw [hcopy]
    by_cases hroom : 4 ≤ subSize s.srv.r.sendBufSize 2
    · have hlong : ¬(u.setSend (s.srv.r.sendBuf ++ buf.toList)).srv.r.sendBuf.length ≤ 2 := by
        change ¬(s.srv.r.sendBuf ++ buf.toList).length ≤ 2
        rw [List.length_append, hsend, hlen]
        decide
      simp only [if_pos hroom, if_neg hlong, ne_eq, not_true_eq_false, if_false]
      exact ⟨rfl, iff_of_true trivial hroom, fun _ => rfl⟩
    · simp only [if_neg hroom]
      exact ⟨rfl, iff_of_false (by simp) hroom, fun h => absurd h hroom⟩

/-- What is answered to a request for the seed of a level, behind the level: two zeros if it is
unlocked, and otherwise the bytes of the random source. -/
def Sys.seedBytes (s : Sys) (env : Env) (level : UInt8) : Option Bytes :=
  if level = s.srv.securityLevel then some [0x00, 0x00] else env.urandom.map Vector.toList

/-- **The answer to asking for a seed**: it is positive if and only if there are bytes to send and
room for them, and these are then appended to the response. -/
theorem requestSeed0x27_answer (env : Env) (subFunction : UInt8) (record : Bytes)
    (hsend : s.srv.r.sendBuf.length = 2) :
    ((requestSeed0x27 env s subFunction record).1 = kPositiveResponse ↔
        ∃ bs ∈ s.seedBytes env subFunction, bs.length ≤ subSize s.srv.r.sendBufSize 2) ∧
      ((requestSeed0x27 env s subFunction record).1 = kPositiveResponse →
        ∀ bs ∈ s.seedBytes env subFunction,
          (requestSeed0x27 env s subFunction record).2.srv.r.sendBuf =
            s.srv.r.sendBuf ++ bs) := by
  rcases requestSeed0x27_cases env (s := s) subFunction record hsend with
    ⟨hlevel, heq⟩ | ⟨hlevel, hurandom, hcode, -⟩ | ⟨buf, hlevel, hurandom, -, hcode, hcopied⟩
  · have hbytes : s.seedBytes env subFunction = some [0x00, 0x00] := if_pos hlevel
    rw [heq, hbytes, Sys.safeCopy, hsend]
    by_cases hroom : ([0x00, 0x00] : Bytes).length ≤ subSize s.srv.r.sendBufSize 2
    · rw [if_pos hroom]
      refine ⟨iff_of_true rfl ⟨_, rfl, hroom⟩, fun _ bs hbs => ?_⟩
      rw [← Option.some.inj hbs]
      rfl
    · rw [if_neg hroom]
      have herr : kResponseTooLong ≠ kPositiveResponse := by simp
      refine ⟨iff_of_false herr ?_, fun hpositive => absurd hpositive herr⟩
      rintro ⟨bs, hbs, hle⟩
      obtain rfl : _ = bs := Option.some.inj hbs
      exact hroom hle
  · have hbytes : s.seedBytes env subFunction = none := by
      rw [Sys.seedBytes, if_neg hlevel, hurandom]
      rfl
    have herr : kGeneralReject ≠ kPositiveResponse := by simp
    rw [hcode]
    refine ⟨iff_of_false herr ?_, fun hpositive => absurd hpositive herr⟩
    rintro ⟨bs, hbs, -⟩
    cases hbytes.symm.trans hbs
  · have hbytes : s.seedBytes env subFunction = some buf.toList := by
      rw [Sys.seedBytes, if_neg hlevel, hurandom]
      rfl
    have hlen : buf.toList.length = 4 := by simp
    rw [hcode, hbytes]
    constructor
    · constructor
      · intro hle
        exact ⟨_, rfl, hlen.trans_le hle⟩
      · rintro ⟨bs, hbs, hle⟩
        obtain rfl : _ = bs := Option.some.inj hbs
        exact hlen.symm.trans_le hle
    · intro hroom bs hbs
      rw [hcopied hroom, Option.some.inj hbs]

/-! ### Steps -/

/-- The seed that is drawn for a request. -/
def drawnSeed (s : Sys) (env : Env) (q : Request) : Option UInt32 :=
  if getServiceForSID (q.buf 0) = some .securityAccess ∧ q.buf 1 % 2 ≠ 0 ∧ passesChecks s env q ∧
      q.buf 1 ≠ s.srv.securityLevel then
    env.urandom.map fun buf => word32 fun i => buf.toList.getD i 0
  else none

/-- **The seed after an exchange** is the one drawn for it, if there is one. -/
theorem ServerStep.seed_eq (h : ServerStep B s x t) :
    t.app.seed = (drawnSeed s x.env x.req).getD s.app.seed := by
  by_cases hx : x.service = some .securityAccess
  swap
  · rw [drawnSeed, if_neg fun hcond => hx hcond.1]
    exact h.same_of_owner (k := .seed) rfl hx
  obtain ⟨u, hcall, rfl⟩ := h.call_setSend hx
  have hcall' : securityAccess0x27 x.env (s.receive B x.env x.req) = (x.code, u) :=
    Except.ok.inj hcall
  by_cases hpass : passesChecks s x.env x.req
  swap
  · obtain ⟨err, -, heq⟩ := securityAccess0x27_of_not_passes (B := B) hpass
    rw [drawnSeed, if_neg fun hcond => hpass hcond.2.2.1, (Prod.mk.inj (hcall'.symm.trans heq)).2]
    rfl
  rw [securityAccess0x27_of_passes hpass] at hcall'
  by_cases heven : x.req.buf 1 % 2 = 0
  · rw [if_pos heven] at hcall'
    have hkey : Component.seed.Same (s.securityAccess B x.env x.req)
        (sendKey0x27 x.env (s.securityAccess B x.env x.req) (x.req.buf 1) x.req.key).2 :=
      sendKey0x27_same (by simp) (by simp) _ _
    rw [hcall'] at hkey
    rw [drawnSeed, if_neg fun hcond => hcond.2.1 heven]
    exact hkey
  rw [if_neg heven] at hcall'
  rcases requestSeed0x27_cases x.env (s := s.securityAccess B x.env x.req) (x.req.buf 1) x.req.key
      rfl with ⟨hlevel, heq⟩ | ⟨hlevel, hurandom, -, hu⟩ | ⟨buf, hlevel, hurandom, hu, -, -⟩
  · have hsafe := (Component.same_safeCopy (k := .seed) (s := s.securityAccess B x.env x.req)
      [0x00, 0x00]).2 (.refl _ _)
    rw [← heq, hcall'] at hsafe
    rw [drawnSeed, if_neg fun hcond => hcond.2.2.2 hlevel]
    exact hsafe
  · rw [hcall'] at hu
    rw [drawnSeed, if_pos ⟨hx, heven, hpass, hlevel⟩, hurandom]
    exact hu
  · rw [hcall'] at hu
    rw [drawnSeed, if_pos ⟨hx, heven, hpass, hlevel⟩, hurandom]
    exact hu

/-- **The answer to a request for a seed.** -/
theorem ServerStep.seedAnswer (hs : Settings s) (h : ServerStep B s x t)
    (hx : x.IsSeedRequest level) :
    (x.code = kPositiveResponse ↔ passesChecks s x.env x.req = true ∧
        ∃ bs ∈ s.seedBytes x.env level, bs.length ≤ seedRoom B) ∧
      (x.code = kPositiveResponse → ∀ bs ∈ s.seedBytes x.env level,
        x.sent = if level &&& 0x80 = 0 then [responseSidOf kSIDSecurityAccess, level] ++ bs
          else []) := by
  obtain ⟨hservice, rfl, hodd⟩ := hx
  obtain ⟨u, hcall, -⟩ := h.call_sent hs hservice
  have hcall' : securityAccess0x27 x.env (s.receive B x.env x.req) = (x.code, u) :=
    Except.ok.inj hcall
  by_cases hpass : passesChecks s x.env x.req
  swap
  · obtain ⟨err, herr, heq⟩ := securityAccess0x27_of_not_passes (B := B) hpass
    obtain ⟨rfl, -⟩ := Prod.mk.inj (hcall'.symm.trans heq)
    exact ⟨iff_of_false herr fun hcond => hpass hcond.1, fun hcode => absurd hcode herr⟩
  rw [securityAccess0x27_of_passes hpass, if_neg hodd] at hcall'
  obtain ⟨hcode, hcopied⟩ := requestSeed0x27_answer x.env (s := s.securityAccess B x.env x.req)
    (x.req.buf 1) x.req.key rfl
  rw [hcall'] at hcode hcopied
  refine ⟨hcode.trans (and_iff_right hpass).symm, fun hpositive bs hbs => ?_⟩
  have hbuf : u.srv.r.sendBuf = [responseSidOf kSIDSecurityAccess, x.req.buf 1] ++ bs :=
    hcopied hpositive bs hbs
  rw [h.sent_of_positive hs hservice rfl hcall hpositive, hbuf]

/-- **The answer to a key.** -/
theorem ServerStep.keyAnswer (hs : Settings s) (h : ServerStep B s x t)
    (hservice : x.service = some .securityAccess) (heven : x.req.buf 1 % 2 = 0) :
    x.code = kPositiveResponse ↔ passesChecks s x.env x.req = true ∧
      x.req.key = wordBytes (seedToKey s.app.seed learmask) := by
  obtain ⟨u, hcall, -, -⟩ := h.call_sent hs hservice
  have hcall' : securityAccess0x27 x.env (s.receive B x.env x.req) = (x.code, u) :=
    Except.ok.inj hcall
  by_cases hpass : passesChecks s x.env x.req
  · rw [securityAccess0x27_of_passes hpass, if_pos heven] at hcall'
    have hseed : (s.securityAccess B x.env x.req).app.seed = s.app.seed := rfl
    rw [and_iff_right hpass, ← hseed, ← sendKey0x27_positive_iff (x.req.buf 1), hcall']
  · obtain ⟨err, herr, heq⟩ := securityAccess0x27_of_not_passes (B := B) hpass
    rw [heq] at hcall'
    rw [← (Prod.mk.inj hcall').1]
    exact iff_of_false herr fun hcond => hpass hcond.1

/-- A request for a seed that is answered passes the checks, has no suppress bit, and there are
bytes to send and room for them. -/
theorem ServerStep.of_answersSeedRequest (hs : Settings s) (h : ServerStep B s x t)
    (hx : x.AnswersSeedRequest level) :
    passesChecks s x.env x.req = true ∧ level &&& 0x80 = 0 ∧
      ∃ bs ∈ s.seedBytes x.env level, bs.length ≤ seedRoom B := by
  obtain ⟨hreq, hpositive, hne⟩ := hx
  obtain ⟨hcode, hsent⟩ := h.seedAnswer hs hreq
  obtain ⟨hpass, bs, hbs, hroom⟩ := hcode.1 hpositive
  refine ⟨hpass, ?_, bs, hbs, hroom⟩
  by_contra hbit
  exact hne ((hsent hpositive bs hbs).trans (if_neg hbit))

/-- A seed that is drawn is sent, if there is room for it. -/
theorem ServerStep.answersSeed_of_drawn (hs : Settings s) (h : ServerStep B s x t)
    (hx : x.IsSeedRequest level) (hpass : passesChecks s x.env x.req = true)
    (hlevel : level ≠ s.srv.securityLevel) {buf : Vector UInt8 4}
    (hurandom : x.env.urandom = some buf) (hbit : level &&& 0x80 = 0) (hroom : 4 ≤ seedRoom B) :
    x.AnswersSeed level t.app.seed := by
  obtain ⟨hcode, hsent⟩ := h.seedAnswer hs hx
  have hbytes : s.seedBytes x.env level = some buf.toList := by
    rw [Sys.seedBytes, if_neg hlevel, hurandom]
    rfl
  have hlen : buf.toList.length = 4 := by simp
  have hpositive : x.code = kPositiveResponse :=
    hcode.2 ⟨hpass, _, hbytes, hlen.trans_le hroom⟩
  have hword : wordBytes t.app.seed = buf.toList := by
    obtain ⟨hservice, rfl, hodd⟩ := hx
    rw [h.seed_eq, drawnSeed, if_pos ⟨hservice, hodd, hpass, hlevel⟩, hurandom]
    exact wordBytes_word32 hlen
  refine ⟨hx, hpositive, ?_⟩
  rw [hsent hpositive _ hbytes, if_pos hbit, hword]

/-- **What an exchange does to the watched level**: a level is watched after it only if a seed for
it was sent now, or if it was watched before and neither the seed changed nor a request for
another level was answered. -/
theorem ServerStep.seedWatch (hs : Settings s) (h : ServerStep B s x t) {watched : Option UInt8}
    (hw : seedWatch B s x.env x.req watched = some level) :
    x.AnswersSeed level t.app.seed ∨
      watched = some level ∧ t.app.seed = s.app.seed ∧
        ∀ level', x.AnswersSeedRequest level' → level' = level := by
  unfold EcuUpgrade.seedWatch at hw
  dsimp only at hw
  have hseed := h.seed_eq
  by_cases hcond : getServiceForSID (x.req.buf 0) = some .securityAccess ∧ x.req.buf 1 % 2 ≠ 0 ∧
      passesChecks s x.env x.req
  swap
  · -- neither the seed nor the watched level changes
    rw [if_neg hcond] at hw
    rw [drawnSeed, if_neg fun hdraws => hcond ⟨hdraws.1, hdraws.2.1, hdraws.2.2.1⟩] at hseed
    refine .inr ⟨hw, hseed, fun level' hanswer => ?_⟩
    have hpass := (h.of_answersSeedRequest hs hanswer).1
    obtain ⟨⟨hservice, rfl, hodd⟩, -⟩ := hanswer
    exact absurd ⟨hservice, hodd, hpass⟩ hcond
  rw [if_pos hcond] at hw
  obtain ⟨hservice, hodd, hpass⟩ := hcond
  by_cases hlevel : x.req.buf 1 = s.srv.securityLevel
  · -- the unlocked level
    rw [if_pos hlevel] at hw
    rw [drawnSeed, if_neg fun hdraws => hdraws.2.2.2 hlevel] at hseed
    split_ifs at hw with hother
    refine .inr ⟨hw, hseed, fun level' hanswer => ?_⟩
    obtain ⟨-, hbit, bs, hbs, hroom⟩ := h.of_answersSeedRequest hs hanswer
    obtain ⟨⟨-, rfl, -⟩, -⟩ := hanswer
    have hbytes : s.seedBytes x.env (x.req.buf 1) = some [0x00, 0x00] := if_pos hlevel
    obtain rfl : _ = bs := Option.some.inj (hbytes.symm.trans hbs)
    have hwatched : watched = some (x.req.buf 1) := by
      by_contra hne
      exact hother ⟨hbit, hroom, hne⟩
    exact Option.some.inj (hwatched.symm.trans hw)
  rw [if_neg hlevel] at hw
  cases hurandom : x.env.urandom with
  | none =>
    -- no seed can be drawn
    rw [if_pos hurandom] at hw
    rw [drawnSeed, if_pos ⟨hservice, hodd, hpass, hlevel⟩, hurandom] at hseed
    refine .inr ⟨hw, hseed, fun level' hanswer => ?_⟩
    obtain ⟨-, -, bs, hbs, -⟩ := h.of_answersSeedRequest hs hanswer
    obtain ⟨⟨-, rfl, -⟩, -⟩ := hanswer
    rw [Sys.seedBytes, if_neg hlevel, hurandom] at hbs
    cases hbs
  | some buf =>
    -- a seed is drawn
    rw [hurandom, if_neg (Option.some_ne_none _)] at hw
    split_ifs at hw with hroom
    obtain rfl := Option.some.inj hw
    have hreq : x.IsSeedRequest (x.req.buf 1) := ⟨hservice, rfl, hodd⟩
    exact .inl (h.answersSeed_of_drawn hs hreq hpass hlevel hurandom hroom.1 hroom.2)

/-- A key that unlocks is that of the present seed. -/
theorem ServerStep.sendsKey (hs : Settings s) (h : ServerStep B s x t) (hx : x.Unlocks level) :
    SendsKey s x.env x.req := by
  obtain ⟨⟨hservice, hcode⟩, heven, -⟩ := hx
  obtain ⟨hpass, hkey⟩ := (h.keyAnswer hs hservice heven).1 hcode
  exact ⟨hservice, heven, hpass, hkey⟩

/-! ### Runs -/

/-- Every run can be followed by `seedWatch`. -/
theorem ServerRun.exists_watched (h : ServerRun B tr s) :
    ∃ level, Run WatchedStart (WatchedStep B) tr ⟨s, level⟩ := by
  induction h with
  | start h => exact ⟨none, .start ⟨h, rfl⟩⟩
  | @snoc tr s t x _ hs ih =>
    obtain ⟨level, hrun⟩ := ih
    exact ⟨seedWatch B s x.env x.req level, hrun.snoc ⟨hs, rfl⟩⟩

theorem ServerRun.of_keyedRun {w : Watched} (h : KeyedRun B tr w) : ServerRun B tr w.sys := by
  induction h with
  | start h => exact .start h.1
  | snoc _ hs ih => exact ih.snoc hs.1.1

/-- The watched level is the one for which the present seed was sent. -/
theorem KeyedRun.issuedSince {w : Watched} (h : KeyedRun B tr w) (hw : w.level = some level) :
    IssuedSince tr level w.sys.app.seed := by
  refine Run.invariant (P := fun tr w => ∀ level, w.level = some level →
    IssuedSince tr level w.sys.app.seed) ?_ ?_ h level hw
  · rintro w ⟨-, hnone⟩ level hsome
    simp [hnone] at hsome
  · rintro tr w x w' hrun hissued ⟨⟨hstep, hlevel⟩, -⟩ level hsome
    have hs : Settings w.sys := ServerRun.settings (ServerRun.of_keyedRun hrun)
    rw [hlevel] at hsome
    rcases hstep.seedWatch hs hsome with hanswer | ⟨hwatched, hseed, hother⟩
    · exact issuedSince_of_answersSeed tr hanswer
    · rw [hseed]
      exact (hissued level hwatched).snoc hother

/-- **Every unlock has its own seed** in the runs in which the key of the present seed arrives
only for the level for which the seed was sent. -/
theorem unlock_has_seed {w : Watched} (h : KeyedRun B tr w) :
    Everywhere (fun pre x => ∀ level, x.Unlocks level → UnlockedBySeed pre x level) tr := by
  refine Run.everywhere (fun pre w x w' hrun hstep level hx => ?_) h
  obtain ⟨⟨hserver, -⟩, hkeyed⟩ := hstep
  have hs : Settings w.sys := ServerRun.settings (ServerRun.of_keyedRun hrun)
  have hsends : SendsKey w.sys x.env x.req := hserver.sendsKey hs hx
  refine ⟨w.sys.app.seed, ?_, hsends.2.2.2⟩
  rw [hx.2.2]
  exact KeyedRun.issuedSince hrun (hkeyed hsends)

/-- The exchanges of a list of requests, as long as keys fit, and the state after them. -/
def Watched.serve (B : Build) (w : Watched) :
    List (Env × Request) → Option (List Exchange × Watched)
  | [] => some ([], w)
  | (env, q) :: rest =>
    if SendsKey w.sys env q → w.level = some (q.buf 1 - 1) then do
      let x ← w.sys.exchange B env q
      let t ← w.sys.after B env q
      let (tr, w') ← Watched.serve B ⟨t, seedWatch B w.sys env q w.level⟩ rest
      some (x :: tr, w')
    else none

theorem Watched.serve_path {qs : List (Env × Request)} {w w' : Watched}
    (h : w.serve B qs = some (tr, w')) : Runs.Path (KeyedStep B) w tr w' := by
  induction qs generalizing w tr with
  | nil =>
    cases h
    exact .nil _
  | cons q rest ih =>
    unfold Watched.serve at h
    split_ifs at h with hkey
    simp only [Option.bind_eq_bind, Option.bind_eq_some_iff] at h
    obtain ⟨x, hx, t, ht, ⟨tr', w''⟩, hrest, heq⟩ := h
    cases heq
    obtain ⟨hreq, henv⟩ : x.req = q.2 ∧ x.env = q.1 := by
      unfold Sys.exchange at hx
      split at hx
      · cases hx
      · cases hx
        exact ⟨rfl, rfl⟩
    refine .cons ⟨⟨serverStep_of_exchange hx ht, ?_⟩, ?_⟩ (ih hrest)
    · rw [hreq, henv]
    · rw [hreq, henv]
      exact hkey

theorem exists_keyedRun_of_serve (B : Build) (env : Env) (fs : Path → Option Bytes)
    (qs : List (Env × Request)) (P : List Exchange → Watched → Prop) [∀ tr w, Decidable (P tr w)]
    (h : ((Watched.mk (udsServerInit env fs) none).serve B qs).any
      (fun p => decide (P p.1 p.2)) = true) : ∃ tr w, KeyedRun B tr w ∧ P tr w := by
  cases hserve : (Watched.mk (udsServerInit env fs) none).serve B qs with
  | none => simp [hserve] at h
  | some p =>
    rw [hserve] at h
    exact ⟨p.1, p.2, (Run.start ⟨⟨env, fs, rfl⟩, rfl⟩).append (Watched.serve_path hserve),
      of_decide_eq_true h⟩

/-- The server unlocked with the key of the seed it sent: seed and key for the level `1`, two
seconds after start-up. -/
theorem unlock_has_seed_level_one : ∃ pre x, x.Unlocks 1 ∧ UnlockedBySeed pre x 1 := by
  obtain ⟨tr, w, hrun, hlen, hunlocks⟩ := exists_keyedRun_of_serve ⟨65535, .test⟩ (.fair 0)
    (fun _ => none)
    [(.fair 2000, .ofBytes [0x27, 1] (by simp) fun _ => 0),
      (.fair 2000, .ofBytes ([0x27, 2] ++ wordBytes (seedToKey 0x01020304 learmask))
        (by decide +kernel) fun _ => 0)]
    (fun tr _ => tr.length = 2 ∧ ∀ x ∈ tr.getLast?, x.Unlocks 1) (by decide +kernel)
  obtain ⟨x, y, rfl⟩ := List.length_eq_two.1 hlen
  have hy : y.Unlocks 1 := hunlocks y (by simp)
  exact ⟨[x], y, hy, unlock_has_seed hrun [x] y [] rfl 1 hy⟩

/-- Two seconds after start-up the key of the seed zero unlocks, although no seed was sent. -/
theorem unlock_without_seed :
    ¬∀ (B : Build) (tr : List Exchange) (s : Sys), ServerRun B tr s →
      Everywhere (fun pre x => ∀ level, x.Unlocks level → UnlockedBySeed pre x level) tr := by
  intro hclaim
  obtain ⟨tr, s, hrun, hlen, hunlocks⟩ := exists_run_of_serve ⟨65535, .test⟩ (.fair 0)
    (fun _ => none) [(.fair 2000, .ofBytes [0x27, 2, 0, 0, 0, 0] (by simp) fun _ => 0)]
    (fun tr _ => tr.length = 1 ∧ ∀ x ∈ tr, x.Unlocks 1) (by decide +kernel)
  obtain ⟨x, rfl⟩ := List.length_eq_one_iff.1 hlen
  obtain ⟨seed, ⟨pre, y, mid, heq, -⟩, -⟩ := hclaim _ _ _ hrun [] x [] rfl 1 (hunlocks x (by simp))
  simp at heq

end EcuUpgrade
