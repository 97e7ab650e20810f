import EcuUpgrade.Security.Unlock
import EcuUpgrade.Server.Dependence

/-!
# The suppress bit

The highest bit of a sub-function asks the server not to send a positive response. The services
mask it out of what they store and hand on, `SecurityAccess` apart: it takes the whole byte for the
level. A key that is sent with the bit unlocks another level than without it, and a level that was
unlocked without the bit is a locked one for a request with it.

## Main definitions

* `Sys.kept`: the server and the application, without the request.
* `OnlySilences`: the bit changes nothing of what an evaluation leaves.
* `accessOutcome`: what `SecurityAccess` does to the lock.
* `BitMakesNoDifference`: the requests for `SecurityAccess` that would be treated alike.

## Main results

* `securityAccess0x27_outcome`: `SecurityAccess` does what `accessOutcome` says.
* `onlySilences_of_ne`: the other services do not see the bit.
* `onlySilences_iff`: the requests whose suppress bit only silences the answer.
* `not_onlySilences`: a key that unlocks two different levels.
-/

namespace EcuUpgrade

open ResponseCode Runs

variable {B : Build} {env : Env} {s t : Sys} {q : Request} {service : UDSService}

/-- The request with another sub-function. -/
def Request.setSubFunction (q : Request) (subFunction : UInt8) : Request :=
  { q with buf := fun i => if i = 1 then subFunction else q.buf i }

/-- The request with the suppress bit set. -/
def Request.suppressing (q : Request) : Request := q.setSubFunction (q.buf 1 ||| 0x80)

/-- The request with the suppress bit clear. -/
def Request.answering (q : Request) : Request := q.setSubFunction (q.buf 1 &&& 0x7F)

/-- The server, without the request it works on and the response, and the application. -/
def Sys.kept (s : Sys) : UDSServer × UpgradeServer :=
  ({ s.srv with r := ⟨fun _ => 0, 0, [], 0, .physical⟩ }, s.app)

/-- What an evaluation leaves: a fault, or the response code with the server and the application. -/
def leaves (r : Except Fault (ResponseCode × Sys)) :
    Except Fault (ResponseCode × UDSServer × UpgradeServer) :=
  r.map fun p => (p.1, p.2.kept)

/-- **The suppress bit only silences the answer**: processing the request with the bit set leaves
the same server and the same application as processing it with the bit clear, and the same code. -/
def OnlySilences (B : Build) (env : Env) (s : Sys) (q : Request) : Prop :=
  leaves (processRequest B env s q.suppressing) = leaves (processRequest B env s q.answering)

/-- What `SecurityAccess` answers, and what it leaves of the lock. -/
@[ext] structure AccessOutcome where
  code : ResponseCode
  securityLevel : UInt8
  seed : UInt32
  authFailTimer : UInt32

/-- The outcome of a service, as far as the lock is concerned. -/
def AccessOutcome.of (r : ResponseCode × Sys) : AccessOutcome :=
  ⟨r.1, r.2.srv.securityLevel, r.2.app.seed, r.2.srv.secAccessAuthFailTimer⟩

/-- The word that is drawn from the random source. -/
def Env.drawn (env : Env) : Option UInt32 :=
  env.urandom.map fun buf => word32 fun i => buf.toList.getD i 0

/-- The lock unchanged, with a code. -/
def Sys.unchanged (s : Sys) (code : ResponseCode) : AccessOutcome := .of (code, s)

/-- The outcome of asking for the seed of a locked level. -/
def seedOutcome (s : Sys) (env : Env) : AccessOutcome :=
  match env.drawn with
  | none => s.unchanged kGeneralReject
  | some seed => { s.unchanged kPositiveResponse with seed := seed }

/-- **What `SecurityAccess` does**: a key unlocks its level if it is that of the present seed, and
arms the delay otherwise; a seed is drawn for a level that is locked. -/
def accessOutcome (s : Sys) (env : Env) (key : Bytes) (subFunction : UInt8) : AccessOutcome :=
  match accessRefusal s env subFunction with
  | some code => s.unchanged code
  | none =>
    if subFunction % 2 = 0 then
      if key = wordBytes (seedToKey s.app.seed learmask) then
        { s.unchanged kPositiveResponse with securityLevel := subFunction - 1 }
      else { s.unchanged kGeneralReject with
        authFailTimer := env.udsMillis 2 + bruteForceMitigationAuthFailDelayMs }
    else if subFunction = s.srv.securityLevel then s.unchanged kPositiveResponse
    else seedOutcome s env

/-- The request for `SecurityAccess` is treated alike with and without the suppress bit: it is
refused by the checks, or it sends a wrong key, or it asks for the seed of a level that is unlocked
neither with nor without the bit, or the seed that is drawn happens to be the present one. -/
def BitMakesNoDifference (s : Sys) (env : Env) (q : Request) : Prop :=
  passesChecks s env q = true →
    if q.buf 1 % 2 = 0 then q.key ≠ wordBytes (seedToKey s.app.seed learmask)
    else s.srv.securityLevel &&& 0x7F = q.buf 1 &&& 0x7F →
      env.drawn = some s.app.seed

/-! ### What is kept -/

/-- Processes that agree on all components but the request keep the same. -/
theorem kept_eq_of_same (h : ∀ k : Component, k ≠ .request → k.Same s t) : t.kept = s.kept := by
  have hset := h .settings (by simp)
  have hsession := h .session (by simp)
  have hs3 := h .s3Timer (by simp)
  have hreset := h .reset (by simp)
  have hfail := h .authFailTimer (by simp)
  have hlevel := h .securityLevel (by simp)
  have hseed := h .seed (by simp)
  have htransfer := h .transfer (by simp)
  have hname := h .fwFilename (by simp)
  have hfile := h .fwFile (by simp)
  have hupgrading := h .upgrading (by simp)
  have hthread := h .upgradeThread (by simp)
  simp only [Component.Same] at *
  simp [Sys.kept, UpgradeServer.ext_iff, *]

/-- Evaluations that agree leave the same. -/
theorem AlikeResult.leaves_eq {C : ℕ → Prop} {l m : List Effect}
    {r r' : Except Fault (ResponseCode × Sys)} (h : AlikeResult (· ≠ .request) C l m r r') :
    leaves r' = leaves r := by
  cases h with
  | error e => rfl
  | ok hout =>
    have hkept := kept_eq_of_same hout.alike.same
    exact congrArg Except.ok (Prod.ext hout.code hkept)

/-- Dropping the response makes no difference to what is kept. -/
theorem leaves_processRequest (hservice : getServiceForSID (q.buf 0) = some service) :
    leaves (processRequest B env s q) = leaves (service.call B env (s.receive B env q)) := by
  unfold processRequest evaluateServiceResponse
  rw [receive_recvBuf, hservice]
  dsimp only
  cases service.call B env (s.receive B env q) with
  | error e => rfl
  | ok p =>
    dsimp only
    split_ifs <;> rfl

/-- The two requests differ in the sub-function only. -/
theorem receive_setSubFunction_alike (a b : UInt8) :
    Alike (· ≠ .request) (· ≠ 1) s.log s.log (s.receive B env (q.setSubFunction a))
      (s.receive B env (q.setSubFunction b)) := by
  refine receive_alike (fun k _ => .refl k s) ⟨rfl, rfl, rfl, rfl, rfl⟩ rfl (fun i hi => ?_)
    (fun hreq => absurd rfl hreq) fun _ => rfl
  exact (if_neg hi).trans (if_neg hi).symm

theorem set_masked (b : UInt8) : (b ||| 0x80) &&& 0x7F = b &&& 0x7F :=
  (subFunction_eq_iff _ _).2 (.inl rfl)

theorem clear_masked (b : UInt8) : b &&& 0x7F &&& 0x7F = b &&& 0x7F :=
  (subFunction_eq_iff _ _).2 (.inr rfl)

/-- **The bit only silences the answer of every service but `SecurityAccess`.** -/
theorem onlySilences_of_ne (hservice : getServiceForSID (q.buf 0) = some service)
    (hsub : service.hasSubFunction = true) (hne : service ≠ .securityAccess) :
    OnlySilences B env s q := by
  have hreads (k : Component) (hk : service.Reads B k) : k ≠ .request := by
    rintro rfl
    cases service <;> simp_all [UDSService.Reads, UDSService.hasSubFunction]
  unfold OnlySilences
  rw [leaves_processRequest (q := q.suppressing) hservice,
    leaves_processRequest (q := q.answering) hservice]
  exact AlikeResult.leaves_eq (UDSService.call_alike_of_sameSubFunction hsub hne
    (receive_setSubFunction_alike _ _) hreads (by simp)
    (fun _ => (set_masked _).trans (clear_masked _).symm) fun i hi _ => Nat.ne_of_gt hi)

/-! ### What `SecurityAccess` does -/

/-- A key unlocks its level, or arms the delay. -/
theorem sendKey0x27_outcome (subFunction : UInt8) (record : Bytes) :
    AccessOutcome.of (sendKey0x27 env s subFunction record) =
      if record = wordBytes (seedToKey s.app.seed learmask) then
        { s.unchanged kPositiveResponse with securityLevel := subFunction - 1 }
      else { s.unchanged kGeneralReject with
        authFailTimer := env.udsMillis 2 + bruteForceMitigationAuthFailDelayMs } := by
  rw [sendKey0x27_eq]
  split_ifs with hkey
  · rfl
  · simp [AccessOutcome.of, Sys.unchanged, Sys.negativeResponse, Sys.setSend,
      Sys.setAuthFailTimer, Sys.emitEvent, Sys.emit]

/-- A seed is drawn for a locked level, and fits into the send buffer. -/
theorem requestSeed0x27_outcome (hsend : s.srv.r.sendBuf.length = 2)
    (hroom : 4 ≤ subSize s.srv.r.sendBufSize 2) (subFunction : UInt8) (record : Bytes) :
    AccessOutcome.of (requestSeed0x27 env s subFunction record) =
      if subFunction = s.srv.securityLevel then s.unchanged kPositiveResponse
      else seedOutcome s env := by
  have hsecurity : Component.securityLevel.Same s (requestSeed0x27 env s subFunction record).2 :=
    requestSeed0x27_same (by simp) _ _
  have htimer : Component.authFailTimer.Same s (requestSeed0x27 env s subFunction record).2 :=
    requestSeed0x27_same (by simp) _ _
  rcases requestSeed0x27_cases env (s := s) subFunction record hsend with
    ⟨hlevel, heq⟩ | ⟨hlevel, hurandom, hcode, hseed⟩ | ⟨buf, hlevel, hurandom, hseed, hcode, -⟩
  · have hzeros : ([0x00, 0x00] : Bytes).length ≤ subSize s.srv.r.sendBufSize 2 :=
      le_trans (by decide) hroom
    rw [if_pos hlevel, heq, Sys.safeCopy, hsend, if_pos hzeros]
    rfl
  · rw [if_neg hlevel, seedOutcome, Env.drawn, hurandom]
    exact AccessOutcome.ext hcode hsecurity hseed htimer
  · rw [if_neg hlevel, seedOutcome, Env.drawn, hurandom]
    exact AccessOutcome.ext (hcode.2 hroom) hsecurity hseed htimer

/-- **`SecurityAccess` does what `accessOutcome` says.** -/
theorem securityAccess0x27_outcome (hB : B.udsTpMtu = 65535) (env : Env) (s : Sys) (q : Request) :
    AccessOutcome.of (securityAccess0x27 env (s.receive B env q)) =
      accessOutcome s env q.key (q.buf 1) := by
  have hroom : 4 ≤ subSize (s.securityAccess B env q).srv.r.sendBufSize 2 := by
    show 4 ≤ subSize B.udsTpMtu.toNat 2
    rw [hB]
    decide
  unfold accessOutcome
  cases hrefusal : accessRefusal s env (q.buf 1) with
  | some code =>
    rw [securityAccess0x27_of_refusal hrefusal]
    rfl
  | none =>
    rw [securityAccess0x27_of_passes (accessRefusal_eq_none_iff.1 hrefusal)]
    dsimp only
    by_cases heven : q.buf 1 % 2 = 0
    · rw [if_pos heven, if_pos heven]
      exact sendKey0x27_outcome _ _
    · rw [if_neg heven, if_neg heven]
      exact requestSeed0x27_outcome rfl hroom _ _

/-! ### The bit and the lock -/

/-- The bytes behind the sub-function are the same. -/
theorem key_setSubFunction (q : Request) (subFunction : UInt8) :
    (q.setSubFunction subFunction).key = q.key := by
  refine List.map_congr_left fun i hi => if_neg ?_
  have hle := (List.mem_range'_1.1 hi).1
  omega

/-- The outcome says all that `SecurityAccess` does. -/
theorem leaves_securityAccess_iff (B : Build) (env : Env) (s : Sys) (q : Request) (a b : UInt8) :
    leaves (UDSService.securityAccess.call B env (s.receive B env (q.setSubFunction a))) =
        leaves (UDSService.securityAccess.call B env (s.receive B env (q.setSubFunction b))) ↔
      AccessOutcome.of (securityAccess0x27 env (s.receive B env (q.setSubFunction a))) =
        AccessOutcome.of (securityAccess0x27 env (s.receive B env (q.setSubFunction b))) := by
  constructor
  · intro h
    obtain ⟨hcode, hkept⟩ := Prod.mk.inj (Except.ok.inj h)
    obtain ⟨hsrv, happ⟩ := Prod.mk.inj hkept
    have hlevel := congrArg UDSServer.securityLevel hsrv
    have htimer := congrArg UDSServer.secAccessAuthFailTimer hsrv
    exact AccessOutcome.ext hcode hlevel (congrArg UpgradeServer.seed happ) htimer
  · intro h
    obtain ⟨hcode, hlevel, hseed, htimer⟩ := AccessOutcome.ext_iff.1 h
    refine congrArg Except.ok (Prod.ext hcode (kept_eq_of_same fun k hk => ?_))
    by_cases hlock : k = .authFailTimer ∨ k = .securityLevel ∨ k = .seed
    · rcases hlock with rfl | rfl | rfl
      · exact htimer
      · exact hlevel
      · exact hseed
    · rw [not_or, not_or] at hlock
      have hframe (u : Sys) : k.Same u (securityAccess0x27 env u).2 :=
        securityAccess0x27_same hlock.1 hlock.2.1 hlock.2.2
      have hreceive : k.Same (s.receive B env (q.setSubFunction b))
          (s.receive B env (q.setSubFunction a)) := (receive_setSubFunction_alike b a).same k hk
      exact (hframe _).symm.trans (hreceive.trans (hframe _))

/-! ### Levels with and without the bit -/

section Levels

variable {a b : UInt8} (h : a &&& 0x7F = b &&& 0x7F)
include h

/-- The bit does not make a request a seed request or a key. -/
theorem mod_two_eq : a % 2 = b % 2 := by
  have hlow (x : UInt8) : x % 2 = x &&& 1 := by
    apply UInt8.toNat.inj
    rw [UInt8.toNat_mod, UInt8.toNat_and]
    exact (Nat.and_one_is_mod x.toNat).symm
  rw [hlow, hlow, masked_eq h rfl]

/-- The bit does not make a level a reserved one. -/
theorem accessRefusal_eq (s : Sys) (env : Env) : accessRefusal s env a = accessRefusal s env b := by
  have hreserved : udsSecurityAccessLevelIsReserved a = udsSecurityAccessLevelIsReserved b := by
    unfold udsSecurityAccessLevelIsReserved
    rw [masked_eq h rfl]
  rw [accessRefusal, hreserved]
  rfl

end Levels

theorem set_ne_clear (b : UInt8) : b ||| 0x80 ≠ b &&& 0x7F := by
  rw [ne_eq, ← UInt8.toBitVec_inj]
  exact FlagBit.setFlag_ne_clearFlag (i := 7) (by decide)

/-- A drawn seed leaves no trace if it is the present one. -/
theorem seedOutcome_eq_unchanged_iff :
    seedOutcome s env = s.unchanged kPositiveResponse ↔ env.drawn = some s.app.seed := by
  have hcode : kGeneralReject ≠ kPositiveResponse := by simp
  unfold seedOutcome
  cases hdrawn : env.drawn with
  | none => exact iff_of_false (fun h => hcode (congrArg AccessOutcome.code h)) (by simp)
  | some seed =>
    constructor
    · intro h
      exact congrArg some (congrArg AccessOutcome.seed h)
    · intro h
      obtain rfl := Option.some.inj h
      rfl

/-- A key has the same outcome for two levels if and only if it is a wrong one: a valid one unlocks
its own level. -/
theorem keyOutcome_eq_iff {key : Bytes} {a b : UInt8} (hne : a ≠ b) (ha : a % 2 = 0)
    (hb : b % 2 = 0) (hcheck : accessRefusal s env a = none)
    (hcheck' : accessRefusal s env b = none) :
    accessOutcome s env key a = accessOutcome s env key b ↔
      key ≠ wordBytes (seedToKey s.app.seed learmask) := by
  rw [accessOutcome, accessOutcome, hcheck, hcheck']
  dsimp only
  rw [if_pos ha, if_pos hb]
  by_cases hkey : key = wordBytes (seedToKey s.app.seed learmask)
  · rw [if_pos hkey, if_pos hkey]
    refine iff_of_false (fun h => hne ?_) (not_not.2 hkey)
    exact (UInt8.sub_left_inj 1).1 (congrArg AccessOutcome.securityLevel h)
  · rw [if_neg hkey, if_neg hkey]
    exact iff_of_true rfl hkey

/-- A request for a seed has the same outcome for two levels if and only if both are locked, or the
seed is drawn again. -/
theorem seedOutcome_eq_iff {key : Bytes} {a b : UInt8} (hne : a ≠ b) (ha : a % 2 ≠ 0)
    (hb : b % 2 ≠ 0) (hcheck : accessRefusal s env a = none)
    (hcheck' : accessRefusal s env b = none) :
    accessOutcome s env key a = accessOutcome s env key b ↔
      (s.srv.securityLevel = a ∨ s.srv.securityLevel = b → env.drawn = some s.app.seed) := by
  rw [accessOutcome, accessOutcome, hcheck, hcheck']
  dsimp only
  rw [if_neg ha, if_neg hb]
  by_cases hla : a = s.srv.securityLevel
  · have hlb : b ≠ s.srv.securityLevel := hla ▸ hne.symm
    rw [if_pos hla, if_neg hlb, eq_comm, seedOutcome_eq_unchanged_iff]
    exact ⟨fun h _ => h, fun h => h (.inl hla.symm)⟩
  by_cases hlb : b = s.srv.securityLevel
  · rw [if_neg hla, if_pos hlb, seedOutcome_eq_unchanged_iff]
    exact ⟨fun h _ => h, fun h => h (.inr hlb.symm)⟩
  · rw [if_neg hla, if_neg hlb]
    refine iff_of_true rfl fun hlevel => ?_
    rcases hlevel with h | h
    · exact absurd h.symm hla
    · exact absurd h.symm hlb

/-- **The outcomes with and without the suppress bit.** -/
theorem accessOutcome_eq_iff :
    accessOutcome s env q.key (q.buf 1 ||| 0x80) = accessOutcome s env q.key (q.buf 1 &&& 0x7F) ↔
      BitMakesNoDifference s env q := by
  have hset := set_masked (q.buf 1)
  have hclear := clear_masked (q.buf 1)
  unfold BitMakesNoDifference
  rw [← accessRefusal_eq_none_iff]
  have hrefuse := accessRefusal_eq hset s env
  have hrefuse' := accessRefusal_eq hclear s env
  cases hchecks : accessRefusal s env (q.buf 1) with
  | some code =>
    rw [accessOutcome, accessOutcome, hrefuse, hrefuse', hchecks]
    exact iff_of_true rfl fun h => nomatch h
  | none =>
    rw [hchecks] at hrefuse hrefuse'
    by_cases heven : q.buf 1 % 2 = 0
    · rw [keyOutcome_eq_iff (set_ne_clear _) ((mod_two_eq hset).trans heven)
        ((mod_two_eq hclear).trans heven) hrefuse hrefuse', if_pos heven]
      exact ⟨fun h _ => h, fun h => h rfl⟩
    · rw [seedOutcome_eq_iff (set_ne_clear _) ((mod_two_eq hset).trans_ne heven)
        ((mod_two_eq hclear).trans_ne heven) hrefuse hrefuse', if_neg heven,
        ← subFunction_eq_iff]
      exact ⟨fun h _ => h, fun h => h rfl⟩

/-- **The suppress bit only silences the answer** to a request of a service with sub-function, in
every state, if and only if the request is none for `SecurityAccess` to which the bit makes a
difference. -/
theorem onlySilences_iff (hB : B.udsTpMtu = 65535)
    (hservice : getServiceForSID (q.buf 0) = some service)
    (hsub : service.hasSubFunction = true) :
    OnlySilences B env s q ↔ (service = .securityAccess → BitMakesNoDifference s env q) := by
  by_cases hne : service = .securityAccess
  · subst hne
    unfold OnlySilences
    rw [leaves_processRequest (q := q.suppressing) hservice,
      leaves_processRequest (q := q.answering) hservice]
    have hiff := leaves_securityAccess_iff B env s q (q.buf 1 ||| 0x80) (q.buf 1 &&& 0x7F)
    rw [securityAccess0x27_outcome hB, securityAccess0x27_outcome hB, key_setSubFunction,
      key_setSubFunction] at hiff
    refine hiff.trans (accessOutcome_eq_iff.trans ?_)
    exact ⟨fun h _ => h, fun h => h rfl⟩
  · exact iff_of_true (onlySilences_of_ne hservice hsub hne) fun h => absurd h hne

/-- The process after start-up, with no files. -/
private abbrev bootedSys : Sys := udsServerInit (.fair 0) fun _ => none

/-- Asking for the seed of the first level is asking for that of a locked level, also with the
suppress bit. -/
theorem onlySilences_requestSeed : OnlySilences ⟨65535, .test⟩ (.fair 2000) bootedSys
    (.ofBytes [0x27, 0x01] (by decide) fun _ => 0) :=
  (onlySilences_iff rfl rfl rfl).2 fun _ _ => by decide +kernel

/-- The key of the first level, before a seed was drawn. -/
private abbrev firstKey : Request :=
  .ofBytes [0x27, 0x02, 0x00, 0x00, 0x00, 0x00] (by decide) fun _ => 0

/-- The key of the first level, sent with the suppress bit, unlocks the level `0x81`. -/
theorem not_onlySilences : ServerRun ⟨65535, .test⟩ [] bootedSys ∧
    ¬OnlySilences ⟨65535, .test⟩ (.fair 2000) bootedSys firstKey := by
  let level : ResponseCode × UDSServer × UpgradeServer → ResponseCode × UInt8 :=
    fun p => (p.1, p.2.1.securityLevel)
  have hset : (leaves (processRequest ⟨65535, .test⟩ (.fair 2000) bootedSys
      firstKey.suppressing)).map level = .ok (kPositiveResponse, 0x81) := by decide +kernel
  have hclear : (leaves (processRequest ⟨65535, .test⟩ (.fair 2000) bootedSys
      firstKey.answering)).map level = .ok (kPositiveResponse, 0x01) := by decide +kernel
  refine ⟨Run.start ⟨.fair 0, _, rfl⟩, fun h => ?_⟩
  cases hset.symm.trans ((congrArg (Except.map level) h).trans hclear)

end EcuUpgrade
