import EcuUpgrade.Security.KeyAlgorithm
import EcuUpgrade.Security.Lock
import EcuUpgrade.Server.Responses
import EcuUpgrade.Transfer.Failures

/-!
# How long a seed is good, and which seeds are sent

The application keeps the seed it has drawn until it draws the next one: neither a right key nor a
wrong one uses it up. It sends whatever the random source gives, zeros included, by which a client
takes the level for one that is unlocked already.

## Main definitions

* `lastDrawn`: the seed drawn last in a run.
* `NonzeroSeed`: the seed sent for a locked level is not zero.
* `UnlockSecurityAccess`: what `unlock_security_access` of the client does when it returns.

## Main results

* `seed_stays_good`: a key is accepted if and only if it is that of the seed drawn last.
* `lockedSeed_iff`: **when a locked server sends a zero seed**, and what becomes of the client.
-/

namespace EcuUpgrade

open ResponseCode BigEndian Runs

variable {B : Build} {env : Env} {s t u : Sys} {x : Exchange} {level : UInt8}

/-! ### The seed drawn last -/

/-- The seed drawn last in a run; it is zero before the first one. -/
def lastDrawn (tr : List (Sys × Exchange)) : UInt32 :=
  tr.foldl (fun seed l => (drawnSeed l.1 l.2.env l.2.req).getD seed) 0

theorem lastDrawn_snoc (tr : List (Sys × Exchange)) (l : Sys × Exchange) :
    lastDrawn (tr ++ [l]) = (drawnSeed l.1 l.2.env l.2.req).getD (lastDrawn tr) := by
  simp [lastDrawn]

/-- The server keeps the seed drawn last. -/
theorem MarkedRun.seed_eq {tr : List (Sys × Exchange)} (h : MarkedRun B tr s) :
    s.app.seed = lastDrawn tr := by
  refine Run.invariant (P := fun tr s => s.app.seed = lastDrawn tr) ?_ ?_ h
  · rintro s ⟨env, fs, rfl⟩
    rfl
  · rintro tr s l t - hseed ⟨rfl, hstep⟩
    rw [hstep.seed_eq, lastDrawn_snoc, hseed]

/-- The request sends a key. -/
def Exchange.IsKeyRequest (x : Exchange) : Prop :=
  x.service = some .securityAccess ∧ x.req.buf 1 % 2 = 0

instance (x : Exchange) : Decidable x.IsKeyRequest := inferInstanceAs (Decidable (_ ∧ _))

/-- After a key was sent, none is accepted before the next request for a seed. -/
def GoodForOneAttempt (tr : List Exchange) : Prop :=
  ∀ pre x mid y post, tr = pre ++ x :: (mid ++ y :: post) → x.IsKeyRequest → y.IsKeyRequest →
    (∀ z ∈ mid, ∀ level, ¬z.IsSeedRequest level) → y.code ≠ kPositiveResponse

theorem drawnSeed_of_key (hx : x.req.buf 1 % 2 = 0) : drawnSeed s x.env x.req = none :=
  if_neg fun hdraws => hdraws.2.1 hx

/-- **A seed stays good until the next one is drawn.** A key is answered positively if and only if
the checks before it are passed and it is that of the seed drawn last, and it leaves the seed as it
is; the key of another seed is refused. -/
theorem seed_stays_good {tr : List (Sys × Exchange)} (h : MarkedRun B tr s)
    (hstep : ServerStep B s x t) (hx : x.IsKeyRequest) :
    (x.code = kPositiveResponse ↔ passesChecks s x.env x.req = true ∧
        x.req.key = wordBytes (seedToKey (lastDrawn tr) learmask)) ∧
      t.app.seed = lastDrawn tr ∧
      ∀ old, old ≠ lastDrawn tr → x.req.key = wordBytes (seedToKey old learmask) →
        x.code ≠ kPositiveResponse := by
  have hcode := hstep.keyAnswer (ServerRun.settings (MarkedRun.serverRun h)) hx.1 hx.2
  rw [MarkedRun.seed_eq h] at hcode
  refine ⟨hcode, ?_, fun old hne hkey hpositive => ?_⟩
  · rw [hstep.seed_eq, drawnSeed_of_key hx.2, MarkedRun.seed_eq h]
    rfl
  · have hsame := wordBytes_injective (hkey.symm.trans (hcode.1 hpositive).2)
    exact hne (seedToKey_injective (by decide) hsame)

/-- The requests of a client that sends the same key twice. -/
def replayRequests : List (Env × Request) :=
  let key := [0x27, 2] ++ wordBytes (seedToKey 0x01020304 learmask)
  [(.fair 2000, .ofBytes [0x27, 1] (by decide) fun _ => 0),
    (.fair 2000, .ofBytes key (by decide) fun _ => 0),
    (.fair 2000, .ofBytes key (by decide) fun _ => 0)]

theorem exists_replay : ∃ (x y z : Exchange) (s : Sys),
    ServerRun ⟨65535, .test⟩ [x, y, z] s ∧ y.IsKeyRequest ∧ z.IsKeyRequest ∧
      z.code = kPositiveResponse := by
  obtain ⟨tr, s, hrun, hlen, hkeys⟩ := exists_run_of_serve ⟨65535, .test⟩ (.fair 0)
    (fun _ => none) replayRequests
    (fun tr _ => tr.length = 3 ∧ ∀ x ∈ tr.tail, x.IsKeyRequest ∧ x.code = kPositiveResponse)
    (by decide +kernel)
  obtain ⟨x, y, z, rfl⟩ := List.length_eq_three.1 hlen
  exact ⟨x, y, z, s, hrun, (hkeys y (by simp)).1, hkeys z (by simp)⟩

/-- The same key is accepted twice. -/
theorem seed_stays_good_replay : ∃ (tr : List (Sys × Exchange)) (s t : Sys) (x : Exchange),
    MarkedRun ⟨65535, .test⟩ tr s ∧ ServerStep ⟨65535, .test⟩ s x t ∧ x.IsKeyRequest ∧
      x.req.key = wordBytes (seedToKey (lastDrawn tr) learmask) ∧ t.app.seed = lastDrawn tr := by
  obtain ⟨x, y, z, t, hrun, -, hkey, hcode⟩ := exists_replay
  have hrun' : ServerRun ⟨65535, .test⟩ ([x, y] ++ [z]) t := hrun
  obtain ⟨s, hs, hstep⟩ := Run.snoc_iff.1 hrun'
  obtain ⟨marked, hmarked, -⟩ := ServerRun.exists_marked hs
  obtain ⟨hiff, hseed, -⟩ := seed_stays_good hmarked hstep hkey
  exact ⟨marked, s, t, z, hmarked, hstep, hkey, (hiff.1 hcode).2, hseed⟩

/-- A key is accepted twice for one seed. -/
theorem not_goodForOneAttempt :
    ¬∀ (B : Build) (tr : List Exchange) (s : Sys), ServerRun B tr s → GoodForOneAttempt tr := by
  intro hclaim
  obtain ⟨x, y, z, s, hrun, hy, hz, hcode⟩ := exists_replay
  exact hclaim _ _ _ hrun [x] y [] z [] rfl hy hz (by simp) hcode

/-! ### Seeds that are zero -/

/-- The seed in a positive answer for a level that is not unlocked is not zero. -/
def NonzeroSeed (s : Sys) (x : Exchange) : Prop :=
  ∀ level seed, x.IsSeedRequest level → level ≠ s.srv.securityLevel →
    x.code = kPositiveResponse → x.sent = [responseSidOf kSIDSecurityAccess, level] ++ seed →
      ∃ b ∈ seed, b ≠ 0

/-- Four zeros are read from the random source for a request that is answered with them. -/
def DrawsZeros (s : Sys) (env : Env) (q : Request) : Prop :=
  getServiceForSID (q.buf 0) = some .securityAccess ∧ q.buf 1 % 2 ≠ 0 ∧
    q.buf 1 &&& 0x80 = 0 ∧ q.buf 1 ≠ s.srv.securityLevel ∧ passesChecks s env q = true ∧
      env.urandom = some #v[0, 0, 0, 0]

instance (s : Sys) (env : Env) (q : Request) : Decidable (DrawsZeros s env q) :=
  inferInstanceAs (Decidable (_ ∧ _))

/-- **`unlock_security_access` of the client**, when it returns: after a seed that is zero it takes
the level for unlocked and sends no key; after another one it sends the key of the seed. The
exchange is that of the seed. -/
inductive UnlockSecurityAccess (B : Build) (s : Sys) (level : UInt8) : Exchange → Sys → Prop
  | alreadyUnlocked {x : Exchange} {t : Sys} {seed : Bytes} (hstep : ServerStep B s x t)
      (hreq : x.req.received = [kSIDSecurityAccess, level])
      (hsent : x.sent = [responseSidOf kSIDSecurityAccess, level] ++ seed)
      (hzero : seed ≠ [] ∧ ∀ b ∈ seed, b = 0) : UnlockSecurityAccess B s level x t
  | sendKey {x y : Exchange} {t u : Sys} {seed : Bytes} (hstep : ServerStep B s x t)
      (hreq : x.req.received = [kSIDSecurityAccess, level])
      (hsent : x.sent = [responseSidOf kSIDSecurityAccess, level] ++ seed)
      (hzero : ¬(seed ≠ [] ∧ ∀ b ∈ seed, b = 0)) (hkey : ServerStep B t y u)
      (hreq' : y.req.received = [kSIDSecurityAccess, level + 1] ++ etasAlgo seed)
      (hsent' : y.sent = [responseSidOf kSIDSecurityAccess, level + 1]) :
      UnlockSecurityAccess B s level x u

theorem seedRoom_eq (hB : B.udsTpMtu = 65535) : seedRoom B = 65533 := by
  rw [seedRoom, hB]
  rfl

/-- The seed that is sent for a level that is not unlocked consists of the bytes drawn. -/
theorem ServerStep.urandom_of_sent (hs : Settings s) (h : ServerStep B s x t) {seed : Bytes}
    (hx : x.IsSeedRequest level) (hlevel : level ≠ s.srv.securityLevel)
    (hcode : x.code = kPositiveResponse)
    (hsent : x.sent = [responseSidOf kSIDSecurityAccess, level] ++ seed) :
    level &&& 0x80 = 0 ∧ passesChecks s x.env x.req = true ∧
      ∃ buf, x.env.urandom = some buf ∧ seed = buf.toList := by
  obtain ⟨hcode', hsent'⟩ := h.seedAnswer hs hx
  obtain ⟨hpass, bs, hbs, -⟩ := hcode'.1 hcode
  have hbytes := (hsent' hcode bs hbs).symm.trans hsent
  rw [Sys.seedBytes, if_neg hlevel] at hbs
  obtain ⟨buf, hurandom, rfl⟩ := Option.map_eq_some_iff.1 hbs
  split_ifs at hbytes with hbit
  · exact ⟨hbit, hpass, buf, hurandom, (List.append_cancel_left hbytes).symm⟩
  · cases hbytes

theorem eq_zeros {buf : Vector UInt8 4} (h : ∀ b ∈ buf.toList, b = 0) : buf = #v[0, 0, 0, 0] := by
  apply Vector.toList_inj.1
  have hrep := List.eq_replicate_of_mem h
  rw [Vector.length_toList] at hrep
  exact hrep

/-- When zeros are drawn, the answer carries them. -/
theorem ServerStep.sent_of_drawsZeros (hB : B.udsTpMtu = 65535) (hs : Settings s)
    (h : ServerStep B s x t) (hx : DrawsZeros s x.env x.req) : x.code = kPositiveResponse ∧
      x.sent = [responseSidOf kSIDSecurityAccess, x.req.buf 1] ++ [0, 0, 0, 0] := by
  obtain ⟨hservice, hodd, hbit, hlevel, hpass, hurandom⟩ := hx
  have hreq : x.IsSeedRequest (x.req.buf 1) := ⟨hservice, rfl, hodd⟩
  obtain ⟨hcode, hsent⟩ := h.seedAnswer hs hreq
  have hbytes : s.seedBytes x.env (x.req.buf 1) = some [0, 0, 0, 0] := by
    rw [Sys.seedBytes, if_neg hlevel, hurandom]
    rfl
  have hpositive : x.code = kPositiveResponse :=
    hcode.2 ⟨hpass, _, hbytes, by rw [seedRoom_eq hB]; decide⟩
  refine ⟨hpositive, ?_⟩
  rw [hsent hpositive _ hbytes, if_pos hbit]

/-- When the seed sent is not zero. -/
theorem ServerStep.nonzeroSeed_iff (hB : B.udsTpMtu = 65535) (hs : Settings s)
    (h : ServerStep B s x t) : NonzeroSeed s x ↔ ¬DrawsZeros s x.env x.req := by
  constructor
  · intro hnonzero hdraws
    obtain ⟨hcode, hsent⟩ := h.sent_of_drawsZeros hB hs hdraws
    obtain ⟨b, hb, hne⟩ := hnonzero _ _ ⟨hdraws.1, rfl, hdraws.2.1⟩ hdraws.2.2.2.1 hcode hsent
    simp at hb
    exact hne hb
  · rintro hdraws level seed ⟨hservice, rfl, hodd⟩ hlevel hcode hsent
    obtain ⟨hbit, hpass, buf, hurandom, rfl⟩ :=
      h.urandom_of_sent hs ⟨hservice, rfl, hodd⟩ hlevel hcode hsent
    by_contra hzero
    push Not at hzero
    rw [eq_zeros hzero] at hurandom
    exact hdraws ⟨hservice, hodd, hbit, hlevel, hpass, hurandom⟩

/-- A response that is not a refusal is positive. -/
theorem ServerStep.code_of_sent (hB : B.udsTpMtu = 65535) (hs : Settings s)
    (h : ServerStep B s x t) {rest : Bytes}
    (hsent : x.sent = responseSidOf kSIDSecurityAccess :: rest) : x.code = kPositiveResponse := by
  obtain ⟨form, hform⟩ := h.hasForm hs hB
  cases form with
  | positive => exact hform.1
  | suppressed => exact hform.1
  | negative =>
    rw [hform.2] at hsent
    exact absurd (List.cons.inj hsent).1 (by decide)

/-- The bytes of a request of at least two bytes. -/
theorem Request.buf_of_received {q : Request} {a b : UInt8} {rest : Bytes}
    (h : q.received = a :: b :: rest) : q.buf 0 = a ∧ q.buf 1 = b := by
  have hlen : q.len = (rest.length + 1) + 1 := by
    have hlength := congrArg List.length h
    rwa [Request.received, length_bytesAt] at hlength
  rw [Request.received, hlen, bytesAt_succ, bytesAt_succ] at h
  obtain ⟨h₀, htail⟩ := List.cons.inj h
  exact ⟨h₀, (List.cons.inj htail).1⟩

theorem securityAccess_of_received {q : Request} {rest : Bytes}
    (h : q.received = kSIDSecurityAccess :: level :: rest) :
    getServiceForSID (q.buf 0) = some .securityAccess ∧ q.buf 1 = level := by
  obtain ⟨h₀, h₁⟩ := Request.buf_of_received h
  rw [h₀]
  exact ⟨rfl, h₁⟩

theorem even_succ (h : level % 2 ≠ 0) : (level + 1) % 2 = 0 := by
  have hne : level.toNat % 2 ≠ 0 := fun heq => h (UInt8.toNat.inj heq)
  apply UInt8.toNat.inj
  have hsum : ((level + 1) % 2).toNat = (level.toNat + 1) % 256 % 2 := rfl
  rw [hsum]
  have hzero : (0 : UInt8).toNat = 0 := rfl
  omega

/-- When the client is right that the level is unlocked. -/
theorem UnlockSecurityAccess.securityLevel_iff (hB : B.udsTpMtu = 65535) (hs : Settings s)
    (hodd : level % 2 ≠ 0) (h : UnlockSecurityAccess B s level x u) :
    u.srv.securityLevel = level ↔ ¬DrawsZeros s x.env x.req := by
  cases h with
  | alreadyUnlocked hstep hreq hsent hzero =>
    obtain ⟨hservice, rfl⟩ := securityAccess_of_received hreq
    have hcode := hstep.code_of_sent hB hs hsent
    have hlevel : u.srv.securityLevel = s.srv.securityLevel := by
      rw [hstep.securityLevel, if_neg fun hunlocks => hodd hunlocks.2.1]
    rw [hlevel]
    constructor
    · rintro hsame hdraws
      exact hdraws.2.2.2.1 hsame.symm
    · intro hdraws
      by_contra hne
      obtain ⟨b, hb, hb'⟩ := (hstep.nonzeroSeed_iff hB hs).2 hdraws _ _ ⟨hservice, rfl, hodd⟩
        (fun heq => hne heq.symm) hcode hsent
      exact hb' (hzero.2 b hb)
  | sendKey hstep hreq hsent hzero hkey hreq' hsent' =>
    obtain ⟨hservice, rfl⟩ := securityAccess_of_received hreq
    obtain ⟨hservice', hlevel⟩ := securityAccess_of_received hreq'
    have hcode := hkey.code_of_sent hB (hs.step hstep) hsent'
    have heven := even_succ hodd
    rw [← hlevel] at heven
    refine iff_of_true ?_ fun hdraws => ?_
    · rw [hkey.securityLevel, if_pos ⟨⟨hservice', hcode⟩, heven, rfl⟩, hlevel]
      exact UInt8.add_sub_cancel _ _
    · have hzeros := (hstep.sent_of_drawsZeros hB hs hdraws).2
      have hseed := List.append_cancel_left (hsent.symm.trans hzeros)
      rw [hseed] at hzero
      exact hzero ⟨by simp, by simp⟩

/-- **When a locked server sends a zero seed.** In every reachable state, the seed sent for a level
that is not unlocked is not zero if and only if the bytes drawn for it are not all zero; and when
`unlock_security_access` of the client returns, its level is unlocked in the same case only. -/
theorem lockedSeed_iff (hB : B.udsTpMtu = 65535) {tr : List Exchange} (h : ServerRun B tr s) :
    (∀ x t, ServerStep B s x t → (NonzeroSeed s x ↔ ¬DrawsZeros s x.env x.req)) ∧
      ∀ level x u, level % 2 ≠ 0 → UnlockSecurityAccess B s level x u →
        (u.srv.securityLevel = level ↔ ¬DrawsZeros s x.env x.req) := by
  have hs := ServerRun.settings h
  refine ⟨fun x t hstep => hstep.nonzeroSeed_iff hB hs, fun level x u hodd hunlock => ?_⟩
  exact hunlock.securityLevel_iff hB hs hodd

/-- An exchange in which zeros are drawn, two seconds after start-up. -/
theorem exists_drawsZeros : ∃ (s t : Sys) (x : Exchange), ServerStart s ∧
    ServerStep ⟨65535, .test⟩ s x t ∧ x.req.received = [kSIDSecurityAccess, 1] ∧
      DrawsZeros s x.env x.req := by
  obtain ⟨x, t, hstep, hreq, henv⟩ := exists_serverStep ⟨65535, .test⟩
    (udsServerInit (.fair 0) fun _ => none) { Env.fair 2000 with urandom := some #v[0, 0, 0, 0] }
    (.ofBytes [0x27, 1] (by decide) fun _ => 0) (by decide +kernel)
  refine ⟨_, t, x, ⟨_, _, rfl⟩, hstep, ?_, ?_⟩
  · rw [hreq]
    rfl
  · rw [hreq, henv]
    decide +kernel

/-- The client takes the server for unlocked. -/
theorem lockedSeed_iff_zeros : ∃ (s u : Sys) (x : Exchange), ServerStart s ∧
    UnlockSecurityAccess ⟨65535, .test⟩ s 1 x u ∧ u.srv.securityLevel ≠ 1 := by
  obtain ⟨s, t, x, hstart, hstep, hreq, hdraws⟩ := exists_drawsZeros
  obtain ⟨-, hlevel⟩ := securityAccess_of_received hreq
  have hrun : ServerRun ⟨65535, .test⟩ [] s := .start hstart
  have hsent := (hstep.sent_of_drawsZeros rfl (ServerRun.settings hrun) hdraws).2
  rw [hlevel] at hsent
  have hunlock : UnlockSecurityAccess ⟨65535, .test⟩ s 1 x t :=
    .alreadyUnlocked hstep hreq hsent ⟨by simp, by simp⟩
  refine ⟨s, t, x, hstart, hunlock, fun hunlocked => ?_⟩
  exact ((lockedSeed_iff rfl hrun).2 1 x t (by decide) hunlock).1 hunlocked hdraws

/-- A locked server sends a seed of zeros. -/
theorem not_nonzeroSeed : ¬∀ (B : Build) (tr : List Exchange) (s t : Sys) (x : Exchange),
    B.udsTpMtu = 65535 → ServerRun B tr s → ServerStep B s x t → NonzeroSeed s x := by
  intro hclaim
  obtain ⟨s, t, x, hstart, hstep, -, hdraws⟩ := exists_drawsZeros
  have hrun : ServerRun ⟨65535, .test⟩ [] s := .start hstart
  have hnonzero := hclaim _ _ _ _ _ rfl hrun hstep
  exact (hstep.nonzeroSeed_iff rfl (ServerRun.settings hrun)).1 hnonzero hdraws

end EcuUpgrade
