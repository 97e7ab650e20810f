import EcuUpgrade.Security.Lock
import EcuUpgrade.Server.Polls

/-!
# Sessions and the unlocked level

A tester connects, opens a diagnostic session, unlocks a level and disconnects. Three things could
end its unlock: `DiagnosticSessionControl`, the S3 timer of a session, and the end of the
connection. None of them does: the first changes the session only, `HandleSessionTimeout` and
`CloseConnection` do nothing.

## Main definitions

* `Operation`, `OperationRun`: polls and connections.
* `lastSession`: the session opened by the last `DiagnosticSessionControl` of a history.
* `Operation.EndsSession`: the ways in which the session of a tester ends.

## Main results

* `unlock_outlives_session`: the level and the session depend on the exchanges only, and an unlocked
  server is never locked again.
* `unlocked_after_disconnect`: the tester disconnects, and the server stays unlocked.
-/

namespace EcuUpgrade

open ResponseCode Runs

variable {B : Build} {env : Env} {s t : Sys} {x : Exchange} {tr : List Exchange} {p : Poll}

/-! ### Operations -/

/-- What happens to the process: `main` polls, `ListenTcp` accepts connections and loses them. -/
inductive Operation
  | poll (p : Poll)
  | accept
  | close

/-- An operation. Neither `ListenTcp` nor `CloseConnection` touches the UDS server or the
application. -/
inductive OperationStep (B : Build) : Sys → Operation → Sys → Prop
  | poll {s t : Sys} {p : Poll} (h : PollStep B s p t) : OperationStep B s (.poll p) t
  | accept (s : Sys) : OperationStep B s .accept s
  | close (s : Sys) : OperationStep B s .close s

/-- A run of operations from start-up. -/
abbrev OperationRun (B : Build) : List Operation → Sys → Prop := Run ServerStart (OperationStep B)

/-- The exchanges of an operation. -/
def Operation.exchanges : Operation → List Exchange
  | .poll p => p.exchanges
  | _ => []

/-- The operation ends the session of the tester: its connection ends, another session is opened, or
the S3 timer expires in a session other than the default one. -/
def Operation.EndsSession (op : Operation) (s t : Sys) : Prop :=
  op = .close ∨
    (∃ x ∈ op.exchanges, x.Accepted .diagnosticSessionControl ∧
      t.srv.sessionType ≠ s.srv.sessionType) ∨
    ∃ effects, t.log = s.log ++ effects ∧ .emit .sessionTimeout ∈ effects

/-- The session opened by the last `DiagnosticSessionControl` that was answered positively. -/
def lastSession (tr : List Exchange) : UInt8 :=
  tr.foldl (fun sessType x => if x.Accepted .diagnosticSessionControl then x.req.buf 1 &&& 0x4F
    else sessType) kDefaultSession

theorem lastSession_snoc : lastSession (tr ++ [x]) =
    if x.Accepted .diagnosticSessionControl then x.req.buf 1 &&& 0x4F else lastSession tr := by
  simp [lastSession]

/-! ### Steps -/

/-- A session is opened if the request is answered positively. -/
theorem diagnosticSessionControl0x10_sessionType (env : Env) (s : Sys) :
    ((diagnosticSessionControl0x10 env s).1 = kPositiveResponse ∧
        (diagnosticSessionControl0x10 env s).2.srv.sessionType = s.srv.r.recvBuf 1 &&& 0x4F) ∨
      ((diagnosticSessionControl0x10 env s).1 ≠ kPositiveResponse ∧
        (diagnosticSessionControl0x10 env s).2.srv.sessionType = s.srv.sessionType) := by
  unfold diagnosticSessionControl0x10
  dsimp only [handleDiagSessCtrl]
  split_ifs with hlen herr
  · exact .inr ⟨by simp, rfl⟩
  · exact absurd rfl herr
  · exact .inl ⟨rfl, rfl⟩
  · exact .inl ⟨rfl, rfl⟩

/-- **Only an accepted `DiagnosticSessionControl` changes the session.** -/
theorem ServerStep.sessionType (h : ServerStep B s x t) : t.srv.sessionType =
    if x.Accepted .diagnosticSessionControl then x.req.buf 1 &&& 0x4F else s.srv.sessionType := by
  by_cases hservice : x.service = some .diagnosticSessionControl
  swap
  · rw [if_neg fun hx => hservice hx.1]
    exact h.same_of_owner (k := .session) rfl hservice
  obtain ⟨u, hcall, rfl⟩ := h.call_setSend hservice
  have hcall' : diagnosticSessionControl0x10 x.env (s.receive B x.env x.req) = (x.code, u) :=
    Except.ok.inj hcall
  have hsession := diagnosticSessionControl0x10_sessionType x.env (s.receive B x.env x.req)
  rw [hcall'] at hsession
  rcases hsession with ⟨hcode, hsession⟩ | ⟨hcode, hsession⟩
  · rw [if_pos ⟨hservice, hcode⟩]
    exact hsession
  · rw [if_neg fun hx => hcode hx.2]
    exact hsession

/-- **A poll changes the level and the session as its exchanges do.** The timers have no part in
it. -/
theorem PollStep.level_session (hs : Settings s) (h : PollStep B s p t)
    (hlevel : s.srv.securityLevel = unlockedLevel tr)
    (hsession : s.srv.sessionType = lastSession tr) :
    t.srv.securityLevel = unlockedLevel (tr ++ p.exchanges) ∧
      t.srv.sessionType = lastSession (tr ++ p.exchanges) := by
  rcases h.exchanges hs with ⟨hnone, hsame⟩ | ⟨x, u, hx, hstep, rfl⟩
  · rw [hnone, List.append_nil, ← hlevel, ← hsession]
    exact ⟨hsame .securityLevel (by simp) (by simp) (by simp),
      hsame .session (by simp) (by simp) (by simp)⟩
  · have htimers₁ : (s.pollTimers B p.env).srv.securityLevel = s.srv.securityLevel :=
      pollTimers_same (k := .securityLevel) (by simp) p.env s
    have htimers₂ : (s.pollTimers B p.env).srv.sessionType = s.srv.sessionType :=
      pollTimers_same (k := .session) (by simp) p.env s
    rw [hx, unlockedLevel_snoc, lastSession_snoc, ← hlevel, ← hsession, ← htimers₁, ← htimers₂]
    exact ⟨hstep.securityLevel, hstep.sessionType⟩

/-! ### Runs -/

variable {ops : List Operation}

/-- The exchanges of a history of operations. -/
def exchanges (ops : List Operation) : List Exchange := ops.flatMap Operation.exchanges

theorem exchanges_snoc (ops : List Operation) (op : Operation) :
    exchanges (ops ++ [op]) = exchanges ops ++ op.exchanges := by
  simp [exchanges]

theorem OperationStep.settings {op : Operation} (hs : Settings s) (h : OperationStep B s op t) :
    Settings t := by
  cases h with
  | poll h => exact hs.pollStep h
  | accept => exact hs
  | close => exact hs

/-- The level and the session of a reachable state. -/
theorem OperationRun.level_session (h : OperationRun B ops s) : Settings s ∧
    s.srv.securityLevel = unlockedLevel (exchanges ops) ∧
      s.srv.sessionType = lastSession (exchanges ops) := by
  refine Run.invariant (P := fun ops s => Settings s ∧
    s.srv.securityLevel = unlockedLevel (exchanges ops) ∧
      s.srv.sessionType = lastSession (exchanges ops)) ?_ ?_ h
  · rintro s ⟨env, fs, rfl⟩
    exact ⟨settings_udsServerInit env fs, rfl, rfl⟩
  · rintro ops s op t _ ⟨hs, hlevel, hsession⟩ hstep
    refine ⟨hstep.settings hs, ?_⟩
    rw [exchanges_snoc]
    cases hstep with
    | poll h => exact h.level_session hs hlevel hsession
    | accept => simpa [Operation.exchanges] using ⟨hlevel, hsession⟩
    | close => simpa [Operation.exchanges] using ⟨hlevel, hsession⟩

/-- A run of polls is a run of operations. -/
theorem OperationRun.of_polls {polls : List Poll} (h : PollRun B polls s) :
    OperationRun B (polls.map .poll) s := by
  induction h with
  | start h => exact .start h
  | @snoc polls s t p _ hstep ih =>
    rw [List.map_append]
    exact ih.snoc (.poll hstep)

/-- **An unlock outlives its session.** In every reachable state, the level is that of the last key
that was answered positively, and the session is the one opened by the last accepted
`DiagnosticSessionControl`; neither the timer of the session nor the connections have a part in
them. Once unlocked, the server is never locked again, in whatever way the session of the tester
ends. -/
theorem unlock_outlives_session (h : OperationRun B ops s) :
    s.srv.securityLevel = unlockedLevel (exchanges ops) ∧
      s.srv.sessionType = lastSession (exchanges ops) ∧
      ∀ op t, OperationStep B s op t → s.srv.securityLevel ≠ 0 → t.srv.securityLevel ≠ 0 := by
  obtain ⟨-, hlevel, hsession⟩ := OperationRun.level_session h
  refine ⟨hlevel, hsession, fun op t hstep hunlocked => ?_⟩
  obtain ⟨-, hlevel', -⟩ := OperationRun.level_session (h.snoc hstep)
  rw [hlevel, unlockedLevel_ne_zero_iff] at hunlocked
  rw [hlevel', exchanges_snoc, unlockedLevel_ne_zero_iff]
  obtain ⟨x, hx, hunlocks⟩ := hunlocked
  exact ⟨x, List.mem_append_left _ hx, hunlocks⟩

/-- Two seconds after start-up, the key of the seed zero unlocks the level `1`. -/
theorem exists_unlocked : ∃ polls s, PollRun ⟨65535, .test⟩ polls s ∧ s.srv.securityLevel = 1 :=
  exists_run_of_polls ⟨65535, .test⟩ (.fair 0) (fun _ => none)
    [(.fair 2000, .fair 2000, .ofBytes [0x27, 2, 0, 0, 0, 0] (by simp) fun _ => 0)]
    (fun _ s => s.srv.securityLevel = 1) (by decide +kernel)

/-- The tester that has unlocked the level disconnects and leaves an unlocked server behind. -/
theorem unlock_outlives_session_disconnect : ∃ ops s,
    OperationRun ⟨65535, .test⟩ (ops ++ [.close]) s ∧ s.srv.securityLevel ≠ 0 := by
  obtain ⟨polls, s, hrun, hlevel⟩ := exists_unlocked
  have hops := OperationRun.of_polls hrun
  refine ⟨polls.map .poll, s, hops.snoc (.close s), ?_⟩
  exact (unlock_outlives_session hops).2.2 .close s (.close s) (by simp [hlevel])

/-- The end of the connection does not lock the server. -/
theorem unlocked_after_disconnect :
    ¬∀ (B : Build) (ops : List Operation) (s : Sys) (op : Operation) (t : Sys),
      OperationRun B ops s → OperationStep B s op t → op.EndsSession s t →
        (∀ x ∈ op.exchanges, ∀ level, ¬x.Unlocks level) → t.srv.securityLevel = 0 := by
  intro hclaim
  obtain ⟨polls, s, hrun, hlevel⟩ := exists_unlocked
  have hzero := hclaim _ _ _ _ _ (OperationRun.of_polls hrun) (.close s) (.inl rfl)
    (by simp [Operation.exchanges])
  rw [hlevel] at hzero
  exact absurd hzero (by decide)

end EcuUpgrade
