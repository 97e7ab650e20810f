import EcuUpgrade.Client.ProgramSoc
import EcuUpgrade.Security.Installation

/-!
# The upgrade routine

The routine `0xFF02` starts an upgrade in a thread of its own and reports how far it is. The two
subclasses take the report from different things. `UpgradeServerT5` asks whether `upgrade_thread_`
is joinable, which it is forever once it was assigned; `UpgradeServerTest` has a flag, which is
false before the first upgrade as it is after it. Neither joins the thread.

## Main definitions

* `Progress`: how far an upgrade is.
* `RoutineEvent`, `RoutineStep`, `RoutineRun`: the calls of the routine and the end of its thread.
* `RoutineSound`, `PollEnds`: what the calls should answer.
* `RoutineUsed`: the calls for which they do.

## Main results

* `RoutineRun.tracks`: what the members of the process say about the progress.
* `ServerRun.exists_routineRun`: the requests of a server run call the routine in this way.
* `upgradeRoutine_iff`: the routine is sound in a run if and only if it is used so.
-/

namespace EcuUpgrade

open ResponseCode Runs Programs Programs.Prog

/-! ### Progress -/

/-- How far the upgrade is. -/
inductive Progress
  | idle
  | running
  | finished
  deriving DecidableEq, Repr

/-- What happens to the routine: a start, with the status it answers unless it ends the process; the
end of the function of the thread; a request for the result, with the status it answers. -/
inductive RoutineEvent
  | start (outcome : Except Fault UInt8)
  | finish
  | query (status : UInt8)

def Progress.next : Progress → RoutineEvent → Progress
  | _, .start _ => .running
  | .running, .finish => .finished
  | p, _ => p

/-- The progress after some events. -/
def progress (tr : List RoutineEvent) : Progress := tr.foldl Progress.next .idle

@[simp] theorem progress_nil : progress [] = .idle := rfl

@[simp] theorem progress_snoc (tr : List RoutineEvent) (e : RoutineEvent) :
    progress (tr ++ [e]) = (progress tr).next e := by
  simp [progress]

/-! ### Runs of the routine -/

/-- The process, unless it was ended, and whether the function of its thread is running. -/
structure RoutineState where
  sys : Option Sys
  running : Bool

/-- What the function of the upgrade thread does to the process at its end. -/
def Sys.threadReturns (B : Build) (s : Sys) : Sys :=
  match B.target with
  | .t5 => s
  | .test => s.setUpgrading false

/-- A call of the routine, or the end of its thread. -/
inductive RoutineStep (B : Build) : RoutineState → RoutineEvent → RoutineState → Prop
  | start {s t : Sys} {b : Bool} {result : UInt8} (h : requestUpgradeFw B s = .ok (result, t)) :
      RoutineStep B ⟨some s, b⟩ (.start (.ok result)) ⟨some t, true⟩
  | fault {s : Sys} {b : Bool} {e : Fault} (h : requestUpgradeFw B s = .error e) :
      RoutineStep B ⟨some s, b⟩ (.start (.error e)) ⟨none, b⟩
  | finish (s : Sys) : RoutineStep B ⟨some s, true⟩ .finish ⟨some (s.threadReturns B), false⟩
  | query (s : Sys) (b : Bool) :
      RoutineStep B ⟨some s, b⟩ (.query (queryUpgradeProgress B s).1)
        ⟨some (queryUpgradeProgress B s).2, b⟩

/-- No upgrade was started. -/
def RoutineStart (p : RoutineState) : Prop :=
  ∃ env fs, p = ⟨some (udsServerInit env fs), false⟩

/-- A run of the routine from start-up. -/
abbrev RoutineRun (B : Build) : List RoutineEvent → RoutineState → Prop :=
  Run RoutineStart (RoutineStep B)

/-! ### Soundness and use -/

/-- A start does not assign a thread over a joinable one. A request for the result answers 2 if and
only if an upgrade is running, and 0 only if one has finished. -/
def RoutineSound (pre : List RoutineEvent) : RoutineEvent → Prop
  | .start outcome => ∀ done, outcome ≠ .error (.terminate done)
  | .finish => True
  | .query status =>
    (status = 2 ↔ progress pre = .running) ∧ (status = 0 → progress pre = .finished)

/-- The upgrade is started once, and the result is requested only while it is running or, of
`UpgradeServerTest`, after it was started. -/
def RoutineUsed (target : Target) (pre : List RoutineEvent) : RoutineEvent → Prop
  | .start _ => progress pre = .idle
  | .finish => True
  | .query _ =>
    match target with
    | .t5 => progress pre = .running
    | .test => progress pre ≠ .idle

/-- The client gets the status of the routine in answer to its request. -/
def AsksRoutine (B : Build) (c : UdsClient Sys) : Prop :=
  ∀ s, ∃ n, c (.getRoutineResult 0xFF02) s =
    (.ok ⟨[(queryUpgradeProgress B s).1], n⟩, (queryUpgradeProgress B s).2)

/-- The loop of `ProgramSoc` that polls the routine ends. -/
def PollEnds (B : Build) (s : Sys) : Prop :=
  ∀ c, AsksRoutine B c → ∀ v : Session Sys, v.client = s →
    ∃ fuel t, loop fuel (pollRound c) v = some (.ok (), t)

/-- The answers of the routine are sound, and when the upgrade has finished, the client notices. -/
def UpgradeRoutine (B : Build) (tr : List RoutineEvent) (p : RoutineState) : Prop :=
  Everywhere RoutineSound tr ∧
    ∀ s, p.sys = some s → progress tr = .finished → PollEnds B s

variable {B : Build} {env : Env} {s t : Sys} {q : Request} {x : Exchange} {tr : List Exchange}
  {es : List RoutineEvent} {e : RoutineEvent} {p p' : RoutineState}

/-! ### What the members of the process say -/

/-- What the thread and the members of the process are after a given progress. -/
structure RoutineState.Tracks (p : RoutineState) (B : Build) (k : Progress) : Prop where
  running : p.running = true ↔ k = .running
  thread : ∀ s, p.sys = some s → (s.app.upgradeThread = true ↔ k ≠ .idle)
  upgrading : B.target = .test → ∀ s, p.sys = some s → (s.app.upgrading = true ↔ k = .running)

/-- What a start leaves behind. -/
theorem requestUpgradeFw_app {result : UInt8} (h : requestUpgradeFw B s = .ok (result, t)) :
    t.app.upgradeThread = true ∧ (B.target = .test → t.app.upgrading = true) := by
  unfold requestUpgradeFw at h
  dsimp only at h
  split_ifs at h
  obtain ⟨-, rfl⟩ := by simpa using h
  refine ⟨rfl, fun htarget => ?_⟩
  rw [htarget]
  rfl

theorem queryUpgradeProgress_app (B : Build) (s : Sys) :
    (queryUpgradeProgress B s).2.app = s.app := by
  unfold queryUpgradeProgress
  split <;> split_ifs <;> rfl

theorem threadReturns_app (B : Build) (s : Sys) :
    (s.threadReturns B).app.upgradeThread = s.app.upgradeThread ∧
      (B.target = .test → (s.threadReturns B).app.upgrading = false) := by
  unfold Sys.threadReturns
  cases htarget : B.target with
  | t5 => exact ⟨rfl, fun h => nomatch h⟩
  | test => exact ⟨rfl, fun _ => rfl⟩

/-- The status is taken from the thread, or from the flag. -/
theorem queryUpgradeProgress_fst (B : Build) (s : Sys) :
    (queryUpgradeProgress B s).1 = match B.target with
      | .t5 => if s.app.upgradeThread then 2 else 0
      | .test => if s.app.upgrading then 2 else 0 := by
  unfold queryUpgradeProgress
  cases B.target <;> dsimp only <;> split_ifs <;> rfl

theorem RoutineState.Tracks.step (h : p.Tracks B (progress es)) (hstep : RoutineStep B p e p')
    (hsome : p'.sys ≠ none) : p'.Tracks B ((progress es).next e) := by
  cases hstep with
  | start hreq =>
    obtain ⟨hthread, hupg⟩ := requestUpgradeFw_app hreq
    refine ⟨by simp [Progress.next], ?_, ?_⟩
    · rintro _ ⟨⟩
      simp [hthread, Progress.next]
    · rintro htarget _ ⟨⟩
      simp [hupg htarget, Progress.next]
  | fault hreq => exact absurd rfl hsome
  | finish s =>
    have hrunning : progress es = .running := h.running.1 rfl
    obtain ⟨hthread, hupg⟩ := threadReturns_app B s
    rw [hrunning]
    refine ⟨by simp [Progress.next], ?_, ?_⟩
    · rintro _ ⟨⟩
      simp [hthread, h.thread s rfl, hrunning, Progress.next]
    · rintro htarget _ ⟨⟩
      simp [hupg htarget, Progress.next]
  | query s b =>
    have happ := queryUpgradeProgress_app B s
    refine ⟨h.running, ?_, ?_⟩
    · rintro _ ⟨⟩
      rw [happ]
      exact h.thread s rfl
    · rintro htarget _ ⟨⟩
      rw [happ]
      exact h.upgrading htarget s rfl

theorem RoutineStep.sys_ne_none (h : RoutineStep B p e p') : p.sys ≠ none := by
  cases h <;> simp

/-- **What the members of the process say about the progress**: the thread is joinable from the
first start on, and the flag of `UpgradeServerTest` is set while the upgrade runs. -/
theorem RoutineRun.tracks (h : RoutineRun B es p) (hsome : p.sys ≠ none) :
    p.Tracks B (progress es) := by
  refine Run.invariant (P := fun es p => p.sys ≠ none → p.Tracks B (progress es)) ?_ ?_ h hsome
  · rintro p ⟨env, fs, rfl⟩ -
    refine ⟨by simp, ?_, ?_⟩
    · rintro _ ⟨⟩
      simp [udsServerInit]
    · rintro - _ ⟨⟩
      simp [udsServerInit]
  · intro es p e p' _ hp hstep hsome
    rw [progress_snoc]
    exact (hp hstep.sys_ne_none).step hstep hsome

/-! ### Which calls are sound -/

/-- What the routine answers at a given progress. -/
theorem RoutineState.Tracks.status {k : Progress} (h : p.Tracks B k) (hs : p.sys = some s) :
    (queryUpgradeProgress B s).1 = match B.target with
      | .t5 => if k = .idle then 0 else 2
      | .test => if k = .running then 2 else 0 := by
  rw [queryUpgradeProgress_fst]
  cases htarget : B.target with
  | t5 => simp [h.thread s hs]
  | test => simp [h.upgrading htarget s hs]

/-- **A call is sound if and only if it is made at the right time.** -/
theorem RoutineStep.sound_iff (h : p.Tracks B (progress es)) (hstep : RoutineStep B p e p') :
    RoutineSound es e ↔ RoutineUsed B.target es e := by
  cases hstep with
  | @start s t b result hreq =>
    have hthread : s.app.upgradeThread = false := by
      rcases requestUpgradeFw_cases B s with ⟨-, hfault⟩ | ⟨hthread, -⟩
      · cases hreq.symm.trans hfault
      · exact hthread
    have hidle : progress es = .idle := by
      by_contra hne
      exact Bool.noConfusion (hthread.symm.trans ((h.thread s rfl).2 hne))
    simp [RoutineSound, RoutineUsed, hidle]
  | @fault s b fault hreq =>
    rcases requestUpgradeFw_cases B s with ⟨hthread, hfault⟩ | ⟨-, t, hok, -⟩
    · have hne : progress es ≠ .idle := (h.thread s rfl).1 hthread
      obtain rfl : fault = .terminate [.startUpgradeThread] :=
        Except.error.inj (hreq.symm.trans hfault)
      simp [RoutineSound, RoutineUsed, hne]
    · cases hreq.symm.trans hok
  | finish s => exact Iff.rfl
  | query s b =>
    unfold RoutineSound RoutineUsed
    dsimp only
    rw [h.status rfl]
    cases B.target <;> cases progress es <;> simp

/-! ### The client's loop -/

/-- A request for the result whose answer is 2 is repeated. -/
theorem pollRound_of_two {c : UdsClient Sys} (hc : AsksRoutine B c) {v : Session Sys}
    (htwo : (queryUpgradeProgress B v.client).1 = 2) :
    ∃ w, pollRound c v = some (.ok none, w) ∧ w.client = (queryUpgradeProgress B v.client).2 := by
  obtain ⟨n, hcall⟩ := hc v.client
  refine ⟨v.after (.getRoutineResult 0xFF02) (.ok ⟨[(queryUpgradeProgress B v.client).1], n⟩)
    (queryUpgradeProgress B v.client).2, ?_, rfl⟩
  unfold pollRound
  rw [bind_of_ok (call_eq hcall), htwo]
  rfl

/-- Every other answer ends the loop. -/
theorem pollRound_of_ne_two {c : UdsClient Sys} (hc : AsksRoutine B c) {v : Session Sys}
    (htwo : (queryUpgradeProgress B v.client).1 ≠ 2) :
    ∃ w, pollRound c v = some (.ok (some ()), w) := by
  obtain ⟨n, hcall⟩ := hc v.client
  refine ⟨v.after (.getRoutineResult 0xFF02) (.ok ⟨[(queryUpgradeProgress B v.client).1], n⟩)
    (queryUpgradeProgress B v.client).2, ?_⟩
  unfold pollRound
  rw [bind_of_ok (call_eq hcall)]
  dsimp only
  rw [if_pos htwo]
  rfl

/-- A request for the result does not change what the next one answers. -/
theorem queryUpgradeProgress_again (B : Build) (s : Sys) :
    (queryUpgradeProgress B (queryUpgradeProgress B s).2).1 = (queryUpgradeProgress B s).1 := by
  rw [queryUpgradeProgress_fst, queryUpgradeProgress_fst, queryUpgradeProgress_app]

theorem loop_pollRound_of_two {c : UdsClient Sys} (hc : AsksRoutine B c) (fuel : ℕ)
    {v : Session Sys} (htwo : (queryUpgradeProgress B v.client).1 = 2) :
    loop fuel (pollRound c) v = none := by
  induction fuel generalizing v with
  | zero => rfl
  | succ fuel ih =>
    obtain ⟨w, hround, hw⟩ := pollRound_of_two hc htwo
    rw [loop_of_none hround]
    refine ih ?_
    rw [hw, queryUpgradeProgress_again, htwo]

/-- A client that asks the server for the status. -/
def routineClient (B : Build) : UdsClient Sys := fun p s =>
  match p with
  | .getRoutineResult _ => (.ok ⟨[(queryUpgradeProgress B s).1], 0⟩, (queryUpgradeProgress B s).2)
  | _ => (.error .other, s)

/-- **The loop ends if and only if the status is not 2.** -/
theorem pollEnds_iff (B : Build) (s : Sys) : PollEnds B s ↔ (queryUpgradeProgress B s).1 ≠ 2 := by
  constructor
  · intro hends htwo
    obtain ⟨fuel, t, hloop⟩ := hends (routineClient B) (fun s => ⟨0, rfl⟩) ⟨s, [], []⟩ rfl
    rw [loop_pollRound_of_two (fun s => ⟨0, rfl⟩) fuel htwo] at hloop
    cases hloop
  · rintro hne c hc v rfl
    obtain ⟨w, hround⟩ := pollRound_of_ne_two hc hne
    exact ⟨1, w, loop_of_some hround⟩

/-! ### The routine over whole runs -/

/-- An upgrade that is started, finishes, and is asked for. -/
theorem exists_finishedRun (B : Build) : ∃ p, RoutineRun B [.start (.ok 0), .finish,
    .query (match B.target with | .t5 => 2 | .test => 0)] p := by
  have hstart : RoutineRun B [] ⟨some (udsServerInit (.fair 0) fun _ => none), false⟩ :=
    .start ⟨_, _, rfl⟩
  rcases requestUpgradeFw_cases B (udsServerInit (.fair 0) fun _ => none) with
    ⟨hthread, -⟩ | ⟨-, t, hok, -⟩
  · cases hthread
  · have hstarted : RoutineRun B [.start (.ok 0)] ⟨some t, true⟩ := hstart.snoc (.start hok)
    have hfinished : RoutineRun B [.start (.ok 0), .finish] ⟨some (t.threadReturns B), false⟩ :=
      hstarted.snoc (.finish t)
    have hstatus : (queryUpgradeProgress B (t.threadReturns B)).1 =
        match B.target with | .t5 => 2 | .test => 0 :=
      (RoutineRun.tracks hfinished (by simp)).status rfl
    exact ⟨_, hstatus ▸ hfinished.snoc (.query _ _)⟩

/-- A process that was ended has been asked to start an upgrade. -/
theorem RoutineRun.progress_of_none (h : RoutineRun B es p) (hnone : p.sys = none) :
    progress es = .running := by
  cases h with
  | start hstart =>
    obtain ⟨env, fs, rfl⟩ := hstart
    cases hnone
  | snoc _ hstep =>
    cases hstep with
    | fault => exact progress_snoc _ _
    | _ => cases hnone

/-- **The upgrade routine.** In every run, the routine is sound if and only if the upgrade is
started at most once and its result is requested, of `UpgradeServerTest`, only after it was started
and, of `UpgradeServerT5`, only while it is running; and the client notices its end if and only if
the server is `UpgradeServerTest`. -/
theorem upgradeRoutine_iff (h : RoutineRun B es p) :
    UpgradeRoutine B es p ↔
      Everywhere (RoutineUsed B.target) es ∧ (progress es = .finished → B.target = .test) := by
  have hpointwise : Everywhere (fun pre e => RoutineSound pre e ↔ RoutineUsed B.target pre e) es :=
    Run.everywhere (fun pre p e p' hpre hstep =>
      hstep.sound_iff (RoutineRun.tracks hpre hstep.sys_ne_none)) h
  have hcalls : Everywhere RoutineSound es ↔ Everywhere (RoutineUsed B.target) es :=
    everywhere_congr hpointwise
  unfold UpgradeRoutine
  rw [hcalls]
  refine and_congr_right fun _ => ?_
  cases hsys : p.sys with
  | none => simp [RoutineRun.progress_of_none h hsys]
  | some s =>
    have htracks : p.Tracks B (progress es) := RoutineRun.tracks h (by simp [hsys])
    have hstatus := htracks.status hsys
    constructor
    · intro hends hfinished
      by_contra hne
      have hpoll := (pollEnds_iff B s).1 (hends s rfl hfinished)
      rw [hstatus, hfinished] at hpoll
      cases htarget : B.target with
      | t5 => simp [htarget] at hpoll
      | test => exact hne htarget
    · rintro htest _ ⟨⟩ hfinished
      rw [pollEnds_iff, hstatus, hfinished, htest hfinished]
      simp

/-- The upgrade that `UpgradeServerTest` has finished is reported so. -/
theorem upgradeRoutine_iff_finished : ∃ p,
    RoutineRun ⟨65535, .test⟩ [.start (.ok 0), .finish, .query 0] p ∧
      UpgradeRoutine ⟨65535, .test⟩ [.start (.ok 0), .finish, .query 0] p := by
  obtain ⟨p, hp⟩ := exists_finishedRun ⟨65535, .test⟩
  have hstarted : Everywhere (RoutineUsed .test) ([] ++ [.start (.ok 0)]) :=
    everywhere_snoc.2 ⟨everywhere_nil _, rfl⟩
  have hfinished : Everywhere (RoutineUsed .test) ([.start (.ok 0)] ++ [.finish]) :=
    everywhere_snoc.2 ⟨hstarted, trivial⟩
  have hused : Everywhere (RoutineUsed .test) ([.start (.ok 0), .finish] ++ [.query 0]) :=
    everywhere_snoc.2 ⟨hfinished, show progress _ ≠ .idle by decide⟩
  exact ⟨p, hp, (upgradeRoutine_iff hp).2 ⟨hused, fun _ => rfl⟩⟩

/-- The upgrade that `UpgradeServerT5` has finished is reported as running. -/
theorem upgradeRoutine_unsound :
    ¬∀ (B : Build) (es : List RoutineEvent) (p : RoutineState),
      RoutineRun B es p → UpgradeRoutine B es p := by
  intro hclaim
  obtain ⟨p, hp⟩ := exists_finishedRun ⟨65535, .t5⟩
  have hquery : RoutineSound [.start (.ok 0), .finish] (.query 2) :=
    (hclaim _ _ _ hp).1 _ _ [] rfl
  exact absurd (hquery.1.1 rfl) (by decide)

/-! ### The routine in runs of the server -/

/-- The request is `RoutineControl` with a request for the result of the routine `0xFF02`. -/
def Request.QueriesUpgrade (q : Request) : Prop :=
  getServiceForSID (q.buf 0) = some .routineControl ∧ 4 ≤ q.len ∧
    q.buf 1 &&& 0x7F = kRequestRoutineResults ∧ word16 (q.buf 2) (q.buf 3) = 0xFF02

instance (q : Request) : Decidable q.QueriesUpgrade := inferInstanceAs (Decidable (_ ∧ _))

/-- The calls of the routine that an exchange makes. The status is the last byte of the response, if
that is sent and there is room for it. -/
inductive Exchange.Calls (B : Build) (x : Exchange) : List RoutineEvent → Prop
  | start (h : x.req.StartsUpgrade) : x.Calls B [.start (.ok 0)]
  | query (h : x.req.QueriesUpgrade) (status : UInt8)
      (hsent : x.req.buf 1 = kRequestRoutineResults → B.udsTpMtu ≠ 4 →
        x.sent = [0x71, 0x03, 0xFF, 0x02, status]) : x.Calls B [.query status]
  | other (h : ¬x.req.StartsUpgrade) (h' : ¬x.req.QueriesUpgrade) : x.Calls B []

/-- What the exchanges of a run do to the routine, and what its thread does meanwhile. -/
inductive RoutineTrace (B : Build) : List Exchange → List RoutineEvent → Prop
  | nil : RoutineTrace B [] []
  | snoc {tr : List Exchange} {es cs : List RoutineEvent} {x : Exchange}
      (h : RoutineTrace B tr es) (hcalls : x.Calls B cs) :
      RoutineTrace B (tr ++ [x])
        (es ++ (if x.env.upgradeEnds = true ∧ progress es = .running then [.finish] else []) ++ cs)

/-- The two processes have the same upgrade thread. -/
def SameUpgrade (B : Build) (s t : Sys) : Prop :=
  Component.upgradeThread.Same s t ∧ (B.target = .test → Component.upgrading.Same s t)

theorem SameUpgrade.status (h : SameUpgrade B s t) :
    (queryUpgradeProgress B t).1 = (queryUpgradeProgress B s).1 := by
  have hthread : t.app.upgradeThread = s.app.upgradeThread := h.1
  rw [queryUpgradeProgress_fst, queryUpgradeProgress_fst]
  cases htarget : B.target with
  | t5 => simp only [hthread]
  | test =>
    have hupg : t.app.upgrading = s.app.upgrading := h.2 htarget
    simp only [hupg]

/-- A start of `UpgradeServerTest` sets its flag. -/
theorem ServerStep.upgrading_of_starts (h : ServerStep B s x t) (hx : x.req.StartsUpgrade)
    (htest : B.target = .test) : t.app.upgrading = true := by
  obtain ⟨u, hcall, rfl⟩ := h.call_setSend hx.1
  obtain ⟨hlen, htype, hid⟩ := (startsUpgrade_receive hx.1).2 hx
  have hcall' : routineControl0x31 B x.env (s.receive B x.env x.req) = .ok (x.code, u) := hcall
  unfold routineControl0x31 at hcall'
  dsimp only at hcall'
  rw [if_neg (Nat.not_lt.2 hlen), htype, hid, if_pos (.inl rfl), handleRoutineCtrl_start] at hcall'
  split at hcall'
  · cases hcall'
  · next c v hroutine =>
    split at hroutine
    · cases hroutine
    · next result w hreq =>
      obtain ⟨rfl, rfl⟩ := Prod.mk.inj (Except.ok.inj hroutine)
      rw [if_neg (not_not.2 rfl)] at hcall'
      obtain ⟨-, rfl⟩ := Prod.mk.inj (Except.ok.inj hcall')
      exact Eq.trans ((Component.same_safeCopy (k := .upgrading) [result]).2 (.refl _ w))
        ((requestUpgradeFw_app hreq).2 htest)

/-- No other request changes the upgrade thread. -/
theorem ServerStep.sameUpgrade (h : ServerStep B s x t) (hx : ¬x.req.StartsUpgrade) :
    SameUpgrade B (s.receive B x.env x.req) t := by
  have hsame (k : Component) : k = .upgradeThread ∨ k = .upgrading →
      k.Same (s.receive B x.env x.req) t := by
    intro hk
    rcases h.cases with ⟨-, heq⟩ | ⟨service, u, hsome, hcall, rfl⟩
    · obtain ⟨-, rfl⟩ := Prod.mk.inj heq
      exact (Component.same_negativeResponse _).2 (.refl _ _)
    · have hu : k.Same (s.receive B x.env x.req) u := by
        by_cases hservice : service = .routineControl
        · subst hservice
          exact routineControl0x31_same
            (fun hstart => absurd ((startsUpgrade_receive hsome).1 hstart) hx) hcall
        · refine service.call_same hcall ?_
          rcases hk with rfl | rfl <;> cases service <;> simp_all [UDSService.Touches]
      split_ifs <;> simpa using hu
  exact ⟨hsame _ (.inl rfl), fun _ => hsame _ (.inr rfl)⟩

theorem handleRoutineCtrl_query (record : Bytes) :
    handleRoutineCtrl B env s kRequestRoutineResults 0xFF02 record =
      .ok (kPositiveResponse,
        ((queryUpgradeProgress B s).2.safeCopy [(queryUpgradeProgress B s).1]).2) := by
  unfold handleRoutineCtrl
  refine (if_neg (by decide)).trans ((if_neg (by decide)).trans ((if_pos rfl).trans ?_))
  exact (if_neg (by decide)).trans (if_pos rfl)

theorem queryUpgradeProgress_srv (B : Build) (s : Sys) :
    (queryUpgradeProgress B s).2.srv = s.srv := by
  unfold queryUpgradeProgress
  split <;> split_ifs <;> rfl

/-- A request for the result answers the status. -/
theorem ServerStep.sent_of_queries (hs : Settings s) (h : ServerStep B s x t)
    (hx : x.req.QueriesUpgrade) (htype : x.req.buf 1 = kRequestRoutineResults)
    (hmtu : B.udsTpMtu ≠ 4) : x.sent = [0x71, 0x03, 0xFF, 0x02,
      (queryUpgradeProgress B (s.receive B x.env x.req)).1] := by
  obtain ⟨u, hcall, -, hsent⟩ := h.call_sent hs hx.1
  have hbit : ¬(UDSService.routineControl.hasSubFunction = true ∧ x.req.buf 1 &&& 0x80 ≠ 0 ∧
      x.code = kPositiveResponse) := by
    rintro ⟨-, hne, -⟩
    rw [htype] at hne
    exact hne (by decide)
  rw [hsent, if_neg hbit]
  obtain ⟨-, hlen, htype', hid⟩ := hx
  have hcall' : routineControl0x31 B x.env (s.receive B x.env x.req) = .ok (x.code, u) := hcall
  unfold routineControl0x31 at hcall'
  dsimp only at hcall'
  rw [receive_recvLen, receive_recvBuf, if_neg (Nat.not_lt.2 hlen), htype', hid,
    if_pos (.inr (.inr rfl)), handleRoutineCtrl_query] at hcall'
  dsimp only at hcall'
  rw [if_neg (not_not.2 rfl)] at hcall'
  obtain ⟨-, rfl⟩ := Prod.mk.inj (Except.ok.inj hcall')
  rw [Sys.safeCopy_status]
  · rw [queryUpgradeProgress_srv]
    refine congrArg (fun status => [0x71, 0x03, 0xFF, 0x02, status]) ?_
    rw [queryUpgradeProgress_fst, queryUpgradeProgress_fst]
    rfl
  · rw [queryUpgradeProgress_srv]
    intro hsize
    exact hmtu (UInt16.toNat_inj.1 hsize)
  · rw [queryUpgradeProgress_srv]
    exact (by decide : 4 < 2 ^ 64)

/-! ### Whole runs -/

/-- What the exchanges of a run leave of the routine. -/
theorem RoutineTrace.step (hs : Settings s) {u : Sys} {b : Bool}
    (htrace : RoutineTrace B tr es) (hrun : RoutineRun B es ⟨some u, b⟩) (hsame : SameUpgrade B u s)
    (h : ServerStep B s x t) :
    ∃ cs p v, RoutineTrace B (tr ++ [x]) cs ∧ RoutineRun B cs p ∧ p.sys = some v ∧
      SameUpgrade B v t := by
  have htracks : RoutineState.Tracks ⟨some u, b⟩ B (progress es) :=
    RoutineRun.tracks hrun (by simp)
  -- the function of the thread may have returned before the request
  obtain ⟨v, b', hrun', hsame'⟩ : ∃ v b', RoutineRun B (es ++
      (if x.env.upgradeEnds = true ∧ progress es = .running then [.finish] else [])) ⟨some v, b'⟩ ∧
      SameUpgrade B v (s.receive B x.env x.req) := by
    split_ifs with hends
    · obtain rfl : b = true := htracks.running.2 hends.2
      obtain ⟨hthread, hupg⟩ := threadReturns_app B u
      refine ⟨_, _, hrun.snoc (.finish u), Eq.trans hsame.1 hthread.symm, fun htest => ?_⟩
      unfold Component.Same
      dsimp only
      rw [hupg htest]
      simp [Sys.receive, hends.1]
    · refine ⟨u, b, by simpa using hrun, hsame.1, fun htest => ?_⟩
      have hs' : s.app.upgrading = u.app.upgrading := hsame.2 htest
      have hu := htracks.upgrading htest u rfl
      by_cases hend : x.env.upgradeEnds = true
      · have hnot : u.app.upgrading = false := by
          rw [← Bool.not_eq_true, hu]
          exact fun hrunning => hends ⟨hend, hrunning⟩
        simp [Component.Same, Sys.receive, hend, hnot]
      · simp [Component.Same, Sys.receive, hend, hs']
  by_cases hstarts : x.req.StartsUpgrade
  · obtain ⟨hthread, hthread', -⟩ := h.call_starts hstarts
    have hfree : v.app.upgradeThread = false := Eq.trans hsame'.1.symm hthread
    rcases requestUpgradeFw_cases B v with ⟨hbusy, -⟩ | ⟨-, w, hok, -⟩
    · cases hfree.symm.trans hbusy
    · obtain ⟨hw, hw'⟩ := requestUpgradeFw_app hok
      refine ⟨_, _, w, .snoc htrace (.start hstarts), hrun'.snoc (.start hok), rfl,
        hthread'.trans hw.symm, fun htest => ?_⟩
      exact (h.upgrading_of_starts hstarts htest).trans (hw' htest).symm
  have hsame'' : SameUpgrade B v t :=
    ⟨hsame'.1.trans (h.sameUpgrade hstarts).1,
      fun htest => (hsame'.2 htest).trans ((h.sameUpgrade hstarts).2 htest)⟩
  by_cases hqueries : x.req.QueriesUpgrade
  · refine ⟨_, _, (queryUpgradeProgress B v).2, .snoc htrace (.query hqueries _ ?_),
      hrun'.snoc (.query v b'), rfl, ?_⟩
    · intro htype hmtu
      rw [h.sent_of_queries hs hqueries htype hmtu, hsame'.status]
    · unfold SameUpgrade Component.Same
      rw [queryUpgradeProgress_app]
      exact hsame''
  · exact ⟨_, _, v, .snoc htrace (.other hstarts hqueries), by simpa using hrun', rfl, hsame''⟩

/-- **The requests of a server run call the routine as a run of the routine does**, which ends with
the same upgrade thread. -/
theorem ServerRun.exists_routineRun (h : ServerRun B tr s) : ∃ es p u, RoutineTrace B tr es ∧
    RoutineRun B es p ∧ p.sys = some u ∧ SameUpgrade B u s := by
  induction h with
  | @start s hstart =>
    obtain ⟨env, fs, rfl⟩ := hstart
    exact ⟨[], _, udsServerInit env fs, .nil, .start ⟨env, fs, rfl⟩, rfl, .refl _ _,
      fun _ => .refl _ _⟩
  | snoc h hstep ih =>
    obtain ⟨es, ⟨sys, b⟩, u, htrace, hrun, rfl, hsame⟩ := ih
    obtain ⟨cs, p, v, htrace', hrun', hv, hsame'⟩ :=
      htrace.step (ServerRun.settings h) hrun hsame hstep
    exact ⟨cs, p, v, htrace', hrun', hv, hsame'⟩

end EcuUpgrade
