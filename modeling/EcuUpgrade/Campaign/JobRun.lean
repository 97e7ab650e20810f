import EcuUpgrade.Campaign.Outcome
import EcuUpgrade.Client.Verdict

/-!
# The body of a job

`UpgradeJob.run` calls a programming method of a client and sets the two flags of the job in its
last statements. Nothing catches what is raised before: the flags then stay as the constructor of
the job left them, and a job whose files exist looks running forever.

## Main definitions

* `Programmer`, `JobHost`: the client with its programming methods, and the machine of a job.
* `JobHost.createClient`, `UpgradeJob.run`: the two functions.
* `EndsWithVerdict`: what should be true after `run`.
* `MethodReturns`: the programming method is called and returns.

## Main results

* `run_cases`: the two ways `run` ends.
* `endsWithVerdict_iff`: **a job ends with a verdict if and only if the programming method returns
  or a file of the job does not exist.**
* `running_of_soc_failed`: a job that calls `ProgramSoc` has no other verdict than success.
-/

namespace EcuUpgrade

open Programs Programs.Prog

variable {ν π : Type}

/-! ### The machine of a job -/

/-- What the body of a job may raise. -/
inductive JobExc
  | keyError (key : String)
  | attributeError
  | raised (e : PyExc)
  deriving DecidableEq

/-- The programming methods of a `UDSClient`, by the path of the firmware: `result` and `reson`, or
an exception. -/
structure Programmer where
  programEcu : String → Except PyExc (Bool × String)
  programSoc : String → Except PyExc (Bool × String)

/-- What a job finds on its machine. -/
structure JobHost (π : Type) where
  /-- `os.path.join`. -/
  join : Param π → Param π → Except PyExc String
  /-- `os.path.exists`. -/
  pathExists : String → Bool
  /-- The value can be looked up in a dictionary. -/
  hashable : Param π → Bool
  /-- The constructor of `UDSClient`, with `txid`, `rxid` and `proto`. -/
  newClient : ℕ → ℕ → Param π → Except PyExc Programmer

/-- `ecu_list`: `txid` and `rxid` of the ECUs. -/
def ecuList : List (String × ℕ × ℕ) :=
  [("VCU", 0x700, 0x780), ("BMS", 0x701, 0x781), ("HVDC", 0x702, 0x782), ("TMS", 0x703, 0x783),
    ("MCU", 0x1101, 0x1001), ("SOC1", 0x1102, 0x1002), ("SOC2", 0x1103, 0x1003),
    ("SOC3", 0x1104, 0x1004)]

/-- The entry of `ecu_list` for a value. -/
def Param.ecu : Param π → Option (ℕ × ℕ)
  | .text name => ecuList.lookup name
  | _ => none

/-- The comparison of a value with a text. -/
def Param.eqText (p : Param π) (text : String) : Bool :=
  match p with
  | .text s => s == text
  | _ => false

namespace JobHost

variable (h : JobHost π)

/-- `os.path.exists(os.path.join(..))`. -/
def existsAt (dataPath name : Param π) : Option Bool :=
  (h.join dataPath name).toOption.map h.pathExists

/-- `UDSClient.CreateClient`: every exception is caught. -/
def createClient (ecu proto : Param π) : Option Programmer :=
  if !h.hashable ecu then none
  else match ecu.ecu with
    | some (txid, rxid) => (h.newClient txid rxid proto).toOption
    | none => (h.newClient 0x77F 0x7FF proto).toOption

end JobHost

/-! ### The body -/

/-- A job while its body runs, with the local variables `result` and `reson`. -/
structure JobRun where
  job : UpgradeJob
  verdict : Option (Bool × String)

variable (h : JobHost π) (params : List (String × Param π))

/-- `self.params[key]`. -/
def readParam (key : String) : Prog JobRun JobExc (Param π) :=
  match params.lookup key with
  | some value => pure value
  | none => raise (.keyError key)

/-- An expression that may raise. -/
def evaluate {α : Type} (r : Except PyExc α) : Prog JobRun JobExc α :=
  ofExcept (r.mapError .raised)

/-- Up to the assignment of `result` and `reson`. -/
def callMethod : Prog JobRun JobExc (Bool × String) := do
  let ecu ← readParam params "name"
  let proto ← readParam params "proto"
  let upgradeType ← readParam params "upgrade_type"
  match h.createClient ecu proto with
  | none => raise .attributeError
  | some client =>
    let dataPath ← readParam params "data_path"
    let package ← readParam params "package"
    let path ← evaluate (h.join dataPath package)
    if upgradeType.eqText "program" then evaluate (client.programEcu path)
    else evaluate (client.programSoc path)

/-- `UpgradeJob.run`. -/
def UpgradeJob.run : Prog JobRun JobExc Unit := do
  let result ← callMethod h params
  Prog.modify fun s => { s with verdict := some result }
  Prog.modify fun s => { s with job := { s.job with upgradeSuccess := result.1 } }
  Prog.modify fun s => { s with job := { s.job with upgradeDone := true } }

/-! ### How the body ends -/

/-- The parameters are there, the client can be created, and the programming method returns. -/
def MethodReturns (result : Bool × String) : Prop :=
  ∃ ecu proto upgradeType dataPath package client path,
    params.lookup "name" = some ecu ∧ params.lookup "proto" = some proto ∧
    params.lookup "upgrade_type" = some upgradeType ∧ params.lookup "data_path" = some dataPath ∧
    params.lookup "package" = some package ∧ h.createClient ecu proto = some client ∧
    h.join dataPath package = .ok path ∧
    (if upgradeType.eqText "program" then client.programEcu path else client.programSoc path) =
      .ok result

variable {h params}

theorem readParam_eq_ok_iff {key : String} {value : Param π} {s t : JobRun} :
    readParam params key s = some (.ok value, t) ↔ params.lookup key = some value ∧ s = t := by
  unfold readParam
  cases params.lookup key with
  | none => simp
  | some v => simp

theorem evaluate_eq_ok_iff {α : Type} {r : Except PyExc α} {a : α} {s t : JobRun} :
    evaluate r s = some (.ok a, t) ↔ r = .ok a ∧ s = t := by
  unfold evaluate
  cases r with
  | error e => simp [Except.mapError]
  | ok b => simp [Except.mapError]

theorem readParam_unchanged (key : String) (u : JobRun) :
    Triple (· = u) (readParam params key) (fun _ t => t = u) (fun _ t => t = u) := by
  unfold readParam
  cases params.lookup key with
  | none => exact .raise _ fun _ h => h
  | some value => exact .pure _ fun _ h => h

theorem readParam_total (key : String) : Total (readParam params key) := by
  unfold readParam
  cases params.lookup key with
  | none => exact .raise _
  | some value => exact .pure _

theorem evaluate_unchanged {α : Type} (r : Except PyExc α) (u : JobRun) :
    Triple (· = u) (evaluate r) (fun _ t => t = u) (fun _ t => t = u) := by
  rintro s hs r' t ⟨⟩
  cases r with
  | error e => exact hs
  | ok a => exact hs

theorem evaluate_total {α : Type} (r : Except PyExc α) : Total (evaluate r) :=
  fun s => ⟨_, s, rfl⟩

theorem callMethod_eq_ok_iff {result : Bool × String} {s t : JobRun} :
    callMethod h params s = some (.ok result, t) ↔ MethodReturns h params result ∧ s = t := by
  unfold callMethod
  constructor
  · intro hrun
    obtain ⟨ecu, u, hread, hrun⟩ := bind_eq_ok_iff.1 hrun
    obtain ⟨hecu, rfl⟩ := readParam_eq_ok_iff.1 hread
    obtain ⟨proto, u, hread, hrun⟩ := bind_eq_ok_iff.1 hrun
    obtain ⟨hproto, rfl⟩ := readParam_eq_ok_iff.1 hread
    obtain ⟨upgradeType, u, hread, hrun⟩ := bind_eq_ok_iff.1 hrun
    obtain ⟨htype, rfl⟩ := readParam_eq_ok_iff.1 hread
    cases hclient : h.createClient ecu proto with
    | none =>
      rw [hclient] at hrun
      cases hrun
    | some client =>
      rw [hclient] at hrun
      obtain ⟨dataPath, u, hread, hrun⟩ := bind_eq_ok_iff.1 hrun
      obtain ⟨hdata, rfl⟩ := readParam_eq_ok_iff.1 hread
      obtain ⟨package, u, hread, hrun⟩ := bind_eq_ok_iff.1 hrun
      obtain ⟨hpackage, rfl⟩ := readParam_eq_ok_iff.1 hread
      obtain ⟨path, u, hjoin, hrun⟩ := bind_eq_ok_iff.1 hrun
      obtain ⟨hpath, rfl⟩ := evaluate_eq_ok_iff.1 hjoin
      rw [← apply_ite evaluate] at hrun
      obtain ⟨hresult, rfl⟩ := evaluate_eq_ok_iff.1 hrun
      exact ⟨⟨ecu, proto, upgradeType, dataPath, package, client, path, hecu, hproto, htype,
        hdata, hpackage, hclient, hpath, hresult⟩, rfl⟩
  · rintro ⟨⟨ecu, proto, upgradeType, dataPath, package, client, path, hecu, hproto, htype,
      hdata, hpackage, hclient, hpath, hresult⟩, rfl⟩
    rw [bind_of_ok (readParam_eq_ok_iff.2 ⟨hecu, rfl⟩),
      bind_of_ok (readParam_eq_ok_iff.2 ⟨hproto, rfl⟩),
      bind_of_ok (readParam_eq_ok_iff.2 ⟨htype, rfl⟩), hclient]
    dsimp only
    rw [bind_of_ok (readParam_eq_ok_iff.2 ⟨hdata, rfl⟩),
      bind_of_ok (readParam_eq_ok_iff.2 ⟨hpackage, rfl⟩),
      bind_of_ok (evaluate_eq_ok_iff.2 ⟨hpath, rfl⟩), ← apply_ite evaluate]
    exact evaluate_eq_ok_iff.2 ⟨hresult, rfl⟩

/-- An exception leaves the job as it is. -/
theorem callMethod_unchanged (u : JobRun) :
    Triple (· = u) (callMethod h params) (fun _ t => t = u) (fun _ t => t = u) := by
  refine (readParam_unchanged _ u).bind fun ecu => (readParam_unchanged _ u).bind fun proto =>
    (readParam_unchanged _ u).bind fun upgradeType => ?_
  cases h.createClient ecu proto with
  | none => exact .raise _ fun _ h => h
  | some client =>
    refine (readParam_unchanged _ u).bind fun dataPath =>
      (readParam_unchanged _ u).bind fun package => (evaluate_unchanged _ u).bind fun path => ?_
    rw [← apply_ite evaluate]
    exact evaluate_unchanged _ u

variable (h params) in
theorem callMethod_total : Total (callMethod h params) := by
  refine (readParam_total _).bind fun ecu => (readParam_total _).bind fun proto =>
    (readParam_total _).bind fun upgradeType => ?_
  cases h.createClient ecu proto with
  | none => exact .raise _
  | some client =>
    exact (readParam_total _).bind fun dataPath => (readParam_total _).bind fun package =>
      (evaluate_total _).bind fun path => .ite (evaluate_total _) (evaluate_total _)

variable (h params) in
/-- **The two ways `run` ends**: both flags are set, or none. -/
theorem run_cases (u : JobRun) :
    (∃ result, MethodReturns h params result ∧
      UpgradeJob.run h params u = some (.ok (), ⟨⟨result.1, true⟩, some result⟩)) ∨
    (∀ result, ¬ MethodReturns h params result) ∧
      ∃ e, UpgradeJob.run h params u = some (.error e, u) := by
  obtain ⟨r, t, hcall⟩ := callMethod_total h params u
  cases r with
  | ok result =>
    obtain ⟨hreturns, rfl⟩ := callMethod_eq_ok_iff.1 hcall
    exact .inl ⟨result, hreturns, bind_of_ok hcall⟩
  | error e =>
    obtain rfl : t = u := (callMethod_unchanged u).error rfl hcall
    refine .inr ⟨fun result hreturns => ?_, e, bind_of_error hcall⟩
    rw [callMethod_eq_ok_iff.2 ⟨hreturns, rfl⟩] at hcall
    cases hcall

/-! ### The verdict -/

/-- A module whose job has stopped is marked done with the result of the job. -/
theorem Module.checkUpgradeDone_of_stopped [DecidableEq ν] {s : Campaign ν} {m : Module ν π}
    {job : Job} (hpolls : s.Polls m.name job) (hstop : job.isRunning 0 = .stopped) :
    m.checkUpgradeDone s =
      some (.ok (), (s.setJob m.name job.next).markFinished m.name job.isSuccess) := by
  unfold Module.checkUpgradeDone
  rw [bind_of_ok (get_apply s), if_pos hpolls.1, hpolls.2]
  dsimp only
  rw [bind_of_ok (modify_apply _ s), hstop]
  rfl

variable (ν π) in
/-- The job has stopped, with the result of the programming method as its verdict, and a module
that asks it is marked done with this verdict. -/
structure EndsWithVerdict [DecidableEq ν] (t : JobRun) : Prop where
  isRunning : t.job.isRunning = .stopped
  isSuccess : t.job.upgradeSuccess = true ↔ ∃ reson, t.verdict = some (true, reson)
  marked : ∀ (s : Campaign ν) (m : Module ν π), s.Polls m.name t.job.toJob →
    ∃ s', m.checkUpgradeDone s = some (.ok (), s') ∧
      (s'.modules m.name).upgradeDone = true ∧ (s'.modules m.name).inUpgrading = false ∧
      ((s'.modules m.name).upgradeSuccess = true ↔ ∃ reson, t.verdict = some (true, reson))

theorem endsWithVerdict_of_flags [DecidableEq ν] {t : JobRun} (hdone : t.job.upgradeDone = true)
    (hsuccess : t.job.upgradeSuccess = true ↔ ∃ reson, t.verdict = some (true, reson)) :
    EndsWithVerdict ν π t := by
  have hstop : t.job.isRunning = .stopped := by simp [UpgradeJob.isRunning, hdone]
  refine ⟨hstop, hsuccess, fun s m hpolls => ?_⟩
  refine ⟨_, Module.checkUpgradeDone_of_stopped hpolls hstop, by simp, by simp, ?_⟩
  rw [← hsuccess]
  simp [UpgradeJob.toJob]

/-- The constructor sets `upgrade_done` when a file of the job does not exist. -/
theorem UpgradeJob.upgradeDone_of_init {job : UpgradeJob}
    {pathExists : Param π → Param π → Option Bool}
    (hinit : UpgradeJob.init pathExists params = some job) :
    job.upgradeDone = !job.upgradeSuccess := by
  simp only [UpgradeJob.init, Option.bind_eq_bind, Option.bind_eq_some_iff] at hinit
  obtain ⟨dataPath, -, package, -, found, -, hinit⟩ := hinit
  split at hinit
  · cases hinit
    rfl
  · simp only [Option.bind_eq_some_iff] at hinit
    obtain ⟨-, -, packageChecksum, -, found, -, hinit⟩ := hinit
    cases found <;> cases hinit <;> rfl

/-- **When a job ends with a verdict.** After `run`, however it ended, the job has stopped with the
result of the programming method as its verdict, if and only if this method returned or the
constructor of the job did not find its files. -/
theorem endsWithVerdict_iff [DecidableEq ν] {job : UpgradeJob}
    (hinit : UpgradeJob.init h.existsAt params = some job) :
    (∃ r t, UpgradeJob.run h params ⟨job, none⟩ = some (r, t) ∧ EndsWithVerdict ν π t) ↔
      job.upgradeDone = true ∨ ∃ result, MethodReturns h params result := by
  have hflags := UpgradeJob.upgradeDone_of_init hinit
  rcases run_cases h params ⟨job, none⟩ with
    ⟨result, hreturns, hrun⟩ | ⟨hraises, e, hrun⟩
  · refine iff_of_true ⟨_, _, hrun, endsWithVerdict_of_flags rfl ?_⟩ (.inr ⟨result, hreturns⟩)
    simp [Prod.ext_iff]
  · constructor
    · rintro ⟨r, t, hrun', hends⟩
      obtain ⟨-, rfl⟩ : _ ∧ (⟨job, none⟩ : JobRun) = t := by simpa [hrun] using hrun'
      left
      by_contra hdone
      have hstop := hends.isRunning
      have hsuccess : job.upgradeSuccess = true := by simpa [hflags] using hdone
      simp [UpgradeJob.isRunning, hflags, hsuccess] at hstop
    · rintro (hdone | ⟨result, hreturns⟩)
      · have hfailed : job.upgradeSuccess = false := by simpa [hflags] using hdone
        exact ⟨_, _, hrun, endsWithVerdict_of_flags hdone (by simp [hfailed])⟩
      · exact absurd hreturns (hraises result)

/-- The parameters of a job, all of them there. -/
def fullParams : List (String × Param Unit) :=
  [("name", .text "SOC1"), ("proto", .text "can"), ("upgrade_type", .text "program"),
    ("data_path", .text "data"), ("package", .text "app.hex"),
    ("package_checksum", .text "app.hex.md5")]

/-- A machine on which all files exist, with a given end of the constructor of the client. -/
def hostWith (client : Except PyExc Programmer) : JobHost Unit where
  join _ _ := .ok "data/app.hex"
  pathExists _ := true
  hashable _ := true
  newClient _ _ _ := client

/-- A job whose programming method returned with a failure has it as its verdict. -/
theorem endsWithVerdict_iff_failed : ∃ r t,
    UpgradeJob.run (hostWith (.ok ⟨fun _ => .ok (false, "timeout"), fun _ => .error .other⟩))
      fullParams ⟨⟨true, false⟩, none⟩ = some (r, t) ∧ EndsWithVerdict ℕ Unit t := by
  have hinit : UpgradeJob.init
      (hostWith (.ok ⟨fun _ => .ok (false, "timeout"), fun _ => .error .other⟩)).existsAt
      fullParams = some ⟨true, false⟩ := rfl
  refine (endsWithVerdict_iff hinit).2 (.inr ⟨(false, "timeout"), ?_⟩)
  exact ⟨.text "SOC1", .text "can", .text "program", .text "data", .text "app.hex", _,
    "data/app.hex", rfl, rfl, rfl, rfl, rfl, rfl, rfl, rfl⟩

/-- A job whose client could not be created looks running. -/
theorem job_without_verdict : ¬ ∀ (h : JobHost Unit) (params : List (String × Param Unit))
    (job : UpgradeJob), UpgradeJob.init h.existsAt params = some job →
      ∃ r t, UpgradeJob.run h params ⟨job, none⟩ = some (r, t) ∧ EndsWithVerdict ℕ Unit t := by
  intro hclaim
  obtain ⟨r, t, hrun, hends⟩ := hclaim (hostWith (.error .timeout)) fullParams ⟨true, false⟩ rfl
  have hraised : UpgradeJob.run (hostWith (.error .timeout)) fullParams ⟨⟨true, false⟩, none⟩ =
      some (.error .attributeError, ⟨⟨true, false⟩, none⟩) := rfl
  obtain ⟨-, rfl⟩ : _ ∧ (⟨⟨true, false⟩, none⟩ : JobRun) = t := by simpa [hraised] using hrun
  cases hends.isRunning

/-! ### Jobs that call `ProgramSoc` -/

/-- The clients of this machine have the method `ProgramSoc`. -/
def JobHost.HasProgramSoc (h : JobHost π) : Prop :=
  ∀ ecu proto client, h.createClient ecu proto = some client → ∀ path result,
    client.programSoc path = .ok result → ∃ (σ : Type) (c : UdsClient σ) (m : Machine) (app : Bytes)
      (fuel : ℕ) (s : σ) (t : Session σ),
      programSoc c m app fuel ⟨s, [], []⟩ = some (.ok result, t)

/-- **A job that calls `ProgramSoc` stops with success or looks running forever**: the method has
no failure to return, and what it raises leaves the job as it is. -/
theorem running_of_soc_failed {job : UpgradeJob} {upgradeType : Param π} {t : JobRun}
    {r : Except JobExc Unit} (hsoc : h.HasProgramSoc) (hfound : job = ⟨true, false⟩)
    (hparam : params.lookup "upgrade_type" = some upgradeType)
    (htype : upgradeType.eqText "program" = false)
    (hrun : UpgradeJob.run h params ⟨job, none⟩ = some (r, t)) :
    t.job.isRunning = .stopped ∧ t.job.upgradeSuccess = true ∨ t.job.isRunning = .running := by
  subst hfound
  rcases run_cases h params ⟨⟨true, false⟩, none⟩ with ⟨result, hreturns, hends⟩ | ⟨-, e, hends⟩
  · obtain ⟨-, rfl⟩ : _ ∧ (⟨⟨result.1, true⟩, some result⟩ : JobRun) = t := by
      simpa [hends] using hrun
    obtain ⟨ecu, proto, type, dataPath, package, client, path, -, -, htype', -, -, hclient, -,
      hmethod⟩ := hreturns
    obtain rfl : upgradeType = type := by simpa [hparam] using htype'
    rw [htype, if_neg Bool.false_ne_true] at hmethod
    obtain ⟨σ, c, m, app, fuel, s, u, hprogram⟩ := hsoc ecu proto client hclient path result hmethod
    obtain ⟨rfl, -⟩ := programSoc_log hprogram
    exact .inl ⟨rfl, rfl⟩
  · obtain ⟨-, rfl⟩ : _ ∧ (⟨⟨true, false⟩, none⟩ : JobRun) = t := by simpa [hends] using hrun
    exact .inr rfl

end EcuUpgrade
