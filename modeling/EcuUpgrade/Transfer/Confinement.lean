import EcuUpgrade.Lib.Paths
import EcuUpgrade.Security.Installation
import EcuUpgrade.Transfer.Invariant

/-!
# Uploaded files stay in the data directory

`HandleRequestFileTransfer` keeps the last component of the path it receives, with the slash in
front of it, and appends it to the data directory and another slash. The name may still be empty,
or one or two dots, and then leads to a directory, which `fopen` does not open for writing. Links
in the data directory are not considered, and neither is what the shell does to files with the
command lines of `RoutineControl`: the results are about the other requests.

## Main definitions

* `UploadName`: the data directory, one or two slashes and a name without slashes.
* `Exchange.Creates`: the request creates a file.
* `Confined`: the file open for a transfer lies below the data directory.

## Main results

* `ServerStep.file_cases`: the files that a handler changes.
* `uploads_confined`: **uploaded files stay in the data directory.**
-/

namespace EcuUpgrade

open Runs Paths

variable {B : Build} {s t : Sys} {x : Exchange} {tr : List Exchange} {path : Path}
  {IsDirectory : List Path → Prop}

/-- The names of the directories above a file, and its own. -/
def components (path : Path) : List Path := resolve 0x2F 0x2E path

/-- The data directory. -/
def Build.dataDir (B : Build) : List Path := components B.dataPath

/-- The data path, followed by one or two slashes and a suffix without slashes. -/
def UploadName (B : Build) (path : Path) : Prop :=
  ∃ suffix, 0x2F ∉ suffix ∧
    (path = B.dataPath ++ [0x2F] ++ suffix ∨ path = B.dataPath ++ [0x2F, 0x2F] ++ suffix)

/-- The request creates the file `path`, or truncates it: it reaches its handler, and the file can
be opened for writing. -/
def Exchange.Creates (x : Exchange) (B : Build) (path : Path) : Prop :=
  x.NamesFile ∧ x.env.fopenFw = true ∧ path = cStr (x.req.fileName B)

/-- The file open for a transfer lies below the data directory. -/
def Confined (B : Build) (s : Sys) : Prop :=
  ∀ path, s.app.fwFile = some path → Below B.dataDir (components path)

/-! ### File names -/

theorem slash_not_mem_tail_cStr (filename : Bytes) :
    0x2F ∉ (cStr (eraseDirs filename)).tail := fun hmem =>
  slash_not_mem_tail_eraseDirs filename ((List.takeWhile_sublist _).tail.subset hmem)

/-- **The name of an uploaded file**, whatever path was received. -/
theorem uploadName_cStr (B : Build) (args : FileTransferArgs) :
    UploadName B (cStr (B.fwFilename args)) := by
  have htail := slash_not_mem_tail_cStr args.filePath
  rw [cStr_fwFilename]
  cases hname : cStr (eraseDirs args.filePath) with
  | nil => exact ⟨[], List.not_mem_nil, .inl (by simp)⟩
  | cons c rest =>
    rw [hname, List.tail_cons] at htail
    by_cases hc : c = 0x2F
    · exact ⟨rest, htail, .inr (by simp [hc])⟩
    · exact ⟨c :: rest, by simp [Ne.symm hc, htail], .inl (by simp)⟩

/-- **An uploaded file** is a file of the data directory, or that directory or one above it. -/
theorem UploadName.components (h : UploadName B path) :
    (∃ name, components path = B.dataDir ++ [name]) ∨ EcuUpgrade.components path <+: B.dataDir := by
  obtain ⟨suffix, hsuffix, hpath⟩ := h
  have hdir (dir : Path) (hdir : EcuUpgrade.components dir = B.dataDir)
      (hpath : path = dir ++ 0x2F :: suffix) :
      (∃ name, EcuUpgrade.components path = B.dataDir ++ [name]) ∨
        EcuUpgrade.components path <+: B.dataDir := by
    rw [hpath, ← hdir]
    exact (resolve_name dir hsuffix).imp_left fun heq => ⟨suffix, heq⟩
  rcases hpath with hpath | hpath
  · exact hdir B.dataPath rfl (by simpa using hpath)
  · exact hdir (B.dataPath ++ [0x2F]) (resolve_append_sep B.dataPath) (by simpa using hpath)

/-- The file of the data identifier lies below the data directory. -/
theorem below_didFile (B : Build) : Below B.dataDir (components B.didFile) := by
  have hfile : ∀ target, Below (Build.dataDir ⟨0, target⟩)
      (components (Build.didFile ⟨0, target⟩)) := by
    intro target
    cases target with
    | t5 => decide
    | test => decide
  exact hfile B.target

/-! ### Exchanges -/

/-- A file that is created. -/
theorem Exchange.creates_of_args {args : FileTransferArgs} (hx : x.NamesFile)
    (hopen : x.env.fopenFw = true) (hargs : fileTransferArgs.run x.req.buf = .ok args) :
    x.Creates B (cStr (B.fwFilename args)) := by
  refine ⟨hx, hopen, ?_⟩
  rw [Request.fileName, hargs]

/-- **The files that a handler changes** with its own calls: the one that the request creates, the
one open for the transfer, and that of the data identifier. -/
theorem ServerStep.file_cases (h : ServerStep B s x t) (hpath : t.fs path ≠ s.fs path) :
    x.Creates B path ∨ s.app.fwFile = some path ∨ path = B.didFile := by
  by_cases hdata : x.service = some .transferData
  · refine .inr (.inl (by_contra fun hstream => hpath ?_))
    obtain ⟨u, hcall, rfl⟩ := h.call_setSend hdata
    obtain rfl : u = _ := congrArg Prod.snd (Except.ok.inj hcall).symm
    exact transferData0x36_file hstream
  by_cases hfile : x.service = some .requestFileTransfer
  · rcases h.fileTransfer_cases hfile with ⟨-, -, -, hfs, -⟩ |
      ⟨args, hargs, hnames, -, -, ⟨-, -, hfs⟩ | ⟨hopen, -, hfs⟩⟩
    · exact absurd (congrFun hfs path) hpath
    · exact absurd (congrFun hfs path) hpath
    · obtain rfl : path = cStr (B.fwFilename args) := by_contra fun hne => hpath (hfs path hne)
      exact .inl (Exchange.creates_of_args hnames hopen hargs)
  refine .inr (.inr (by_contra fun hne => hpath ?_))
  exact h.file_of_services (fun _ => hne) hdata hfile

/-- A file that is open after an exchange was open before it, or the exchange created it. -/
theorem ServerStep.fwFile_cases (h : ServerStep B s x t) (hpath : t.app.fwFile = some path) :
    x.Creates B path ∨ s.app.fwFile = some path := by
  by_cases hexit : x.service = some .requestTransferExit
  · obtain ⟨u, hcall, rfl⟩ := h.call_setSend hexit
    have hcall' : requestTransferExit0x37 (s.receive B x.env x.req) = .ok (x.code, u) := hcall
    rcases requestTransferExit0x37_cases (s.receive B x.env x.req) with
      ⟨-, heq⟩ | ⟨-, -, heq⟩ | ⟨path, -, -, heq⟩
    · obtain ⟨-, rfl⟩ := Prod.mk.inj (Except.ok.inj (hcall'.symm.trans heq))
      exact .inr hpath
    · cases hcall'.symm.trans heq
    · obtain ⟨-, rfl⟩ := Prod.mk.inj (Except.ok.inj (hcall'.symm.trans heq))
      cases hpath
  by_cases hfile : x.service = some .requestFileTransfer
  · rcases h.fileTransfer_cases hfile with ⟨-, -, hstream, -⟩ |
      ⟨args, hargs, hnames, -, -, ⟨-, hstream, -⟩ | ⟨hopen, hstream, -⟩⟩
    · exact .inr (hstream.symm.trans hpath)
    · cases hstream.symm.trans hpath
    · obtain rfl := Option.some.inj (hstream.symm.trans hpath)
      exact .inl (Exchange.creates_of_args hnames hopen hargs)
  · have hsame : t.app.fwFile = s.app.fwFile := h.fwFile_of_services hexit hfile
    exact .inr (hsame.symm.trans hpath)

/-- A created file has the name of an uploaded file. -/
theorem ServerStep.uploadName_of_creates (h : ServerStep B s x t) (hx : x.Creates B path) :
    UploadName B path := by
  obtain ⟨hnames, -, rfl⟩ := hx
  rcases h.fileTransfer_cases hnames.1 with ⟨hnot, -⟩ | ⟨args, hargs, -⟩
  · exact absurd hnames hnot
  · rw [Request.fileName, hargs]
    exact uploadName_cStr B args

/-- **A created file is a file of the data directory**, if no directory can be opened for writing.
-/
theorem ServerStep.creates_file (h : ServerStep B s x t)
    (hdirs : ∀ dir, dir <+: B.dataDir → IsDirectory dir)
    (hfopen : ∀ path, x.Creates B path → ¬IsDirectory (components path)) (hx : x.Creates B path) :
    ∃ name, components path = B.dataDir ++ [name] :=
  (h.uploadName_of_creates hx).components.resolve_right fun hprefix =>
    hfopen path hx (hdirs _ hprefix)

/-! ### Runs -/

theorem Confined.step (hs : Confined B s) (h : ServerStep B s x t)
    (hdirs : ∀ dir, dir <+: B.dataDir → IsDirectory dir)
    (hfopen : ∀ path, x.Creates B path → ¬IsDirectory (components path)) : Confined B t := by
  intro path hpath
  rcases h.fwFile_cases hpath with hcreates | hopen
  · obtain ⟨name, hname⟩ := h.creates_file hdirs hfopen hcreates
    rw [hname]
    exact below_append_singleton _ name
  · exact hs path hopen

theorem ServerRun.confined (hrun : ServerRun B tr s)
    (hdirs : ∀ dir, dir <+: B.dataDir → IsDirectory dir)
    (hfopen : ∀ x ∈ tr, ∀ path, x.Creates B path → ¬IsDirectory (components path)) :
    Confined B s := by
  refine Run.invariant (P := fun tr s => (∀ x ∈ tr, ∀ path, x.Creates B path →
    ¬IsDirectory (components path)) → Confined B s) ?_ ?_ hrun hfopen
  · rintro s ⟨env, fs, rfl⟩ - path hpath
    cases hpath
  · rintro tr s x t - ih hstep hfopen
    exact (ih fun y hy => hfopen y (by simp [hy])).step hstep hdirs (hfopen x (by simp))

/-- **Uploaded files stay in the data directory.** In every reachable state, and whatever path a
`RequestFileTransfer` contains, the string that is passed to `fopen` is the data path followed by
one or two slashes and a suffix without slashes. If no directory can be opened for writing, the
file it names lies in the data directory, and no file that is not below it is created, truncated or
written by a request other than `RoutineControl`, whose handler runs command lines. -/
theorem uploads_confined (hrun : ServerRun B tr s) (hstep : ServerStep B s x t) :
    (∀ effects path, x.service = some .requestFileTransfer → t.log = s.log ++ effects →
        .fopen path ∈ effects → UploadName B path) ∧
      ∀ IsDirectory : List Path → Prop, (∀ dir, dir <+: B.dataDir → IsDirectory dir) →
        (∀ y ∈ tr ++ [x], ∀ path, y.Creates B path → ¬IsDirectory (components path)) →
        (∀ path, x.Creates B path → ∃ name, components path = B.dataDir ++ [name]) ∧
          (x.service ≠ some .routineControl → ∀ path, t.fs path ≠ s.fs path →
            Below B.dataDir (components path)) := by
  constructor
  · intro effects path hx hlog hmem
    rcases hstep.fileTransfer_cases hx with ⟨-, -, -, -, hlog'⟩ | ⟨args, -, -, -, hlog', -⟩
    · obtain rfl : effects = [] := by simpa using hlog.symm.trans hlog'
      cases hmem
    · obtain rfl := List.append_cancel_left (hlog.symm.trans hlog')
      obtain rfl : path = cStr (B.fwFilename args) := by simpa using hmem
      exact uploadName_cStr B args
  · intro IsDirectory hdirs hfopen
    have hx : ∀ path, x.Creates B path → ¬IsDirectory (components path) := hfopen x (by simp)
    have hcreates {path : Path} (hpath : x.Creates B path) :
        ∃ name, components path = B.dataDir ++ [name] := hstep.creates_file hdirs hx hpath
    refine ⟨fun path hpath => hcreates hpath, fun _ path hpath => ?_⟩
    rcases hstep.file_cases hpath with hpath | hopen | rfl
    · obtain ⟨name, hname⟩ := hcreates hpath
      rw [hname]
      exact below_append_singleton _ name
    · exact ServerRun.confined hrun hdirs (fun y hy => hfopen y (by simp [hy])) path hopen
    · exact below_didFile B

/-- A request to receive the file `../x`. -/
def parentRequest : Request := .ofBytes [0x38, 1, 0, 4, 0x2E, 0x2E, 0x2F, 0x78, 0, 1, 3, 3]
  (by simp) fun _ => 0

/-- The file `../x` is stored in the data directory. -/
theorem uploads_confined_parent : ∃ x t, ServerStep ⟨65535, .test⟩
    (udsServerInit (.fair 0) fun _ => none) x t ∧ x.req = parentRequest ∧
      (∀ path, .fopen path ∈ t.log → UploadName ⟨65535, .test⟩ path) ∧
      ∀ path, t.fs path ≠ none → Below [ascii ['t', 'm', 'p']] (components path) := by
  have hrun : ServerRun ⟨65535, .test⟩ [] (udsServerInit (.fair 0) fun _ => none) :=
    .start ⟨_, _, rfl⟩
  obtain ⟨x, t, hstep, hreq, -⟩ := exists_serverStep ⟨65535, .test⟩
    (udsServerInit (.fair 0) fun _ => none) (.fair 0) parentRequest (by decide +kernel)
  have hservice : x.service = some .requestFileTransfer := by
    unfold Exchange.service Exchange.sid
    rw [hreq]
    decide
  obtain ⟨hnames, hfiles⟩ := uploads_confined hrun hstep
  refine ⟨x, t, hstep, hreq, fun path => hnames t.log path hservice rfl, ?_⟩
  refine (hfiles (· <+: Build.dataDir ⟨65535, .test⟩) (fun dir hdir => hdir) ?_).2
    (by simp [hservice])
  intro y hy path hpath hprefix
  obtain rfl : y = x := by simpa using hy
  obtain rfl : path = cStr (y.req.fileName ⟨65535, .test⟩) := hpath.2.2
  rw [hreq] at hprefix
  exact absurd hprefix (by decide +kernel)

end EcuUpgrade
