import EcuUpgrade.Lib.ShellWords
import EcuUpgrade.Routines.Checksum
import EcuUpgrade.Security.Installation
import EcuUpgrade.Transfer.Invariant
import Mathlib.Data.List.Induction

/-!
# File names in command lines

The name of an uploaded file is chosen by the client. `calcFileChecksum` and `RequestUpgradeFw`
append it to command lines as it is, without quoting it, and hand these to the shell.

## Main definitions

* `byteKind`, `shellWords`: how the shell reads a command line.
* `upgradeCommand`: the command line that unpacks the file.
* `OrdinaryName`: the last component of a path has no character that is special to the shell.

## Main results

* `ServerStep.commands`: the command lines contain the name that was set last.
* `name_is_one_word_iff`: **the shell reads the name as one word if and only if it has no special
  character.**
-/

namespace EcuUpgrade

open ShellWords

variable {B : Build} {s t : Sys} {x y : Exchange} {tr pre post : List Exchange}
  {args : FileTransferArgs} {name : Bytes}

/-- What a byte does in a command line of the POSIX shell, where it is not quoted. -/
def byteKind (c : UInt8) : Kind :=
  if c ∈ ascii [' ', '\t'] then .blank
  else if c ∈ ascii ['\n'] then .newline
  else if c ∈ ascii ['|', '&', ';', '<', '>', '(', ')'] then .operator
  else if c ∈ ascii ['\\'] then .backslash
  else if c ∈ ascii ['\''] then .singleQuote
  else if c ∈ ascii ['"'] then .doubleQuote
  else if c ∈ ascii ['$', '`'] then .dollar
  else if c ∈ ascii ['*', '?', '['] then .pattern
  else if c ∈ ascii ['#', '~'] then .leading
  else .plain

/-- The words that the shell reads in a command line, if it is a command with fixed words. -/
def shellWords (line : Bytes) : Option (List Bytes) := ShellWords.words byteKind line

/-- The command line by which the thread of `UpgradeServerT5::RequestUpgradeFw` unpacks the file. -/
def upgradeCommand (file : Bytes) : Bytes :=
  ascii ['t', 'a', 'r', ' ', 'x', 'v', 'f', ' '] ++ file ++
    ascii [' ', '-', 'C', ' ', '/', 'd', 'a', 't', 'a', '/', 'o', 't', 'a', '_', 'p', 'a', 'c', 'k',
      'a', 'g', 'e']

/-- No character of the last component of a path is special to the shell. -/
def OrdinaryName (path : Bytes) : Prop :=
  ∀ c ∈ cStr (eraseDirs path), byteKind c = .plain ∨ byteKind c = .leading

/-- The command line is read as the words `before`, the name and the words `behind`. -/
def ReadsName (line : Bytes) (before : List Bytes) (name : Bytes) (behind : List Bytes) : Prop :=
  shellWords (cStr line) = some (before ++ name :: behind)

/-! ### Reading the command lines -/

theorem fixed_of_plain {w : Bytes} (hne : w ≠ [])
    (hw : (w.all fun c => byteKind c = .plain) = true) : Fixed byteKind w := by
  have hplain (c : UInt8) (hc : c ∈ w) : byteKind c = .plain :=
    of_decide_eq_true (List.all_eq_true.1 hw c hc)
  exact ⟨hne, fun c hc => .inl (hplain c hc), fun c hc => by
    simp [hplain c (List.mem_of_mem_head? hc)]⟩

/-- When the name of an uploaded file can be written without quotes. -/
theorem fixed_fwFilename_iff (B : Build) (args : FileTransferArgs) :
    Fixed byteKind (cStr (B.fwFilename args)) ↔ OrdinaryName args.filePath := by
  have hdir : Fixed byteKind B.dataPath := by
    unfold Build.dataPath
    split
    · exact fixed_of_plain (by decide) (by decide)
    · exact fixed_of_plain (by decide) (by decide)
  have hslash : byteKind 0x2F = .plain := by decide
  rw [cStr_fwFilename]
  constructor
  · intro h c hc
    exact h.ordinary c (by simp [hc])
  · intro h
    refine hdir.append fun c hc => ?_
    rcases List.mem_cons.1 hc with rfl | hc
    · exact .inl hslash
    · exact h c hc

/-- A command line that is joined from fixed words and a name. -/
theorem shellWords_eq_iff {line : Bytes} {before behind : List Bytes}
    (hline : line = ([0x20] : Bytes).intercalate (before ++ name :: behind))
    (hbefore : ∀ w ∈ before, Fixed byteKind w) (hbehind : ∀ w ∈ behind, Fixed byteKind w) :
    shellWords line = some (before ++ name :: behind) ↔ Fixed byteKind name := by
  have hblank : byteKind 0x20 = .blank := by decide
  rw [hline, shellWords, words_intercalate_iff hblank]
  constructor
  · exact fun h => h name (by simp)
  · intro h w hw
    rcases List.mem_append.1 hw with hw | hw
    · exact hbefore w hw
    rcases List.mem_cons.1 hw with rfl | hw
    · exact h
    · exact hbehind w hw

/-- The words of `calcFileChecksum` in front of the name. -/
def checksumWords : List Bytes := [ascii ['m', 'd', '5', 's', 'u', 'm']]

/-- The words of `RequestUpgradeFw` in front of the name. -/
def upgradeWords : List Bytes := [ascii ['t', 'a', 'r'], ascii ['x', 'v', 'f']]

/-- The words of `RequestUpgradeFw` behind the name. They are lost if the name contains a NUL. -/
def targetWords (file : Bytes) : List Bytes :=
  if 0 ∈ file then []
  else [ascii ['-', 'C'], ascii ['/', 'd', 'a', 't', 'a', '/', 'o', 't', 'a', '_', 'p', 'a', 'c',
    'k', 'a', 'g', 'e']]

theorem cStr_eq_self {file : Bytes} (h : 0 ∉ file) : cStr file = file := by
  simpa [cStr] using cStr_append h []

/-- What follows a NUL is not read. -/
theorem cStr_append_of_mem {file : Bytes} (h : 0 ∈ file) (rest : Bytes) :
    cStr (file ++ rest) = cStr file := by
  induction file with
  | nil => cases h
  | cons c file ih =>
    unfold cStr at ih ⊢
    rw [List.cons_append, List.takeWhile_cons, List.takeWhile_cons]
    split_ifs with hc
    · have hmem : 0 ∈ file := (List.mem_cons.1 h).resolve_left fun h0 => by simp [← h0] at hc
      rw [ih hmem]
    · rfl

theorem readsName_checksum_iff (B : Build) (args : FileTransferArgs) :
    ReadsName (checksumCommand (B.fwFilename args)) checksumWords (cStr (B.fwFilename args)) [] ↔
      OrdinaryName args.filePath := by
  have hnul : (0 : UInt8) ∉ ascii ['m', 'd', '5', 's', 'u', 'm', ' '] := by decide
  rw [← fixed_fwFilename_iff B, ReadsName, checksumCommand, cStr_append hnul]
  refine shellWords_eq_iff ?_ (fun w hw => ?_) (by simp)
  · rw [checksumWords, List.singleton_append, List.intercalate_cons_cons,
      List.intercalate_singleton]
    rfl
  · obtain rfl := List.mem_singleton.1 hw
    exact fixed_of_plain (by decide) (by decide)

theorem readsName_upgrade_iff (B : Build) (args : FileTransferArgs) :
    ReadsName (upgradeCommand (B.fwFilename args)) upgradeWords (cStr (B.fwFilename args))
        (targetWords (B.fwFilename args)) ↔ OrdinaryName args.filePath := by
  have hnul : (0 : UInt8) ∉ ascii ['t', 'a', 'r', ' ', 'x', 'v', 'f', ' '] := by decide
  have hbefore : ∀ w ∈ upgradeWords, Fixed byteKind w := by
    intro w hw
    rcases List.mem_cons.1 hw with rfl | hw
    · exact fixed_of_plain (by decide) (by decide)
    · obtain rfl := List.mem_singleton.1 hw
      exact fixed_of_plain (by decide) (by decide)
  rw [← fixed_fwFilename_iff B, ReadsName, upgradeCommand, List.append_assoc, cStr_append hnul,
    targetWords]
  by_cases hzero : 0 ∈ B.fwFilename args
  · rw [if_pos hzero, cStr_append_of_mem hzero]
    refine shellWords_eq_iff ?_ hbefore (by simp)
    simp only [upgradeWords, List.cons_append, List.nil_append, List.intercalate_cons_cons,
      List.intercalate_singleton]
    rfl
  · rw [if_neg hzero, cStr_append hzero, cStr_eq_self hzero]
    refine shellWords_eq_iff ?_ hbefore fun w hw => ?_
    · simp only [upgradeWords, List.cons_append, List.nil_append, List.intercalate_cons_cons,
        List.intercalate_singleton, List.append_assoc]
      rfl
    · rcases List.mem_cons.1 hw with rfl | hw
      · exact fixed_of_plain (by decide) (by decide)
      · obtain rfl := List.mem_singleton.1 hw
        exact fixed_of_plain (by decide) (by decide)

/-! ### The command lines of a run -/

/-- **The command lines of an exchange** contain the name that was set last. -/
theorem ServerStep.commands (h : ServerStep B s x t) {effects : List Effect}
    (hlog : t.log = s.log ++ effects) {cmd : Bytes} (hcmd : .popen cmd ∈ effects) :
    cmd = checksumCommand s.app.fwFilename := by
  set P : Effect → Prop := fun e =>
    ∀ cmd, e = .popen cmd → cmd = checksumCommand s.app.fwFilename with hP
  have happends : Appends P s t := by
    by_cases hservice : x.service = some .routineControl
    · obtain ⟨u, hcall, rfl⟩ := h.call_setSend hservice
      have hu : Appends P (s.receive B x.env x.req) u :=
        routineControl0x31_appends (by simp [hP]) (by simp [hP, Sys.receive]) (by simp [hP])
          (by simp [hP]) hcall
      exact hu
    · refine h.appends.mono ?_
      rintro e ⟨service, hsome, hcauses⟩ cmd rfl
      cases service <;> simp_all [UDSService.Causes]
  obtain ⟨effects', hlog', hall⟩ := happends
  obtain rfl := List.append_cancel_left (hlog.symm.trans hlog')
  exact hall _ hcmd cmd rfl

theorem namedFile_append (hpost : ∀ z ∈ post, ¬z.NamesFile) :
    namedFile B (tr ++ post) = namedFile B tr := by
  induction post using List.reverseRecOn with
  | nil => rw [List.append_nil]
  | append_singleton post z ih =>
    rw [← List.append_assoc, namedFile_snoc, if_neg (hpost z (by simp))]
    exact ih fun z' hz' => hpost z' (by simp [hz'])

/-- The name that was set by the last request to receive a file. -/
theorem ServerRun.fwFilename_of_last (hrun : ServerRun B (pre ++ y :: post) s)
    (hy : y.Accepted .requestFileTransfer) (hpost : ∀ z ∈ post, ¬z.NamesFile)
    (hargs : fileTransferArgs.run y.req.buf = .ok args) :
    s.app.fwFilename = B.fwFilename args := by
  have hnames : y.NamesFile := ⟨hy.1, .inl hy.2⟩
  have hsplit : pre ++ y :: post = pre ++ [y] ++ post := by simp
  rw [(ServerRun.upgrade hrun).2, hsplit, namedFile_append hpost, namedFile_snoc, if_pos hnames,
    Request.fileName, hargs]

/-- **The shell reads the name as one word if and only if it has no special character.** In every
reachable state, after a request to receive a file was accepted and no other file was named since
then, every command line that is handed to the shell is read as intended, with the name of the
opened file as one word, if and only if no character of the last component of the path is special
to the shell: the command line of every exchange, and the one that the upgrade thread makes when it
reads `fw_filename_` in that state. This is so for both command lines and every path. -/
theorem name_is_one_word_iff (hrun : ServerRun B (pre ++ y :: post) s)
    (hy : y.Accepted .requestFileTransfer) (hpost : ∀ z ∈ post, ¬z.NamesFile)
    (hargs : fileTransferArgs.run y.req.buf = .ok args) :
    (∀ x t effects cmd, ServerStep B s x t → t.log = s.log ++ effects → .popen cmd ∈ effects →
        (ReadsName cmd checksumWords (cStr (B.fwFilename args)) [] ↔
          OrdinaryName args.filePath)) ∧
      (ReadsName (upgradeCommand s.app.fwFilename) upgradeWords (cStr (B.fwFilename args))
        (targetWords s.app.fwFilename) ↔ OrdinaryName args.filePath) ∧
      ∀ args : FileTransferArgs,
        (ReadsName (checksumCommand (B.fwFilename args)) checksumWords (cStr (B.fwFilename args))
          [] ↔ OrdinaryName args.filePath) ∧
        (ReadsName (upgradeCommand (B.fwFilename args)) upgradeWords (cStr (B.fwFilename args))
          (targetWords (B.fwFilename args)) ↔ OrdinaryName args.filePath) := by
  have hname : s.app.fwFilename = B.fwFilename args :=
    ServerRun.fwFilename_of_last hrun hy hpost hargs
  refine ⟨fun x t effects cmd hstep hlog hcmd => ?_, ?_, fun args =>
    ⟨readsName_checksum_iff B args, readsName_upgrade_iff B args⟩⟩
  · rw [hstep.commands hlog hcmd, hname]
    exact readsName_checksum_iff B args
  · rw [hname]
    exact readsName_upgrade_iff B args

instance (line : Bytes) (before : List Bytes) (name : Bytes) (behind : List Bytes) :
    Decidable (ReadsName line before name behind) := inferInstanceAs (Decidable (_ = _))

/-- A request to receive the file `a;reboot`. -/
def rebootRequest : Request := .ofBytes ([0x38, 1, 0, 8] ++
  ascii ['a', ';', 'r', 'e', 'b', 'o', 'o', 't'] ++ [0, 1, 3, 3]) (by simp [ascii]) fun _ => 0

/-- The arguments of this request. -/
def rebootArgs : FileTransferArgs := ⟨1, ascii ['a', ';', 'r', 'e', 'b', 'o', 'o', 't'], 0, 3, 3⟩

/-- The file `a` has an ordinary name. -/
theorem name_is_one_word_iff_a : ∃ tr s, ServerRun ⟨65535, .t5⟩ tr s ∧ tr.length = 1 ∧
    ReadsName (checksumCommand s.app.fwFilename) checksumWords
      (ascii ['/', 'd', 'a', 't', 'a', '/', 'a']) [] := by
  obtain ⟨tr, s, hrun, hlen, hlast, hname⟩ := exists_run_of_serve ⟨65535, .t5⟩ (.fair 0)
    (fun _ => none) [(.fair 0, addFileRequest 3)]
    (fun tr s => tr.length = 1 ∧ (∀ y ∈ tr, y.Accepted .requestFileTransfer ∧
      fileTransferArgs.run y.req.buf = .ok ⟨1, [0x61], 0, 3, 3⟩) ∧
      s.app.fwFilename = Build.fwFilename ⟨65535, .t5⟩ ⟨1, [0x61], 0, 3, 3⟩) (by decide +kernel)
  refine ⟨tr, s, hrun, hlen, ?_⟩
  obtain ⟨y, rfl⟩ := List.length_eq_one_iff.1 hlen
  obtain ⟨hy, hargs⟩ := hlast y (by simp)
  have hrun' : ServerRun ⟨65535, .t5⟩ ([] ++ y :: []) s := hrun
  obtain ⟨-, -, hlines⟩ := name_is_one_word_iff hrun' hy (by simp) hargs
  have hordinary : OrdinaryName [0x61] := by
    intro c hc
    have hlast : cStr (eraseDirs [0x61]) = [0x61] := by decide
    rw [hlast] at hc
    obtain rfl := List.mem_singleton.1 hc
    exact .inl (by decide)
  rw [hname]
  exact (hlines ⟨1, [0x61], 0, 3, 3⟩).1.2 hordinary

/-- The file name `a;reboot` is read as a name and another command. -/
theorem not_name_is_one_word : ¬∀ (B : Build) (tr : List Exchange) (y x : Exchange) (s t : Sys)
    (args : FileTransferArgs) (effects : List Effect) (cmd : Bytes), ServerRun B (tr ++ [y]) s →
      y.Accepted .requestFileTransfer → fileTransferArgs.run y.req.buf = .ok args →
      ServerStep B s x t → t.log = s.log ++ effects → .popen cmd ∈ effects →
      ReadsName cmd checksumWords (cStr (B.fwFilename args)) [] := by
  intro hclaim
  obtain ⟨tr, s, hrun, hlen, hlast, r, hprocess, hbefore, hafter⟩ :=
    exists_run_of_serve ⟨65535, .test⟩ (.fair 0) (fun _ => none) [(.fair 0, rebootRequest)]
      (fun tr s => tr.length = 1 ∧ (∀ y ∈ tr, y.Accepted .requestFileTransfer ∧
        fileTransferArgs.run y.req.buf = .ok rebootArgs) ∧
        ∃ r ∈ (processRequest ⟨65535, .test⟩ (.printing md5Line) s
          (checksumRequest (.replicate 16 0xAB))).toOption,
          .popen (checksumCommand (Build.fwFilename ⟨65535, .test⟩ rebootArgs)) ∉ s.log ∧
          .popen (checksumCommand (Build.fwFilename ⟨65535, .test⟩ rebootArgs)) ∈ r.2.log)
      (by decide +kernel)
  obtain ⟨y, rfl⟩ := List.length_eq_one_iff.1 hlen
  obtain ⟨hy, hargs⟩ := hlast y (by simp)
  cases heq : processRequest ⟨65535, .test⟩ (.printing md5Line) s
      (checksumRequest (.replicate 16 0xAB)) with
  | error e =>
    rw [heq] at hprocess
    cases hprocess
  | ok r' =>
    obtain rfl : r' = r := by simpa [heq, Except.toOption] using hprocess
    obtain ⟨c, t⟩ := r'
    have hstep : ServerStep ⟨65535, .test⟩ s ⟨_, _, c, t.srv.r.sendBuf⟩ t := ⟨heq, rfl⟩
    obtain ⟨effects, hlog, -⟩ := hstep.appends
    have hmem :
        .popen (checksumCommand (Build.fwFilename ⟨65535, .test⟩ rebootArgs)) ∈ effects := by
      rw [hlog] at hafter
      exact (List.mem_append.1 hafter).resolve_left hbefore
    have hread := hclaim _ [] y _ s t rebootArgs effects _ hrun hy hargs hstep hlog hmem
    exact absurd hread (by decide +kernel)

end EcuUpgrade
