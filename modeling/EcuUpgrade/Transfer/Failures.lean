import EcuUpgrade.Transfer.Decoder
import EcuUpgrade.Transfer.Invariant

/-!
# What failed requests leave of a transfer

The state of a transfer is spread over the UDS server, the application and the file system. The
handler of `RequestFileTransfer` takes every mode for one that stores a file, and it takes over the
new name before it knows whether the file can be opened. When `TransferData` fails, the UDS server
ends the transfer without telling the application, whose stream stays open.

## Main definitions

* `NothingTransferred`, `StoresOrNothing`: what a `RequestFileTransfer` may change.
* `Sys.Clean`: no stream is open unless a transfer is active.
* `AbortsTransfer`: a `TransferData` that ends a transfer.

## Main results

* `storesOrNothing_iff`: which requests change nothing but what they may.
* `clean_iff`: the runs all of whose states are clean are those without aborted transfers.
-/

namespace EcuUpgrade

open ResponseCode Runs

variable {B : Build} {env : Env} {s t : Sys} {q : Request} {x : Exchange}

/-! ### RequestFileTransfer -/

/-- The files, the members of the application and those of the transfer are as before. -/
structure NothingTransferred (s t : Sys) : Prop where
  fs : t.fs = s.fs
  fwFilename : Component.fwFilename.Same s t
  fwFile : Component.fwFile.Same s t
  transfer : Component.transfer.Same s t

/-- A request was accepted that stores a file, or nothing is changed. -/
def StoresOrNothing (s : Sys) (x : Exchange) (t : Sys) : Prop :=
  (x.req.HasSizes ∧ x.code = kPositiveResponse) ∨ NothingTransferred s t

/-- The name under which the file of a request is stored. -/
def Request.storedName (B : Build) (q : Request) : Bytes :=
  B.dataPath ++ [0x2F] ++ eraseDirs (bytesAt q.buf 4 (filePathLen q.buf))

/-- The request is refused for a field, or before its fields are looked into. -/
def RefusedForFields (s : Sys) (q : Request) : Prop :=
  s.srv.xferIsActive = true ∨ q.len < 4 ∨
    (q.HasSizes ∧ 8 < q.buf (4 + filePathLen q.buf + 1))

/-- A request that reaches the handler is one that stores a file if the file can be opened, and if
it cannot, the application has no stream open and knows the name already. -/
def HarmlessTransfer (B : Build) (s : Sys) (env : Env) (q : Request) : Prop :=
  if env.fopenFw then q.HasSizes
  else s.app.fwFile = none ∧ s.app.fwFilename = q.storedName B

/-- What is handed over has the path that was received. -/
theorem fwFilename_of_run {args : FileTransferArgs} (h : fileTransferArgs.run q.buf = .ok args) :
    B.fwFilename args = q.storedName B := by
  rw [run_fileTransferArgs] at h
  dsimp only at h
  split_ifs at h <;> exact Except.ok.inj h ▸ rfl

theorem fileTransferRefusal_receive {err : ResponseCode}
    (h : (s.receive B env q).fileTransferRefusal = some err) : RefusedForFields s q := by
  unfold Sys.fileTransferRefusal at h
  rw [receive_recvLen, receive_recvBuf] at h
  by_cases hactive : s.srv.xferIsActive = true
  · exact .inl hactive
  by_cases hlen : q.len < 4
  · exact .inr (.inl hlen)
  have hactive' : ¬(s.receive B env q).srv.xferIsActive = true := hactive
  rw [if_neg hactive', if_neg hlen, run_fileTransferArgs] at h
  dsimp only at h
  split_ifs at h with hsizes hrange
  · exact .inr (.inr ⟨hsizes, hrange⟩)

theorem not_refusedForFields {args : FileTransferArgs} (hinactive : s.srv.xferIsActive = false)
    (hlen : 4 ≤ q.len) (h : fileTransferArgs.run q.buf = .ok args) : ¬RefusedForFields s q := by
  rintro (hactive | hshort | ⟨hsizes, hrange⟩)
  · cases hactive.symm.trans hinactive
  · exact absurd hlen (Nat.not_le.2 hshort)
  · have hsizes : q.buf 1 = kAddFile ∨ q.buf 1 = kReplaceFile := hsizes
    rw [run_fileTransferArgs] at h
    dsimp only at h
    rw [if_pos hsizes, if_pos hrange] at h
    cases h

/-- **When a `RequestFileTransfer` changes nothing but what it may**: in every reachable state, if
it is refused for a field, or it stores a file and the file can be opened, or the file cannot be
opened and the application had no stream open and knew the name already. -/
theorem storesOrNothing_iff {tr : List Exchange} (h : ServerRun B tr s) (hstep : ServerStep B s x t)
    (hservice : x.service = some .requestFileTransfer) :
    StoresOrNothing s x t ↔ RefusedForFields s x.req ∨ HarmlessTransfer B s x.env x.req := by
  have hcall := hstep.1
  rw [processRequest_eq_call h.settings hservice rfl] at hcall
  have hcall' : requestFileTransfer0x38 B x.env (s.receive B x.env x.req) = (x.code, t) :=
    Except.ok.inj hcall
  rcases requestFileTransfer0x38_cases B x.env (s.receive B x.env x.req) with
    ⟨err, hrefusal, -, heq⟩ | ⟨args, hinactive, hlen, hrun, heq⟩
  · obtain ⟨-, rfl⟩ := Prod.mk.inj (hcall'.symm.trans heq)
    exact iff_of_true (.inr ⟨rfl, rfl, rfl, rfl, rfl, rfl, rfl, rfl⟩)
      (.inl (fileTransferRefusal_receive hrefusal))
  have hname : B.fwFilename args = x.req.storedName B := fwFilename_of_run hrun
  have hinactive' : s.srv.xferIsActive = false := hinactive
  rw [or_iff_right (not_refusedForFields hinactive' hlen hrun)]
  unfold StoresOrNothing HarmlessTransfer
  cases hopen : x.env.fopenFw with
  | true =>
    rw [hopen, if_pos rfl] at heq
    obtain ⟨hcode, rfl⟩ := Prod.mk.inj (hcall'.symm.trans heq)
    have hactive : ¬NothingTransferred s ((s.receive B x.env x.req).openTransfer B args) := by
      intro hnothing
      have hsame : true = s.srv.xferIsActive := hnothing.transfer.1
      cases hsame.trans hinactive'
    rw [or_iff_left hactive, if_pos rfl]
    exact and_iff_left hcode
  | false =>
    rw [hopen, if_neg Bool.false_ne_true] at heq
    obtain ⟨hcode, rfl⟩ := Prod.mk.inj (hcall'.symm.trans heq)
    have hnegative : ¬(x.req.HasSizes ∧ x.code = kPositiveResponse) := by
      rintro ⟨-, hpositive⟩
      cases hpositive.symm.trans hcode
    rw [or_iff_right hnegative, if_neg Bool.false_ne_true]
    constructor
    · intro hnothing
      have hfile : none = s.app.fwFile := hnothing.fwFile
      have hfilename : B.fwFilename args = s.app.fwFilename := hnothing.fwFilename
      exact ⟨hfile.symm, hfilename.symm.trans hname⟩
    · rintro ⟨hfile, hfilename⟩
      exact ⟨rfl, hname.trans hfilename.symm, hfile.symm, rfl, rfl, rfl, rfl, rfl⟩

/-- The request to store a file `a` of three bytes is answered positively. -/
theorem storesOrNothing_addFile : ∃ x t,
    ServerStep ⟨4095, .test⟩ (udsServerInit (.fair 0) fun _ => none) x t ∧
      x.req = addFileRequest 3 ∧
        StoresOrNothing (udsServerInit (.fair 0) fun _ => none) x t := by
  have hprocess : processRequest ⟨4095, .test⟩ (.fair 0) (udsServerInit (.fair 0) fun _ => none)
      (addFileRequest 3) = .ok (kPositiveResponse, _) := rfl
  have hstep : ServerStep ⟨4095, .test⟩ (udsServerInit (.fair 0) fun _ => none)
      ⟨addFileRequest 3, .fair 0, kPositiveResponse, _⟩ _ := ⟨hprocess, rfl⟩
  exact ⟨_, _, hstep, rfl,
    (storesOrNothing_iff (.start ⟨.fair 0, _, rfl⟩) hstep rfl).2 (.inr (.inl rfl))⟩

/-- A request to delete a file truncates it and starts a transfer. -/
theorem not_storesOrNothing_deleteFile : ¬∀ (B : Build) (tr : List Exchange) (s : Sys),
    ServerRun B tr s → ∀ x t, ServerStep B s x t → x.service = some .requestFileTransfer →
      StoresOrNothing s x t := by
  intro hclaim
  have hprocess : processRequest ⟨4095, .test⟩ (.fair 0) (udsServerInit (.fair 0) fun _ => none)
      (.ofBytes [0x38, 2, 0, 1, 0x61] (by simp) fun _ => 0) = .ok (kPositiveResponse, _) := rfl
  rcases hclaim ⟨4095, .test⟩ [] _ (.start ⟨.fair 0, _, rfl⟩)
      ⟨_, .fair 0, kPositiveResponse, _⟩ _ ⟨hprocess, rfl⟩ rfl with ⟨hsizes, -⟩ | hnothing
  · exact absurd hsizes (by decide)
  · have hactive : true = false := hnothing.transfer.1
    cases hactive

/-! ### TransferData -/

/-- No stream is open unless a transfer is active. -/
def Sys.Clean (s : Sys) : Prop := s.srv.xferIsActive = false → s.app.fwFile = none

/-- The block of a `TransferData` request is taken by an active transfer. -/
structure TakesBlock (s : Sys) (env : Env) (q : Request) : Prop where
  two_le : 2 ≤ q.len
  counter : q.buf 1 = s.srv.xferBlockSequenceCounter
  admitted : (s.srv.xferByteCounter + (q.len - 2)) % 2 ^ 64 ≤ s.srv.xferTotalBytes
  written : q.len - 2 ≤ env.fwriteFw

/-- The exchange is a `TransferData` whose block is not taken by the active transfer. -/
def AbortsTransfer (s : Sys) (x : Exchange) : Prop :=
  x.service = some .transferData ∧ s.srv.xferIsActive = true ∧ ¬TakesBlock s x.env x.req

/-- The exchange is a `RequestFileTransfer` that reaches its handler while a stream is open. -/
def OverwritesStream (s : Sys) (x : Exchange) : Prop :=
  x.service = some .requestFileTransfer ∧ ¬RefusedForFields s x.req ∧ s.app.fwFile ≠ none

theorem subSize16_eq (q : Request) {k : ℕ} (h : k ≤ q.len) : subSize16 q.len k = q.len - k := by
  have hlen := q.len_le
  rw [subSize16, subSize, if_pos h]
  exact Nat.mod_eq_of_lt (by omega)

/-- The stream of the transfer takes the block. -/
theorem blockAccepted_receive {path : Path} (hactive : s.srv.xferIsActive = true)
    (hopened : s.app.fwFile = some path) :
    BlockAccepted env (s.receive B env q) path ↔ TakesBlock s env q := by
  constructor
  · intro h
    have hsub := subSize16_eq q h.two_le
    refine ⟨h.two_le, h.counter, ?_, ?_⟩
    · rw [← hsub]
      exact h.admitted
    · rw [← hsub, ← receive_recvLen (B := B) (s := s), ← Sys.length_blockData]
      exact h.written
  · intro h
    have hsub := subSize16_eq q h.two_le
    refine ⟨hactive, h.two_le, h.counter, ?_, hopened, ?_⟩
    · rw [receive_recvLen, hsub]
      exact h.admitted
    · rw [Sys.length_blockData, receive_recvLen, hsub]
      exact h.written

/-- A stream is open while a transfer is active. -/
def Sys.Streams (s : Sys) : Prop := s.srv.xferIsActive = true → s.app.fwFile ≠ none

theorem Sys.Clean.of_same (h : s.Clean) (hactive : t.srv.xferIsActive = s.srv.xferIsActive)
    (hfile : Component.fwFile.Same s t) : t.Clean :=
  fun hinactive => Eq.trans hfile (h (hactive.symm.trans hinactive))

/-- A `TransferData` leaves the stream as it is, whether it continues the transfer or ends it. -/
theorem ServerStep.clean_transferData (hs : Settings s) (hstreams : s.Streams)
    (h : ServerStep B s x t) (hservice : x.service = some .transferData) :
    (AbortsTransfer s x → ¬t.Clean) ∧ (¬AbortsTransfer s x → s.Clean → t.Clean) := by
  have hfile : Component.fwFile.Same s t := by
    refine h.same (by simp) (by simp) fun service hsome => ?_
    obtain rfl : .transferData = service := Option.some.inj (hservice.symm.trans hsome)
    simp [UDSService.Touches]
  have hcall := h.1
  rw [processRequest_eq_call hs hservice rfl] at hcall
  have hcall' : transferData0x36 x.env (s.receive B x.env x.req) = (x.code, t) :=
    Except.ok.inj hcall
  rcases transferData0x36_cases x.env (s := s.receive B x.env x.req) hs.rcrrp with
    ⟨hinactive, heq⟩ | ⟨hactive, hno, hrefused⟩ | ⟨path, haccepted, heq⟩
  · obtain ⟨-, rfl⟩ := Prod.mk.inj (hcall'.symm.trans heq)
    have hinactive' : s.srv.xferIsActive = false := hinactive
    refine ⟨fun haborts => ?_, fun _ hclean => hclean.of_same rfl hfile⟩
    cases haborts.2.1.symm.trans hinactive'
  · rw [hcall'] at hrefused
    have hactive : s.srv.xferIsActive = true := hactive
    obtain ⟨path, hopened⟩ := Option.ne_none_iff_exists'.1 (hstreams hactive)
    refine ⟨fun _ hclean => ?_, fun hnot _ => ?_⟩
    · have hnone : s.app.fwFile = none := Eq.trans (Eq.symm hfile) (hclean hrefused.inactive)
      cases hopened.symm.trans hnone
    · refine absurd ⟨hservice, hactive, fun htakes => ?_⟩ hnot
      exact hno path ((blockAccepted_receive hactive hopened).2 htakes)
  · obtain ⟨-, rfl⟩ := Prod.mk.inj (hcall'.symm.trans heq)
    have hactive : s.srv.xferIsActive = true := haccepted.active
    have hopened : s.app.fwFile = some path := haccepted.opened
    have htakes : TakesBlock s x.env x.req := (blockAccepted_receive hactive hopened).1 haccepted
    refine ⟨fun haborts => absurd htakes haborts.2.2, fun _ _ hinactive => ?_⟩
    cases hactive.symm.trans hinactive

/-- A `RequestFileTransfer` closes what it does not open. -/
theorem ServerStep.clean_requestFileTransfer (hs : Settings s) (h : ServerStep B s x t)
    (hservice : x.service = some .requestFileTransfer) (hclean : s.Clean) : t.Clean := by
  have hcall := h.1
  rw [processRequest_eq_call hs hservice rfl] at hcall
  have hcall' : requestFileTransfer0x38 B x.env (s.receive B x.env x.req) = (x.code, t) :=
    Except.ok.inj hcall
  rcases requestFileTransfer0x38_cases B x.env (s.receive B x.env x.req) with
    ⟨err, -, -, heq⟩ | ⟨args, -, -, -, heq⟩
  · obtain ⟨-, rfl⟩ := Prod.mk.inj (hcall'.symm.trans heq)
    exact hclean.of_same rfl rfl
  · split_ifs at heq
    · obtain ⟨-, rfl⟩ := Prod.mk.inj (hcall'.symm.trans heq)
      intro hinactive
      cases hinactive
    · obtain ⟨-, rfl⟩ := Prod.mk.inj (hcall'.symm.trans heq)
      exact fun _ => rfl

/-- A `RequestTransferExit` closes the stream. -/
theorem ServerStep.clean_requestTransferExit (hs : Settings s) (h : ServerStep B s x t)
    (hservice : x.service = some .requestTransferExit) (hclean : s.Clean) : t.Clean := by
  have hcall := h.1
  rw [processRequest_eq_call hs hservice rfl] at hcall
  have hcall' : requestTransferExit0x37 (s.receive B x.env x.req) = .ok (x.code, t) := hcall
  rcases requestTransferExit0x37_cases (s.receive B x.env x.req) with
    ⟨-, heq⟩ | ⟨-, -, heq⟩ | ⟨path, -, -, heq⟩
  · obtain ⟨-, rfl⟩ := Prod.mk.inj (Except.ok.inj (hcall'.symm.trans heq))
    exact hclean.of_same rfl rfl
  · cases hcall'.symm.trans heq
  · obtain ⟨-, rfl⟩ := Prod.mk.inj (Except.ok.inj (hcall'.symm.trans heq))
    exact fun _ => rfl

/-- **What an exchange does to the stream**: an aborted transfer leaves it open, and every other
exchange keeps a clean state clean. -/
theorem ServerStep.clean (hs : Settings s) (hstreams : s.Streams) (h : ServerStep B s x t) :
    (AbortsTransfer s x → ¬t.Clean) ∧ (¬AbortsTransfer s x → s.Clean → t.Clean) := by
  by_cases hdata : x.service = some .transferData
  · exact h.clean_transferData hs hstreams hdata
  refine ⟨fun haborts => absurd haborts.1 hdata, fun _ hclean => ?_⟩
  by_cases hfile : x.service = some .requestFileTransfer
  · exact h.clean_requestFileTransfer hs hfile hclean
  by_cases hexit : x.service = some .requestTransferExit
  · exact h.clean_requestTransferExit hs hexit hclean
  have hsame (k : Component) (hk : k = .transfer ∨ k = .fwFile) : k.Same s t := by
    refine h.same (by rcases hk with rfl | rfl <;> simp) (by rcases hk with rfl | rfl <;> simp)
      fun service hsome => ?_
    rcases hk with rfl | rfl <;> cases service <;> simp_all [UDSService.Touches]
  exact hclean.of_same (hsame .transfer (.inl rfl)).1 (hsame .fwFile (.inr rfl))

/-! ### Runs -/

/-- An exchange, with the state in which it takes place. -/
def MarkedStep (B : Build) (s : Sys) (l : Sys × Exchange) (t : Sys) : Prop :=
  l.1 = s ∧ ServerStep B s l.2 t

/-- A run of the server, with the states it passes through. -/
abbrev MarkedRun (B : Build) : List (Sys × Exchange) → Sys → Prop := Run ServerStart (MarkedStep B)

/-- All states of a run are clean, and no stream is overwritten. -/
structure CleanRun (tr : List (Sys × Exchange)) (s : Sys) : Prop where
  passed : ∀ l ∈ tr, l.1.Clean
  kept : ∀ l ∈ tr, ¬OverwritesStream l.1 l.2
  reached : s.Clean

theorem MarkedRun.serverRun {tr : List (Sys × Exchange)} (h : MarkedRun B tr s) :
    ServerRun B (tr.map Prod.snd) s := by
  induction h with
  | start h => exact .start h
  | @snoc tr s t l _ hstep ih =>
    rw [List.map_append]
    exact ih.snoc hstep.2

theorem ServerRun.exists_marked {tr : List Exchange} (h : ServerRun B tr s) :
    ∃ marked, MarkedRun B marked s ∧ marked.map Prod.snd = tr := by
  induction h with
  | start h => exact ⟨[], .start h, rfl⟩
  | @snoc tr s t x _ hstep ih =>
    obtain ⟨marked, hmarked, rfl⟩ := ih
    exact ⟨marked ++ [(s, x)], hmarked.snoc ⟨rfl, hstep⟩, by simp⟩

/-- A clean state has no stream that could be overwritten. -/
theorem Sys.Clean.not_overwritesStream (h : s.Clean) : ¬OverwritesStream s x := by
  rintro ⟨-, hreached, hopen⟩
  refine hopen (h ?_)
  by_contra hactive
  exact hreached (.inl (by simpa using hactive))

/-- **When aborted transfers are cleaned up**: never. All states of a run are clean, so that no
stream is overwritten, if and only if it aborts no transfer. -/
theorem clean_iff {tr : List (Sys × Exchange)} (h : MarkedRun B tr s) :
    CleanRun tr s ↔ ∀ l ∈ tr, ¬AbortsTransfer l.1 l.2 := by
  induction h with
  | @start s h =>
    obtain ⟨env, fs, rfl⟩ := h
    exact iff_of_true ⟨by simp, by simp, fun _ => rfl⟩ (by simp)
  | @snoc tr s t l hrun hstep ih =>
    obtain ⟨rfl, hstep⟩ := hstep
    have hserver := MarkedRun.serverRun hrun
    have hstreams : l.1.Streams := fun hactive hnone => by
      obtain ⟨path, hholds, -⟩ := ServerRun.holds hserver hactive
      cases hholds.opened.symm.trans hnone
    obtain ⟨haborts, hclean⟩ := hstep.clean (ServerRun.settings hserver) hstreams
    simp only [List.mem_append, List.mem_singleton, or_imp, forall_and, forall_eq]
    constructor
    · rintro ⟨hpassed, hkept, hreached⟩
      have hpassed' : ∀ l' ∈ tr, _ := fun l' hl' => hpassed l' (by simp [hl'])
      have hkept' : ∀ l' ∈ tr, _ := fun l' hl' => hkept l' (by simp [hl'])
      exact ⟨ih.1 ⟨hpassed', hkept', hpassed l (by simp)⟩, fun hfails => haborts hfails hreached⟩
    · rintro ⟨hbefore, hlast⟩
      obtain ⟨hpassed, hkept, hreached⟩ := ih.2 hbefore
      refine ⟨fun l' hl' => ?_, fun l' hl' => ?_, hclean hlast hreached⟩
      · rcases List.mem_append.1 hl' with hl' | hl'
        · exact hpassed l' hl'
        · exact List.mem_singleton.1 hl' ▸ hreached
      · rcases List.mem_append.1 hl' with hl' | hl'
        · exact hkept l' hl'
        · exact List.mem_singleton.1 hl' ▸ hreached.not_overwritesStream

/-- A transfer is opened, and its first block has the counter of the second. -/
theorem exists_aborted : ∃ tr s, ServerRun ⟨4095, .test⟩ tr s ∧
    (s.srv.xferIsActive = false ∧ s.app.fwFile ≠ none) :=
  exists_run_of_serve ⟨4095, .test⟩ (.fair 0) (fun _ => none)
    [(.fair 0, addFileRequest 3), (.fair 0, .ofBytes [0x36, 2, 7, 8] (by simp) fun _ => 0)]
    (fun _ s => s.srv.xferIsActive = false ∧ s.app.fwFile ≠ none) (by decide +kernel)

/-- The run with a wrong counter is not clean, and aborts a transfer; a run that opens a transfer
and ends it by the exit is clean. -/
theorem clean_iff_wrong_counter :
    (∃ tr s, MarkedRun ⟨4095, .test⟩ tr s ∧ ¬CleanRun tr s ∧ ∃ l ∈ tr, AbortsTransfer l.1 l.2) ∧
    ∃ tr s, MarkedRun ⟨4095, .test⟩ tr s ∧ (∃ l ∈ tr, l.1.app.fwFile ≠ none) ∧ CleanRun tr s := by
  constructor
  · obtain ⟨tr, s, hrun, hinactive, hopen⟩ := exists_aborted
    obtain ⟨marked, hmarked, -⟩ := ServerRun.exists_marked hrun
    have hunclean : ¬CleanRun marked s := fun hclean => hopen (hclean.reached hinactive)
    rw [clean_iff hmarked] at hunclean
    push Not at hunclean
    exact ⟨marked, s, hmarked, fun hclean => hopen (hclean.reached hinactive), hunclean⟩
  · obtain ⟨tr, s, hrun, hopen, hservice⟩ := exists_run_of_serve ⟨4095, .test⟩ (.fair 0)
      (fun _ => none) [(.fair 0, addFileRequest 3)]
      (fun tr s => (s.srv.xferIsActive = true ∧ s.app.fwFile ≠ none) ∧
        ∀ x ∈ tr, x.service ≠ some .transferData) (by decide +kernel)
    obtain ⟨marked, hmarked, rfl⟩ := ServerRun.exists_marked hrun
    obtain ⟨path, hpath, -⟩ := ServerRun.holds hrun hopen.1
    have hexit := processRequest_exit (B := ⟨4095, .test⟩) (ServerRun.settings hrun) (.fair 0)
      (rfl : getServiceForSID (exitRequest.buf 0) = _) hopen.1 hpath.opened
    have hended := hmarked.snoc (l := (s, ⟨exitRequest, .fair 0, kPositiveResponse, _⟩))
      ⟨rfl, hexit, rfl⟩
    refine ⟨_, _, hended, ⟨_, List.mem_append_right _ (List.mem_singleton_self _), hopen.2⟩,
      (clean_iff hended).2 fun l hl => ?_⟩
    rintro ⟨htransfer, -⟩
    rcases List.mem_append.1 hl with hl | hl
    · exact hservice l.2 (List.mem_map_of_mem hl) htransfer
    · obtain rfl := List.mem_singleton.1 hl
      cases htransfer

/-- The wrong counter leaves a state without transfer in which the stream is open. -/
theorem not_clean_wrong_counter :
    ¬∀ (B : Build) (tr : List Exchange) (s : Sys), ServerRun B tr s → s.Clean := by
  intro hclaim
  obtain ⟨tr, s, hrun, hinactive, hopen⟩ := exists_aborted
  exact hopen (hclaim _ _ _ hrun hinactive)

end EcuUpgrade
