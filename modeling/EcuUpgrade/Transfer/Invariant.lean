import EcuUpgrade.Server.TransferServices
import EcuUpgrade.Lib.BlockTransfer

/-!
# The transfer invariant

The `xfer` members of the UDS server and the stream of `UpgradeServer` together are a receiver of
block transfers: every run of the server is matched by a run of the receiver of
`EcuUpgrade.Lib.BlockTransfer`, in which positive answers to `RequestFileTransfer`,
`TransferData` and `RequestTransferExit` open a transfer, add a block and close it, and any other
answer to `TransferData` aborts it.

## Main definitions

* `Exchange.transferEvent`: what an exchange is for the receiver.
* `Holds`: the server holds the blocks of a receiving state.

## Main results

* `ServerRun.receives`: the simulation.
* `transfer_invariant`: the state of an active transfer is determined by the history.
* `exit_closes_transfer`: what a positive answer to `RequestTransferExit` guarantees.
-/

namespace EcuUpgrade

open ResponseCode BlockTransfer Runs

variable {B : Build} {env : Env} {s t : Sys} {x : Exchange} {tr : List Exchange}

/-! ### The receiver -/

/-- The compressed size declared by a `RequestFileTransfer` request. -/
def Request.declaredSize (q : Request) : ℕ :=
  match fileTransferArgs.run q.buf with
  | .ok args => args.fileSizeCompressed
  | .error _ => 0

/-- What an exchange is for the receiver of a transfer. -/
def Exchange.transferEvent (x : Exchange) : Event UInt8 :=
  match x.service with
  | some .requestFileTransfer =>
    if x.code = kPositiveResponse then .opened x.req.declaredSize else .other
  | some .transferData =>
    if x.code = kPositiveResponse then .block x.req.blockData else .aborted
  | some .requestTransferExit => if x.code = kPositiveResponse then .closed else .other
  | _ => .other

/-- The data of the `TransferData` requests accepted since the last accepted
`RequestFileTransfer`, in order. -/
def acceptedBlocks (tr : List Exchange) : List Bytes := blocks (tr.map Exchange.transferEvent)

/-- The size declared by the last accepted `RequestFileTransfer`. -/
def lastDeclaredSize (tr : List Exchange) : Option ℕ :=
  announced (tr.map Exchange.transferEvent)

/-- The condition under which the server takes a block, its counters being `size_t`. -/
def Admits (total received len : ℕ) : Prop :=
  (received % 2 ^ 64 + len) % 2 ^ 64 ≤ total ∧ len ≤ 65535

/-- The server holds the blocks of a transfer in the file `path`. -/
structure Holds (B : Build) (s : Sys) (path : Path) (total : ℕ) (held : List Bytes) : Prop where
  active : s.srv.xferIsActive = true
  opened : s.app.fwFile = some path
  contents : s.fs path = some held.flatten
  total : s.srv.xferTotalBytes = total
  bytes : s.srv.xferByteCounter = held.flatten.length % 2 ^ 64
  counter : s.srv.xferBlockSequenceCounter = UInt8.ofNat (1 + held.length)
  ne_didFile : path ≠ B.didFile

/-- The server is in a state of the receiver. -/
def Receives (B : Build) (s : Sys) : BlockTransfer.State UInt8 → Prop
  | .idle => s.srv.xferIsActive = false
  | .receiving total held => ∃ path, Holds B s path total held

/-! ### File names -/

theorem slash_not_mem_tail_eraseDirs (filename : Bytes) : 0x2F ∉ (eraseDirs filename).tail := by
  unfold eraseDirs
  split
  · next hnone =>
    rw [List.findIdx?_eq_none_iff] at hnone
    intro hmem
    simpa using hnone 0x2F (List.mem_reverse.2 (List.mem_of_mem_tail hmem))
  · next k hsome =>
    obtain ⟨hk, -, hbefore⟩ := List.findIdx?_eq_some_iff_getElem.1 hsome
    rw [List.length_reverse] at hk
    have hdrop : filename.length - 1 - k + 1 = filename.length - k := by omega
    rw [List.tail_drop, hdrop]
    intro hmem
    have hmem' : 0x2F ∈ filename.reverse.take k := by
      rw [List.take_reverse]
      exact List.mem_reverse.2 hmem
    obtain ⟨j, hj, hget⟩ := List.mem_take_iff_getElem.1 hmem'
    have hne := hbefore j (by omega)
    simp [hget] at hne

theorem zero_not_mem_dataPath (B : Build) : 0 ∉ B.dataPath := by
  unfold Build.dataPath
  split <;> decide

theorem cStr_append {l : Bytes} (h : 0 ∉ l) (m : Bytes) : cStr (l ++ m) = l ++ cStr m :=
  List.takeWhile_append_of_pos fun _ ha => decide_eq_true fun h0 => h (h0 ▸ ha)

theorem cStr_fwFilename (B : Build) (args : FileTransferArgs) :
    cStr (B.fwFilename args) = B.dataPath ++ 0x2F :: cStr (eraseDirs args.filePath) := by
  have hslash : (0 : UInt8) ∉ [(0x2F : UInt8)] := by decide
  rw [Build.fwFilename, List.append_assoc, cStr_append (zero_not_mem_dataPath B),
    cStr_append hslash]
  rfl

/-- The file of a transfer is never the file of the data identifier, which lies in a directory
below the data directory. -/
theorem cStr_fwFilename_ne_didFile (B : Build) (args : FileTransferArgs) :
    cStr (B.fwFilename args) ≠ B.didFile := by
  intro heq
  rw [cStr_fwFilename, Build.didFile, Build.didPath, List.append_assoc] at heq
  have hpath : cStr (eraseDirs args.filePath) =
      ascii ['d', 'i', 'd', 's', '/', 'F', '1', '5', 'A'] :=
    (List.cons.inj (List.append_cancel_left heq)).2
  have hmem : 0x2F ∈ (cStr (eraseDirs args.filePath)).tail := by
    rw [hpath]
    decide
  have hsub : List.Sublist (cStr (eraseDirs args.filePath)).tail (eraseDirs args.filePath).tail :=
    (List.takeWhile_sublist _).tail
  exact slash_not_mem_tail_eraseDirs _ (hsub.subset hmem)

/-! ### Steps -/

theorem Holds.of_same {path : Path} {total : ℕ} {held : List Bytes} (h : Holds B s path total held)
    (htransfer : Component.transfer.Same s t) (hfile : Component.fwFile.Same s t)
    (hcontents : (Component.file path).Same s t) : Holds B t path total held where
  active := htransfer.1.trans h.active
  opened := Eq.trans hfile h.opened
  contents := Eq.trans hcontents h.contents
  total := htransfer.2.2.1.trans h.total
  bytes := htransfer.2.2.2.1.trans h.bytes
  counter := htransfer.2.1.trans h.counter
  ne_didFile := h.ne_didFile

/-- A step that changes nothing of a transfer keeps the state of the receiver. -/
theorem Receives.of_same {a : BlockTransfer.State UInt8} (h : Receives B s a)
    (htransfer : Component.transfer.Same s t) (hfile : Component.fwFile.Same s t)
    (hcontents : ∀ path, path ≠ B.didFile → (Component.file path).Same s t) : Receives B t a := by
  cases a with
  | idle => exact htransfer.1.trans h
  | receiving total held =>
    obtain ⟨path, hpath⟩ := h
    exact ⟨path, hpath.of_same htransfer hfile (hcontents path hpath.ne_didFile)⟩

/-- An accepted block is added to those that are held. -/
theorem Holds.acceptBlock {path path' : Path} {total : ℕ} {held : List Bytes}
    (h : Holds B s path total held) (hacc : BlockAccepted env s path') :
    Holds B (s.acceptBlock path') path total (held ++ [s.blockData]) := by
  obtain rfl : path' = path := Option.some.inj (hacc.opened.symm.trans h.opened)
  have hfs : (s.acceptBlock path').fs path' = some ((s.fs path').getD [] ++ s.blockData) :=
    Sys.setFile_fs_self _ _ _
  refine ⟨h.active, h.opened, ?_, h.total, ?_, ?_, h.ne_didFile⟩
  · rw [hfs, h.contents]
    simp
  · have hbytes : (s.acceptBlock path').srv.xferByteCounter =
        (s.srv.xferByteCounter + subSize16 s.srv.r.recvLen 2) % 2 ^ 64 := rfl
    rw [hbytes, h.bytes, ← s.length_blockData, Nat.mod_add_mod]
    simp
  · have hcounter : (s.acceptBlock path').srv.xferBlockSequenceCounter =
        s.srv.xferBlockSequenceCounter + 1 := rfl
    rw [hcounter, h.counter, List.length_append, List.length_singleton, ← Nat.add_assoc,
      UInt8.ofNat_add (1 + held.length) 1]
    rfl

/-- A freshly opened transfer holds nothing. -/
theorem holds_openTransfer (B : Build) (s : Sys) (args : FileTransferArgs) :
    Holds B (s.openTransfer B args) (cStr (B.fwFilename args)) args.fileSizeCompressed [] where
  active := rfl
  opened := rfl
  contents := Sys.setFile_fs_self _ _ _
  total := rfl
  bytes := rfl
  counter := rfl
  ne_didFile := cStr_fwFilename_ne_didFile B args

theorem Receives.eq_idle {a : BlockTransfer.State UInt8} (h : Receives B s a)
    (hinactive : s.srv.xferIsActive = false) : a = .idle := by
  cases a with
  | idle => rfl
  | receiving total held =>
    obtain ⟨path, hpath⟩ := h
    simp [hpath.active] at hinactive

theorem Receives.eq_receiving {a : BlockTransfer.State UInt8} (h : Receives B s a)
    (hactive : s.srv.xferIsActive = true) :
    ∃ total held path, a = .receiving total held ∧ Holds B s path total held := by
  cases a with
  | idle => simp [show s.srv.xferIsActive = false from h] at hactive
  | receiving total held =>
    obtain ⟨path, hpath⟩ := h
    exact ⟨total, held, path, rfl, hpath⟩

/-- The step of the receiver that matches the call of a service, up to the answer. -/
structure ReceiverStep (B : Build) (e : Event UInt8) (a : BlockTransfer.State UInt8) (s u : Sys)
    (a' : BlockTransfer.State UInt8) : Prop where
  step : Step Admits a e a'
  receives : Receives B u a'
  notOpened : Component.notOpened.Same s u

/-- A `RequestFileTransfer` request opens a transfer or changes nothing that a receiver knows. -/
theorem receiverStep_requestFileTransfer {a : BlockTransfer.State UInt8} {c : ResponseCode}
    {u : Sys} (ha : Receives B s a) (h : requestFileTransfer0x38 B env s = (c, u)) :
    ∃ a', ReceiverStep B (if c = kPositiveResponse then .opened (match
      fileTransferArgs.run s.srv.r.recvBuf with
      | .ok args => args.fileSizeCompressed
      | .error _ => 0) else .other) a s u a' := by
  rcases requestFileTransfer0x38_cases B env s with
    ⟨err, -, herr, heq⟩ | ⟨args, hinactive, -, hargs, heq⟩
  · obtain ⟨rfl, rfl⟩ := Prod.mk.inj (h.symm.trans heq)
    rw [if_neg herr]
    exact ⟨a, .other a, ha.of_same (by simp) (by simp) (by simp), by simp⟩
  · obtain rfl := ha.eq_idle hinactive
    rw [hargs]
    split_ifs at heq with hopen
    · obtain ⟨rfl, rfl⟩ := Prod.mk.inj (h.symm.trans heq)
      rw [if_pos rfl]
      have hholds := holds_openTransfer B s args
      refine ⟨.receiving args.fileSizeCompressed [], .opened _, ⟨_, hholds⟩, ?_⟩
      simp [Sys.openTransfer, Component.same_startTransfer, Component.same_setFwFile,
        Component.same_setFile, Component.same_setFwFilename]
    · obtain ⟨rfl, rfl⟩ := Prod.mk.inj (h.symm.trans heq)
      rw [if_neg (by simp)]
      refine ⟨.idle, .other _, hinactive, ?_⟩
      simp [Sys.failToOpen, Component.same_setFwFile, Component.same_setFwFilename]

/-- A `TransferData` request adds a block or aborts the transfer. -/
theorem receiverStep_transferData {a : BlockTransfer.State UInt8} {c : ResponseCode} {u : Sys}
    (hs : Settings s) (ha : Receives B s a) (h : transferData0x36 env s = (c, u)) :
    (∃ a', ReceiverStep B (if c = kPositiveResponse then .block s.blockData else .aborted) a s u
      a') ∧ (c = kPositiveResponse → 2 ≤ s.srv.r.recvLen) := by
  rcases transferData0x36_cases env hs.rcrrp with
    ⟨hinactive, heq⟩ | ⟨hactive, -, hrefused⟩ | ⟨path, hacc, heq⟩
  · obtain ⟨rfl, rfl⟩ := Prod.mk.inj (h.symm.trans heq)
    rw [if_neg (by simp)]
    exact ⟨⟨.idle, .aborted a, hinactive, by simp⟩, by simp⟩
  · rw [h] at hrefused
    obtain ⟨total, held, path, rfl, hpath⟩ := ha.eq_receiving hactive
    rw [if_neg hrefused.negative]
    exact ⟨⟨.idle, .aborted _, hrefused.inactive, hrefused.notOpened (by simp [hpath.opened])⟩,
      fun hc => absurd hc hrefused.negative⟩
  · obtain ⟨rfl, rfl⟩ := Prod.mk.inj (h.symm.trans heq)
    obtain ⟨total, held, path', rfl, hpath⟩ := ha.eq_receiving hacc.active
    rw [if_pos rfl]
    have hdata : subSize16 s.srv.r.recvLen 2 ≤ 65535 := Nat.le_of_lt_succ (Nat.mod_lt _ (by decide))
    refine ⟨⟨.receiving total (held ++ [s.blockData]), .block ⟨?_, ?_⟩,
      ⟨path', hpath.acceptBlock hacc⟩, ?_⟩, fun _ => hacc.two_le⟩
    · rw [← hpath.bytes, s.length_blockData, ← hpath.total]
      exact hacc.admitted
    · rw [s.length_blockData]
      exact hdata
    · simp [Sys.acceptBlock, Component.same_countBytes, Component.same_setFile,
        Component.same_nextBlock]

/-- A `RequestTransferExit` request closes the transfer or changes nothing. -/
theorem receiverStep_requestTransferExit {a : BlockTransfer.State UInt8} {c : ResponseCode}
    {u : Sys} (ha : Receives B s a) (h : requestTransferExit0x37 s = .ok (c, u)) :
    ∃ a', ReceiverStep B (if c = kPositiveResponse then .closed else .other) a s u a' := by
  rcases requestTransferExit0x37_cases s with
    ⟨hinactive, heq⟩ | ⟨-, -, heq⟩ | ⟨path, hactive, -, heq⟩
  · obtain ⟨rfl, rfl⟩ := Prod.mk.inj (Except.ok.inj (h.symm.trans heq))
    rw [if_neg (by simp)]
    exact ⟨a, .other a, ha.of_same (by simp) (by simp) (by simp), by simp⟩
  · cases h.symm.trans heq
  · obtain ⟨rfl, rfl⟩ := Prod.mk.inj (Except.ok.inj (h.symm.trans heq))
    obtain ⟨total, held, path', rfl, -⟩ := ha.eq_receiving hactive
    rw [if_pos rfl]
    refine ⟨.idle, .closed, rfl, ?_⟩
    simp [Sys.closeTransfer, Component.same_resetTransfer, Component.same_setFwFile]

theorem blockData_receive {q : Request} (h : 2 ≤ q.len) :
    (s.receive B env q).blockData = q.blockData := by
  have hlen := q.len_le
  have hdata : subSize16 q.len 2 = q.len - 2 := by
    rw [subSize16, subSize, if_pos h]
    exact Nat.mod_eq_of_lt (by omega)
  rw [Sys.blockData, receive_recvLen, hdata]
  rfl

theorem Receives.receive {a : BlockTransfer.State UInt8} {q : Request} (ha : Receives B s a) :
    Receives B (s.receive B env q) a :=
  ha.of_same (receive_same (by simp) (by simp)) (receive_same (by simp) (by simp))
    fun _ _ => receive_same (by simp) (by simp)

/-- Dropping an answer does not concern the receiver. -/
theorem ReceiverStep.suppress {e : Event UInt8} {a a' : BlockTransfer.State UInt8} {u : Sys}
    (h : ReceiverStep B e a s u a') (b : Bool) :
    ReceiverStep B e a s (if b then u.noResponse else u) a' := by
  split_ifs
  · exact ⟨h.step, h.receives.of_same (by simp) (by simp) (by simp), by simpa using h.notOpened⟩
  · exact h

/-- **An exchange is a step of the receiver.** -/
theorem ServerStep.receives (hs : Settings s) (h : ServerStep B s x t)
    {a : BlockTransfer.State UInt8} (ha : Receives B s a) :
    ∃ a', ReceiverStep B x.transferEvent a (s.receive B x.env x.req) t a' := by
  have ha' : Receives B (s.receive B x.env x.req) a := ha.receive
  unfold Exchange.transferEvent
  rcases h.cases with ⟨hnone, heq⟩ | ⟨service, u, hsome, hcall, rfl⟩
  · rw [hnone]
    obtain ⟨-, rfl⟩ := Prod.mk.inj heq
    exact ⟨a, .other a, ha'.of_same (by simp) (by simp) (by simp), by simp⟩
  rw [hsome]
  cases service
  case requestFileTransfer =>
    obtain ⟨a', hstep⟩ := receiverStep_requestFileTransfer ha' (Except.ok.inj hcall)
    exact ⟨a', hstep.suppress _⟩
  case transferData =>
    obtain ⟨⟨a', hstep⟩, hlen⟩ := receiverStep_transferData hs.receive ha' (Except.ok.inj hcall)
    have hevent : (if x.code = kPositiveResponse then Event.block x.req.blockData
        else .aborted) = if x.code = kPositiveResponse then
          .block (s.receive B x.env x.req).blockData else .aborted :=
      ite_congr rfl (fun hc => by rw [blockData_receive (hlen hc)]) fun _ => rfl
    dsimp only
    rw [hevent]
    exact ⟨a', hstep.suppress _⟩
  case requestTransferExit =>
    obtain ⟨a', hstep⟩ := receiverStep_requestTransferExit ha' hcall
    exact ⟨a', hstep.suppress _⟩
  all_goals
    refine ⟨a, ReceiverStep.suppress ⟨.other a, ha'.of_same ?_ ?_ fun path hpath => ?_, ?_⟩ _⟩
    all_goals
      refine UDSService.call_same _ hcall ?_
      simp_all [UDSService.Touches]

/-! ### Runs -/

/-- **The server is a receiver of block transfers.** -/
theorem ServerRun.receives (h : ServerRun B tr s) :
    ∃ a, TransferRun Admits (tr.map Exchange.transferEvent) a ∧ Receives B s a ∧
      .fileNotOpened ∉ s.log := by
  have hsim : ∃ a, TransferRun Admits (tr.map Exchange.transferEvent) a ∧
      Settings s ∧ Receives B s a ∧ .fileNotOpened ∉ s.log := by
    refine Run.simulates (R := fun s a => Settings s ∧ Receives B s a ∧ .fileNotOpened ∉ s.log)
      ?_ ?_ h
    · rintro s ⟨env, fs, rfl⟩
      exact ⟨.idle, rfl, settings_udsServerInit env fs, rfl, by simp [udsServerInit]⟩
    · rintro s a x t ⟨hs, ha, hlog⟩ hstep
      obtain ⟨a', ha'⟩ := hstep.receives hs ha
      exact ⟨a', ha'.step, hs.step hstep, ha'.receives, fun hmem => hlog (ha'.notOpened.1 hmem)⟩
  obtain ⟨a, hrun, -, ha, hlog⟩ := hsim
  exact ⟨a, hrun, ha, hlog⟩

/-- The stream is not null when `RequestTransferExit` closes it. -/
theorem Receives.ne_fcloseNull {a : BlockTransfer.State UInt8} (ha : Receives B s a) (env : Env)
    (q : Request) : processRequest B env s q ≠ .error .fcloseNull := by
  intro herror
  obtain ⟨service, -, hcall⟩ := evaluateServiceResponse_error herror
  cases service
  case routineControl => exact routineControl0x31_ne_fcloseNull _ hcall
  case requestTransferExit =>
    have ha' : Receives B (s.receive B env q) a := ha.receive
    rcases requestTransferExit0x37_cases (s.receive B env q) with
      ⟨-, heq⟩ | ⟨hactive, hnone, -⟩ | ⟨path, -, -, heq⟩
    · cases hcall.symm.trans heq
    · obtain ⟨total, held, path, rfl, hpath⟩ := ha'.eq_receiving hactive
      simp [hpath.opened] at hnone
    · cases hcall.symm.trans heq
  all_goals cases hcall

/-- What the history says about the state of an active transfer. -/
theorem ServerRun.holds (h : ServerRun B tr s) (hactive : s.srv.xferIsActive = true) :
    ∃ path, Holds B s path s.srv.xferTotalBytes (acceptedBlocks tr) ∧
      lastDeclaredSize tr = some s.srv.xferTotalBytes ∧
      (s.srv.xferTotalBytes < 2 ^ 64 - 65536 →
        (acceptedBlocks tr).flatten.length = s.srv.xferByteCounter ∧
        s.srv.xferByteCounter ≤ s.srv.xferTotalBytes) := by
  obtain ⟨a, hrun, ha, -⟩ := ServerRun.receives h
  obtain ⟨total, held, path, rfl, hpath⟩ := ha.eq_receiving hactive
  obtain ⟨hannounced, hblocks⟩ := hrun.receiving
  obtain rfl : acceptedBlocks tr = held := hblocks
  obtain rfl : s.srv.xferTotalBytes = total := hpath.total
  refine ⟨path, hpath, hannounced, fun hsize => ?_⟩
  have hle : (acceptedBlocks tr).flatten.length ≤ s.srv.xferTotalBytes := by
    refine hrun.length_le fun n len hn hadm => ?_
    obtain ⟨hbound, hlen⟩ := hadm
    rw [Nat.mod_eq_of_lt (by omega : n < 2 ^ 64), Nat.mod_eq_of_lt (by omega)] at hbound
    exact hbound
  have hbytes : s.srv.xferByteCounter = (acceptedBlocks tr).flatten.length := by
    rw [hpath.bytes, Nat.mod_eq_of_lt (by omega)]
  rw [hbytes]
  exact ⟨rfl, hle⟩

/-- **Transfer invariant.** In every reachable state with an active transfer, the firmware stream
is open, its file consists of the blocks accepted since the transfer was opened, and the counters
of the UDS server count them. In no reachable state has a block met a null stream, and in none
does a request close one. -/
theorem transfer_invariant (h : ServerRun B tr s) :
    (s.srv.xferIsActive = true →
      ∃ path, s.app.fwFile = some path ∧
        s.fs path = some (acceptedBlocks tr).flatten ∧
        lastDeclaredSize tr = some s.srv.xferTotalBytes ∧
        (s.srv.xferTotalBytes < 2 ^ 64 - 65536 →
          (acceptedBlocks tr).flatten.length = s.srv.xferByteCounter ∧
          s.srv.xferByteCounter ≤ s.srv.xferTotalBytes) ∧
        s.srv.xferBlockSequenceCounter.toNat = (1 + (acceptedBlocks tr).length) % 256) ∧
      .fileNotOpened ∉ s.log ∧
      ∀ env q, processRequest B env s q ≠ .error .fcloseNull := by
  obtain ⟨a, -, ha, hlog⟩ := ServerRun.receives h
  refine ⟨fun hactive => ?_, hlog, ha.ne_fcloseNull⟩
  obtain ⟨path, hpath, hdeclared, hbytes⟩ := ServerRun.holds h hactive
  refine ⟨path, hpath.opened, hpath.contents, hdeclared, hbytes, ?_⟩
  rw [hpath.counter]
  exact UInt8.toNat_ofNat'

/-- The run that opens a transfer of three bytes and sends two of them. -/
theorem transfer_invariant_two_bytes :
    ∃ tr, ∃ s : Sys, acceptedBlocks tr = [[7, 8]] ∧ s.srv.xferIsActive = true ∧
      ∃ path, s.app.fwFile = some path ∧ s.fs path = some (acceptedBlocks tr).flatten := by
  obtain ⟨tr, s, hrun, hblocks, hactive⟩ := exists_run_of_serve ⟨65535, .test⟩ (.fair 0)
    (fun _ => none)
    [(.fair 0, addFileRequest 3), (.fair 0, .ofBytes [0x36, 1, 7, 8] (by simp) fun _ => 0)]
    (fun tr s => acceptedBlocks tr = [[7, 8]] ∧ s.srv.xferIsActive = true) (by decide +kernel)
  obtain ⟨path, hopened, hcontents, -⟩ := (transfer_invariant hrun).1 hactive
  exact ⟨tr, s, hblocks, hactive, path, hopened, hcontents⟩

/-! ### Closing a transfer -/

/-- The exchange of a `RequestTransferExit` request while the stream of the transfer is open. -/
theorem processRequest_exit {path : Path} {q : Request} (hs : Settings s) (env : Env)
    (hq : getServiceForSID (q.buf 0) = some .requestTransferExit)
    (hactive : s.srv.xferIsActive = true) (hopened : s.app.fwFile = some path) :
    processRequest B env s q =
      .ok (kPositiveResponse, (s.receive B env q).closeTransfer path) := by
  rw [processRequest_eq_call hs hq rfl]
  rcases requestTransferExit0x37_cases (s.receive B env q) with
    ⟨hinactive, -⟩ | ⟨-, hnone, -⟩ | ⟨path', -, hopened', heq⟩
  · cases hactive.symm.trans hinactive
  · cases hopened.symm.trans hnone
  · obtain rfl : path = path' := Option.some.inj (hopened.symm.trans hopened')
    exact heq

/-- A `RequestTransferExit` request is answered positively only while a transfer is active. -/
theorem ServerStep.active_of_exit (hs : Settings s) (h : ServerStep B s x t)
    (hx : x.Accepted .requestTransferExit) : s.srv.xferIsActive = true := by
  have hcall := h.1
  rw [processRequest_eq_call hs hx.1 rfl, hx.2] at hcall
  rcases requestTransferExit0x37_cases (s.receive B x.env x.req) with
    ⟨-, heq⟩ | ⟨hactive, -⟩ | ⟨path, hactive, -⟩
  · cases hcall.symm.trans heq
  · exact hactive
  · exact hactive

/-- **What a positive answer to `RequestTransferExit` guarantees.** A transfer was active, `fwrite`
took exactly the accepted blocks for its file, and these are as many bytes as the server counted,
at most the declared size. Whether there are as many as declared is not asked: while a transfer is
active, every `RequestTransferExit` request is answered positively. -/
theorem exit_closes_transfer (h : ServerRun B tr s) :
    (∀ x t, ServerStep B s x t → x.Accepted .requestTransferExit →
      ∃ path declared, s.srv.xferIsActive = true ∧ s.app.fwFile = some path ∧
        lastDeclaredSize tr = some declared ∧
        t.fs path = some (acceptedBlocks tr).flatten ∧
        t.srv.xferIsActive = false ∧ t.app.fwFile = none ∧
        (declared < 2 ^ 64 - 65536 →
          (acceptedBlocks tr).flatten.length = s.srv.xferByteCounter ∧
          (acceptedBlocks tr).flatten.length ≤ declared)) ∧
      (s.srv.xferIsActive = true → ∀ env q, getServiceForSID (q.buf 0) = some .requestTransferExit →
        ∃ t, processRequest B env s q = .ok (kPositiveResponse, t)) := by
  have hs : Settings s := ServerRun.settings h
  constructor
  · intro x t hstep hx
    have hactive : s.srv.xferIsActive = true := hstep.active_of_exit hs hx
    obtain ⟨path, hpath, hdeclared, hbytes⟩ := ServerRun.holds h hactive
    have heq := processRequest_exit (B := B) hs x.env hx.1 hactive hpath.opened
    obtain ⟨-, rfl⟩ := Prod.mk.inj (Except.ok.inj (hstep.1.symm.trans heq))
    refine ⟨path, _, hactive, hpath.opened, hdeclared, hpath.contents, rfl, rfl, fun hsize => ?_⟩
    obtain ⟨hlen, hle⟩ := hbytes hsize
    exact ⟨hlen, hlen ▸ hle⟩
  · intro hactive env q hq
    obtain ⟨path, hpath, -⟩ := ServerRun.holds h hactive
    exact ⟨_, processRequest_exit hs env hq hactive hpath.opened⟩

/-- A `RequestTransferExit` request. -/
def exitRequest : Request := .ofBytes [0x37] (by simp) fun _ => 0

/-- The guarantees at the exit of a transfer of three bytes of which two were received. -/
theorem exit_closes_transfer_two_bytes : ∃ tr, ∃ s t : Sys, ∃ path,
    ServerRun ⟨65535, .test⟩ tr s ∧ acceptedBlocks tr = [[7, 8]] ∧ lastDeclaredSize tr = some 3 ∧
      processRequest ⟨65535, .test⟩ (.fair 0) s exitRequest = .ok (kPositiveResponse, t) ∧
      s.srv.xferByteCounter = 2 ∧ t.fs path = some [7, 8] ∧ t.srv.xferIsActive = false ∧
      t.app.fwFile = none := by
  obtain ⟨tr, s, hrun, hblocks, hactive, hsize⟩ := exists_run_of_serve ⟨65535, .test⟩ (.fair 0)
    (fun _ => none)
    [(.fair 0, addFileRequest 3), (.fair 0, .ofBytes [0x36, 1, 7, 8] (by simp) fun _ => 0)]
    (fun tr s => acceptedBlocks tr = [[7, 8]] ∧ s.srv.xferIsActive = true ∧
      lastDeclaredSize tr = some 3) (by decide +kernel)
  obtain ⟨hexit, hanswered⟩ := exit_closes_transfer hrun
  obtain ⟨t, ht⟩ := hanswered hactive (.fair 0) exitRequest rfl
  obtain ⟨path, declared, -, -, hdeclared, hfile, hinactive, hclosed, hbytes⟩ :=
    hexit ⟨exitRequest, .fair 0, kPositiveResponse, _⟩ t ⟨ht, rfl⟩ ⟨rfl, rfl⟩
  obtain rfl : 3 = declared := Option.some.inj (hsize.symm.trans hdeclared)
  rw [hblocks] at hfile hbytes
  exact ⟨tr, s, t, path, hrun, hblocks, hsize, ht, (hbytes (by omega)).1.symm, hfile, hinactive,
    hclosed⟩

/-- The exit of a transfer of one byte of which nothing was sent is answered positively. -/
theorem exit_of_incomplete_transfer :
    ¬∀ (B : Build) (tr : List Exchange) (s t : Sys) (x : Exchange), ServerRun B tr s →
      ServerStep B s x t → x.Accepted .requestTransferExit →
        lastDeclaredSize tr = some (acceptedBlocks tr).flatten.length := by
  intro hclaim
  obtain ⟨tr, s, hrun, hactive, hsize, hblocks⟩ := exists_run_of_serve ⟨65535, .test⟩ (.fair 0)
    (fun _ => none) [(.fair 0, addFileRequest 1)]
    (fun tr s => s.srv.xferIsActive = true ∧ lastDeclaredSize tr = some 1 ∧ acceptedBlocks tr = [])
    (by decide +kernel)
  obtain ⟨path, hpath, -⟩ := ServerRun.holds hrun hactive
  have hexit := processRequest_exit (B := ⟨65535, .test⟩) (ServerRun.settings hrun) (.fair 0)
    (rfl : getServiceForSID (exitRequest.buf 0) = _) hactive hpath.opened
  have hequal := hclaim ⟨65535, .test⟩ tr s _ ⟨exitRequest, .fair 0, kPositiveResponse, _⟩ hrun
    ⟨hexit, rfl⟩ ⟨rfl, rfl⟩
  rw [hsize, hblocks] at hequal
  simp at hequal

end EcuUpgrade
