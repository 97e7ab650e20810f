import EcuUpgrade.Transfer.Channel
import EcuUpgrade.Lib.Blocks

/-!
# Delivering a firmware file

The block loop of `ProgramSoc` runs against the server. As long as no response is lost, the server
holds after every block what the client has read of its file, and expects the next one. At the end
it has the whole file, whatever its length.

## Main definitions

* `Delivering`: the state of client and server between two blocks.

## Main results

* `Delivering.round`: a block is accepted, whether its response is lost or not.
* `firmware_arrives`: without losses the file arrives.
-/

namespace EcuUpgrade

open ResponseCode BigEndian BlockTransfer Runs Blocks Programs Programs.Prog TrueDivision

variable {B : Build} {u : Udsoncan} {ch : Channel} {s₀ : Sys} {app contents : Bytes} {b i : ℕ}
  {s t : Session Link}

/-- The message for a block. -/
def blockMessage (b : ℕ) (contents : Bytes) (i : ℕ) : Bytes :=
  [0x36, UInt8.ofNat (i + 1)] ++ block b contents i

/-- The state of client and server after `i` blocks of `b` bytes. -/
structure Delivering (B : Build) (u : Udsoncan) (s₀ : Sys) (app contents : Bytes) (b i : ℕ)
    (s : Session Link) : Prop where
  settings : Settings s.client.sys
  holds : Holds B s.client.sys (B.firmwareFile app) contents.length
    ((List.range i).map (block b contents))
  unread : s.fileApp = contents.drop (i * b)
  path : Runs.Path (ServerStep B) s₀ s.client.history s.client.sys
  accepted : ∀ x ∈ s.client.history, x.code = kPositiveResponse
  messages : s.client.history.map (fun x => x.req.received) =
    u.encode (.requestFileTransfer 1 app 0 contents.length) ::
      (List.range i).map (blockMessage b contents)
  blocksSent : s.client.blocksSent = i

/-- The blocks before the `i`-th and the `i`-th are part of the file. -/
theorem flatten_block_fits (b : ℕ) (contents : Bytes) (i : ℕ) :
    ((List.range i).map (block b contents)).flatten.length + (block b contents i).length ≤
      contents.length := by
  have hle := length_flatten_block_le b contents (i + 1)
  rw [List.range_succ, List.map_append, List.flatten_append, List.length_append] at hle
  simpa using hle

theorem Link.blocksSent_next (k : Link) (ch : Channel) (q : Request) (code : ResponseCode)
    (t : Sys) : (k.next ch q code t).blocksSent =
      k.blocksSent + if getServiceForSID (q.buf 0) = some .transferData then 1 else 0 := by
  unfold Link.blocksSent Link.next
  rw [List.countP_append, List.countP_singleton]
  congr 1
  by_cases h : getServiceForSID (q.buf 0) = some .transferData <;>
    simp [Exchange.service, Exchange.sid, h]

/-- **The message of the next block is accepted** by the server. -/
theorem Delivering.serve (h : Delivering B u s₀ app contents b i s)
    (hsize : contents.length < 2 ^ 53) (hwrite : ∀ i, b ≤ (ch.env i).fwriteFw)
    (hmax : (blockMessage b contents i).length ≤ 65535) :
    let q := ch.request s.client (blockMessage b contents i) hmax
    ∃ t, processRequest B (ch.env s.client.history.length) s.client.sys q =
        .ok (kPositiveResponse, t) ∧
      t.srv.r.sendBuf = [0x76, UInt8.ofNat (i + 1)] ∧ ∀ v : Session Link,
        v.client = s.client.next ch q kPositiveResponse t →
          v.fileApp = contents.drop ((i + 1) * b) →
          Delivering B u s₀ app contents b (i + 1) v := by
  intro q
  have hdata : (block b contents i).length ≤ b := length_block_le b contents i
  have hlen : q.len - 2 = (block b contents i).length := by
    have hq : q.len = (blockMessage b contents i).length := rfl
    rw [hq]
    simp [blockMessage]
  have hqlen : 2 ≤ q.len := by
    have hq : q.len = (blockMessage b contents i).length := rfl
    rw [hq]
    simp [blockMessage]
  have hqdata : q.blockData = block b contents i := blockData_ofBytes hmax _
  have hqreceived : q.received = blockMessage b contents i := received_ofBytes hmax _
  have hqsid : getServiceForSID (q.buf 0) = some .transferData := rfl
  have hfits := flatten_block_fits b contents i
  have hseq : q.buf 1 = UInt8.ofNat (1 + ((List.range i).map (block b contents)).length) := by
    have hq : q.buf 1 = UInt8.ofNat (i + 1) := rfl
    rw [hq, List.length_map, List.length_range, Nat.add_comm]
  obtain ⟨t, hprocess, hsent, hholds⟩ := h.holds.serveBlock
    (ch.env s.client.history.length) h.settings rfl hqlen hseq (by omega)
    (by rw [hlen]; exact hfits) (by rw [hlen]; exact hdata.trans (hwrite _))
  refine ⟨t, hprocess, hsent, fun v hclient hunread => ?_⟩
  have hstep : ServerStep B s.client.sys
      ⟨q, ch.env s.client.history.length, kPositiveResponse, t.srv.r.sendBuf⟩ t := ⟨hprocess, rfl⟩
  refine ⟨?_, ?_, hunread, ?_, ?_, ?_, ?_⟩
  · rw [hclient]
    exact h.settings.step hstep
  · rw [hclient, List.range_succ, List.map_append, List.map_singleton, ← hqdata]
    exact hholds
  · rw [hclient]
    exact h.path.snoc hstep
  · rw [hclient]
    intro x hx
    rcases List.mem_append.1 hx with hx | hx
    · exact h.accepted x hx
    · rw [List.mem_singleton.1 hx]
  · rw [hclient, Link.next, List.map_append, h.messages, List.map_singleton, hqreceived,
      List.range_succ, List.map_append, List.map_singleton, List.cons_append]
  · rw [hclient, Link.blocksSent_next, if_pos hqsid, h.blocksSent]

/-- **One round of the retry loop** for the next block: the block is accepted, whether its response
is lost or not. -/
theorem Delivering.round (hu : u.Documented) (h : Delivering B u s₀ app contents b i s)
    (hb : b ≤ 65533) (hsize : contents.length < 2 ^ 53) (hwrite : ∀ i, b ≤ (ch.env i).fwriteFw) :
    ∃ t, transferDataRound (u.client B ch) (UInt8.ofNat (i + 1)) (block b contents i)
        { s with fileApp := contents.drop ((i + 1) * b) } =
          some (.ok (if ch.lost i then none else some ()), t) ∧
      Delivering B u s₀ app contents b (i + 1) t := by
  have hmax : (blockMessage b contents i).length ≤ 65535 := by
    have hdata : (block b contents i).length ≤ b := length_block_le b contents i
    simp only [blockMessage, List.length_append, List.length_cons, List.length_nil]
    omega
  obtain ⟨t, hprocess, hsent, hnext⟩ := h.serve hsize hwrite hmax
  have hclient := Udsoncan.client_of_process ch _ (p := .transferData (UInt8.ofNat (i + 1))
    (block b contents i)) rfl (hu.transferData _ _) hmax hprocess (by rw [hsent]; simp)
  have hloses : ch.loses s.client (.transferData (UInt8.ofNat (i + 1)) (block b contents i)) =
      ch.lost i := by rw [Channel.loses, h.blocksSent]
  obtain ⟨reply, hreply⟩ := hu.transferData_reply (UInt8.ofNat (i + 1)) (block b contents i)
  rw [hloses, hsent, hreply] at hclient
  cases hlost : ch.lost i with
  | true =>
    rw [hlost, if_pos rfl] at hclient
    exact ⟨_, transferDataRound_timeout hclient, hnext _ rfl rfl⟩
  | false =>
    rw [hlost, if_neg (by simp)] at hclient
    exact ⟨_, transferDataRound_ok hclient, hnext _ rfl rfl⟩

/-! ### The block loop -/

theorem Delivering.readFile (h : Delivering B u s₀ app contents b i s) :
    EcuUpgrade.readFile (b : ℤ) s =
      some (.ok (block b contents i), { s with fileApp := contents.drop ((i + 1) * b) }) := by
  unfold EcuUpgrade.readFile
  rw [if_pos (Int.natCast_nonneg b), Int.toNat_natCast, h.unread, List.drop_drop, Nat.add_mul,
    Nat.one_mul, block]

/-- A block whose response arrives is sent once. -/
theorem Delivering.sendBlock (hu : u.Documented) (h : Delivering B u s₀ app contents b i s)
    (hb : b ≤ 65533) (hsize : contents.length < 2 ^ 53) (hwrite : ∀ i, b ≤ (ch.env i).fwriteFw)
    (hlost : ch.lost i = false) (fuel : ℕ) :
    ∃ t, EcuUpgrade.sendBlock (u.client B ch) (fuel + 1) b i s = some (.ok (), t) ∧
      Delivering B u s₀ app contents b (i + 1) t := by
  obtain ⟨t, hround, ht⟩ := h.round hu hb hsize hwrite
  rw [hlost, if_neg (by simp)] at hround
  refine ⟨t, ?_, ht⟩
  unfold EcuUpgrade.sendBlock
  rw [bind_of_ok h.readFile]
  exact loop_of_some hround

/-! ### Opening and closing the transfer -/

/-- The client and the server before the transfer. -/
structure BeforeTransfer (B : Build) (s₀ : Sys) (contents : Bytes) (s : Session Link) : Prop where
  settings : Settings s₀
  inactive : s₀.srv.xferIsActive = false
  client : s.client = ⟨s₀, []⟩
  unread : s.fileApp = contents

/-- **The transfer is opened**, with the block length of the server. -/
theorem BeforeTransfer.open (ch : Channel) (hu : u.Documented) (h : BeforeTransfer B s₀ contents s)
    (hpath : app.length ≤ 65513) (hsize : contents.length < 2 ^ 53)
    (hopen : (ch.env 0).fopenFw = true) :
    ∃ reply k, reply.maxLength = B.udsTpMtu.toNat ∧
      u.client B ch (.requestFileTransfer 1 app 0 contents.length) s.client = (.ok reply, k) ∧
      ∀ v : Session Link, v.client = k → v.fileApp = contents →
        Delivering B u s₀ app contents b 0 v := by
  obtain ⟨w, hw, hfits, hmessage⟩ := hu.addFile app contents.length (by omega)
  set message := [0x38, 1] ++ toBytes 2 app.length ++ app ++ [0, UInt8.ofNat w] ++
    toBytes w contents.length ++ toBytes w contents.length with hm
  have hmax : message.length ≤ 65535 := by
    simp [hm]
    omega
  have hw8 : (UInt8.ofNat w).toNat = w :=
    UInt8.toNat_ofNat_of_lt (Nat.lt_of_le_of_lt hw (by decide))
  set q := ch.request ⟨s₀, []⟩ message hmax with hq
  have hreceived : q.received = message := received_ofBytes hmax _
  have hargs : q.Encodes ⟨1, app, 0, contents.length, contents.length⟩ := by
    have hwrite := FileTransferMessage.write (.inl rfl : (1 : UInt8) = kAddFile ∨ _) app
      (by omega) 0 (UInt8.ofNat w) (UInt8.le_iff_toNat_le.2 (by rw [hw8]; exact hw))
      (toBytes w contents.length) (toBytes w contents.length) (by rw [hw8]; simp)
      (by rw [hw8]; simp)
    rw [ofBytes_toBytes_of_lt hfits] at hwrite
    exact ⟨message, hwrite, hreceived ▸ List.prefix_rfl⟩
  obtain ⟨t, hprocess, hsent, hholds⟩ := serveAddFile (B := B) (ch.env 0) h.settings
    h.inactive hopen rfl hargs
  have hclient := Udsoncan.client_of_process ch ⟨s₀, []⟩
    (p := .requestFileTransfer 1 app 0 contents.length) rfl hmessage hmax hprocess
    (by rw [hsent]; simp)
  obtain ⟨reply, hlen, hreply⟩ :=
    hu.addFile_reply app contents.length B.udsTpMtu.toNat B.udsTpMtu.toNat_lt
  rw [hsent, hreply] at hclient
  rw [h.client]
  refine ⟨reply, _, hlen, hclient, fun v hv hunread => ?_⟩
  have hstep : ServerStep B s₀ ⟨q, ch.env 0, kPositiveResponse, t.srv.r.sendBuf⟩ t :=
    ⟨hprocess, rfl⟩
  refine ⟨?_, ?_, ?_, ?_, ?_, ?_, ?_⟩
  · rw [hv]
    exact h.settings.step hstep
  · rw [hv]
    exact hholds
  · rw [hunread, Nat.zero_mul, List.drop_zero]
  · rw [hv]
    exact .cons hstep (.nil t)
  · rw [hv]
    intro x hx
    rw [List.mem_singleton.1 hx]
  · rw [hv, hmessage]
    exact congrArg (fun m => [m]) hreceived
  · rw [hv, Link.blocksSent_next]
    rfl

/-- **The transfer is closed** after the last block, and the file is complete. -/
theorem Delivering.exit (ch : Channel) (hu : u.Documented)
    (h : Delivering B u s₀ app contents b (blockCount contents.length b) s) (hb : 0 < b)
    (hsize : contents.length < 2 ^ 53) : s.client.sys.srv.xferByteCounter = contents.length ∧
      ∃ reply t, call (u.client B ch) .requestTransferExit s = some (.ok reply, t) ∧
        t.client.sys.fs (B.firmwareFile app) = some contents ∧
        Runs.Path (ServerStep B) s₀ t.client.history t.client.sys ∧
        (∀ x ∈ t.client.history, x.code = kPositiveResponse) ∧
        t.client.history.map (fun x => x.req.received) =
          s.client.history.map (fun x => x.req.received) ++ [[0x37]] := by
  have hholds := h.holds
  have hwhole : ((List.range (blockCount contents.length b)).map (block b contents)).flatten =
      contents := flatten_all_blocks contents hb
  constructor
  · rw [hholds.bytes, hwhole]
    exact Nat.mod_eq_of_lt (by omega)
  have hmax : ([0x37] : Bytes).length ≤ 65535 := by simp
  set q := ch.request s.client [0x37] hmax with hq
  have hprocess := processRequest_exit (B := B) (q := q) h.settings
    (ch.env s.client.history.length) rfl hholds.active hholds.opened
  have hsent : ((s.client.sys.receive B (ch.env s.client.history.length) q).closeTransfer
      (B.firmwareFile app)).srv.r.sendBuf = [0x77] := rfl
  have hclient := Udsoncan.client_of_process ch s.client
    (p := .requestTransferExit) rfl hu.exit hmax hprocess (hsent ▸ List.cons_ne_nil _ _)
  obtain ⟨reply, hreply⟩ := hu.exit_reply
  rw [hsent, hreply] at hclient
  have hstep : ServerStep B s.client.sys
      ⟨q, ch.env s.client.history.length, kPositiveResponse, _⟩ _ := ⟨hprocess, rfl⟩
  refine ⟨reply, _, call_eq hclient, ?_, h.path.snoc hstep, fun x hx => ?_, ?_⟩
  · rw [← hwhole]
    exact hholds.contents
  · rcases List.mem_append.1 hx with hx | hx
    · exact h.accepted x hx
    · rw [List.mem_singleton.1 hx]
  · exact List.map_append

/-! ### The whole transfer -/

/-- **The block loop begins** when the transfer is opened. -/
theorem BeforeTransfer.transferBlocks_eq {m : Machine} (fuel : ℕ) (hu : u.Documented)
    (h : BeforeTransfer B s₀ contents s) (hmtu : 3 ≤ B.udsTpMtu.toNat)
    (hfile : m.filesize = .ok contents.length) (hpath : app.length ≤ 65513)
    (hsize : contents.length < 2 ^ 53) (hopen : (ch.env 0).fopenFw = true) :
    ∃ v, Delivering B u s₀ app contents (B.udsTpMtu.toNat - 2) 0 v ∧
      transferBlocks (u.client B ch) m app fuel s =
        forM (List.range (blockCount contents.length (B.udsTpMtu.toNat - 2)))
          (sendBlock (u.client B ch) fuel ((B.udsTpMtu.toNat - 2 : ℕ) : ℤ)) v := by
  obtain ⟨reply, k, hlen, hclient, hnext⟩ := h.open ch hu hpath hsize hopen
  refine ⟨_, hnext (s.after (.requestFileTransfer 1 app 0 contents.length) (.ok reply) k) rfl
    h.unread, ?_⟩
  have hb : (reply.maxLength : ℤ) - 2 = ((B.udsTpMtu.toNat - 2 : ℕ) : ℤ) := by omega
  have hne : ((B.udsTpMtu.toNat - 2 : ℕ) : ℤ) ≠ 0 := by omega
  unfold transferBlocks
  rw [hfile, bind_of_ok (ofExcept_apply _ _), bind_of_ok (call_eq hclient), hb, if_neg hne,
    blockCountOf_eq (by omega) hsize]

/-- **The firmware arrives.** When every message and every response arrives and the file of the
server can be opened and written, every block is answered positively and so is the exit, the server
has counted all bytes before it, and its file is the file of the client. -/
theorem firmware_arrives {tr : List Exchange} {m : Machine} (hu : u.Documented)
    (hrun : ServerRun B tr s₀) (hinactive : s₀.srv.xferIsActive = false)
    (hmtu : 3 ≤ B.udsTpMtu.toNat) (hsize : contents.length < 2 ^ 53)
    (hfile : m.filesize = .ok contents.length) (hpath : app.length ≤ 65513)
    (hopen : ∀ i, (ch.env i).fopenFw = true)
    (hwrite : ∀ i, B.udsTpMtu.toNat - 2 ≤ (ch.env i).fwriteFw) (hlost : ∀ i, ch.lost i = false)
    (fuel : ℕ) (log : List (Call × Except PyExc Reply)) :
    ∃ v t, transferBlocks (u.client B ch) m app (fuel + 1) ⟨⟨s₀, []⟩, log, contents⟩ =
        some (.ok (), v) ∧
      v.client.sys.srv.xferByteCounter = contents.length ∧
      transferFile (u.client B ch) m app (fuel + 1) ⟨⟨s₀, []⟩, log, contents⟩ =
        some (.ok (), t) ∧
      Runs.Path (ServerStep B) s₀ t.client.history t.client.sys ∧
      (∀ x ∈ t.client.history, x.code = kPositiveResponse) ∧
      t.client.history.map (fun x => x.req.received) =
        u.encode (.requestFileTransfer 1 app 0 contents.length) ::
          (List.range (blockCount contents.length (B.udsTpMtu.toNat - 2))).map
            (blockMessage (B.udsTpMtu.toNat - 2) contents) ++ [[0x37]] ∧
      t.client.sys.fs (B.firmwareFile app) = some contents := by
  have hmax : B.udsTpMtu.toNat < 65536 := B.udsTpMtu.toNat_lt
  have hbefore : BeforeTransfer B s₀ contents ⟨⟨s₀, []⟩, log, contents⟩ :=
    ⟨ServerRun.settings hrun, hinactive, rfl, rfl⟩
  obtain ⟨w, hw, heq⟩ := hbefore.transferBlocks_eq (m := m) (fuel + 1) hu hmtu hfile hpath
    hsize (hopen 0)
  obtain ⟨v, hv, hdelivered⟩ := forM_range_returns
    (I := fun i => Delivering B u s₀ app contents (B.udsTpMtu.toNat - 2) i) _
    (fun i s _ hi => hi.sendBlock hu (by omega) hsize hwrite (hlost i) fuel) hw
  rw [← heq] at hv
  obtain ⟨hcounted, reply, t, hexit, hcontents, hpath', haccepted, hmessages⟩ :=
    hdelivered.exit ch hu (by omega) hsize
  refine ⟨v, t, hv, hcounted, ?_, hpath', haccepted, ?_, hcontents⟩
  · unfold transferFile
    rw [bind_of_ok hv, bind_of_ok hexit]
    rfl
  · rw [hmessages, hdelivered.messages]

/-- A channel on which nothing is lost, to a server for which everything succeeds. -/
def fairChannel : Channel where
  env _ := .fair 0
  stale _ _ := 0
  lost _ := false

/-- A machine with a file of given contents. -/
def machineWith (contents : Bytes) : Machine where
  app := .ok contents
  progressCb := none
  fp := []
  filesize := .ok contents.length
  md5Text := .ok ['0', '0']

/-- A file of three bytes arrives in blocks of two. -/
theorem firmware_arrives_three_bytes : ∃ t : Session Link,
    transferFile (plainUdsoncan.client ⟨4, .test⟩ fairChannel) (machineWith [1, 2, 3]) [0x61] 1
        ⟨⟨udsServerInit (.fair 0) fun _ => none, []⟩, [], [1, 2, 3]⟩ = some (.ok (), t) ∧
      t.client.sys.fs (Build.firmwareFile ⟨4, .test⟩ [0x61]) = some [1, 2, 3] := by
  obtain ⟨v, t, -, -, htransfer, -, -, -, hcontents⟩ := firmware_arrives (B := ⟨4, .test⟩)
    (m := machineWith [1, 2, 3]) plainUdsoncan_documented (.start ⟨.fair 0, fun _ => none, rfl⟩)
    rfl (by decide) (by decide : ([1, 2, 3] : Bytes).length < 2 ^ 53) rfl
    (by decide : ([0x61] : Bytes).length ≤ 65513)
    (fun _ => rfl : ∀ i, (fairChannel.env i).fopenFw = true)
    (fun _ => (by decide : 4 - 2 ≤ 65535)) (fun _ => rfl) 0 []
  exact ⟨t, htransfer, hcontents⟩

end EcuUpgrade
