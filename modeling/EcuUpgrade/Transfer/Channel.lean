import EcuUpgrade.Client.ProgramSoc
import EcuUpgrade.Transfer.Decoder
import EcuUpgrade.Transfer.Invariant

/-!
# The client and the server of a file transfer

The calls of `ProgramSoc` that transfer a file are messages to the server. `udsoncan`, which turns
calls into messages and responses into results, is a parameter: what is used of it is what it is
documented to do. Every message arrives once; the responses to `TransferData` can be lost, which the
client sees as a timeout.

## Main definitions

* `Udsoncan`, `Udsoncan.Documented`: the library between the client and the wire.
* `Channel`, `Link`: what happens on the wire and on the server, and the state of both.
* `Udsoncan.client`: the client that talks to the server.

## Main results

* `Holds.serveBlock`, `serveAddFile`, `serveExit`: what the server does with these messages.
-/

namespace EcuUpgrade

open ResponseCode BigEndian BlockTransfer Runs

/-! ### The wire -/

/-- What happens to the messages, by their number: the outcomes of the system calls of the server,
and what is in its buffer behind the message. Responses to `TransferData` can be lost, by the number
of the `TransferData` message. -/
structure Channel where
  env : ℕ → Env
  stale : ℕ → ℕ → UInt8
  lost : ℕ → Bool

/-- The server, and the exchanges with it. -/
structure Link where
  sys : Sys
  history : List Exchange

/-- The number of `TransferData` messages so far. -/
def Link.blocksSent (k : Link) : ℕ :=
  k.history.countP fun x => decide (x.service = some .transferData)

/-- A message is evaluated by the server, which may respond. -/
def Link.deliver (B : Build) (ch : Channel) (k : Link) (message : Bytes) : Option Bytes × Link :=
  if h : message.length ≤ 65535 then
    let env := ch.env k.history.length
    let q := Request.ofBytes message h (ch.stale k.history.length)
    match processRequest B env k.sys q with
    | .error _ => (none, k)
    | .ok (code, t) => (if t.srv.r.sendBuf = [] then none else some t.srv.r.sendBuf,
        ⟨t, k.history ++ [⟨q, env, code, t.srv.r.sendBuf⟩]⟩)
  else (none, k)

/-- `udsoncan`: how the calls of a file transfer are sent and what responses to them mean, and
whatever it does for the other calls. -/
structure Udsoncan where
  encode : Call → Bytes
  decode : Call → Bytes → Except PyExc Reply
  other : Call → Link → Except PyExc Reply × Link

/-- What `udsoncan` is documented to do. A negative response raises another exception than a
timeout. -/
structure Udsoncan.Documented (u : Udsoncan) : Prop where
  addFile : ∀ path n, n < 2 ^ 64 → ∃ k ≤ 8, n < 256 ^ k ∧
    u.encode (.requestFileTransfer 1 path 0 n) = [0x38, 1] ++ toBytes 2 path.length ++ path ++
      [0, UInt8.ofNat k] ++ toBytes k n ++ toBytes k n
  transferData : ∀ seq data, u.encode (.transferData seq data) = [0x36, seq] ++ data
  exit : u.encode .requestTransferExit = [0x37]
  addFile_reply : ∀ path n len, len < 65536 → ∃ reply, reply.maxLength = len ∧
    u.decode (.requestFileTransfer 1 path 0 n) ([0x78, 1, 2] ++ toBytes 2 len ++ [0]) = .ok reply
  transferData_reply : ∀ seq data, ∃ reply,
    u.decode (.transferData seq data) [0x76, seq] = .ok reply
  exit_reply : ∃ reply, u.decode .requestTransferExit [0x77] = .ok reply
  negative : ∀ p sid nrc, nrc ≠ 0x78 → u.decode p [0x7F, sid, nrc] = .error .other

/-- The response to a call is lost. -/
def Channel.loses (ch : Channel) (k : Link) : Call → Bool
  | .transferData .. => ch.lost k.blocksSent
  | _ => false

/-- The client that talks to the server: no response is a timeout. -/
def Udsoncan.client (u : Udsoncan) (B : Build) (ch : Channel) : UdsClient Link := fun p k =>
  if p.isTransfer then
    match k.deliver B ch (u.encode p) with
    | (some response, k') =>
      (if ch.loses k p then .error .timeout else u.decode p response, k')
    | (none, k') => (.error .timeout, k')
  else u.other p k

variable {B : Build} {env : Env} {s t : Sys} {ch : Channel} {k : Link} {u : Udsoncan}
  {message : Bytes}

/-- The request that a message is for the server. -/
def Channel.request (ch : Channel) (k : Link) (message : Bytes) (h : message.length ≤ 65535) :
    Request :=
  .ofBytes message h (ch.stale k.history.length)

/-- The link after a message that was evaluated. -/
def Link.next (k : Link) (ch : Channel) (q : Request) (code : ResponseCode) (t : Sys) : Link :=
  ⟨t, k.history ++ [⟨q, ch.env k.history.length, code, t.srv.r.sendBuf⟩]⟩

theorem Link.deliver_of_process (h : message.length ≤ 65535) {code : ResponseCode}
    (hp : processRequest B (ch.env k.history.length) k.sys (ch.request k message h) = .ok (code, t))
    (hsent : t.srv.r.sendBuf ≠ []) :
    k.deliver B ch message = (some t.srv.r.sendBuf, k.next ch (ch.request k message h) code t) := by
  unfold Link.deliver
  rw [dif_pos h]
  dsimp only
  rw [← Channel.request, hp]
  dsimp only
  rw [if_neg hsent]
  rfl

/-- A call of a transfer, if the server responds. -/
theorem Udsoncan.client_of_process (ch : Channel) (k : Link) {p : Call} (hp : p.isTransfer = true)
    (hm : u.encode p = message) (h : message.length ≤ 65535) {code : ResponseCode}
    (hprocess : processRequest B (ch.env k.history.length) k.sys (ch.request k message h) =
      .ok (code, t)) (hsent : t.srv.r.sendBuf ≠ []) :
    u.client B ch p k = (if ch.loses k p then .error .timeout else u.decode p t.srv.r.sendBuf,
      k.next ch (ch.request k message h) code t) := by
  unfold Udsoncan.client
  rw [if_pos hp, hm, Link.deliver_of_process h hprocess hsent]

/-- A `udsoncan` that knows the calls of a file transfer only. The file sizes take as many bytes
as the size needs. -/
def plainUdsoncan : Udsoncan where
  encode
    | .requestFileTransfer moop path dfi n =>
      let k := (n.size + 7) / 8
      [0x38, moop] ++ toBytes 2 path.length ++ path ++ [dfi, UInt8.ofNat k] ++ toBytes k n ++
        toBytes k n
    | .transferData seq data => [0x36, seq] ++ data
    | _ => [0x37]
  decode p response :=
    if response.head? = some 0x7F then .error .other
    else match p with
    | .requestFileTransfer .. =>
      .ok ⟨[], ofBytes ((response.drop 3).take (response.getD 2 0).toNat)⟩
    | .transferData seq _ => if response = [0x76, seq] then .ok ⟨[], 0⟩ else .error .other
    | _ => .ok ⟨[], 0⟩
  other _ k := (.error .other, k)

theorem plainUdsoncan_documented : plainUdsoncan.Documented where
  addFile path n hn := by
    have hsize : n.size ≤ 64 := Nat.size_le.2 hn
    refine ⟨(n.size + 7) / 8, by omega, ?_, rfl⟩
    calc n < 2 ^ n.size := Nat.lt_size_self n
      _ ≤ 2 ^ (8 * ((n.size + 7) / 8)) := Nat.pow_le_pow_right (by decide) (by omega)
      _ = 256 ^ ((n.size + 7) / 8) := by rw [Nat.pow_mul]
  transferData _ _ := rfl
  exit := rfl
  addFile_reply path n len hlen := by
    refine ⟨_, ?_, rfl⟩
    have htake : ((([0x78, 1, 2] ++ toBytes 2 len ++ [0]).drop 3).take 2) = toBytes 2 len := by
      simp
    exact (congrArg ofBytes htake).trans (ofBytes_toBytes_of_lt hlen)
  transferData_reply seq _ := ⟨⟨[], 0⟩, if_pos rfl⟩
  exit_reply := ⟨⟨[], 0⟩, rfl⟩
  negative _ _ _ _ := rfl

/-! ### Messages as requests -/

theorem bytesAt_ofBytes {bytes : Bytes} (h : bytes.length ≤ 65535) (stale : ℕ → UInt8)
    (off n : ℕ) (hn : off + n ≤ bytes.length) :
    bytesAt (Request.ofBytes bytes h stale).buf off n = (bytes.drop off).take n := by
  refine List.ext_getElem (by simp; omega) fun i hi hi' => ?_
  have hlt : off + i < bytes.length := by
    rw [length_bytesAt] at hi
    omega
  simp [bytesAt, Request.ofBytes, List.getElem?_eq_getElem hlt]

theorem received_ofBytes {bytes : Bytes} (h : bytes.length ≤ 65535) (stale : ℕ → UInt8) :
    (Request.ofBytes bytes h stale).received = bytes :=
  bytesAt_getD bytes stale

theorem blockData_ofBytes {seq : UInt8} {data : Bytes} (h : ([0x36, seq] ++ data).length ≤ 65535)
    (stale : ℕ → UInt8) : (Request.ofBytes ([0x36, seq] ++ data) h stale).blockData = data := by
  have hlen : ([0x36, seq] ++ data).length - 2 = data.length := by simp
  have hbytes := bytesAt_ofBytes h stale 2 data.length (by simp; omega)
  unfold Request.blockData
  have hq : (Request.ofBytes ([0x36, seq] ++ data) h stale).len - 2 = data.length := hlen
  rw [hq, hbytes]
  simp

/-! ### What the server does with the messages of a transfer -/

/-- The file in which the server stores what is sent for a path. -/
def Build.firmwareFile (B : Build) (path : Bytes) : Path :=
  cStr (B.dataPath ++ [0x2F] ++ eraseDirs path)

variable {q : Request} {path : Path} {total : ℕ} {held : List Bytes}

/-- Opening a transfer. -/
theorem serveAddFile (env : Env) (hs : Settings s) (hinactive : s.srv.xferIsActive = false)
    (hopen : env.fopenFw = true) {args : FileTransferArgs} (hq : q.buf 0 = kSIDRequestFileTransfer)
    (hargs : q.Encodes args) : ∃ t, processRequest B env s q = .ok (kPositiveResponse, t) ∧
      t.srv.r.sendBuf = [0x78, args.modeOfOperation, 2] ++ toBytes 2 B.udsTpMtu.toNat ++
        [args.dataFormatIdentifier] ∧
      Holds B t (B.firmwareFile args.filePath) args.fileSizeCompressed [] := by
  obtain ⟨hlen, -, hrun⟩ := hargs.run hq
  have hservice : getServiceForSID (q.buf 0) = some .requestFileTransfer :=
    getServiceForSID_eq_some_iff.2 hq
  refine ⟨(s.receive B env q).openTransfer B args, ?_, rfl, holds_openTransfer B _ args⟩
  rw [processRequest_eq_call hs hservice rfl]
  rcases requestFileTransfer0x38_cases B env (s.receive B env q) with
    ⟨err, hrefusal, -⟩ | ⟨args', -, -, hrun', heq⟩
  · have hactive : ¬(s.receive B env q).srv.xferIsActive = true := by
      simpa [Sys.receive] using hinactive
    rw [Sys.fileTransferRefusal, if_neg hactive, receive_recvLen, if_neg (Nat.not_lt.2 hlen),
      receive_recvBuf, hrun] at hrefusal
    cases hrefusal
  · obtain rfl : args' = args := Except.ok.inj (hrun'.symm.trans hrun)
    rw [if_pos hopen] at heq
    exact congrArg Except.ok heq

/-- The next block of a transfer is accepted. -/
theorem Holds.serveBlock (env : Env) (h : Holds B s path total held) (hs : Settings s)
    (hq : q.buf 0 = kSIDTransferData) (hlen : 2 ≤ q.len)
    (hseq : q.buf 1 = UInt8.ofNat (1 + held.length)) (hsize : total < 2 ^ 64)
    (hfits : held.flatten.length + (q.len - 2) ≤ total) (hwrite : q.len - 2 ≤ env.fwriteFw) :
    ∃ t, processRequest B env s q = .ok (kPositiveResponse, t) ∧
      t.srv.r.sendBuf = [0x76, q.buf 1] ∧ Holds B t path total (held ++ [q.blockData]) := by
  have hreceived : Holds B (s.receive B env q) path total held :=
    h.of_same (receive_same (by simp) (by simp)) (receive_same (by simp) (by simp))
      (receive_same (by simp) (by simp))
  have hdata : (s.receive B env q).blockData = q.blockData := blockData_receive hlen
  have hq65535 := q.len_le
  have hsub : subSize16 q.len 2 = q.len - 2 := by
    have hlength := (s.receive B env q).length_blockData
    rw [hdata, receive_recvLen] at hlength
    simpa [Request.blockData] using hlength.symm
  have hservice : getServiceForSID (q.buf 0) = some .transferData :=
    getServiceForSID_eq_some_iff.2 hq
  have hacc : BlockAccepted env (s.receive B env q) path := by
    refine ⟨hreceived.active, hlen, hseq.trans hreceived.counter.symm, ?_, hreceived.opened, ?_⟩
    · rw [receive_recvLen, hsub, hreceived.bytes, hreceived.total, Nat.mod_eq_of_lt (by omega),
        Nat.mod_eq_of_lt (by omega)]
      exact hfits
    · rw [Sys.length_blockData, receive_recvLen, hsub]
      exact hwrite
  refine ⟨(s.receive B env q).acceptBlock path, ?_, rfl, hdata ▸ hreceived.acceptBlock hacc⟩
  rw [processRequest_eq_call hs hservice rfl]
  exact congrArg Except.ok (transferData0x36_accept hs.receive.rcrrp hacc)

/-- The server refuses the blocks with a given counter. -/
def RefusesBlock (s : Sys) (seq : UInt8) : Prop :=
  s.srv.xferIsActive = true → seq ≠ s.srv.xferBlockSequenceCounter

/-- A block that is refused is answered negatively, and it is refused again. -/
theorem RefusesBlock.serve (env : Env) (h : RefusesBlock s (q.buf 1)) (hs : Settings s)
    (hq : q.buf 0 = kSIDTransferData) : ∃ code t, processRequest B env s q = .ok (code, t) ∧
      t.srv.r.sendBuf = [0x7F, 0x36, code.toByte] ∧ code ≠ kPositiveResponse ∧
      code ≠ kRequestCorrectlyReceivedResponsePending ∧ t.srv.xferIsActive = false := by
  have hservice : getServiceForSID (q.buf 0) = some .transferData :=
    getServiceForSID_eq_some_iff.2 hq
  rw [processRequest_eq_call hs hservice rfl]
  have hreceived : Settings (s.receive B env q) := hs.receive
  have hcases := transferData0x36_cases env hreceived.rcrrp
  have hcall : UDSService.transferData.call B env (s.receive B env q) =
      .ok (transferData0x36 env (s.receive B env q)) := rfl
  rw [hcall]
  generalize transferData0x36 env (s.receive B env q) = r at hcases ⊢
  obtain ⟨code, t⟩ := r
  refine ⟨code, t, rfl, ?_⟩
  rcases hcases with ⟨hinactive, heq⟩ | ⟨-, -, hrefused⟩ | ⟨path, hacc, -⟩
  · obtain ⟨rfl, rfl⟩ := Prod.mk.inj heq
    refine ⟨?_, by simp, by simp, hinactive⟩
    exact congrArg (fun b => [0x7F, b, kUploadDownloadNotAccepted.toByte]) hq
  · refine ⟨?_, hrefused.negative, hrefused.notPending, hrefused.inactive⟩
    rw [hrefused.sent, receive_recvBuf, hq]
  · exact absurd hacc.counter (h hacc.active)

end EcuUpgrade
