import EcuUpgrade.Transfer.Delivery

/-!
# Repeating a block

When the response to a block is lost, `ProgramSoc` sends the block again with the same counter. The
server has counted the block and expects the next counter: it answers `requestSequenceError`,
abandons the transfer, and refuses every block from then on. So the retry loop never ends well
after a loss.

## Main results

* `repeat_refused`: a repeated block is answered negatively and ends the transfer.
* `repeated_block`: this holds in every reachable state, and the retry loop delivers the file
  exactly when no response to a block is lost.
-/

namespace EcuUpgrade

open ResponseCode BigEndian BlockTransfer Runs Blocks Programs Programs.Prog

variable {B : Build} {u : Udsoncan} {ch : Channel} {s₀ : Sys} {app contents : Bytes}
  {b i : ℕ} {seq : UInt8} {data : Bytes}

/-! ### One repetition -/

/-- After a block was accepted, the transfer is active and expects the next counter. -/
theorem ServerStep.counter_of_transferData {s t : Sys} {x : Exchange} (hs : Settings s)
    (h : ServerStep B s x t) (hx : x.Accepted .transferData) :
    2 ≤ x.req.len ∧ t.srv.xferIsActive = true ∧
      t.srv.xferBlockSequenceCounter = x.req.buf 1 + 1 := by
  have hcall := h.1
  rw [processRequest_eq_call hs hx.1 rfl, hx.2] at hcall
  have hcall' : transferData0x36 x.env (s.receive B x.env x.req) = (kPositiveResponse, t) :=
    Except.ok.inj hcall
  have hreceived : Settings (s.receive B x.env x.req) := hs.receive
  rcases transferData0x36_cases x.env hreceived.rcrrp with
    ⟨-, heq⟩ | ⟨-, -, hrefused⟩ | ⟨path, hacc, heq⟩
  · cases hcall'.symm.trans heq
  · rw [hcall'] at hrefused
    exact absurd rfl hrefused.negative
  · obtain ⟨-, rfl⟩ := Prod.mk.inj (hcall'.symm.trans heq)
    refine ⟨hacc.two_le, hacc.active, ?_⟩
    exact congrArg (· + 1) hacc.counter.symm

theorem buf_of_received {q q' : Request} (h : q.received = q'.received) {i : ℕ} (hi : i < q'.len) :
    q.buf i = q'.buf i := by
  have hlen : q.len = q'.len := by simpa [Request.received] using congrArg List.length h
  have hget := congrArg (fun l => l[i]?) h
  simpa [Request.received, bytesAt, hlen, hi] using hget

/-- **A repeated block is refused** with `requestSequenceError`, and ends the transfer. -/
theorem repeat_refused (env : Env) {tr : List Exchange} {x : Exchange} {s : Sys} {q : Request}
    (h : ServerRun B (tr ++ [x]) s) (hx : x.Accepted .transferData)
    (hq : q.received = x.req.received) :
    ∃ t, processRequest B env s q = .ok (kRequestSequenceError, t) ∧
      t.srv.r.sendBuf = [0x7F, 0x36, 0x24] ∧ t.srv.xferIsActive = false ∧ t.fs = s.fs := by
  obtain ⟨s', hrun, hstep⟩ := Run.snoc_iff.1 h
  have hs' : Settings s' := ServerRun.settings hrun
  have hs : Settings s := hs'.step hstep
  obtain ⟨hlen, hactive, hcounter⟩ := hstep.counter_of_transferData hs' hx
  have hqlen : q.len = x.req.len := by simpa [Request.received] using congrArg List.length hq
  have hsid : q.buf 0 = kSIDTransferData := by
    rw [buf_of_received hq (by omega)]
    exact getServiceForSID_eq_some_iff.1 hx.1
  have hseq : (s.receive B env q).srv.r.recvBuf 1 ≠
      (s.receive B env q).srv.xferBlockSequenceCounter := by
    have hcounter' : (s.receive B env q).srv.xferBlockSequenceCounter = x.req.buf 1 + 1 := hcounter
    rw [receive_recvBuf, buf_of_received hq (by omega), hcounter']
    simp
  refine ⟨(transferDataFail (s.receive B env q) kRequestSequenceError).2, ?_, ?_, rfl, rfl⟩
  · have hservice : getServiceForSID (q.buf 0) = some .transferData :=
      getServiceForSID_eq_some_iff.2 hsid
    rw [processRequest_eq_call hs hservice rfl]
    exact congrArg Except.ok (transferData0x36_sequenceError hs.receive.rcrrp hactive
      (by rw [receive_recvLen, hqlen]; exact hlen) hseq)
  · exact congrArg (fun b => [0x7F, b, 0x24]) hsid

/-! ### The retry loop after a loss -/

theorem toByte_ne_pending {code : ResponseCode}
    (h : code ≠ kRequestCorrectlyReceivedResponsePending) : code.toByte ≠ 0x78 := by
  cases code <;> first | exact absurd rfl h | decide

/-- The server refuses the block that the client repeats. -/
def Repeating (seq : UInt8) (s : Session Link) : Prop :=
  Settings s.client.sys ∧ RefusesBlock s.client.sys seq

/-- **A block that is refused is never answered positively**, however often it is sent. -/
theorem triple_transferDataRound_repeating (hu : u.Documented)
    (hmax : ([0x36, seq] ++ data).length ≤ 65535) :
    Triple (Repeating seq) (transferDataRound (u.client B ch) seq data)
      (AfterRound (Repeating seq) fun _ _ => False) fun _ _ => True := by
  rintro s ⟨hs, hrefuses⟩ r t h
  obtain ⟨code, t', hprocess, hsent, -, hpending, hinactive⟩ := RefusesBlock.serve
    (B := B) (ch.env s.client.history.length)
    (q := ch.request s.client ([0x36, seq] ++ data) hmax) hrefuses hs rfl
  have hclient := Udsoncan.client_of_process ch _ (p := .transferData seq data) rfl
    (hu.transferData seq data) hmax hprocess (by rw [hsent]; simp)
  rw [hsent, hu.negative _ _ _ (toByte_ne_pending hpending)] at hclient
  have hstep : ServerStep B s.client.sys
      ⟨ch.request s.client ([0x36, seq] ++ data) hmax, _, code, _⟩ t' := ⟨hprocess, rfl⟩
  cases hlost : ch.loses s.client (.transferData seq data) with
  | true =>
    rw [hlost, if_pos rfl] at hclient
    rw [transferDataRound_timeout hclient] at h
    cases h
    refine ⟨hs.step hstep, fun hactive => ?_⟩
    cases hinactive.symm.trans hactive
  | false =>
    rw [hlost, if_neg (by simp)] at hclient
    rw [transferDataRound_error hclient (by simp)] at h
    cases h
    trivial

/-- **A block whose response is lost is never sent successfully.** -/
theorem Delivering.sendBlock_lost {s t : Session Link} (hu : u.Documented)
    (h : Delivering B u s₀ app contents b i s) (hb : b ≤ 65533) (hsize : contents.length < 2 ^ 53)
    (hwrite : ∀ i, b ≤ (ch.env i).fwriteFw) (hlost : ch.lost i = true) (fuel : ℕ) :
    EcuUpgrade.sendBlock (u.client B ch) fuel b i s ≠ some (.ok (), t) := by
  intro hok
  obtain ⟨v, hround, hv⟩ := h.round hu hb hsize hwrite
  rw [hlost, if_pos rfl] at hround
  unfold EcuUpgrade.sendBlock at hok
  rw [bind_of_ok h.readFile] at hok
  cases fuel with
  | zero => cases hok
  | succ fuel =>
    rw [loop_of_none hround] at hok
    have hmax : ([0x36, UInt8.ofNat (i + 1)] ++ block b contents i).length ≤ 65535 := by
      have hdata : (block b contents i).length ≤ b := length_block_le b contents i
      simp only [List.length_append, List.length_cons, List.length_nil]
      omega
    have hrepeating : Repeating (UInt8.ofNat (i + 1)) v := by
      refine ⟨hv.settings, fun _ => ?_⟩
      rw [hv.holds.counter, List.length_map, List.length_range, ← Nat.add_assoc, Nat.add_comm 1 i,
        UInt8.ofNat_add (i + 1) 1]
      simp
    exact (Triple.loop (triple_transferDataRound_repeating hu hmax) fuel).ok hrepeating hok

/-! ### The transfer with losses -/

/-- **The retry loop delivers the file only if nothing is lost.** -/
theorem triple_sendBlock (hu : u.Documented) (hb : b ≤ 65533) (hsize : contents.length < 2 ^ 53)
    (hwrite : ∀ i, b ≤ (ch.env i).fwriteFw) (fuel i : ℕ) :
    Triple (fun s => Delivering B u s₀ app contents b i s ∧ ∀ j < i, ch.lost j = false)
      (EcuUpgrade.sendBlock (u.client B ch) fuel b i)
      (fun _ s => Delivering B u s₀ app contents b (i + 1) s ∧ ∀ j < i + 1, ch.lost j = false)
      fun _ _ => True := by
  rintro s ⟨hs, hbefore⟩ r t h
  cases r with
  | error e => trivial
  | ok a =>
    cases hlost : ch.lost i with
    | true => exact absurd h (hs.sendBlock_lost hu hb hsize hwrite hlost fuel)
    | false =>
      cases fuel with
      | zero =>
        unfold EcuUpgrade.sendBlock at h
        rw [bind_of_ok hs.readFile] at h
        cases h
      | succ fuel =>
        obtain ⟨t', hsend, ht'⟩ := hs.sendBlock hu hb hsize hwrite hlost fuel
        cases hsend.symm.trans h
        refine ⟨ht', fun j hj => ?_⟩
        rcases Nat.lt_succ_iff_lt_or_eq.1 hj with hj | rfl
        · exact hbefore j hj
        · exact hlost

/-- **Repeated blocks.** In every reachable state in which a block was just accepted, the same
request is answered with `requestSequenceError` and ends the transfer, without touching a file. And
the retry loop, given rounds enough, ends with the whole file on the server if and only if none of
the responses to its blocks is lost. -/
theorem repeated_block {tr : List Exchange} {m : Machine} (hu : u.Documented)
    (hrun : ServerRun B tr s₀) (hinactive : s₀.srv.xferIsActive = false)
    (hmtu : 3 ≤ B.udsTpMtu.toNat) (hsize : contents.length < 2 ^ 53)
    (hfile : m.filesize = .ok contents.length) (hpath : app.length ≤ 65513)
    (hopen : ∀ i, (ch.env i).fopenFw = true)
    (hwrite : ∀ i, B.udsTpMtu.toNat - 2 ≤ (ch.env i).fwriteFw)
    (log : List (Call × Except PyExc Reply)) :
    (∀ tr x s env q, ServerRun B (tr ++ [x]) s → x.Accepted .transferData →
      q.received = x.req.received →
      ∃ t, processRequest B env s q = .ok (kRequestSequenceError, t) ∧
        t.srv.r.sendBuf = [0x7F, 0x36, 0x24] ∧ t.srv.xferIsActive = false ∧ t.fs = s.fs) ∧
    ((∃ fuel v, transferBlocks (u.client B ch) m app fuel ⟨⟨s₀, []⟩, log, contents⟩ =
        some (.ok (), v) ∧ v.client.sys.fs (B.firmwareFile app) = some contents) ↔
      ∀ i < blockCount contents.length (B.udsTpMtu.toNat - 2), ch.lost i = false) := by
  have hmax : B.udsTpMtu.toNat < 65536 := B.udsTpMtu.toNat_lt
  have hbefore : BeforeTransfer B s₀ contents ⟨⟨s₀, []⟩, log, contents⟩ :=
    ⟨ServerRun.settings hrun, hinactive, rfl, rfl⟩
  refine ⟨fun tr x s env q hs hx hq => repeat_refused env hs hx hq, ?_, fun hlost => ?_⟩
  · rintro ⟨fuel, v, hok, -⟩
    obtain ⟨w, hw, heq⟩ := hbefore.transferBlocks_eq (m := m) fuel hu hmtu hfile hpath
      hsize (hopen 0)
    rw [heq] at hok
    exact ((Triple.forM_range _ fun i _ => triple_sendBlock hu (by omega) hsize hwrite fuel i).ok
      ⟨hw, by simp⟩ hok).2
  · obtain ⟨w, hw, heq⟩ := hbefore.transferBlocks_eq (m := m) 1 hu hmtu hfile hpath
      hsize (hopen 0)
    obtain ⟨v, hv, hdelivered⟩ := forM_range_returns
      (I := fun i => Delivering B u s₀ app contents (B.udsTpMtu.toNat - 2) i) _
      (fun i s hi hs => hs.sendBlock hu (by omega) hsize hwrite (hlost i hi) 0) hw
    refine ⟨1, v, heq.trans hv, ?_⟩
    rw [hdelivered.holds.contents, flatten_all_blocks contents (by omega)]

/-- A channel on which the response to the first block is lost. -/
def firstLost : Channel := { fairChannel with lost := fun i => i == 0 }

/-- A transfer of three bytes of which the first two were accepted. -/
theorem exists_accepted_block : ∃ x y s, ServerRun ⟨4, .test⟩ ([x] ++ [y]) s ∧
    y.Accepted .transferData ∧ s.srv.xferIsActive = true := by
  obtain ⟨tr, s, hrun, hlen, haccepted, hactive⟩ := exists_run_of_serve ⟨4, .test⟩ (.fair 0)
    (fun _ => none)
    [(.fair 0, addFileRequest 3), (.fair 0, .ofBytes [0x36, 1, 7, 8] (by simp) fun _ => 0)]
    (fun tr s => tr.length = 2 ∧ (∀ x ∈ tr.getLast?, x.Accepted .transferData) ∧
      s.srv.xferIsActive = true) (by decide +kernel)
  obtain ⟨x, y, rfl⟩ := List.length_eq_two.1 hlen
  exact ⟨x, y, s, hrun, haccepted y (by simp), hactive⟩

/-- A repeated block of a file of three bytes in blocks of two is refused. The retry loop delivers
the file when nothing is lost, and not when the response to the first block is lost. -/
theorem repeated_block_three_bytes :
    (∃ x y s t, ServerRun ⟨4, .test⟩ ([x] ++ [y]) s ∧ y.Accepted .transferData ∧
      processRequest ⟨4, .test⟩ (.fair 0) s y.req = .ok (kRequestSequenceError, t) ∧
        t.srv.r.sendBuf = [0x7F, 0x36, 0x24] ∧ t.srv.xferIsActive = false) ∧
    (∃ fuel v,
      transferBlocks (plainUdsoncan.client ⟨4, .test⟩ fairChannel) (machineWith [1, 2, 3]) [0x61]
        fuel ⟨⟨udsServerInit (.fair 0) fun _ => none, []⟩, [], [1, 2, 3]⟩ = some (.ok (), v) ∧
      v.client.sys.fs (Build.firmwareFile ⟨4, .test⟩ [0x61]) = some [1, 2, 3]) ∧
    ¬∃ fuel v,
      transferBlocks (plainUdsoncan.client ⟨4, .test⟩ firstLost) (machineWith [1, 2, 3]) [0x61]
        fuel ⟨⟨udsServerInit (.fair 0) fun _ => none, []⟩, [], [1, 2, 3]⟩ = some (.ok (), v) ∧
      v.client.sys.fs (Build.firmwareFile ⟨4, .test⟩ [0x61]) = some [1, 2, 3] := by
  have happly (ch : Channel) (hopen : ∀ i, (ch.env i).fopenFw = true)
      (hwrite : ∀ i, 2 ≤ (ch.env i).fwriteFw) :=
    repeated_block (B := ⟨4, .test⟩) plainUdsoncan_documented
      (.start ⟨.fair 0, fun _ => none, rfl⟩) rfl (by decide)
      (by decide : ([1, 2, 3] : Bytes).length < 2 ^ 53)
      (rfl : (machineWith [1, 2, 3]).filesize = .ok ([1, 2, 3] : Bytes).length)
      (by decide : ([0x61] : Bytes).length ≤ 65513) hopen hwrite []
  have hfair := happly fairChannel (fun _ => rfl) fun _ => (by decide : 2 ≤ 65535)
  have hlost := happly firstLost (fun _ => rfl) fun _ => (by decide : 2 ≤ 65535)
  refine ⟨?_, hfair.2.2 fun _ _ => rfl, fun hok => ?_⟩
  · obtain ⟨x, y, s, hrun, hy, -⟩ := exists_accepted_block
    obtain ⟨t, ht, hsent, hinactive, -⟩ := hfair.1 [x] y s (.fair 0) y.req hrun hy rfl
    exact ⟨x, y, s, t, hrun, hy, ht, hsent, hinactive⟩
  · exact absurd (hlost.2.1 hok 0 (by decide)) (by decide)

/-- A repeated block of a transfer of three bytes is not answered positively. -/
theorem repeated_block_not_accepted : ¬∀ (B : Build) (tr : List Exchange) (x : Exchange) (s : Sys)
    (env : Env), ServerRun B (tr ++ [x]) s → x.Accepted .transferData →
      s.srv.xferIsActive = true → ∃ t, processRequest B env s x.req = .ok (kPositiveResponse, t) ∧
        t.srv.xferIsActive = true := by
  intro hclaim
  obtain ⟨x, y, s, hrun, hy, hactive⟩ := exists_accepted_block
  obtain ⟨t, ht, -⟩ := hclaim _ [x] y s (.fair 0) hrun hy hactive
  obtain ⟨t', ht', -⟩ := repeat_refused (.fair 0) hrun hy rfl
  cases ht.symm.trans ht'

end EcuUpgrade
