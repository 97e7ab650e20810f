import EcuUpgrade.Identifiers.ReadList
import EcuUpgrade.Transfer.Failures
import EcuUpgrade.Transfer.Insertions
import Mathlib.Data.List.Induction

/-!
# The record of the identifier `0xF15A`

`WriteDataByIdentifier` stores what follows the identifier in a file, whatever its length, and
`ReadDataByIdentifier` answers with 12 bytes: the first ones of the file, and the initial values of
an array behind them. A write that is cut short removes the file it has overwritten.

## Main definitions

* `lastWritten`: the bytes of the last write that was answered positively.
* `lostSince`: whether a write was cut short since then.
* `FaithfulStore`: reads return what was written, and failed writes change nothing.
* `KeepsStore`: the requests for which this is so.

## Main results

* `ServerRun.store`: what the file holds in every reachable state.
* `faithfulStore_iff`: **the store is faithful in a run if and only if every request keeps it.**
-/

namespace EcuUpgrade

open ResponseCode Runs

variable {B : Build} {env : Env} {s t : Sys} {q : Request} {x : Exchange} {tr : List Exchange}

/-! ### Requests -/

/-- The bytes behind the identifier. -/
def Request.didData (q : Request) : Bytes := bytesAt q.buf 3 (q.len - 3)

/-- A request to write `0xF15A`. -/
def Exchange.WritesDid (x : Exchange) : Prop :=
  x.service = some .writeDataByIdentifier ∧ 3 ≤ x.req.len ∧
    word16 (x.req.buf 1) (x.req.buf 2) = 0xF15A

/-- A request to write `0xF15A` that is answered positively. -/
def Exchange.StoresDid (x : Exchange) : Prop := x.WritesDid ∧ x.code = kPositiveResponse

/-- A request to read `0xF15A`. -/
def Exchange.ReadsDid (x : Exchange) : Prop := x.req.received = listRequest [0xF15A]

/-- The file of `0xF15A` can be opened for writing. -/
def Env.OpensDid (env : Env) : Prop :=
  (env.statDid = true ∨ env.mkdirDid = true) ∧ env.fopenDid = true

/-- A request to write `0xF15A` whose data cannot be written as a whole. -/
def Exchange.CutShort (x : Exchange) : Prop :=
  x.WritesDid ∧ 4 ≤ x.req.len ∧ x.env.OpensDid ∧ x.env.fwriteDid < x.req.didData.length

instance (x : Exchange) : Decidable x.WritesDid := inferInstanceAs (Decidable (_ ∧ _))

instance (x : Exchange) : Decidable x.StoresDid := inferInstanceAs (Decidable (_ ∧ _))

instance (x : Exchange) : Decidable x.ReadsDid := inferInstanceAs (Decidable (_ = _))

instance (env : Env) : Decidable env.OpensDid := inferInstanceAs (Decidable (_ ∧ _))

instance (x : Exchange) : Decidable x.CutShort := inferInstanceAs (Decidable (_ ∧ _))

/-! ### Histories -/

/-- The bytes of the last write that was answered positively. -/
def lastWritten (tr : List Exchange) : Option Bytes :=
  tr.foldl (fun last x => if x.StoresDid then some x.req.didData else last) none

/-- Whether a write was cut short after the last one that was answered positively. -/
def lostSince (tr : List Exchange) : Bool :=
  tr.foldl (fun lost x => if x.StoresDid then false else if x.CutShort then true else lost) false

theorem lastWritten_snoc (tr : List Exchange) (x : Exchange) : lastWritten (tr ++ [x]) =
    if x.StoresDid then some x.req.didData else lastWritten tr := by
  simp [lastWritten]

theorem lostSince_snoc (tr : List Exchange) (x : Exchange) : lostSince (tr ++ [x]) =
    if x.StoresDid then false else if x.CutShort then true else lostSince tr := by
  simp [lostSince]

/-! ### The file -/

/-- **Only a request to write changes the file of the identifier.** -/
theorem ServerStep.didFile_of_ne (hfw : FirmwareFile B s) (h : ServerStep B s x t)
    (hx : x.service ≠ some .writeDataByIdentifier) : t.fs B.didFile = s.fs B.didFile := by
  by_cases hdata : x.service = some .transferData
  · obtain ⟨u, hcall, rfl⟩ := h.call_setSend hdata
    obtain rfl : u = _ := congrArg Prod.snd (Except.ok.inj hcall).symm
    exact transferData0x36_file fun hstream => hfw.stream _ hstream rfl
  by_cases hfile : x.service = some .requestFileTransfer
  · obtain ⟨u, hcall, rfl⟩ := h.call_setSend hfile
    obtain rfl : u = _ := congrArg Prod.snd (Except.ok.inj hcall).symm
    exact requestFileTransfer0x38_file (cStr_fwFilename_ne_didFile B)
  exact h.file_of_services (fun hservice => absurd hservice hx) hdata hfile

/-- **What a request to write leaves in the file**: its data, nothing, or what was there. -/
theorem handleWriteDataByIdent_cases (B : Build) (env : Env) (s : Sys) (data : Bytes) :
    (env.OpensDid ∧ data.length ≤ env.fwriteDid ∧
        (handleWriteDataByIdent B env s 0xF15A data).1 = kPositiveResponse ∧
        (handleWriteDataByIdent B env s 0xF15A data).2.fs B.didFile = some data) ∨
      (env.OpensDid ∧ env.fwriteDid < data.length ∧
        (handleWriteDataByIdent B env s 0xF15A data).1 ≠ kPositiveResponse ∧
        (handleWriteDataByIdent B env s 0xF15A data).2.fs B.didFile = none) ∨
      (¬env.OpensDid ∧ (handleWriteDataByIdent B env s 0xF15A data).1 ≠ kPositiveResponse ∧
        (handleWriteDataByIdent B env s 0xF15A data).2.fs B.didFile = s.fs B.didFile) := by
  unfold handleWriteDataByIdent Env.OpensDid
  rw [if_pos rfl]
  -- the process when the directory has been looked for
  set u := if env.statDid then s else s.emit (.mkdir B.didPath) with hu
  have hfs : u.fs = s.fs := by
    rw [hu]
    split_ifs <;> rfl
  dsimp only
  by_cases hdir : env.statDid = true ∨ env.mkdirDid = true
  · have hdir' : ¬(!env.statDid && !env.mkdirDid) = true := by
      rcases hdir with hdir | hdir <;> simp [hdir]
    rw [if_neg hdir']
    by_cases hopen : env.fopenDid = true
    · have hopen' : ¬(!env.fopenDid) = true := by simp [hopen]
      rw [if_neg hopen']
      by_cases hle : data.length ≤ env.fwriteDid
      · have hmin : min env.fwriteDid data.length = data.length := min_eq_right hle
        rw [hmin, if_neg (not_not.2 rfl), List.take_length]
        exact .inl ⟨⟨hdir, hopen⟩, hle, rfl, Sys.setFile_fs_self _ _ _⟩
      · have hmin : min env.fwriteDid data.length ≠ data.length := by omega
        rw [if_pos hmin]
        exact .inr (.inl ⟨⟨hdir, hopen⟩, Nat.not_le.1 hle, by simp, Sys.setFile_fs_self _ _ _⟩)
    · have hopen' : (!env.fopenDid) = true := by simpa using hopen
      rw [if_pos hopen']
      exact .inr (.inr ⟨fun h => hopen h.2, by simp, congrFun hfs _⟩)
  · have hdir' : (!env.statDid && !env.mkdirDid) = true := by simpa using hdir
    rw [if_pos hdir']
    exact .inr (.inr ⟨fun h => hdir h.1, by simp, congrFun hfs _⟩)

/-- **What an exchange leaves in the file of the identifier.** -/
theorem ServerStep.didFile_cases (hfw : FirmwareFile B s) (h : ServerStep B s x t) :
    (x.StoresDid ∧ ¬x.CutShort ∧ t.fs B.didFile = some x.req.didData) ∨
      (x.CutShort ∧ ¬x.StoresDid ∧ t.fs B.didFile = none) ∨
      (¬x.StoresDid ∧ ¬x.CutShort ∧ t.fs B.didFile = s.fs B.didFile) := by
  by_cases hservice : x.service = some .writeDataByIdentifier
  swap
  · exact .inr (.inr ⟨fun hstores => hservice hstores.1.1, fun hcut => hservice hcut.1.1,
      h.didFile_of_ne hfw hservice⟩)
  obtain ⟨u, hcall, rfl⟩ := h.call_setSend hservice
  have hfile : (u.setSend x.sent).fs B.didFile = u.fs B.didFile := rfl
  have hcall' : writeDataByIdentifier0x2E B x.env (s.receive B x.env x.req) = (x.code, u) :=
    Except.ok.inj hcall
  rw [hfile]
  unfold writeDataByIdentifier0x2E at hcall'
  rw [receive_recvLen, receive_recvBuf] at hcall'
  by_cases hshort : x.req.len < 4
  · rw [if_pos hshort] at hcall'
    obtain ⟨hcode, rfl⟩ := Prod.mk.inj hcall'
    refine .inr (.inr ⟨fun hstores => ?_, fun hcut => Nat.not_le.2 hshort hcut.2.1, rfl⟩)
    exact absurd (hcode.trans hstores.2) (by simp)
  rw [if_neg hshort] at hcall'
  have hsub : subSize16 x.req.len 3 = x.req.len - 3 := by
    have hle := x.req.len_le
    rw [subSize16, subSize_of_le (by omega), Nat.mod_eq_of_lt (by omega)]
  rw [hsub] at hcall'
  dsimp only at hcall'
  by_cases hid : word16 (x.req.buf 1) (x.req.buf 2) = 0xF15A
  · have hwrites : x.WritesDid := ⟨hservice, by omega, hid⟩
    rw [hid] at hcall'
    set v := (s.receive B x.env x.req).emitEvent (.writeDataByIdent 0xF15A
      ((s.receive B x.env x.req).srv.r.recvSlice 3 (x.req.len - 3))) with hv
    have hdata : (s.receive B x.env x.req).srv.r.recvSlice 3 (x.req.len - 3) = x.req.didData := rfl
    rw [hdata] at hcall'
    rcases handleWriteDataByIdent_cases B x.env v x.req.didData with
      ⟨-, hle, hcode, hfs⟩ | ⟨hopens, hlt, hcode, hfs⟩ | ⟨hopens, hcode, hfs⟩
    · rw [if_neg (not_not.2 hcode)] at hcall'
      obtain ⟨hpositive, rfl⟩ := Prod.mk.inj hcall'
      exact .inl ⟨⟨hwrites, hpositive.symm⟩, fun hcut => Nat.not_lt.2 hle hcut.2.2.2, hfs⟩
    · rw [if_pos hcode] at hcall'
      obtain ⟨hnegative, rfl⟩ := Prod.mk.inj hcall'
      refine .inr (.inl ⟨⟨hwrites, by omega, hopens, hlt⟩, fun hstores => ?_, hfs⟩)
      exact hcode (hnegative.trans hstores.2)
    · rw [if_pos hcode] at hcall'
      obtain ⟨hnegative, rfl⟩ := Prod.mk.inj hcall'
      refine .inr (.inr ⟨fun hstores => ?_, fun hcut => hopens hcut.2.2.1, hfs⟩)
      exact hcode (hnegative.trans hstores.2)
  · rw [handleWriteDataByIdent, if_neg hid, if_pos (by simp)] at hcall'
    obtain ⟨-, rfl⟩ := Prod.mk.inj hcall'
    exact .inr (.inr ⟨fun hstores => hid hstores.1.2.2, fun hcut => hid hcut.1.2.2, rfl⟩)

/-! ### Runs -/

/-- What the file holds after a history in which a write was answered positively. -/
structure Store (B : Build) (tr : List Exchange) (s : Sys) : Prop where
  firmware : FirmwareFile B s
  held : ∀ d, lastWritten tr = some d → s.fs B.didFile = if lostSince tr then none else some d

theorem Store.step (hstore : Store B tr s) (h : ServerStep B s x t) : Store B (tr ++ [x]) t where
  firmware := hstore.firmware.step h
  held d hd := by
    rw [lastWritten_snoc] at hd
    rw [lostSince_snoc]
    rcases h.didFile_cases hstore.firmware with
      ⟨hstores, -, hfile⟩ | ⟨hcut, hstores, hfile⟩ | ⟨hstores, hcut, hfile⟩
    · rw [if_pos hstores] at hd ⊢
      rw [hfile, hd]
      rfl
    · rw [if_neg hstores, if_pos hcut, hfile]
      rfl
    · rw [if_neg hstores] at hd ⊢
      rw [if_neg hcut, hfile]
      exact hstore.held d hd

/-- **In every reachable state** the file holds the data of the last write that was answered
positively, unless a write was cut short since then. -/
theorem ServerRun.store (h : ServerRun B tr s) : Store B tr s := by
  refine Run.invariant (P := Store B) ?_ (fun tr s x t _ hstore hstep => hstore.step hstep) h
  rintro s ⟨env, fs, rfl⟩
  refine ⟨⟨?_, fun path hpath => by cases hpath⟩, fun d hd => by cases hd⟩
  simp [udsServerInit, cStr, Build.didFile, ascii]

/-! ### Faithfulness -/

variable (B s) in
/-- The record that is read, if the file can be opened. -/
def Sys.didValue : Bytes := freadInto (ffArray 12) (s.fs B.didFile)

/-- A positive read returns the data of the last write that was answered positively, and a failed
write changes nothing. -/
structure FaithfulExchange (B : Build) (pre : List Exchange) (s : Sys) (x : Exchange) (t : Sys) :
    Prop where
  read : x.ReadsDid → x.code = kPositiveResponse → ∀ d, lastWritten pre = some d →
    x.sent = responseSidOf kSIDReadDataByIdentifier :: (didBytes 0xF15A ++ d)
  write : x.WritesDid → x.code ≠ kPositiveResponse → t.didValue B = s.didValue B

/-- **The store is faithful** in a run. -/
def FaithfulStore (B : Build) (tr : List (Sys × Exchange)) : Prop :=
  Everywhere (fun pre l => ∀ t, ServerStep B l.1 l.2 t →
    FaithfulExchange B (pre.map Prod.snd) l.1 l.2 t) tr

/-- A read finds 12 bytes that were not lost, in a file that can be opened, or the bytes written
were the initial values of the array; a write that is cut short finds no file, or one that starts
with those values. -/
structure KeepsStore (B : Build) (pre : List Exchange) (s : Sys) (x : Exchange) : Prop where
  read : x.ReadsDid → ∀ d, lastWritten pre = some d →
    (d.length = 12 ∧ lostSince pre = false ∧ x.env.fopenDidRead = true) ∨ d = ffArray 12
  write : x.CutShort → ∀ c, s.fs B.didFile = some c → c.take 12 <+: ffArray 12

theorem freadInto_eq_contents {buf c : Bytes} :
    freadInto buf (some c) = c ↔ c.length = buf.length := by
  constructor
  · intro h
    rw [← h, length_freadInto]
  · intro h
    rw [freadInto, ← h, List.take_length, h, List.drop_length, List.append_nil]

theorem freadInto_eq_initial {buf c : Bytes} :
    freadInto buf (some c) = buf ↔ c.take buf.length <+: buf := by
  constructor
  · intro h
    exact ⟨_, h⟩
  · rintro ⟨rest, h⟩
    have hlen := congrArg List.length h
    rw [List.length_append, List.length_take] at hlen
    have hdrop : buf.drop c.length = rest := by
      rcases Nat.le_total c.length buf.length with hle | hle
      · nth_rewrite 1 [← h]
        exact List.drop_left' (by rw [List.length_take, min_eq_right hle])
      · rw [List.drop_eq_nil_of_le hle]
        exact (List.length_eq_zero_iff.1 (by omega)).symm
    rw [freadInto, hdrop, h]

theorem Sys.didValue_eq_initial :
    s.didValue B = ffArray 12 ↔ ∀ c, s.fs B.didFile = some c → c.take 12 <+: ffArray 12 := by
  unfold Sys.didValue
  cases hfile : s.fs B.didFile with
  | none => exact iff_of_true rfl fun c hc => by cases hc
  | some c =>
    rw [freadInto_eq_initial]
    constructor
    · rintro hprefix _ ⟨⟩
      exact hprefix
    · intro hprefix
      exact hprefix c rfl

/-- When a read finds the bytes written. -/
theorem Store.didRecord_iff (hstore : Store B tr s) {d : Bytes} (hd : lastWritten tr = some d) :
    s.didRecord B env 0xF15A = d ↔
      (d.length = 12 ∧ lostSince tr = false ∧ env.fopenDidRead = true) ∨ d = ffArray 12 := by
  have hrecord : s.didRecord B env 0xF15A =
      freadInto (ffArray 12) (if env.fopenDidRead then s.fs B.didFile else none) := rfl
  have hinitial : (ffArray 12 = d) ↔ d = ffArray 12 := eq_comm
  have hlen : (ffArray 12).length = 12 := rfl
  rw [hrecord, hstore.held d hd]
  cases hopen : env.fopenDidRead with
  | false =>
    rw [if_neg Bool.false_ne_true]
    simpa [freadInto] using hinitial
  | true =>
    rw [if_pos rfl]
    cases hlost : lostSince tr with
    | true =>
      rw [if_pos rfl]
      simpa [freadInto] using hinitial
    | false =>
      rw [if_neg Bool.false_ne_true, freadInto_eq_contents, hlen]
      constructor
      · intro h
        exact .inl ⟨h, rfl, rfl⟩
      · rintro (⟨h, -, -⟩ | rfl)
        · exact h
        · exact hlen

/-- What is answered to a request to read the identifier. -/
theorem ServerStep.answer_of_readsDid (hroom : 15 ≤ B.udsTpMtu.toNat) (hs : Settings s)
    (h : ServerStep B s x t) (hx : x.ReadsDid) : x.code = kPositiveResponse ∧
      x.sent = responseSidOf kSIDReadDataByIdentifier ::
        (didBytes 0xF15A ++ s.didRecord B x.env 0xF15A) := by
  have hwhole : s.wholeAnswer B x.env [0xF15A] = responseSidOf kSIDReadDataByIdentifier ::
      (didBytes 0xF15A ++ s.didRecord B x.env 0xF15A) := by
    simp [Sys.wholeAnswer, Sys.didAnswer]
  have hreq : x.req.received = listRequest [0xF15A] := hx
  have hanswer := h.answer_of_reads hs (by simp [IsReadable]) hreq ?_
  · rw [if_neg (by decide), List.length_singleton, List.take_of_length_le (by simp), hwhole]
      at hanswer
    exact Prod.mk.inj hanswer
  · rw [hwhole, List.length_cons, List.length_append, length_didBytes, length_didRecord,
      if_neg (by decide)]
    exact hroom

/-- **When one request is faithful.** -/
theorem ServerStep.faithful_iff (hroom : 15 ≤ B.udsTpMtu.toNat) (hrun : ServerRun B tr s)
    (h : ServerStep B s x t) : FaithfulExchange B tr s x t ↔ KeepsStore B tr s x := by
  have hstore : Store B tr s := ServerRun.store hrun
  have hread (hx : x.ReadsDid) (d : Bytes) (hd : lastWritten tr = some d) :
      x.sent = responseSidOf kSIDReadDataByIdentifier :: (didBytes 0xF15A ++ d) ↔
        (d.length = 12 ∧ lostSince tr = false ∧ x.env.fopenDidRead = true) ∨ d = ffArray 12 := by
    rw [(h.answer_of_readsDid hroom (ServerRun.settings hrun) hx).2, ← hstore.didRecord_iff hd]
    simp
  have hcases := h.didFile_cases hstore.firmware
  constructor
  · intro hfaithful
    refine ⟨fun hx d hd => ?_, fun hcut => ?_⟩
    · have hcode := (h.answer_of_readsDid hroom (ServerRun.settings hrun) hx).1
      exact (hread hx d hd).1 (hfaithful.read hx hcode d hd)
    · rcases hcases with ⟨-, hcut', -⟩ | ⟨-, hstores, hfile⟩ | ⟨-, hcut', -⟩
      · exact absurd hcut hcut'
      · have hsame := hfaithful.write hcut.1 fun hcode => hstores ⟨hcut.1, hcode⟩
        have hafter : t.didValue B = ffArray 12 := by
          rw [Sys.didValue, hfile]
          rfl
        exact Sys.didValue_eq_initial.1 (hsame.symm.trans hafter)
      · exact absurd hcut hcut'
  · intro hkeeps
    refine ⟨fun hx _ d hd => (hread hx d hd).2 (hkeeps.read hx d hd), fun hx hcode => ?_⟩
    rcases hcases with ⟨hstores, -, -⟩ | ⟨hcut, -, hfile⟩ | ⟨-, -, hfile⟩
    · exact absurd hstores.2 hcode
    · rw [Sys.didValue_eq_initial.2 (hkeeps.write hcut), Sys.didValue, hfile]
      rfl
    · rw [Sys.didValue, hfile]
      rfl

/-- **When the store is faithful in a run**: if and only if every read finds 12 bytes that were
written as a whole and not lost, in a file that can be opened, and every write that is cut short
finds no file, but for records that are the initial values of the array. -/
theorem faithfulStore_iff (hroom : 15 ≤ B.udsTpMtu.toNat) {tr : List (Sys × Exchange)}
    (h : MarkedRun B tr s) :
    FaithfulStore B tr ↔ Everywhere (fun pre l => KeepsStore B (pre.map Prod.snd) l.1 l.2) tr := by
  refine everywhere_congr (Run.everywhere (fun pre s l t hrun hstep => ?_) h)
  obtain ⟨rfl, hstep⟩ := hstep
  have hserver := MarkedRun.serverRun hrun
  constructor
  · intro hfaithful
    exact (hstep.faithful_iff hroom hserver).1 (hfaithful t hstep)
  · intro hkeeps u hu
    exact (hu.faithful_iff hroom hserver).2 hkeeps

/-! ### Records of full size -/

theorem lastWritten_eq_some {d : Bytes} (h : lastWritten tr = some d) :
    ∃ x ∈ tr, x.StoresDid ∧ x.req.didData = d := by
  induction tr using List.reverseRecOn with
  | nil => cases h
  | append_singleton tr x ih =>
    rw [lastWritten_snoc] at h
    by_cases hstores : x.StoresDid
    · rw [if_pos hstores] at h
      exact ⟨x, by simp, hstores, Option.some.inj h⟩
    · rw [if_neg hstores] at h
      obtain ⟨y, hmem, hy⟩ := ih h
      exact ⟨y, List.mem_append_left _ hmem, hy⟩

theorem lostSince_eq_false (h : ∀ x ∈ tr, ¬x.CutShort) : lostSince tr = false := by
  induction tr using List.reverseRecOn with
  | nil => rfl
  | append_singleton tr x ih =>
    rw [lostSince_snoc, if_neg (h x (by simp)),
      ih fun y hy => h y (List.mem_append_left _ hy), ite_self]

/-- An exchange with nothing cut short, a record of full size and a file that can be opened. -/
def Exchange.OfFullSize (x : Exchange) : Prop :=
  ¬x.CutShort ∧ (x.StoresDid → x.req.didData.length = 12) ∧ x.env.fopenDidRead = true

instance (x : Exchange) : Decidable x.OfFullSize := inferInstanceAs (Decidable (_ ∧ _))

theorem keepsStore_of_ofFullSize {tr : List (Sys × Exchange)} (h : ∀ l ∈ tr, l.2.OfFullSize) :
    Everywhere (fun pre l => KeepsStore B (pre.map Prod.snd) l.1 l.2) tr := by
  rintro pre l post rfl
  obtain ⟨hcut, -, hopen⟩ := h l (by simp)
  have hpre (x : Exchange) (hx : x ∈ pre.map Prod.snd) : x.OfFullSize := by
    obtain ⟨l', hl', rfl⟩ := List.mem_map.1 hx
    exact h l' (List.mem_append_left _ hl')
  refine ⟨fun _ d hd => .inl ⟨?_, lostSince_eq_false fun x hx => (hpre x hx).1, hopen⟩,
    fun hcut' => absurd hcut' hcut⟩
  obtain ⟨x, hx, hstores, rfl⟩ := lastWritten_eq_some hd
  exact (hpre x hx).2.1 hstores

/-- The request to write bytes. -/
def didWriteRequest (data : Bytes) : Bytes := [0x2E, 0xF1, 0x5A] ++ data

/-- A record of 12 bytes is read back. -/
theorem faithfulStore_iff_twelve : ∃ tr s, MarkedRun ⟨65535, .test⟩ tr s ∧
    lastWritten (tr.map Prod.snd) = some (List.replicate 12 7) ∧
      FaithfulStore ⟨65535, .test⟩ tr := by
  obtain ⟨tr, s, hrun, hfull, hlast⟩ := exists_run_of_serve ⟨65535, .test⟩ (.fair 0) (fun _ => none)
    [(.fair 0, .ofBytes (didWriteRequest (List.replicate 12 7)) (by decide) fun _ => 0),
      (.fair 0, .ofBytes (listRequest [0xF15A]) (by decide) fun _ => 0)]
    (fun tr _ => (∀ x ∈ tr, x.OfFullSize) ∧ lastWritten tr = some (List.replicate 12 7))
    (by decide +kernel)
  obtain ⟨marked, hmarked, rfl⟩ := ServerRun.exists_marked hrun
  refine ⟨marked, s, hmarked, hlast, (faithfulStore_iff (by decide) hmarked).2 ?_⟩
  exact keepsStore_of_ofFullSize fun l hl => hfull _ (List.mem_map_of_mem hl)

/-- A record of one byte is read with others behind it. -/
theorem not_faithfulStore :
    ¬∀ (tr : List (Sys × Exchange)) (s : Sys), MarkedRun ⟨65535, .test⟩ tr s →
      FaithfulStore ⟨65535, .test⟩ tr := by
  intro hclaim
  obtain ⟨tr, s, hrun, hlast, hread⟩ := exists_run_of_serve ⟨65535, .test⟩ (.fair 0)
    (fun _ => none)
    [(.fair 0, .ofBytes (didWriteRequest [7]) (by decide) fun _ => 0),
      (.fair 0, .ofBytes (listRequest [0xF15A]) (by decide) fun _ => 0)]
    (fun tr _ => lastWritten tr.dropLast = some [7] ∧
      ∃ x ∈ tr.getLast?, x.ReadsDid ∧ x.code = kPositiveResponse ∧ x.sent.length = 15)
    (by decide +kernel)
  obtain ⟨x, hx, hreads, hcode, hlength⟩ := hread
  obtain ⟨marked, hmarked, rfl⟩ := ServerRun.exists_marked hrun
  obtain ⟨l, hl, rfl⟩ : ∃ l, marked.getLast? = some l ∧ l.2 = x := by
    simpa using hx
  have hsplit : marked = marked.dropLast ++ [l] := (List.dropLast_append_getLast? l hl).symm
  have hmarked' : MarkedRun ⟨65535, .test⟩ (marked.dropLast ++ [l]) s := hsplit ▸ hmarked
  obtain ⟨u, -, rfl, hstep⟩ := Run.snoc_iff.1 hmarked'
  rw [← List.map_dropLast] at hlast
  have hsent := (hclaim _ _ hmarked' marked.dropLast l [] rfl s hstep).read hreads hcode _ hlast
  rw [hsent] at hlength
  exact absurd hlength (by decide)

end EcuUpgrade
