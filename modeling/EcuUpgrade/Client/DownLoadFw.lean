import EcuUpgrade.Client.ProgramSoc
import EcuUpgrade.Lib.BigEndian

/-!
# `DownLoadFW` of the upgrade client

`UDSClient.DownLoadFW` of `uds_client.py` downloads the segments of a parsed hex file: for each one
it requests a download, sends the data in blocks, repeating those that time out, exits the transfer
and runs the checksum routine. It returns the status of this routine inside of the loop over the
segments, so that only the first segment is ever downloaded.

## Main definitions

* `HexParser`: the segments of a file, with their data and checksums.
* `DownloadCall`, `Download`: the calls of the client and their record.
* `downLoadFw`: the function.
* `AllDownloaded`: every segment was downloaded, in order.

## Main results

* `downloadSegment_log`, `downloaded_of_returned`: what a segment leaves in the record.
* `allDownloaded_iff`: **a run that reports success has downloaded all segments if and only if there
  is only one.**
-/

namespace EcuUpgrade

open Programs Programs.Prog Blocks BigEndian

/-- The firmware of a hex file: its segments, from a start address to an end address that does not
belong to it, with the data and the checksum of each by the start address. -/
structure HexParser where
  segments : List (ℕ × ℕ)
  datas : ℕ → Bytes
  checksums : ℕ → UInt32
  nonempty : ∀ segment ∈ segments, segment.1 < segment.2
  inRange : ∀ segment ∈ segments, segment.2 ≤ 2 ^ 32
  length_datas : ∀ segment ∈ segments, (datas segment.1).length = segment.2 - segment.1

/-- The requests that `DownLoadFW` sends with `udsoncan.Client`. -/
inductive DownloadCall
  | requestDownload (address memorysize : ℕ)
  | transferData (sequenceNumber : UInt8) (data : Bytes)
  | requestTransferExit
  | startRoutine (id : UInt16) (data : Bytes)
  deriving DecidableEq

/-- A client with a state of its own: each request is answered or raises, and the timeout of the
requests can be set. -/
structure DownloadClient (σ : Type) where
  request : DownloadCall → σ → Except PyExc Reply × σ
  setRequestTimeout : ℕ → σ → σ

/-- A request with its outcome. -/
abbrev DownloadEntry : Type := DownloadCall × Except PyExc Reply

/-- The client, the requests sent so far with their outcomes, and how often progress was
reported. -/
structure Download (σ : Type) where
  client : σ
  log : List DownloadEntry
  reports : ℕ

variable {σ : Type} (c : DownloadClient σ) (progressCb : Option (ℕ → Except PyExc Unit))
  (parser : HexParser) (fuel : ℕ)

/-- A request of the client. -/
def request (p : DownloadCall) : Prog (Download σ) PyExc Reply := fun s =>
  some ((c.request p s.client).1, { s with
    client := (c.request p s.client).2
    log := s.log ++ [(p, (c.request p s.client).1)] })

/-- `set_config('request_timeout', value)`. -/
def setConfig (value : ℕ) : Prog (Download σ) PyExc Unit :=
  Prog.modify fun s => { s with client := c.setRequestTimeout value s.client }

/-- The call of the progress callback, if there is one. -/
def reportProgress : Prog (Download σ) PyExc Unit :=
  match progressCb with
  | none => pure ()
  | some cb => do
    let s ← Prog.get
    Prog.modify fun s => { s with reports := s.reports + 1 }
    ofExcept (cb s.reports)

/-- The position in a list of length `n` that an index of a slice means. -/
def sliceIndex (n : ℕ) (i : ℤ) : ℕ := if 0 ≤ i then min i.toNat n else (n + i).toNat

/-- `data[i : j]`. -/
def slice (data : Bytes) (i j : ℤ) : Bytes :=
  (data.drop (sliceIndex data.length i)).take
    (sliceIndex data.length j - sliceIndex data.length i)

/-- One round of the loop that repeats a block. Only the call itself may time out. -/
def downloadRound (index : ℕ) (data : Bytes) : Prog (Download σ) PyExc (Option Unit) := do
  let accepted ← tryCatch
    (do let _ ← request c (.transferData (UInt8.ofNat (index + 1)) data); pure true)
    fun e => if e = .timeout then pure false else raise e
  if accepted then
    reportProgress progressCb
    return some ()
  else return none

/-- The body of `for index in range(block_count)`. -/
def downloadBlock (data : Bytes) (blockSize : ℤ) (index : ℕ) : Prog (Download σ) PyExc Unit :=
  loop fuel (downloadRound c progressCb index
    (slice data (index * blockSize) (index * blockSize + blockSize)))

/-- The body of the loop over the segments, with its `return`. -/
def downloadSegment (segment : ℕ × ℕ) : Prog (Download σ) PyExc (Option ℤ) := do
  let size := segment.2 - segment.1
  let response ← request c (.requestDownload segment.1 size)
  let blockSize : ℤ := response.maxLength - 2
  if blockSize = 0 then raise .other
  else if blockCountOf size blockSize = 0 then raise .other
  else do
    setConfig c 2
    forM (List.range (blockCountOf size blockSize).toNat)
      (downloadBlock c progressCb fuel (parser.datas segment.1) blockSize)
    let _ ← request c .requestTransferExit
    setConfig c 20
    let response ←
      request c (.startRoutine 0x0202 (toBytes 4 (parser.checksums segment.1).toNat))
    match response.routineStatusRecord with
    | [] => raise .other
    | status :: _ => return some (status.toNat : ℤ)

/-- `DownLoadFW`: nothing is returned if the loop ends by itself. -/
def downLoadFw : Prog (Download σ) PyExc (Option ℤ) :=
  if parser.segments = [] then raise .other
  else tryCatch (forReturn (downloadSegment c progressCb parser fuel) parser.segments)
    fun _ => pure (some (-1))

/-! ### What should be in the record -/

/-- The blocks that were answered, with their counters. -/
def answeredBlocks (log : List DownloadEntry) : List (UInt8 × Bytes) :=
  log.filterMap fun e =>
    match e with
    | (.transferData n data, .ok _) => some (n, data)
    | _ => none

/-- The request sends a block. -/
def DownloadCall.isBlock : DownloadCall → Bool
  | .transferData .. => true
  | _ => false

/-- The record of a segment that was downloaded: a request with its start and size; blocks, of
which those that were answered put together are its data and count from 1 modulo 256; the exit;
and the checksum routine with its checksum, which reported 0. -/
def Downloaded (segment : ℕ × ℕ) (log : List DownloadEntry) : Prop :=
  ∃ r₀ r₁ r₂ : Reply, ∃ blocks, log =
      (.requestDownload segment.1 (segment.2 - segment.1), .ok r₀) :: blocks ++
        [(.requestTransferExit, .ok r₁),
          (.startRoutine 0x0202 (toBytes 4 (parser.checksums segment.1).toNat), .ok r₂)] ∧
    (∀ e ∈ blocks, e.1.isBlock = true) ∧
    ((answeredBlocks blocks).map Prod.snd).flatten = parser.datas segment.1 ∧
    (answeredBlocks blocks).map Prod.fst =
      (List.range (answeredBlocks blocks).length).map (fun i => UInt8.ofNat (i + 1)) ∧
    r₂.routineStatusRecord.head? = some 0

/-- Every segment was downloaded, in order. -/
def AllDownloaded (log : List DownloadEntry) : Prop :=
  ∃ pieces, List.Forall₂ (Downloaded parser) parser.segments pieces ∧ log = pieces.flatten

/-! ### The blocks of a segment -/

variable {c progressCb parser fuel}

theorem request_triple (p : DownloadCall) (u : Download σ) :
    Triple (· = u) (request c p) (fun reply t => t.log = u.log ++ [(p, .ok reply)])
      (fun e t => t.log = u.log ++ [(p, .error e)]) := by
  rintro s rfl r t h
  simp only [request, Option.some.injEq, Prod.mk.injEq] at h
  obtain ⟨hr, rfl⟩ := h
  rw [hr]
  cases r with
  | ok reply => rfl
  | error e => rfl

/-- Reporting progress leaves the record as it is. -/
theorem reportProgress_triple (P : List DownloadEntry → Prop) :
    Triple (fun s : Download σ => P s.log) (reportProgress progressCb) (fun _ t => P t.log)
      (fun _ t => P t.log) := by
  unfold reportProgress
  cases progressCb with
  | none => exact .pure _ fun _ h => h
  | some cb =>
    refine .read fun u hu => Triple.bind (Q := fun _ t => P t.log) (.modify _ ?_) fun _ => ?_
    · rintro s rfl
      exact hu
    · rintro s hs r t ⟨⟩
      cases cb u.reports with
      | ok a => exact hs
      | error e => exact hs

/-- Since the record `l`, blocks were sent, of which `accepted` were answered. -/
def Sent (l : List DownloadEntry) (accepted : List (UInt8 × Bytes)) (log : List DownloadEntry) :
    Prop :=
  ∃ blocks, log = l ++ blocks ∧ (∀ e ∈ blocks, e.1.isBlock = true) ∧
    answeredBlocks blocks = accepted

theorem Sent.block {l log : List DownloadEntry} {accepted : List (UInt8 × Bytes)} {n : UInt8}
    {data : Bytes} {r : Except PyExc Reply} (h : Sent l accepted log) :
    Sent l (accepted ++ answeredBlocks [(.transferData n data, r)])
      (log ++ [(.transferData n data, r)]) := by
  obtain ⟨blocks, rfl, hblocks, rfl⟩ := h
  refine ⟨blocks ++ [(.transferData n data, r)], by simp, ?_, by simp [answeredBlocks]⟩
  rw [List.forall_mem_append]
  exact ⟨hblocks, by simp [DownloadCall.isBlock]⟩

theorem downloadRound_triple (l : List DownloadEntry) (accepted : List (UInt8 × Bytes))
    (index : ℕ) (data : Bytes) :
    Triple (fun s : Download σ => Sent l accepted s.log) (downloadRound c progressCb index data)
      (AfterRound (fun s => Sent l accepted s.log)
        fun _ s => Sent l (accepted ++ [(UInt8.ofNat (index + 1), data)]) s.log)
      (fun _ _ => True) := by
  have hcall : Triple (fun s : Download σ => Sent l accepted s.log)
      (tryCatch (do
        let _ ← request c (.transferData (UInt8.ofNat (index + 1)) data)
        pure true)
        fun e => if e = .timeout then pure false else raise e)
      (fun b s => Sent l (accepted ++ if b then [(UInt8.ofNat (index + 1), data)] else []) s.log)
      (fun _ _ => True) := by
    refine Triple.tryCatch (E := fun _ s => Sent l accepted s.log) ?_ fun e => ?_
    · intro s hs
      refine ((request_triple _ s).bind fun reply => .pure true fun t ht => ?_).mono
        (fun _ h => h) (fun _ _ h => h) (fun e t ht => ?_) s rfl
      · rw [ht]
        exact hs.block
      · rw [ht]
        simpa [answeredBlocks] using hs.block (r := .error e)
    · split_ifs
      · exact .pure _ fun s hs => by simpa using hs
      · exact .raise _ fun _ _ => trivial
  refine hcall.bind fun b => ?_
  cases b with
  | true =>
    refine ((reportProgress_triple (Sent l (accepted ++ [(UInt8.ofNat (index + 1), data)]))).mono
      (fun _ h => h) (fun _ _ h => h) fun _ _ _ => trivial).bind fun _ => ?_
    exact .pure _ fun _ h => h
  | false => exact .pure _ fun s hs => by simpa [AfterRound] using hs

/-- A slice of a positive size is a block. -/
theorem slice_eq_block (data : Bytes) (b index : ℕ) :
    slice data (index * (b : ℤ)) (index * (b : ℤ) + b) = block b data index := by
  have hstart : (index * (b : ℤ)).toNat = index * b := by
    rw [← Int.natCast_mul, Int.toNat_natCast]
  have hstop : (index * (b : ℤ) + b).toNat = index * b + b := by
    rw [← Int.natCast_mul, ← Int.natCast_add, Int.toNat_natCast]
  have hnonneg : (0 : ℤ) ≤ index * b := by
    rw [← Int.natCast_mul]
    exact Int.natCast_nonneg _
  unfold slice sliceIndex block
  rw [if_pos hnonneg, if_pos (by omega), hstart, hstop]
  rcases Nat.le_total (index * b) data.length with hle | hle
  · rw [min_eq_left hle]
    rcases Nat.le_total (index * b + b) data.length with hle' | hle'
    · rw [min_eq_left hle', Nat.add_sub_cancel_left]
    · rw [min_eq_right hle', List.take_of_length_le, List.take_of_length_le]
      · simp
        omega
      · simp
  · rw [min_eq_right hle, List.drop_eq_nil_of_le le_rfl, List.drop_eq_nil_of_le hle]
    simp

/-- The blocks of a segment. -/
theorem downloadBlocks_triple (l : List DownloadEntry) (data : Bytes) (blockSize : ℤ) (n : ℕ) :
    Triple (fun s : Download σ => s.log = l)
      (forM (List.range n) (downloadBlock c progressCb fuel data blockSize))
      (fun _ s => Sent l ((List.range n).map fun i => (UInt8.ofNat (i + 1),
        slice data (i * blockSize) (i * blockSize + blockSize))) s.log)
      (fun _ _ => True) := by
  refine (Triple.forM_range (I := fun i s => Sent l ((List.range i).map fun i =>
    (UInt8.ofNat (i + 1), slice data (i * blockSize) (i * blockSize + blockSize))) s.log) n
      fun i _ => ?_).mono ?_ (fun _ _ h => h) (fun _ _ h => h)
  · unfold downloadBlock
    rw [List.range_succ, List.map_append, List.map_singleton]
    exact .loop (downloadRound_triple l _ i _) fuel
  · rintro s rfl
    exact ⟨[], by simp, by simp, rfl⟩

theorem request_ok {p : DownloadCall} {s t : Download σ} {reply : Reply}
    (h : request c p s = some (.ok reply, t)) : t.log = s.log ++ [(p, .ok reply)] :=
  (request_triple p s).ok rfl h

/-- **What a segment leaves in the record**, if nothing was raised. -/
theorem downloadSegment_log {segment : ℕ × ℕ} {s t : Download σ} {status : Option ℤ}
    (h : downloadSegment c progressCb parser fuel segment s = some (.ok status, t)) :
    ∃ r₀ r₁ r₂ : Reply, ∃ blocks n, t.log = s.log ++
        ((.requestDownload segment.1 (segment.2 - segment.1), .ok r₀) :: blocks ++
          [(.requestTransferExit, .ok r₁),
            (.startRoutine 0x0202 (toBytes 4 (parser.checksums segment.1).toNat), .ok r₂)]) ∧
      (∀ e ∈ blocks, e.1.isBlock = true) ∧
      answeredBlocks blocks =
        (List.range (blockCountOf (segment.2 - segment.1) (r₀.maxLength - 2)).toNat).map
          (fun i : ℕ => (UInt8.ofNat (i + 1), slice (parser.datas segment.1)
            (i * (r₀.maxLength - 2)) (i * (r₀.maxLength - 2) + (r₀.maxLength - 2)))) ∧
      r₂.routineStatusRecord.head? = some n ∧ status = some (n.toNat : ℤ) := by
  obtain ⟨r₀, s₀, h₀, h⟩ := bind_eq_ok_iff.1 h
  split_ifs at h with hb hcount
  · cases h
  · cases h
  obtain ⟨⟨⟩, s₁, h₁, h⟩ := bind_eq_ok_iff.1 h
  obtain ⟨⟨⟩, s₂, h₂, h⟩ := bind_eq_ok_iff.1 h
  obtain ⟨r₁, s₃, h₃, h⟩ := bind_eq_ok_iff.1 h
  obtain ⟨⟨⟩, s₄, h₄, h⟩ := bind_eq_ok_iff.1 h
  obtain ⟨r₂, s₅, h₅, h⟩ := bind_eq_ok_iff.1 h
  have hlog₁ : s₁.log = s₀.log := by
    obtain rfl : _ = s₁ := by simpa [setConfig] using h₁
    rfl
  have hlog₄ : s₄.log = s₃.log := by
    obtain rfl : _ = s₄ := by simpa [setConfig] using h₄
    rfl
  obtain ⟨blocks, hlog₂, hblocks, haccepted⟩ := (downloadBlocks_triple s₁.log _ _ _).ok rfl h₂
  cases hrecord : r₂.routineStatusRecord with
  | nil =>
    rw [hrecord] at h
    cases h
  | cons n rest =>
    rw [hrecord] at h
    obtain ⟨hstatus, rfl⟩ : some (n.toNat : ℤ) = status ∧ s₅ = t := by simpa using h
    refine ⟨r₀, r₁, r₂, blocks, n, ?_, hblocks, haccepted, by rw [hrecord]; rfl, hstatus.symm⟩
    rw [request_ok h₅, hlog₄, request_ok h₃, hlog₂, hlog₁, request_ok h₀]
    simp

/-- The data of a segment in blocks of one byte or more. -/
theorem flatten_slices {segment : ℕ × ℕ} {maxLength : ℕ} (hsegment : segment ∈ parser.segments)
    (hmax : 3 ≤ maxLength) :
    ((List.range (blockCountOf (segment.2 - segment.1) ((maxLength : ℤ) - 2)).toNat).map
      fun i : ℕ => slice (parser.datas segment.1) (i * ((maxLength : ℤ) - 2))
        (i * ((maxLength : ℤ) - 2) + ((maxLength : ℤ) - 2))).flatten =
      parser.datas segment.1 := by
  have hsize : (parser.datas segment.1).length = segment.2 - segment.1 :=
    parser.length_datas segment hsegment
  have hrange : segment.2 ≤ 2 ^ 32 := parser.inRange segment hsegment
  have hblockSize : (maxLength : ℤ) - 2 = ((maxLength - 2 : ℕ) : ℤ) := by omega
  rw [hblockSize, blockCountOf_eq (by omega) (by omega), ← hsize]
  simp only [slice_eq_block]
  exact flatten_all_blocks (parser.datas segment.1) (by omega)

/-- A segment whose checksum routine reported 0 was downloaded. -/
theorem downloaded_of_returned {segment : ℕ × ℕ} {s t : Download σ}
    (hsegment : segment ∈ parser.segments)
    (hmax : ∀ a n reply, (.requestDownload a n, .ok reply) ∈ t.log → 3 ≤ reply.maxLength)
    (h : downloadSegment c progressCb parser fuel segment s = some (.ok (some 0), t)) :
    ∃ piece, t.log = s.log ++ piece ∧ Downloaded parser segment piece := by
  obtain ⟨r₀, r₁, r₂, blocks, n, hlog, hblocks, haccepted, hhead, hstatus⟩ :=
    downloadSegment_log h
  have hlen : 3 ≤ r₀.maxLength :=
    hmax segment.1 (segment.2 - segment.1) r₀ (by rw [hlog]; simp)
  refine ⟨_, hlog, r₀, r₁, r₂, blocks, rfl, hblocks, ?_, ?_, ?_⟩
  · rw [haccepted, List.map_map]
    exact flatten_slices hsegment hlen
  · rw [haccepted, List.map_map, List.length_map, List.length_range]
    rfl
  · have hn : n.toNat = 0 := by simpa using hstatus.symm
    rw [hhead, UInt8.toNat_inj.1 (hn.trans UInt8.toNat_zero.symm)]

/-! ### All segments -/

/-- The request opens a download. -/
def DownloadCall.isRequest : DownloadCall → Bool
  | .requestDownload .. => true
  | _ => false

/-- A segment is downloaded with one request. -/
theorem Downloaded.countP {segment : ℕ × ℕ} {log : List DownloadEntry}
    (h : Downloaded parser segment log) : log.countP (fun e => e.1.isRequest) = 1 := by
  obtain ⟨r₀, r₁, r₂, blocks, rfl, hblocks, -⟩ := h
  have hnone : blocks.countP (fun e => e.1.isRequest) = 0 := by
    rw [List.countP_eq_zero]
    intro e he hrequest
    have hblock := hblocks e he
    revert hblock hrequest
    cases e.1 <;> simp [DownloadCall.isBlock, DownloadCall.isRequest]
  rw [List.cons_append, List.countP_cons, List.countP_append, hnone]
  rfl

theorem countP_of_forall₂ {segments : List (ℕ × ℕ)} {pieces : List (List DownloadEntry)}
    (h : List.Forall₂ (Downloaded parser) segments pieces) :
    pieces.flatten.countP (fun e => e.1.isRequest) = segments.length := by
  induction h with
  | nil => rfl
  | cons hpiece _ ih =>
    rw [List.flatten_cons, List.countP_append, hpiece.countP, ih, List.length_cons, Nat.add_comm]

/-- **When all segments are downloaded.** A run that reports success, for a file of one segment or
more and replies that allow blocks of one byte or more, has downloaded all segments if and only if
there is only one. -/
theorem allDownloaded_iff {client : σ} {t : Download σ}
    (h : downLoadFw c progressCb parser fuel ⟨client, [], 0⟩ = some (.ok (some 0), t))
    (hmax : ∀ a n reply, (.requestDownload a n, .ok reply) ∈ t.log → 3 ≤ reply.maxLength) :
    AllDownloaded parser t.log ↔ parser.segments.length = 1 := by
  obtain ⟨segment, rest, hsegments⟩ : ∃ segment rest, parser.segments = segment :: rest := by
    cases hsegments : parser.segments with
    | nil =>
      unfold downLoadFw at h
      rw [if_pos hsegments] at h
      cases h
    | cons segment rest => exact ⟨segment, rest, rfl⟩
  have hfirst : downloadSegment c progressCb parser fuel segment ⟨client, [], 0⟩ =
      some (.ok (some 0), t) := by
    unfold downLoadFw at h
    rw [if_neg (by simp [hsegments]), hsegments] at h
    unfold Prog.tryCatch at h
    split at h
    · cases h
    · obtain ⟨status, u, hsegment, hrest⟩ := bind_eq_ok_iff.1 h
      obtain ⟨-, -, -, -, n, -, -, -, -, rfl⟩ := downloadSegment_log hsegment
      obtain ⟨hn, rfl⟩ : (n.toNat : ℤ) = 0 ∧ u = t := by simpa using hrest
      rw [hsegment, hn]
  obtain ⟨piece, hlog, hpiece⟩ :=
    downloaded_of_returned (hsegments ▸ List.mem_cons_self) hmax hfirst
  rw [List.nil_append] at hlog
  rw [hlog]
  constructor
  · rintro ⟨pieces, hpieces, hflatten⟩
    rw [← countP_of_forall₂ hpieces, ← hflatten, hpiece.countP]
  · intro hone
    obtain rfl : rest = [] := by simpa [hsegments] using hone
    refine ⟨[piece], ?_, by simp⟩
    rw [hsegments]
    exact .cons hpiece .nil

/-- A file with segments of two bytes each. -/
def twoByteSegments (n : ℕ) (h : n ≤ 16) : HexParser where
  segments := (List.range n).map fun i => (4 * i, 4 * i + 2)
  datas _ := [0xAA, 0xBB]
  checksums _ := 7
  nonempty := by simp
  inRange := by
    simp only [List.mem_map, List.mem_range]
    rintro segment ⟨i, hi, rfl⟩
    omega
  length_datas := by
    simp only [List.mem_map, List.mem_range]
    rintro segment ⟨i, hi, rfl⟩
    simp

/-- A client to which every request succeeds, in blocks of one byte. The second request times
out. -/
def oneByteClient : DownloadClient ℕ where
  request _ k := (if k = 1 then .error .timeout else .ok ⟨[0], 3⟩, k + 1)
  setRequestTimeout _ k := k

/-- The download of a file of one segment. -/
theorem allDownloaded_one : ∃ t, downLoadFw oneByteClient none (twoByteSegments 1 (by decide)) 2
    ⟨0, [], 0⟩ = some (.ok (some 0), t) ∧ AllDownloaded (twoByteSegments 1 (by decide)) t.log := by
  obtain ⟨r, t, hrun, rfl, hmax⟩ := exists_outcome
    (downLoadFw oneByteClient none (twoByteSegments 1 (by decide)) 2) ⟨0, [], 0⟩
    (fun r t => r = .ok (some 0) ∧ ∀ e ∈ t.log, e.1.isRequest = true →
      ∀ reply ∈ e.2.toOption, 3 ≤ reply.maxLength) (by decide +kernel)
  refine ⟨t, hrun, (allDownloaded_iff hrun fun a n reply hmem => ?_).2 rfl⟩
  exact hmax _ hmem rfl reply rfl

/-- The download of a file of two segments reports success after the first. -/
theorem not_allDownloaded_two : ∃ t, downLoadFw oneByteClient none (twoByteSegments 2 (by decide))
    2 ⟨0, [], 0⟩ = some (.ok (some 0), t) ∧
      ¬ AllDownloaded (twoByteSegments 2 (by decide)) t.log := by
  obtain ⟨r, t, hrun, rfl, hcount⟩ := exists_outcome
    (downLoadFw oneByteClient none (twoByteSegments 2 (by decide)) 2) ⟨0, [], 0⟩
    (fun r t => r = .ok (some 0) ∧ t.log.countP (fun e => e.1.isRequest) = 1) (by decide +kernel)
  refine ⟨t, hrun, ?_⟩
  rintro ⟨pieces, hpieces, hlog⟩
  have htwo := countP_of_forall₂ hpieces
  rw [← hlog, hcount] at htwo
  exact absurd htwo (by decide)

end EcuUpgrade
