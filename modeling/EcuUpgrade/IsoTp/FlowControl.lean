import EcuUpgrade.IsoTp.Sender

/-!
# Flow control

A flow control frame allows the sender of a message to send a block of consecutive frames, or any
number of them. Whatever else happens to a link, it does not send more consecutive frames than the
last flow control frame allows, none before the first one, and none after it was told that the
receiver has no room.

## Main definitions

* `allowance`: how many consecutive frames the calls so far allow.

## Main results

* `LinkRun.within`: the link keeps account of what is allowed.
* `consecutive_allowed`: **every consecutive frame was allowed.**
-/

namespace EcuUpgrade

open Memory Runs Segmentation

/-- What a flow control frame says about the number of consecutive frames, if anything: a block of
them, or any number. -/
def blockAllowed (data : Bytes) : Option (Option ℕ) :=
  let fs := pciLow (data.getD 0 0)
  if data.length < 3 ∨ data.length > 8 ∨ pciType (data.getD 0 0) ≠ isotpPciTypeFlowControlFrame
  then none
  else if fs = pciFlowStatusOverflow then some (some 0)
  else if fs = pciFlowStatusContinue then
    some (if data.getD 1 0 = 0 then none else some (data.getD 1 0).toNat)
  else none

/-- Whether a call sends a consecutive frame. -/
def IsoTpEvent.sendsConsecutive (ev : IsoTpEvent) : Bool :=
  match ev.emitted? with
  | some (.next _ _) => true
  | _ => false

/-- What a call makes of the number of consecutive frames that may be sent; `none` stands for any
number. -/
def allow (allowed : Option ℕ) (ev : IsoTpEvent) : Option ℕ :=
  match ev.op with
  | .send payload => if ev.ret = .ok ∧ 8 ≤ payload.length then some 0 else allowed
  | .onCanMessage data => (blockAllowed data).getD allowed
  | .poll => if ev.sendsConsecutive then allowed.map (· - 1) else allowed
  | .receive _ => allowed

/-- How many consecutive frames may be sent after some calls. -/
def allowance (tr : List IsoTpEvent) : Option ℕ := tr.foldl allow (some 0)

/-- **The account of the sender**: it may send no more than is allowed. -/
def IsoTpSender.Within (tx : IsoTpSender) (allowed : Option ℕ) : Prop :=
  tx.sendStatus = .inprogress → ∀ a, allowed = some a →
    tx.sendBsRemain ≠ isotpInvalidBs ∧ tx.sendBsRemain.toNat ≤ a

variable {env : IsoTpEnv} {tx : IsoTpSender} {allowed : Option ℕ} {link₀ link link' : IsoTpLink}
  {ev : IsoTpEvent} {tr : List IsoTpEvent} {data : Bytes}

theorem allowance_snoc (tr : List IsoTpEvent) (ev : IsoTpEvent) :
    allowance (tr ++ [ev]) = allow (allowance tr) ev := by
  rw [allowance, List.foldl_append]
  rfl

theorem within_of_ne (h : tx.sendStatus ≠ .inprogress) : tx.Within allowed :=
  fun h' => absurd h' h

/-- What is not counted changes nothing. -/
theorem IsoTpSender.Within.congr {tx' : IsoTpSender} (h : tx.Within allowed)
    (hstatus : tx'.sendStatus = .inprogress → tx.sendStatus = .inprogress)
    (hbs : tx'.sendBsRemain = tx.sendBsRemain) : tx'.Within allowed := by
  intro hprogress a ha
  rw [hbs]
  exact h (hstatus hprogress) a ha

/-- A flow control frame that is handled. -/
theorem within_onFlowControlFrame (env : IsoTpEnv) (h : tx.Within allowed)
    (hlen : data.length ≤ 8)
    (htype : pciType (data.getD 0 0) = isotpPciTypeFlowControlFrame) :
    (onFlowControlFrame env tx (padded data) data.length).Within
      ((blockAllowed data).getD allowed) := by
  by_cases hprogress : tx.sendStatus = .inprogress
  swap
  · rw [onFlowControlFrame, if_pos hprogress]
    exact within_of_ne hprogress
  rw [onFlowControlFrame, if_neg (not_not.2 hprogress), isotpReceiveFlowControlFrame, blockAllowed]
  dsimp only
  rw [getD_padded, getD_padded, getD_padded]
  by_cases hshort : data.length < 3
  · rw [if_pos hshort, if_pos (by decide), if_pos (.inl hshort)]
    exact h
  have hframe : ¬(data.length < 3 ∨ data.length > 8 ∨
      pciType (data.getD 0 0) ≠ isotpPciTypeFlowControlFrame) := by
    rintro (hlt | hgt | hne)
    · exact hshort hlt
    · exact absurd hlen (Nat.not_le.2 hgt)
    · exact hne htype
  rw [if_neg hshort, if_neg (by decide), if_neg hframe]
  by_cases hoverflow : pciLow (data.getD 0 0) = pciFlowStatusOverflow
  · rw [if_pos hoverflow]
    exact within_of_ne (by simp)
  rw [if_neg hoverflow, if_neg hoverflow]
  by_cases hwait : pciLow (data.getD 0 0) = pciFlowStatusWait
  · have hother : pciLow (data.getD 0 0) ≠ pciFlowStatusContinue := by
      rw [hwait]
      decide
    rw [if_pos hwait, if_neg hother, Option.getD_none]
    split_ifs
    · exact within_of_ne (by simp)
    · exact h.congr id rfl
  rw [if_neg hwait]
  by_cases hcontinue : pciLow (data.getD 0 0) = pciFlowStatusContinue
  · rw [if_pos hcontinue, if_pos hcontinue, Option.getD_some]
    intro _ a ha
    have hpos : data.getD 1 0 ≠ 0 := by
      intro hzero
      rw [if_pos hzero] at ha
      cases ha
    rw [if_neg hpos] at ha
    cases ha
    dsimp only
    rw [if_neg hpos]
    have hbyte := (data.getD 1 0).toNat_lt
    refine ⟨fun heq => ?_, (UInt8.toNat_toUInt16 _).le⟩
    have hnat := congrArg UInt16.toNat heq
    rw [UInt8.toNat_toUInt16] at hnat
    have hinvalid : isotpInvalidBs.toNat = 65535 := rfl
    omega
  · rw [if_neg hcontinue, if_neg hcontinue, Option.getD_none]
    exact h.congr id rfl

theorem blockAllowed_of_ne (h : 2 ≤ data.length → data.length ≤ 8 →
    pciType (data.getD 0 0) ≠ isotpPciTypeFlowControlFrame) : blockAllowed data = none := by
  refine if_pos ?_
  by_cases hlen : data.length < 3 ∨ data.length > 8
  · exact hlen.elim .inl fun h => .inr (.inl h)
  · exact .inr (.inr (h (by omega) (by omega)))

theorem within_onCanMessage (env : IsoTpEnv) (data : Bytes) (h : link.tx.Within allowed) :
    (isotpOnCanMessage env link data).1.tx.Within ((blockAllowed data).getD allowed) := by
  rcases isotpOnCanMessage_cases env link data with ⟨heq, -, hother⟩ |
    ⟨-, hlen, ⟨htype, heq⟩ | ⟨htype, heq⟩ | ⟨htype, heq⟩ | ⟨⟨htype, -⟩, heq⟩⟩
  · rw [heq, blockAllowed_of_ne hother]
    exact h
  · rw [heq, blockAllowed_of_ne fun _ _ => by rw [htype]; decide]
    exact h
  · rw [heq, blockAllowed_of_ne fun _ _ => by rw [htype]; decide]
    exact h
  · rw [heq, blockAllowed_of_ne fun _ _ => by rw [htype]; decide]
    exact h
  · rw [heq]
    exact within_onFlowControlFrame env h hlen htype

theorem within_pollTimeoutBs (h : tx.Within allowed) : (pollTimeoutBs env tx).Within allowed := by
  unfold pollTimeoutBs
  split_ifs
  · exact within_of_ne (by simp)
  · exact h

/-- The sender after a consecutive frame. -/
theorem IsoTpSender.Within.goOn (h : tx.Within allowed) (hprogress : tx.sendStatus = .inprogress)
    (hpos : tx.maySend env = true) :
    allowed ≠ some 0 ∧ (tx.goOn env).Within (allowed.map (· - 1)) := by
  have hone (hvalid : tx.sendBsRemain ≠ isotpInvalidBs) : (1 : UInt16) ≤ tx.sendBsRemain := by
    simp only [IsoTpSender.maySend, Bool.and_eq_true, Bool.or_eq_true, decide_eq_true_eq] at hpos
    have hgt : tx.sendBsRemain > 0 := hpos.1.resolve_left hvalid
    exact UInt16.le_iff_toNat_le.2 (UInt16.lt_iff_toNat_lt.1 hgt)
  constructor
  · rintro rfl
    obtain ⟨hvalid, hle⟩ := h hprogress 0 rfl
    have h1 : 1 ≤ tx.sendBsRemain.toNat := UInt16.le_iff_toNat_le.1 (hone hvalid)
    omega
  · intro _ a ha
    obtain ⟨a', rfl, rfl⟩ := Option.map_eq_some_iff.1 ha
    obtain ⟨hvalid, hle⟩ := h hprogress a' rfl
    have hsub : (tx.sendBsRemain - 1).toNat = tx.sendBsRemain.toNat - 1 :=
      UInt16.toNat_sub_of_le _ _ (hone hvalid)
    have hbs : (tx.goOn env).sendBsRemain = tx.sendBsRemain - 1 := if_pos hvalid
    rw [hbs]
    refine ⟨fun heq => ?_, by omega⟩
    have hnat := congrArg UInt16.toNat heq
    have hinvalid : isotpInvalidBs.toNat = 65535 := rfl
    have hlt := tx.sendBsRemain.toNat_lt
    omega

/-- A poll sends a consecutive frame only if one is allowed. -/
theorem within_pollSender (env : IsoTpEnv) {e : Emitter UInt8} (h : tx.Within allowed)
    (hsends : tx.Sends e) :
    let ev : IsoTpEvent := ⟨.poll, .ok, [], env.taken (pollSender env tx).2⟩
    (ev.sendsConsecutive = true → allowed ≠ some 0) ∧
      (pollSender env tx).1.Within
        (if ev.sendsConsecutive then allowed.map (· - 1) else allowed) := by
  by_cases hprogress : tx.sendStatus = .inprogress
  swap
  · rw [pollSender, if_neg hprogress, env.taken_none]
    exact ⟨fun hno => absurd hno (by decide), h⟩
  rw [pollSender, if_pos hprogress]
  dsimp only
  rcases pollContinue_cases env tx with ⟨-, heq⟩ | ⟨hmay, ⟨hok, heq⟩ | ⟨hfail, heq⟩⟩
  · rw [heq, env.taken_none]
    exact ⟨fun hno => absurd hno (by decide), within_pollTimeoutBs h⟩
  · obtain ⟨msg, k, -, hat⟩ := hsends.inprogress hprogress
    obtain ⟨data, hpiece, -⟩ := pieceOf_consecutiveFrame env hat
    have hev : (⟨.poll, .ok, [], some (isotpSendConsecutiveFrame env tx).1⟩ :
        IsoTpEvent).sendsConsecutive = true := by
      rw [IsoTpEvent.sendsConsecutive, IsoTpEvent.emitted?, takenPiece, Option.bind_some, hpiece]
    obtain ⟨hallowed, hwithin⟩ := h.goOn hprogress hmay
    rw [heq, IsoTpEnv.taken, if_pos hok, hev]
    refine ⟨fun _ => hallowed, within_pollTimeoutBs ?_⟩
    rw [if_pos rfl]
    split_ifs
    · exact within_of_ne (by simp)
    · exact hwithin
  · rw [heq, IsoTpEnv.taken, if_neg hfail]
    exact ⟨fun hno => absurd hno (by decide), within_pollTimeoutBs (within_of_ne (by simp))⟩

/-- **What one call does**: a consecutive frame is allowed, and the account is kept. -/
theorem LinkStep.within {e : Emitter UInt8} (hs : LinkStep link ev link')
    (h : link.tx.Within allowed) (hsends : link.tx.Sends e) :
    (ev.sendsConsecutive = true → allowed ≠ some 0) ∧ link'.tx.Within (allow allowed ev) := by
  obtain ⟨env, ⟨payload, hsize, rfl, rfl⟩ | ⟨rfl, rfl⟩ | ⟨data, rfl, rfl⟩ |
    ⟨payloadSize, rfl, rfl⟩⟩ :=
    hs.cases
  · have hfalse {frame : Option CanFrame} {ret : IsoTpRet}
        (h : ∀ number data, takenPiece frame ≠ some (.next number data)) :
        (⟨.send payload, ret, [], frame⟩ : IsoTpEvent).sendsConsecutive = true →
          allowed ≠ some 0 := by
      intro hno
      unfold IsoTpEvent.sendsConsecutive IsoTpEvent.emitted? at hno
      split at hno
      · next hpiece => exact absurd hpiece (h _ _)
      · cases hno
    rcases isotpSend_cases env link.tx hsize with ⟨ret, hret, heq⟩ |
      ⟨⟨hle, hidle⟩, ⟨hshort, heq⟩ | ⟨hlong, ⟨hok, heq⟩ | ⟨hfail, heq⟩⟩⟩
    · rw [heq, env.taken_none]
      refine ⟨hfalse fun _ _ => by simp [takenPiece], ?_⟩
      dsimp only [allow]
      rwa [if_neg (fun hboth => hret hboth.1)]
    · have hpiece := pieceOf_singleFrame link.tx.sendArbitrationId (load_size link.tx hsize)
        (load_buffer link.tx payload) (Nat.le_of_lt_succ hshort)
      rw [heq, IsoTpEnv.taken]
      refine ⟨hfalse fun _ _ => ?_, within_of_ne hidle⟩
      split_ifs
      · rw [takenPiece, Option.bind_some, hpiece]
        split_ifs <;> simp
      · simp [takenPiece]
    · have hpiece := pieceOf_firstFrame env link.tx.sendArbitrationId (load_size link.tx hsize)
        (load_buffer link.tx payload) hlong (hle.trans hsends.bufSize)
      rw [heq, IsoTpEnv.taken, if_pos hok]
      refine ⟨hfalse fun _ _ => ?_, ?_⟩
      · rw [takenPiece, Option.bind_some, hpiece]
        simp
      · dsimp only [allow]
        rw [if_pos ⟨rfl, hlong⟩]
        rintro - a ha
        exact ⟨(by decide : (0 : UInt16) ≠ isotpInvalidBs), Nat.zero_le a⟩
    · rw [heq, IsoTpEnv.taken, if_neg hfail]
      exact ⟨hfalse fun _ _ => by simp [takenPiece], within_of_ne hidle⟩
  · exact within_pollSender env h hsends
  · refine ⟨fun hno => ?_, within_onCanMessage env data h⟩
    have hnone : (⟨.onCanMessage data, .ok, [], env.taken (isotpOnCanMessage env link data).2⟩ :
        IsoTpEvent).sendsConsecutive = false := by
      rw [IsoTpEvent.sendsConsecutive, IsoTpEvent.emitted?, isotpOnCanMessage_frame]
    rw [hnone] at hno
    cases hno
  · exact ⟨fun hno => absurd hno Bool.false_ne_true, h⟩

/-- The link keeps account of what is allowed. -/
theorem LinkRun.within (h : LinkRun link₀ tr link) (htx : link₀.tx.sendStatus = .idle)
    (hbuf : link₀.tx.sendBufSize.toNat ≤ 4095) : link.tx.Within (allowance tr) := by
  induction h with
  | start h =>
    subst h
    exact within_of_ne (by rw [htx]; decide)
  | snoc hrun hs ih =>
    obtain ⟨e, -, hsends, -⟩ := LinkRun.emits hrun htx hbuf
    rw [allowance_snoc]
    exact (hs.within ih hsends).2

/-- **Every consecutive frame was allowed**, whatever frames arrive and whatever the clock says. -/
theorem consecutive_allowed (htx : link₀.tx.sendStatus = .idle)
    (hbuf : link₀.tx.sendBufSize.toNat ≤ 4095) (h : LinkRun link₀ tr link) :
    Everywhere (fun before ev => ev.sendsConsecutive = true → allowance before ≠ some 0) tr := by
  refine Run.everywhere (fun tr link ev link' hrun hs => ?_) h
  obtain ⟨e, -, hsends, -⟩ := LinkRun.emits hrun htx hbuf
  exact (hs.within (LinkRun.within hrun htx hbuf) hsends).1

/-- Ten bytes are sent, and a consecutive frame is sent when a flow control frame has arrived. -/
theorem consecutive_allowed_ten :
    let link₀ := isotpInitLink 0x7E0 (fun _ => 0) 4095 (fun _ => 0) 4095
    ∃ tr link, LinkRun link₀ tr link ∧ tr.map IsoTpEvent.sendsConsecutive =
        [false, false, false, true] ∧
      Everywhere (fun before ev => ev.sendsConsecutive = true → allowance before ≠ some 0) tr := by
  intro link₀
  have hrun : (follow IsoTpLink.next link₀
      ([.send [1, 2, 3, 4, 5, 6, 7, 8, 9, 10], .poll, .onCanMessage [0x30, 8, 0], .poll].map
        fun op => (⟨fun _ => 5, .ok⟩, op))).map (fun r => r.1.map IsoTpEvent.sendsConsecutive) =
        some [false, false, false, true] := by
    decide
  obtain ⟨⟨tr, link⟩, hfollow, hsends⟩ := Option.map_eq_some_iff.1 hrun
  have h := linkRun_of_follow hfollow
  exact ⟨tr, link, h, hsends, consecutive_allowed rfl (by decide) h⟩

end EcuUpgrade
