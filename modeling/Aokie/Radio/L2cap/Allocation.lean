import Aokie.Radio.L2cap.Connections

/-! Local CIDs for new channels: when the one that is allocated belongs to no live channel. -/

namespace Aokie.Radio.L2cap.L2capState

open Aokie.Lib Aokie.Radio.Rfcomm

variable {ω : Type}

def KeepsChannels (s t : L2capState ω) : Prop :=
  ∀ (cid : UInt16) (channel : L2capChannel ω), s.channels[cid]? = some channel → t.channels[cid]? = some channel

/-- The walk finds a CID for a channel to `remoteCid`, or the one it falls back to is not in use. -/
def HasRoom (s : L2capState ω) (remoteCid : UInt16) : Prop :=
  (∃ cid, s.IsFreeCid remoteCid cid) ∨ firstDynamicCid ∉ s.channels

def Roomy (s : L2capState ω) : L2capAction ω → Prop
  | .signal _ _ (.connectionRequest _ psm sourceCid) => psm ∈ s.psmHandlers → s.HasRoom sourceCid
  | .op (.openOutbound _ _ _ _) => s.HasRoom 0
  | _ => True

/-- An accepted request and an outbound channel take a CID that is not in use, and all channels stay. -/
def OpensFresh (s : L2capState ω) : L2capAction ω → Prop
  | .signal now connectionHandle (.connectionRequest identifier psm sourceCid) =>
    psm ∈ s.psmHandlers → (s.allocateLocalCid sourceCid).2 ∉ s.channels ∧
      s.KeepsChannels (s.handleConnectionRequest now connectionHandle identifier psm sourceCid).1
  | .op (.openOutbound now connectionHandle psm upperHandler) =>
    (s.allocateLocalCid 0).2 ∉ s.channels ∧
      s.KeepsChannels (s.openOutboundChannelWithHandler now connectionHandle psm upperHandler).1
  | _ => True

variable {s : L2capState ω}

lemma allocateLocalCid_notMem_iff (hnext : firstDynamicCid ≤ s.nextLocalCid) (remoteCid : UInt16) :
    (s.allocateLocalCid remoteCid).2 ∉ s.channels ↔ s.HasRoom remoteCid := by
  obtain hfree | ⟨hfallback, hnone⟩ := allocateLocalCid_spec hnext remoteCid
  · exact iff_of_true hfree.2.2 (.inl ⟨_, hfree⟩)
  · rw [hfallback]
    constructor
    · exact .inr
    · rintro (⟨cid, hfree⟩ | hunused)
      · exact absurd hfree (hnone cid)
      · exact hunused

lemma keepsChannels_insert {cid : UInt16} {channel : L2capChannel ω} {t : L2capState ω}
    (ht : t.channels = s.channels.insert cid channel) (hunused : cid ∉ s.channels) : s.KeepsChannels t := by
  intro cid' channel' hchannel'
  have hne : cid ≠ cid' := by
    rintro rfl
    exact hunused (Std.ExtTreeMap.mem_iff_isSome_getElem?.mpr (by simp [hchannel']))
  rw [ht, Std.ExtTreeMap.getElem?_insert, if_neg (by simpa using hne)]
  exact hchannel'

lemma keepsChannels_connectionRequest {now : Instant} {connectionHandle : UInt16} {identifier : UInt8}
    {psm sourceCid : UInt16} (hpsm : psm ∈ s.psmHandlers) (hunused : (s.allocateLocalCid sourceCid).2 ∉ s.channels) :
    s.KeepsChannels (s.handleConnectionRequest now connectionHandle identifier psm sourceCid).1 := by
  rw [handleConnectionRequest, if_neg (not_not.mpr hpsm)]
  exact keepsChannels_insert (channels_allocated sourceCid _ _) hunused

lemma keepsChannels_openOutbound {now : Instant} {connectionHandle psm : UInt16} {upperHandler : Option (PsmHandler ω)}
    (hunused : (s.allocateLocalCid 0).2 ∉ s.channels) :
    s.KeepsChannels (s.openOutboundChannelWithHandler now connectionHandle psm upperHandler).1 :=
  keepsChannels_insert (channels_allocated 0 _ _) hunused

lemma opensFresh_iff (hnext : firstDynamicCid ≤ s.nextLocalCid) (a : L2capAction ω) : OpensFresh s a ↔ Roomy s a := by
  match a with
  | .signal now connectionHandle (.connectionRequest identifier psm sourceCid) =>
    apply forall_congr'
    intro hpsm
    rw [← allocateLocalCid_notMem_iff hnext]
    exact and_iff_left_of_imp (keepsChannels_connectionRequest hpsm)
  | .op (.openOutbound now connectionHandle psm upperHandler) =>
    change _ ∧ _ ↔ s.HasRoom 0
    rw [← allocateLocalCid_notMem_iff hnext]
    exact and_iff_left_of_imp keepsChannels_openOutbound
  | .signal _ _ (.connectionResponse _ _ _ _ _) | .signal _ _ (.configureRequest _ _ _ _)
  | .signal _ _ (.configureResponse _ _ _ _ _) | .signal _ _ (.disconnectionRequest _ _ _)
  | .signal _ _ (.disconnectionResponse _ _ _) | .signal _ _ (.informationRequest _ _)
  | .signal _ _ (.informationResponse _ _ _ _) | .signal _ _ (.unknown _ _ _) | .reassembled _ _ | .reply _
  | .data _ _ _ | .op (.registerPsm _ _) | .op (.recapture _) | .op (.attachClientDlci _ _)
  | .op (.takeClientEvents _) | .op (.takeClientEventsForDlci _ _) | .op (.sendUihOnClientDlci _ _ _)
  | .op (.discClientDlci _ _) | .op (.forceDiscDlci _ _) | .op (.removeConnection _) | .op .takeHfpEvents
  | .op (.tickHfpStalls _ _) | .op (.tickL2capStalls _ _) | .op (.callControl _ _) | .op (.startHfpClient _ _ _ _ _)
  | .op (.disconnect _) => exact Iff.rfl

lemma along_opensFresh_iff (hnext : firstDynamicCid ≤ s.nextLocalCid) (actions : List (L2capAction ω)) :
    act.Along OpensFresh s actions ↔ act.Along Roomy s actions := by
  induction actions generalizing s with
  | nil => exact Iff.rfl
  | cons a actions ih =>
      rw [Machine.along_cons, Machine.along_cons, opensFresh_iff hnext, ih (nextLocalCid_act a hnext)]

/-- In every run, the channels it opens take no other channel's place exactly as long as the table has room for
each of them. -/
theorem channels_open_fresh_iff (sdp : Bytes → Except String Bytes) (captured : ω) (inputs : List (L2capInput ω)) :
    act.Along OpensFresh (new sdp captured) ((new sdp captured).trace inputs) ↔
      act.Along Roomy (new sdp captured) ((new sdp captured).trace inputs) :=
  along_opensFresh_iff (UInt16.le_refl _) _

section Flood

def knock : L2capInput Unit := fromPhone 5 0x2a (buildConnectionRequest 1 psmRfcomm 1)

def knockActions : List (L2capAction Unit) :=
  [.reassembled 0x2a [], .signal 5 0x2a (.connectionRequest 1 psmRfcomm 1)]

lemma inputActions_knock (s : L2capState Unit) : s.inputActions knock = knockActions := by
  have hacl : parseAclFrame (buildOutboundAcl 0x2a (buildConnectionRequest 1 psmRfcomm 1)) =
      .ok ⟨0x2a, 2, 0, buildConnectionRequest 1 psmRfcomm 1⟩ := by decide
  have hdrain : drainFrames (buildConnectionRequest 1 psmRfcomm 1) = ([buildConnectionRequest 1 psmRfcomm 1], []) := by
    decide
  have hframe : parseBasicFrame (buildConnectionRequest 1 psmRfcomm 1) = .ok
      ⟨cidSignaling, [2, 1, 4, 0, 3, 0, 1, 0]⟩ := by
    decide
  have hheader : parseSignalingHeader [2, 1, 4, 0, 3, 0, 1, 0] = .ok ⟨2, 1, [3, 0, 1, 0]⟩ := by decide
  have hcommand : parseSignalingCommand ⟨2, 1, [3, 0, 1, 0]⟩ = .ok (.connectionRequest 1 psmRfcomm 1) := by decide
  have hflag : aclPacketBoundaryContinuingFragment ≠ 2 := by decide
  simp [knock, fromPhone, inputActions, packetActions, hacl, reassembly, hflag.symm, hdrain, frameActions, hframe,
    signalingActions, hheader, headerAction, hcommand, knockActions]

/-- The table after the first `n` requests: the CIDs below the next one are taken. -/
structure Flooded (n : ℕ) (s : L2capState Unit) : Prop where
  next : s.nextLocalCid = cidAfter^[n] firstDynamicCid
  taken : ∀ cid, cid ∈ s.channels ↔ 64 ≤ cid.toNat ∧ cid.toNat < 64 + n
  serves : psmRfcomm ∈ s.psmHandlers

lemma flooded_fresh : Flooded 0 fresh where
  next := rfl
  taken cid := by simp [fresh, new, registerPsm]
  serves := by decide

lemma findLocalCid_of_free {remoteCid : UInt16} (hfree : s.IsFreeCid remoteCid s.nextLocalCid) (steps : ℕ) :
    findLocalCid remoteCid (steps + 1) s = (s.skipCid, s.nextLocalCid) := by
  simp only [findLocalCid, if_pos hfree]

lemma allocateLocalCid_of_free {remoteCid : UInt16} (hfree : s.IsFreeCid remoteCid s.nextLocalCid) :
    s.allocateLocalCid remoteCid = (s.skipCid, s.nextLocalCid) :=
  findLocalCid_of_free hfree _

lemma Flooded.isFree {n : ℕ} {s : L2capState Unit} (h : Flooded n s) (hn : n < 65472) :
    s.IsFreeCid 1 s.nextLocalCid := by
  have hfirst : firstDynamicCid.toNat = 64 := rfl
  have hone : (1 : UInt16).toNat = 1 := rfl
  have hnext : s.nextLocalCid.toNat = 64 + n := by
    rw [h.next, toNat_iterate_cidAfter n (by omega), hfirst]
  refine ⟨UInt16.le_iff_toNat_le.mpr (by omega), ?_, ?_⟩
  · intro heq
    rw [heq] at hnext
    omega
  · rw [h.taken]
    omega

lemma Flooded.request {n : ℕ} {s : L2capState Unit} (h : Flooded n s) (hn : n < 65472) :
    Flooded (n + 1) (s.handleConnectionRequest 5 0x2a 1 psmRfcomm 1).1 := by
  have hfirst : firstDynamicCid.toNat = 64 := rfl
  have hnext : s.nextLocalCid.toNat = 64 + n := by
    rw [h.next, toNat_iterate_cidAfter n (by omega), hfirst]
  rw [handleConnectionRequest, if_neg (not_not.mpr h.serves), allocateLocalCid_of_free (h.isFree hn)]
  refine ⟨?_, fun cid => ?_, h.serves⟩
  · rw [Function.iterate_succ_apply', ← h.next]
    rfl
  · simp only [setChannel, allocateLocalSignalingId, skipCid, Std.ExtTreeMap.mem_insert,
      Std.LawfulEqCmp.compare_eq_iff_eq, h.taken, ← UInt16.toNat_inj, hnext]
    omega

lemma act_connectionRequest (s : L2capState ω) (now : Instant) (connectionHandle : UInt16) (identifier : UInt8)
    (psm sourceCid : UInt16) :
    (act s (.signal now connectionHandle (.connectionRequest identifier psm sourceCid))).1 =
      (s.handleConnectionRequest now connectionHandle identifier psm sourceCid).1 := by
  simp only [act, handleSignalingCommand, Prod.map_fst, id_eq]

lemma Flooded.step {n : ℕ} {s : L2capState Unit} (h : Flooded n s) (hn : n < 65472) :
    Flooded (n + 1) (act.final s knockActions) := by
  have hreassembled : Flooded n (act s (.reassembled 0x2a [])).1 := ⟨h.next, h.taken, h.serves⟩
  rw [knockActions, Machine.final_cons, Machine.final_cons, Machine.final_nil, act_connectionRequest]
  exact hreassembled.request hn

lemma trace_knocks (n : ℕ) (s : L2capState Unit) :
    s.trace (List.replicate n knock) = (List.replicate n knockActions).flatten := by
  induction n generalizing s with
  | zero => rfl
  | succ n ih => rw [List.replicate_succ, trace, inputActions_knock, ih, List.replicate_succ, List.flatten_cons]

lemma flooded_knocks {n : ℕ} (hn : n ≤ 65472) : Flooded n (act.final fresh (fresh.trace (List.replicate n knock))) := by
  rw [trace_knocks]
  induction n with
  | zero => exact flooded_fresh
  | succ n ih =>
      rw [List.replicate_succ', List.flatten_append, Machine.final_append]
      exact (ih (by omega)).step (by omega)

lemma Flooded.full {s : L2capState Unit} (h : Flooded 65472 s) (remoteCid : UInt16) : ¬s.HasRoom remoteCid := by
  have hfirst : firstDynamicCid.toNat = 64 := rfl
  rintro (⟨cid, hdynamic, -, hunused⟩ | hunused)
  · rw [UInt16.le_iff_toNat_le] at hdynamic
    have hmax := cid.toNat_lt
    exact hunused ((h.taken cid).mpr (by omega))
  · exact hunused ((h.taken _).mpr (by omega))

lemma Flooded.not_fresh {s : L2capState Unit} (h : Flooded 65472 s) (hnext : firstDynamicCid ≤ s.nextLocalCid) :
    ¬act.Along OpensFresh s knockActions := by
  intro hfresh
  have hreassembled : Flooded 65472 { s with aclReassembly := s.aclReassembly.insert 0x2a [] } :=
    ⟨h.next, h.taken, h.serves⟩
  rw [along_opensFresh_iff hnext] at hfresh
  exact hreassembled.full 1 (hfresh.2.1 h.serves)

lemma last_knock {n : ℕ} {s : L2capState Unit} (h : act.Along OpensFresh s (s.trace (List.replicate (n + 1) knock))) :
    act.Along OpensFresh (act.final s (s.trace (List.replicate n knock))) knockActions := by
  rw [trace_knocks, List.replicate_succ', List.flatten_append, Machine.along_append, ← trace_knocks,
    List.flatten_singleton] at h
  exact h.2

/-- 65472 requests fill the table, and the next one takes the place of a channel that is still there. -/
theorem flood_takes_a_live_channel :
    ¬act.Along OpensFresh fresh (fresh.trace (List.replicate 65473 knock)) := by
  intro hfresh
  have hnext := Machine.always (m := act) (P := fun s : L2capState Unit => firstDynamicCid ≤ s.nextLocalCid)
    (fun _ a h => nextLocalCid_act a h) (s := fresh) (UInt16.le_refl _)
  exact (flooded_knocks le_rfl).not_fresh (hnext _) (last_knock (n := 65472) hfresh)

end Flood

end Aokie.Radio.L2cap.L2capState
