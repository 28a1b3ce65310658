import Aokie.Radio.L2cap.Watchdog

/-! One channel table serves all connections. Which packets of one connection reach the channels of another. -/

namespace Aokie.Radio.L2cap

open Aokie.Lib Aokie.Radio.Hfp Aokie.Radio.Rfcomm

variable {ω : Type}

namespace L2capState

variable {s t : L2capState ω}

section Allocation

/-- The CID that the walk looks at after `cid`. -/
def cidAfter (cid : UInt16) : UInt16 := if cid = 0xffff then firstDynamicCid else cid + 1

lemma toNat_cidAfter {cid : UInt16} (h : cid.toNat < 65535) : (cidAfter cid).toNat = cid.toNat + 1 := by
  have hne : cid ≠ 0xffff := by
    rintro rfl
    exact absurd h (by decide)
  rw [cidAfter, if_neg hne, UInt16.toNat_add]
  have hone : (1 : UInt16).toNat = 1 := rfl
  omega

lemma toNat_iterate_cidAfter (n : ℕ) {cid : UInt16} (h : cid.toNat + n ≤ 65535) :
    (cidAfter^[n] cid).toNat = cid.toNat + n := by
  induction n generalizing cid with
  | zero => rfl
  | succ n ih =>
      have hnext : (cidAfter cid).toNat = cid.toNat + 1 := toNat_cidAfter (by omega)
      rw [Function.iterate_succ_apply, ih (by omega), hnext]
      omega

lemma exists_iterate_cidAfter {start cid : UInt16} (hstart : firstDynamicCid ≤ start) (hcid : firstDynamicCid ≤ cid) :
    ∃ n < 65472, cidAfter^[n] start = cid := by
  have hfirst : firstDynamicCid.toNat = 64 := rfl
  have hstart' : 64 ≤ start.toNat := UInt16.le_iff_toNat_le.mp hstart
  have hcid' : 64 ≤ cid.toNat := UInt16.le_iff_toNat_le.mp hcid
  have hmax := cid.toNat_lt
  have hmax' := start.toNat_lt
  by_cases hle : start.toNat ≤ cid.toNat
  · refine ⟨cid.toNat - start.toNat, by omega, UInt16.toNat_inj.mp ?_⟩
    rw [toNat_iterate_cidAfter _ (by omega)]
    omega
  · -- The walk wraps around to the first dynamic CID once.
    have htop : cidAfter^[65535 - start.toNat] start = 0xffff := by
      apply UInt16.toNat_inj.mp
      rw [toNat_iterate_cidAfter _ (by omega)]
      have h65535 : (0xffff : UInt16).toNat = 65535 := rfl
      omega
    refine ⟨cid.toNat - 64 + 1 + (65535 - start.toNat), by omega, UInt16.toNat_inj.mp ?_⟩
    rw [Function.iterate_add_apply, htop, Function.iterate_succ_apply]
    have hwrap : cidAfter 0xffff = firstDynamicCid := rfl
    rw [hwrap, toNat_iterate_cidAfter _ (by omega), hfirst]
    omega

lemma findLocalCid_spec (remoteCid : UInt16) (steps : ℕ) (s : L2capState ω) :
    s.IsFreeCid remoteCid (findLocalCid remoteCid steps s).2 ∨
      (findLocalCid remoteCid steps s).2 = firstDynamicCid ∧
        ∀ n < steps, ¬s.IsFreeCid remoteCid (cidAfter^[n] s.nextLocalCid) := by
  induction steps generalizing s with
  | zero => exact .inr ⟨rfl, by simp⟩
  | succ steps ih =>
      simp only [findLocalCid]
      split_ifs with hfree
      · exact .inl hfree
      · obtain hfound | ⟨hfallback, hnone⟩ := ih s.skipCid
        · exact .inl hfound
        · refine .inr ⟨hfallback, fun n hn => ?_⟩
          cases n with
          | zero => exact hfree
          | succ n => exact hnone n (by omega)

lemma allocateLocalCid_spec (hnext : firstDynamicCid ≤ s.nextLocalCid) (remoteCid : UInt16) :
    s.IsFreeCid remoteCid (s.allocateLocalCid remoteCid).2 ∨
      (s.allocateLocalCid remoteCid).2 = firstDynamicCid ∧ ∀ cid, ¬s.IsFreeCid remoteCid cid := by
  obtain hfree | ⟨hfallback, hnone⟩ := findLocalCid_spec remoteCid (0xffff - firstDynamicCid.toNat + 1) s
  · exact .inl hfree
  · refine .inr ⟨hfallback, fun cid hfree => ?_⟩
    obtain ⟨n, hn, rfl⟩ := exists_iterate_cidAfter hnext hfree.1
    exact hnone n hn hfree

lemma nextLocalCid_findLocalCid (remoteCid : UInt16) (steps : ℕ) (hnext : firstDynamicCid ≤ s.nextLocalCid) :
    firstDynamicCid ≤ (findLocalCid remoteCid steps s).1.nextLocalCid := by
  have hafter : ∀ cid : UInt16, firstDynamicCid ≤ cid → firstDynamicCid ≤ cidAfter cid := by
    intro cid hcid
    by_cases htop : cid = 0xffff
    · rw [cidAfter, if_pos htop]
      exact UInt16.le_refl _
    · have hlt : cid.toNat < 65535 := by
        have hmax := cid.toNat_lt
        have hne : cid.toNat ≠ 65535 := fun h => htop (UInt16.toNat_inj.mp h)
        omega
      rw [UInt16.le_iff_toNat_le, toNat_cidAfter hlt]
      have hcid' := UInt16.le_iff_toNat_le.mp hcid
      omega
  induction steps generalizing s with
  | zero => exact hnext
  | succ steps ih =>
      simp only [findLocalCid]
      split_ifs
      · exact hafter _ hnext
      · exact ih (hafter _ hnext)

lemma nextLocalCid_onMux {α : Type} (cid : UInt16) (channel : L2capChannel ω)
    (server : RfcommState → RfcommState × Except String α)
    (client : HfpClientState → HfpClientState × Except String α) :
    (s.onMux cid channel server client).1.nextLocalCid = s.nextLocalCid := by
  simp only [onMux]
  split <;> rfl

lemma nextLocalCid_rfcommFrame (cid : UInt16) (server : RfcommState → RfcommState × Except String Bytes)
    (client : HfpClientState → HfpClientState × Except String Bytes) :
    (s.rfcommFrame cid server client).1.nextLocalCid = s.nextLocalCid := by
  simp only [rfcommFrame]
  split
  · rfl
  · exact nextLocalCid_onMux cid _ server client

lemma nextLocalCid_callControlOn (now : Instant) (command : HfpAtCommand) (entries : List (UInt16 × L2capChannel ω)) :
    (callControlOn now command s entries).1.nextLocalCid = s.nextLocalCid := by
  induction entries generalizing s with
  | nil => rfl
  | cons entry entries ih =>
      obtain ⟨cid, channel⟩ := entry
      simp only [callControlOn]
      have hmux := nextLocalCid_onMux (s := s) cid channel (fun r => (r.buildCallControlCommand now command).map id .ok)
        (fun c => (c.buildCallControlCommand now command).map id .ok)
      split_ifs
      · exact ih
      · split
        case h_1 t frame hcalled =>
          rw [hcalled] at hmux
          exact hmux
        case h_2 t result _ hcalled =>
          rw [hcalled] at hmux
          exact ih.trans hmux

lemma nextLocalCid_tearDowns (timeout : Duration) (cids : List UInt16) :
    (Machine.collect (tearDown timeout) s cids).1.nextLocalCid = s.nextLocalCid := by
  induction cids generalizing s with
  | nil => rfl
  | cons cid cids ih =>
      have hfirst : (tearDown timeout s cid).1.nextLocalCid = s.nextLocalCid := by
        simp only [tearDown]
        split <;> rfl
      exact ih.trans hfirst

lemma nextLocalCid_perform (op : L2capOp ω) (hnext : firstDynamicCid ≤ s.nextLocalCid) :
    firstDynamicCid ≤ (s.perform op).1.nextLocalCid := by
  cases op with
  | registerPsm psm handler | recapture captured | removeConnection connectionHandle | takeHfpEvents
  | tickHfpStalls now timeout => exact hnext
  | attachClientDlci localCid serverChannel =>
      simp only [perform, rfcommAttachClientDlci]
      split
      · exact hnext
      · split_ifs
        · exact hnext
        · exact (nextLocalCid_onMux localCid _ _ _).symm ▸ hnext
  | takeClientEvents localCid =>
      simp only [perform, takeRfcommClientEvents]
      split
      · exact hnext
      · split <;> exact hnext
  | takeClientEventsForDlci localCid dlci =>
      simp only [perform, takeRfcommClientEventsForDlci]
      split
      · exact hnext
      · rw [Prod.map_fst, id_eq, nextLocalCid_onMux]
        exact hnext
  | sendUihOnClientDlci localCid dlci payload | discClientDlci localCid dlci | forceDiscDlci localCid dlci =>
      exact (nextLocalCid_rfcommFrame localCid _ _).symm ▸ hnext
  | tickL2capStalls now timeout => exact (nextLocalCid_tearDowns timeout _).symm ▸ hnext
  | callControl now command => exact (nextLocalCid_callControlOn now command _).symm ▸ hnext
  | openOutbound now connectionHandle psm upperHandler =>
      change firstDynamicCid ≤ (s.allocateLocalCid 0).1.nextLocalCid
      exact nextLocalCid_findLocalCid 0 _ hnext
  | startHfpClient now localCid serverChannel wbsSupported callWaiting =>
      simp only [perform, startHfpClient]
      split
      · exact hnext
      · split_ifs
        · exact hnext
        · exact hnext
        · rcases (HfpClientState.new serverChannel wbsSupported callWaiting).kickoff now with ⟨client, message | sabm⟩
          · exact hnext
          · exact hnext
  | disconnect localCid =>
      simp only [perform, disconnectChannel]
      split <;> exact hnext

lemma nextLocalCid_act (a : L2capAction ω) (hnext : firstDynamicCid ≤ s.nextLocalCid) :
    firstDynamicCid ≤ (act s a).1.nextLocalCid := by
  cases a with
  | reassembled connectionHandle rest | reply packets => exact hnext
  | data now connectionHandle frame =>
      simp only [act, handleChannelPayload]
      split
      · exact hnext
      · split_ifs
        · exact hnext
        · split <;> exact hnext
  | op op => exact nextLocalCid_perform op hnext
  | signal now connectionHandle command =>
      cases command with
      | connectionRequest identifier psm sourceCid =>
          simp only [act, handleSignalingCommand, handleConnectionRequest]
          split_ifs
          · change firstDynamicCid ≤ (s.allocateLocalCid sourceCid).1.nextLocalCid
            exact nextLocalCid_findLocalCid sourceCid _ hnext
          · exact hnext
      | connectionResponse identifier destinationCid sourceCid result status =>
          simp only [act, handleSignalingCommand, handleConnectionResponse]
          split
          · exact hnext
          · split_ifs <;> exact hnext
      | configureRequest identifier destinationCid flags options =>
          simp only [act, handleSignalingCommand, handleConfigureRequest]
          split <;> exact hnext
      | configureResponse identifier sourceCid flags result options =>
          simp only [act, handleSignalingCommand, handleConfigureResponse]
          split
          · exact hnext
          · split_ifs <;> exact hnext
      | _ => exact hnext

end Allocation

end L2capState

def L2capAction.OnHandle (connectionHandle : UInt16) : L2capAction ω → Prop
  | .signal _ handle _ | .data _ handle _ => handle = connectionHandle
  | .reassembled _ _ | .reply _ => True
  | .op _ => False

lemma onHandle_signalingActions (now : Instant) (connectionHandle : UInt16) (fuel : ℕ) (rest : Bytes) :
    ∀ a ∈ (signalingActions now connectionHandle fuel rest : List (L2capAction ω)), a.OnHandle connectionHandle := by
  induction fuel generalizing rest with
  | zero => simp [signalingActions]
  | succ fuel ih =>
      simp only [signalingActions]
      split_ifs
      · simp
      · split
        · simp [L2capAction.OnHandle]
        case h_2 header _ =>
          refine List.forall_mem_cons.mpr ⟨?_, ih _⟩
          simp only [headerAction]
          split
          · rfl
          · trivial

lemma onHandle_frameActions (now : Instant) (connectionHandle : UInt16) (frameBytes : Bytes) :
    ∀ a ∈ (frameActions now connectionHandle frameBytes : List (L2capAction ω)), a.OnHandle connectionHandle := by
  simp only [frameActions]
  split
  · simp
  · split_ifs
    · exact onHandle_signalingActions now connectionHandle _ _
    · simp [L2capAction.OnHandle]

lemma onHandle_packetActions (s : L2capState ω) (now : Instant) {packet : Bytes} {acl : AclFrame}
    (hparse : parseAclFrame packet = .ok acl) : ∀ a ∈ s.packetActions now packet, a.OnHandle acl.connectionHandle := by
  simp only [L2capState.packetActions, hparse]
  refine List.forall_mem_cons.mpr ⟨trivial, fun a ha => ?_⟩
  obtain ⟨frameBytes, -, hframe⟩ := List.mem_flatMap.mp ha
  exact onHandle_frameActions now acl.connectionHandle frameBytes a hframe

/-- The action reaches no channel of another connection: no command names one it could change, and a new channel
has a CID of its own. -/
def Harmless (s : L2capState ω) : L2capAction ω → Prop
  | .signal _ connectionHandle (.connectionRequest _ psm sourceCid) =>
    psm ∈ s.psmHandlers → (∀ cid, ¬s.IsFreeCid sourceCid cid) →
      ∀ l ∈ s.link firstDynamicCid, l.connectionHandle = connectionHandle
  | .signal _ connectionHandle (.connectionResponse identifier _ sourceCid result _) =>
    result ≠ connectionResultPending →
      ∀ l ∈ s.link sourceCid, l.outboundConnectIdentifier = some identifier → l.connectionHandle = connectionHandle
  | .signal _ connectionHandle (.configureRequest _ destinationCid _ _) =>
    ∀ l ∈ s.link destinationCid, l.remoteConfigured = false → l.connectionHandle = connectionHandle
  | .signal _ connectionHandle (.configureResponse identifier sourceCid _ result _) =>
    result = configResultSuccess →
      ∀ l ∈ s.link sourceCid, l.localConfigIdentifier = some identifier → l.connectionHandle = connectionHandle
  | .signal _ connectionHandle (.disconnectionRequest _ destinationCid _) =>
    ∀ l ∈ s.link destinationCid, l.connectionHandle = connectionHandle
  | _ => True

namespace L2capState

def KeepsOthers (connectionHandle : UInt16) (s t : L2capState ω) : Prop :=
  ∀ (cid : UInt16) (channel : L2capChannel ω), s.channels[cid]? = some channel →
    channel.connectionHandle ≠ connectionHandle → t.channels[cid]? = some channel

variable {s t : L2capState ω} {connectionHandle : UInt16}

lemma KeepsOthers.refl (connectionHandle : UInt16) (s : L2capState ω) : KeepsOthers connectionHandle s s :=
  fun _ _ hchannel _ => hchannel

lemma KeepsOthers.trans {u : L2capState ω} (h : KeepsOthers connectionHandle s t)
    (h' : KeepsOthers connectionHandle t u) :
    KeepsOthers connectionHandle s u :=
  fun cid channel hchannel hother => h' cid channel (h cid channel hchannel hother) hother

lemma keepsOthers_setChannel {cid : UInt16} {channel : L2capChannel ω}
    (hown : ∀ channel', s.channels[cid]? = some channel' → channel'.connectionHandle = connectionHandle) :
    KeepsOthers connectionHandle s (s.setChannel cid channel) := by
  intro cid' channel' hchannel' hother
  have hne : cid ≠ cid' := by
    rintro rfl
    exact hother (hown channel' hchannel')
  simpa [setChannel, Std.ExtTreeMap.getElem?_insert, hne] using hchannel'

lemma keepsOthers_removeChannel {cid : UInt16}
    (hown : ∀ channel', s.channels[cid]? = some channel' → channel'.connectionHandle = connectionHandle) :
    KeepsOthers connectionHandle s (s.removeChannel cid) := by
  intro cid' channel' hchannel' hother
  have hne : cid ≠ cid' := by
    rintro rfl
    exact hother (hown channel' hchannel')
  simpa [removeChannel, Std.ExtTreeMap.getElem?_erase, hne] using hchannel'

lemma channels_allocated (remoteCid cid : UInt16) (channel : L2capChannel ω) :
    ((s.allocateLocalCid remoteCid).1.allocateLocalSignalingId.1.setChannel cid channel).channels =
      s.channels.insert cid channel := by
  have hchannels := channels_findLocalCid remoteCid (0xffff - firstDynamicCid.toNat + 1) s
  simp only [setChannel, allocateLocalSignalingId, allocateLocalCid, hchannels]

lemma keepsOthers_connectionRequest (hnext : firstDynamicCid ≤ s.nextLocalCid) {now : Instant} {identifier : UInt8}
    {psm sourceCid : UInt16}
    (h : Harmless s (.signal now connectionHandle (.connectionRequest identifier psm sourceCid))) :
    KeepsOthers connectionHandle s (s.handleConnectionRequest now connectionHandle identifier psm sourceCid).1 := by
  by_cases hpsm : psm ∈ s.psmHandlers
  · rw [handleConnectionRequest, if_neg (not_not.mpr hpsm)]
    intro cid channel hchannel hother
    have hne : (s.allocateLocalCid sourceCid).2 ≠ cid := by
      rintro rfl
      obtain hfree | ⟨hfallback, hnone⟩ := allocateLocalCid_spec hnext sourceCid
      · exact hfree.2.2 (Std.ExtTreeMap.mem_iff_isSome_getElem?.mpr (by simp [hchannel]))
      · rw [hfallback] at hchannel
        exact hother (h hpsm hnone _ (link_eq_some_iff.mpr ⟨channel, hchannel, rfl⟩))
    simpa [channels_allocated, Std.ExtTreeMap.getElem?_insert, hne] using hchannel
  · rw [handleConnectionRequest, if_pos hpsm]
    exact .refl connectionHandle s

lemma keepsOthers_connectionResponse (hcids : s.LocalCids) {now : Instant} {identifier : UInt8}
    {destinationCid sourceCid result status : UInt16}
    (h : Harmless s (.signal now connectionHandle
      (.connectionResponse identifier destinationCid sourceCid result status))) :
    KeepsOthers connectionHandle s (s.handleConnectionResponse now identifier destinationCid sourceCid result).1 := by
  simp only [handleConnectionResponse]
  split
  · exact .refl connectionHandle s
  case h_2 found channel hfound =>
    obtain ⟨hchannel, hmatches⟩ := findChannel_eq_some hfound
    simp only [Bool.and_eq_true, beq_iff_eq] at hmatches
    obtain rfl : channel.localCid = found := hcids found channel hchannel
    obtain rfl : channel.localCid = sourceCid := hmatches.1
    by_cases hpending : result = connectionResultPending
    · rw [if_pos hpending]
      exact .refl connectionHandle s
    · have hown : ∀ channel', s.channels[channel.localCid]? = some channel' →
          channel'.connectionHandle = connectionHandle := by
        intro channel' hchannel'
        obtain rfl : channel = channel' := Option.some.inj (hchannel.symm.trans hchannel')
        exact h hpending _ (link_eq_some_iff.mpr ⟨channel, hchannel, rfl⟩) hmatches.2
      rw [if_neg hpending]
      split_ifs
      · intro cid channel' hchannel' hother
        have hne : channel.localCid ≠ cid := by
          rintro rfl
          exact hother (hown channel' hchannel')
        simpa [setChannel, allocateLocalSignalingId, Std.ExtTreeMap.getElem?_modify, Std.ExtTreeMap.getElem?_insert,
          hne] using hchannel'
      · exact keepsOthers_removeChannel hown

lemma keepsOthers_configureRequest (htable : s.TableInv) {now : Instant} {identifier : UInt8}
    {destinationCid flags : UInt16} {options : Bytes}
    (h : Harmless s (.signal now connectionHandle (.configureRequest identifier destinationCid flags options))) :
    KeepsOthers connectionHandle s (s.handleConfigureRequest identifier destinationCid flags).1 := by
  simp only [handleConfigureRequest]
  cases hdestination : s.channels[destinationCid]? with
  | none => exact .refl connectionHandle s
  | some channel =>
      have hlink := link_eq_some_iff.mpr ⟨channel, hdestination, rfl⟩
      cases hremote : channel.remoteConfigured with
      | false =>
          refine keepsOthers_setChannel fun channel' hchannel' => ?_
          obtain rfl : channel = channel' := Option.some.inj (hdestination.symm.trans hchannel')
          exact h _ hlink hremote
      | true =>
          -- The peer configures the channel once more: nothing changes.
          have hstate : (if channel.localConfigured = true then .open else channel.state) = channel.state := by
            split_ifs with hlocal
            · exact ((htable destinationCid _ hlink).open_iff.mpr ⟨hlocal, hremote⟩).symm
            · rfl
          have hsame : ({ channel with
              remoteConfigured := true
              state := if channel.localConfigured = true then .open else channel.state } : L2capChannel ω) =
                channel := by
            rw [hstate]
            obtain ⟨⟨_, _, _, _, _, _, remoteConfigured, _, _, _⟩, _, _⟩ := channel
            obtain rfl : remoteConfigured = true := hremote
            rfl
          intro cid channel' hchannel' hother
          by_cases hcid : destinationCid = cid
          · subst hcid
            obtain rfl : channel = channel' := Option.some.inj (hdestination.symm.trans hchannel')
            simp only [setChannel, Std.ExtTreeMap.getElem?_insert_self, hsame]
          · simpa [setChannel, Std.ExtTreeMap.getElem?_insert, hcid] using hchannel'

lemma keepsOthers_configureResponse (hcids : s.LocalCids) {now : Instant} {identifier : UInt8}
    {sourceCid flags result : UInt16} {options : Bytes}
    (h : Harmless s (.signal now connectionHandle (.configureResponse identifier sourceCid flags result options))) :
    KeepsOthers connectionHandle s (s.handleConfigureResponse identifier sourceCid result) := by
  simp only [handleConfigureResponse]
  split
  · exact .refl connectionHandle s
  case h_2 found channel hfound =>
    obtain ⟨hchannel, hmatches⟩ := findChannel_eq_some hfound
    simp only [Bool.and_eq_true, beq_iff_eq] at hmatches
    obtain rfl : found = sourceCid := (hcids found channel hchannel).symm.trans hmatches.1
    by_cases hresult : result = configResultSuccess
    · rw [if_neg (not_not.mpr hresult)]
      refine keepsOthers_setChannel fun channel' hchannel' => ?_
      obtain rfl : channel = channel' := Option.some.inj (hchannel.symm.trans hchannel')
      exact h hresult _ (link_eq_some_iff.mpr ⟨channel, hchannel, rfl⟩) hmatches.2
    · rw [if_pos hresult]
      exact .refl connectionHandle s

lemma keepsOthers_handleChannelPayload (now : Instant) (frame : BasicFrame) :
    KeepsOthers connectionHandle s (s.handleChannelPayload now connectionHandle frame).1 := by
  simp only [handleChannelPayload]
  cases hchannel : s.channels[frame.cid]? with
  | none => exact .refl connectionHandle s
  | some channel =>
      dsimp only
      split_ifs with hdropped
      · exact .refl connectionHandle s
      · have hown : channel.connectionHandle = connectionHandle := by
          by_contra hother
          exact hdropped (.inl hother)
        split
        · exact .refl connectionHandle s
        · refine keepsOthers_setChannel fun channel' hchannel' => ?_
          obtain rfl : channel = channel' := Option.some.inj (hchannel.symm.trans hchannel')
          exact hown

lemma keepsOthers_act (htable : s.TableInv) (hnext : firstDynamicCid ≤ s.nextLocalCid) {a : L2capAction ω}
    (hon : a.OnHandle connectionHandle) (h : Harmless s a) : KeepsOthers connectionHandle s (act s a).1 := by
  cases a with
  | reassembled handle rest => exact .refl connectionHandle s
  | reply packets => exact .refl connectionHandle s
  | op op => exact hon.elim
  | data now handle frame =>
      obtain rfl : handle = connectionHandle := hon
      exact keepsOthers_handleChannelPayload now frame
  | signal now handle command =>
      obtain rfl : handle = connectionHandle := hon
      cases command with
      | connectionRequest identifier psm sourceCid => exact keepsOthers_connectionRequest hnext h
      | connectionResponse identifier destinationCid sourceCid result status =>
          exact keepsOthers_connectionResponse htable.localCids h
      | configureRequest identifier destinationCid flags options => exact keepsOthers_configureRequest htable h
      | configureResponse identifier sourceCid flags result options =>
          exact keepsOthers_configureResponse htable.localCids h
      | disconnectionRequest identifier destinationCid sourceCid =>
          refine keepsOthers_removeChannel fun channel hchannel => ?_
          exact h _ (link_eq_some_iff.mpr ⟨channel, hchannel, rfl⟩)
      | _ => exact .refl handle s

end L2capState

def ChannelLink.progress (l : ChannelLink) : ℕ :=
  l.localConfigured.toNat + l.remoteConfigured.toNat + l.outboundConnectIdentifier.isNone.toNat

/-- The channel at `cid` is one of the connection's own, or has come further. -/
def Passed (connectionHandle : UInt16) (progress : ℕ) (l : Option ChannelLink) : Prop :=
  ∀ x ∈ l, x.connectionHandle = connectionHandle ∨ progress < x.progress

lemma LinkStep.passed {a : L2capAction ω} {out : List Bytes} {cid : UInt16} {l l' : Option ChannelLink}
    {connectionHandle : UInt16} {progress : ℕ} (hstep : LinkStep a out cid l l') (hon : a.OnHandle connectionHandle)
    (h : Passed connectionHandle progress l) :
    Passed connectionHandle progress l' := by
  cases hstep with
  | same => exact h
  | gone => exact nofun
  | accepted now handle identifier psm sourceCid id l hcid hout =>
      rintro x ⟨rfl⟩
      exact .inl hon
  | opened now handle psm upperHandler id l hcid => exact hon.elim
  | remoteConfigured out cid now handle identifier flags options l =>
      rintro x ⟨rfl⟩
      refine (h l rfl).imp_right fun hlt => hlt.trans_le ?_
      simp only [ChannelLink.progress]
      have hle : l.remoteConfigured.toNat ≤ true.toNat := Bool.toNat_le _
      omega
  | @localConfigured out cid now handle identifier flags options l hidentifier =>
      rintro x ⟨rfl⟩
      refine (h l rfl).imp_right fun hlt => hlt.trans_le ?_
      simp only [ChannelLink.progress]
      have hle : l.localConfigured.toNat ≤ true.toNat := Bool.toNat_le _
      omega
  | @connected out cid now handle identifier destinationCid status id l hidentifier hout =>
      rintro x ⟨rfl⟩
      refine (h l rfl).imp_right fun hlt => hlt.trans_le ?_
      simp only [ChannelLink.progress, Option.isNone_none]
      have hle : l.outboundConnectIdentifier.isNone.toNat ≤ true.toNat := Bool.toNat_le _
      omega

lemma LinkStep.sameHandle {a : L2capAction ω} {out : List Bytes} {cid : UInt16} {l : Option ChannelLink}
    {x : ChannelLink}
    {connectionHandle : UInt16} (hstep : LinkStep a out cid l (some x)) (hon : a.OnHandle connectionHandle) :
    x.connectionHandle = connectionHandle ∨ ∃ y ∈ l, y.connectionHandle = x.connectionHandle := by
  cases hstep with
  | same => exact .inr ⟨x, rfl, rfl⟩
  | accepted now handle identifier psm sourceCid id l hcid hout => exact .inl hon
  | opened now handle psm upperHandler id l hcid => exact hon.elim
  | remoteConfigured out cid now handle identifier flags options y => exact .inr ⟨y, rfl, rfl⟩
  | @localConfigured out cid now handle identifier flags options y hidentifier => exact .inr ⟨y, rfl, rfl⟩
  | @connected out cid now handle identifier destinationCid status id y hidentifier hout => exact .inr ⟨y, rfl, rfl⟩

namespace L2capState

variable {s t : L2capState ω} {connectionHandle : UInt16}

/-- Some channel of another connection is gone, taken over, or further than it was. -/
def Disturbs (connectionHandle : UInt16) (s t : L2capState ω) : Prop :=
  ∃ cid, ∃ l ∈ s.link cid, l.connectionHandle ≠ connectionHandle ∧ Passed connectionHandle l.progress (t.link cid)

lemma Disturbs.not_keepsOthers (h : Disturbs connectionHandle s t) : ¬KeepsOthers connectionHandle s t := by
  obtain ⟨cid, l, hl, hother, hpassed⟩ := h
  obtain ⟨channel, hchannel, rfl⟩ := link_eq_some_iff.mp hl
  intro hkeeps
  have hlink := link_eq_some_iff.mpr ⟨channel, hkeeps cid channel hchannel hother, rfl⟩
  obtain hown | hfurther := hpassed _ hlink
  · exact hother hown
  · exact lt_irrefl _ hfurther

lemma disturbs_of_link {cid : UInt16} {l : ChannelLink} (hl : s.link cid = some l)
    (hother : l.connectionHandle ≠ connectionHandle) {l' : Option ChannelLink} (hl' : t.link cid = l')
    (hpassed : Passed connectionHandle l.progress l') : Disturbs connectionHandle s t :=
  ⟨cid, l, hl, hother, hl' ▸ hpassed⟩

lemma disturbs_connectionRequest (hnext : firstDynamicCid ≤ s.nextLocalCid) {now : Instant} {identifier : UInt8}
    {psm sourceCid : UInt16}
    (h : ¬Harmless s (.signal now connectionHandle (.connectionRequest identifier psm sourceCid))) :
    Disturbs connectionHandle s (s.handleConnectionRequest now connectionHandle identifier psm sourceCid).1 := by
  simp only [Harmless, not_forall] at h
  obtain ⟨hpsm, hnone, l, hl, hother⟩ := h
  -- No CID is left, and the first one is taken from its owner.
  have hfirst : (s.allocateLocalCid sourceCid).2 = firstDynamicCid := by
    obtain hfree | ⟨hfallback, -⟩ := allocateLocalCid_spec hnext sourceCid
    · exact absurd hfree (hnone _)
    · exact hfallback
  rw [handleConnectionRequest, if_neg (not_not.mpr hpsm)]
  refine disturbs_of_link hl hother (link_allocated sourceCid _ _ firstDynamicCid) ?_
  rw [if_pos hfirst]
  rintro x ⟨rfl⟩
  exact .inl rfl

lemma findChannel_of_link (hcids : s.LocalCids) {cid : UInt16} {l : ChannelLink} (hl : s.link cid = some l)
    {p : ChannelLink → Bool} (hp : p l = true) :
    ∃ channel, s.findChannel (fun channel => channel.localCid == cid && p channel.toChannelLink) = some (cid, channel) ∧
      channel.toChannelLink = l := by
  obtain ⟨channel, hchannel, rfl⟩ := link_eq_some_iff.mp hl
  cases hfind : s.findChannel fun channel => channel.localCid == cid && p channel.toChannelLink with
  | none =>
      have hmiss := findChannel_eq_none hfind hchannel
      simp [hcids cid channel hchannel, hp] at hmiss
  | some entry =>
      obtain ⟨found, channel'⟩ := entry
      obtain ⟨hchannel', hmatches⟩ := findChannel_eq_some hfind
      simp only [Bool.and_eq_true, beq_iff_eq] at hmatches
      obtain rfl : found = cid := (hcids found channel' hchannel').symm.trans hmatches.1
      obtain rfl : channel = channel' := Option.some.inj (hchannel.symm.trans hchannel')
      exact ⟨channel, rfl, rfl⟩

lemma disturbs_connectionResponse (htable : s.TableInv) {now : Instant} {identifier : UInt8}
    {destinationCid sourceCid result status : UInt16}
    (h : ¬Harmless s (.signal now connectionHandle
      (.connectionResponse identifier destinationCid sourceCid result status))) :
    Disturbs connectionHandle s (s.handleConnectionResponse now identifier destinationCid sourceCid result).1 := by
  simp only [Harmless, not_forall] at h
  obtain ⟨hpending, l, hl, hidentifier, hother⟩ := h
  obtain ⟨channel, hfind, rfl⟩ := findChannel_of_link htable.localCids hl
    (p := fun l => l.outboundConnectIdentifier == some identifier) (by simp [hidentifier])
  obtain rfl : channel.localCid = sourceCid := (htable sourceCid _ hl).localCid
  simp only [handleConnectionResponse, hfind]
  rw [if_neg hpending]
  split_ifs
  · refine disturbs_of_link hl hother rfl ?_
    simp only [link, setChannel, allocateLocalSignalingId, Std.ExtTreeMap.getElem?_modify_self,
      Std.ExtTreeMap.getElem?_insert_self, Option.map_some]
    rintro x ⟨rfl⟩
    exact .inr (by simp [ChannelLink.progress, hidentifier])
  · refine disturbs_of_link hl hother (link_removeChannel _ _) ?_
    rw [if_pos rfl]
    rintro x ⟨⟩

lemma disturbs_configureRequest {now : Instant} {identifier : UInt8} {destinationCid flags : UInt16} {options : Bytes}
    (h : ¬Harmless s (.signal now connectionHandle (.configureRequest identifier destinationCid flags options))) :
    Disturbs connectionHandle s (s.handleConfigureRequest identifier destinationCid flags).1 := by
  simp only [Harmless, not_forall] at h
  obtain ⟨l, hl, hremote, hother⟩ := h
  obtain ⟨channel, hchannel, rfl⟩ := link_eq_some_iff.mp hl
  simp only [handleConfigureRequest, hchannel]
  refine disturbs_of_link hl hother (link_setChannel _ _ _) ?_
  rw [if_pos rfl]
  rintro x ⟨rfl⟩
  exact .inr (by simp [ChannelLink.progress, hremote])

lemma disturbs_configureResponse (htable : s.TableInv) {now : Instant} {identifier : UInt8}
    {sourceCid flags result : UInt16} {options : Bytes}
    (h : ¬Harmless s (.signal now connectionHandle (.configureResponse identifier sourceCid flags result options))) :
    Disturbs connectionHandle s (s.handleConfigureResponse identifier sourceCid result) := by
  simp only [Harmless, not_forall] at h
  obtain ⟨hresult, l, hl, hidentifier, hother⟩ := h
  have hlocal : l.localConfigured = false := by
    by_contra hconfigured
    have hnone := ((htable sourceCid l hl).answered (by simpa using hconfigured)).1
    exact absurd (hidentifier.symm.trans hnone) (by simp)
  obtain ⟨channel, hfind, rfl⟩ := findChannel_of_link htable.localCids hl
    (p := fun l => l.localConfigIdentifier == some identifier) (by simp [hidentifier])
  simp only [handleConfigureResponse, hfind]
  rw [if_neg (not_not.mpr hresult)]
  refine disturbs_of_link hl hother (link_setChannel _ _ _) ?_
  rw [if_pos rfl]
  rintro x ⟨rfl⟩
  exact .inr (by simp [ChannelLink.progress, hlocal])

lemma disturbs_act (htable : s.TableInv) (hnext : firstDynamicCid ≤ s.nextLocalCid) {a : L2capAction ω}
    (hon : a.OnHandle connectionHandle) (h : ¬Harmless s a) : Disturbs connectionHandle s (act s a).1 := by
  cases a with
  | reassembled handle rest => exact absurd trivial h
  | reply packets => exact absurd trivial h
  | data now handle frame => exact absurd trivial h
  | op op => exact hon.elim
  | signal now handle command =>
      obtain rfl : handle = connectionHandle := hon
      cases command with
      | connectionRequest identifier psm sourceCid => exact disturbs_connectionRequest hnext h
      | connectionResponse identifier destinationCid sourceCid result status =>
          exact disturbs_connectionResponse htable h
      | configureRequest identifier destinationCid flags options => exact disturbs_configureRequest h
      | configureResponse identifier sourceCid flags result options => exact disturbs_configureResponse htable h
      | disconnectionRequest identifier destinationCid sourceCid =>
          simp only [Harmless, not_forall] at h
          obtain ⟨l, hl, hother⟩ := h
          refine disturbs_of_link hl hother (link_removeChannel _ _) ?_
          rw [if_pos rfl]
          exact nofun
      | _ => exact absurd trivial h

/-- What a run of one connection's actions needs of the table. -/
structure Allocates (s : L2capState ω) : Prop where
  table : s.TableInv
  next : firstDynamicCid ≤ s.nextLocalCid

lemma Allocates.act (h : s.Allocates) (a : L2capAction ω) : (L2capState.act s a).1.Allocates :=
  ⟨h.table.act a, nextLocalCid_act a h.next⟩

lemma allocates_final (sdp : Bytes → Except String Bytes) (captured : ω) (inputs : List (L2capInput ω)) :
    (step.final (new sdp captured) inputs).Allocates := by
  rw [← final_trace]
  exact Machine.always (fun _ a h => h.act a) 
    ⟨tableInv_new sdp captured, UInt16.le_refl _⟩ _

lemma passed_final (h : s.Allocates) {actions : List (L2capAction ω)} (hon : ∀ a ∈ actions, a.OnHandle connectionHandle)
    {cid : UInt16} {progress : ℕ} (hpassed : Passed connectionHandle progress (s.link cid)) :
    Passed connectionHandle progress ((act.final s actions).link cid) := by
  induction actions generalizing s with
  | nil => exact hpassed
  | cons a actions ih =>
      obtain ⟨ha, hon⟩ := List.forall_mem_cons.mp hon
      exact ih (h.act a) hon ((linkStep h.table.localCids a cid).passed ha hpassed)

lemma Disturbs.final (h : s.Allocates) {a : L2capAction ω} (hdisturbs : Disturbs connectionHandle s (act s a).1)
    {actions : List (L2capAction ω)} (hon : ∀ a ∈ actions, a.OnHandle connectionHandle) :
    Disturbs connectionHandle s (act.final s (a :: actions)) := by
  obtain ⟨cid, l, hl, hother, hpassed⟩ := hdisturbs
  exact ⟨cid, l, hl, hother, passed_final (h.act a) hon hpassed⟩

lemma foreign_act (h : s.Allocates) {a : L2capAction ω} (hon : a.OnHandle connectionHandle) (hharmless : Harmless s a)
    {cid : UInt16} {channel : L2capChannel ω} (hchannel : (act s a).1.channels[cid]? = some channel)
    (hother : channel.connectionHandle ≠ connectionHandle) : s.channels[cid]? = some channel := by
  have hstep := linkStep h.table.localCids a cid
  rw [link_eq_some_iff.mpr ⟨channel, hchannel, rfl⟩] at hstep
  obtain hown | ⟨y, hy, hhandle⟩ := hstep.sameHandle hon
  · exact absurd hown hother
  · obtain ⟨channel', hchannel', rfl⟩ := link_eq_some_iff.mp hy
    have hother' : channel'.connectionHandle ≠ connectionHandle := fun h => hother (hhandle.symm.trans h)
    have hkept := keepsOthers_act h.table h.next hon hharmless cid channel' hchannel' hother'
    obtain rfl : channel' = channel := Option.some.inj (hkept.symm.trans hchannel)
    exact hchannel'

lemma keepsOthers_final_iff (h : s.Allocates) {actions : List (L2capAction ω)}
    (hon : ∀ a ∈ actions, a.OnHandle connectionHandle) :
    KeepsOthers connectionHandle s (act.final s actions) ↔ act.Along Harmless s actions := by
  induction actions generalizing s with
  | nil => exact iff_of_true (.refl connectionHandle s) trivial
  | cons a actions ih =>
      obtain ⟨ha, hon⟩ := List.forall_mem_cons.mp hon
      rw [Machine.along_cons, ← ih (h.act a) hon]
      constructor
      · intro hkeeps
        have hharmless : Harmless s a := by
          by_contra hharms
          exact ((disturbs_act h.table h.next ha hharms).final h hon).not_keepsOthers hkeeps
        refine ⟨hharmless, fun cid channel hchannel hother => ?_⟩
        exact hkeeps cid channel (foreign_act h ha hharmless hchannel hother) hother
      · rintro ⟨hharmless, hkeeps⟩
        exact (keepsOthers_act h.table h.next ha hharmless).trans hkeeps

/-- A packet of one connection leaves the channels of all others alone exactly when none of its commands reaches
one of them. -/
theorem packet_keepsOthers_iff (sdp : Bytes → Except String Bytes) (captured : ω) (inputs : List (L2capInput ω))
    (now : Instant) (packet : Bytes) (acl : AclFrame) (hparse : parseAclFrame packet = .ok acl) :
    let s := step.final (new sdp captured) inputs
    KeepsOthers acl.connectionHandle s (s.handleAclPacket now packet).1 ↔
      act.Along Harmless s (s.packetActions now packet) := by
  intro s
  rw [← keepsOthers_final_iff (allocates_final sdp captured inputs) (onHandle_packetActions s now hparse),
    final_packetActions]

section TwoPhones

instance (s : L2capState ω) (sourceCid : UInt16) : Decidable (∀ cid, ¬s.IsFreeCid sourceCid cid) :=
  decidable_of_iff (∀ n : Fin 65536, ¬s.IsFreeCid sourceCid (UInt16.ofFin n)) ⟨fun h cid => h cid.toFin, fun h _ => h _⟩

instance (s : L2capState ω) : ∀ a, Decidable (Harmless s a)
  | .signal _ connectionHandle (.connectionRequest _ psm sourceCid) =>
    inferInstanceAs (Decidable (psm ∈ s.psmHandlers → (∀ cid, ¬s.IsFreeCid sourceCid cid) →
      ∀ l ∈ s.link firstDynamicCid, l.connectionHandle = connectionHandle))
  | .signal _ _ (.connectionResponse _ _ _ _ _) => inferInstanceAs (Decidable (_ → ∀ l ∈ s.link _, _ → _ = _))
  | .signal _ _ (.configureRequest _ _ _ _) => inferInstanceAs (Decidable (∀ l ∈ s.link _, _ → _ = _))
  | .signal _ _ (.configureResponse _ _ _ _ _) => inferInstanceAs (Decidable (_ → ∀ l ∈ s.link _, _ → _ = _))
  | .signal _ _ (.disconnectionRequest _ _ _) => inferInstanceAs (Decidable (∀ l ∈ s.link _, _ = _))
  | .signal _ _ (.disconnectionResponse _ _ _) | .signal _ _ (.informationRequest _ _)
  | .signal _ _ (.informationResponse _ _ _ _) | .signal _ _ (.unknown _ _ _) | .reassembled _ _ | .reply _
  | .data _ _ _ | .op _ => .isTrue trivial

def onePhone : L2capState Unit := step.final fresh [fromPhone 5 0x2a (buildConnectionRequest 1 psmRfcomm 0x40)]

/-- Another phone closes a channel of its own that is long gone. -/
theorem packet_keepsOthers_iff_stale :
    KeepsOthers 0x2b onePhone
      (onePhone.handleAclPacket 6 (buildOutboundAcl 0x2b (buildDisconnectionRequest 1 0x50 0x40))).1 :=
  (packet_keepsOthers_iff (fun _ => .ok []) () [fromPhone 5 0x2a (buildConnectionRequest 1 psmRfcomm 0x40)] 6
    (buildOutboundAcl 0x2b (buildDisconnectionRequest 1 0x50 0x40))
    ⟨0x2b, 2, 0, buildDisconnectionRequest 1 0x50 0x40⟩ (by decide)).mpr (by decide)

/-- Another phone names the first one's channel, and it is gone. -/
theorem disconnected_by_another_phone :
    ¬KeepsOthers 0x2b onePhone
      (onePhone.handleAclPacket 6 (buildOutboundAcl 0x2b (buildDisconnectionRequest 1 0x41 0x40))).1 := by
  have hlink : onePhone.link 0x41 =
      some { connectionHandle := 0x2a, psm := psmRfcomm, localCid := 0x41, remoteCid := 0x40,
             localConfigIdentifier := some 0x80, localConfigSentAt := some 5 } := by decide
  have hgone : (onePhone.handleAclPacket 6 (buildOutboundAcl 0x2b
      (buildDisconnectionRequest 1 0x41 0x40))).1.link 0x41 =
      none := by decide
  exact (disturbs_of_link hlink (by decide) hgone nofun).not_keepsOthers

end TwoPhones

end L2capState

end Aokie.Radio.L2cap
