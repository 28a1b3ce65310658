import Aokie.Radio.L2cap.Action

/-! The configuration handshake over whole runs: what every channel of the table meets, and which answer can
complete our side of it. -/

namespace Aokie.Radio.L2cap

open Aokie.Lib

variable {ω : Type}

structure ChannelLink.WellConfigured (cid : UInt16) (l : ChannelLink) : Prop where
  localCid : l.localCid = cid
  dynamic : firstDynamicCid ≤ cid
  open_iff : l.state = .open ↔ l.localConfigured = true ∧ l.remoteConfigured = true
  answered : l.localConfigured = true → l.localConfigIdentifier = none ∧ l.outboundConnectIdentifier = none
  connected : ∀ identifier, l.localConfigIdentifier = some identifier → l.outboundConnectIdentifier = none

lemma LinkStep.wellConfigured {a : L2capAction ω} {out : List Bytes} {cid : UInt16} {l l' : Option ChannelLink}
    (hstep : LinkStep a out cid l l') (h : ∀ x ∈ l, x.WellConfigured cid) : ∀ x ∈ l', x.WellConfigured cid := by
  cases hstep with
  | same => exact h
  | gone => exact nofun
  | accepted now connectionHandle identifier psm sourceCid id l hcid hout =>
      rintro x ⟨rfl⟩
      exact ⟨rfl, hcid, by simp, by simp, by simp⟩
  | opened now connectionHandle psm upperHandler id l hcid =>
      rintro x ⟨rfl⟩
      exact ⟨rfl, hcid, by simp, by simp, by simp⟩
  | remoteConfigured out cid now connectionHandle identifier flags options l =>
      rintro x ⟨rfl⟩
      have hl := h l rfl
      refine ⟨hl.localCid, hl.dynamic, ?_, hl.answered, hl.connected⟩
      cases hlocal : l.localConfigured with
      | true => simp
      | false => simpa [hlocal] using hl.open_iff
  | @localConfigured out cid now connectionHandle identifier flags options l hidentifier =>
      rintro x ⟨rfl⟩
      have hl := h l rfl
      have hlocal : l.localConfigured = false := by
        by_contra hconfigured
        have hnone := (hl.answered (by simpa using hconfigured)).1
        exact absurd (hidentifier.symm.trans hnone) (by simp)
      refine ⟨hl.localCid, hl.dynamic, ?_, fun _ => ⟨rfl, hl.connected identifier hidentifier⟩, by simp⟩
      cases hremote : l.remoteConfigured with
      | true => simp
      | false => simpa [hlocal] using hl.open_iff
  | @connected out cid now connectionHandle identifier destinationCid status id l hidentifier hout =>
      rintro x ⟨rfl⟩
      have hl := h l rfl
      have hlocal : l.localConfigured = false := by
        by_contra hconfigured
        have hnone := (hl.answered (by simpa using hconfigured)).2
        exact absurd (hidentifier.symm.trans hnone) (by simp)
      exact ⟨hl.localCid, hl.dynamic, hl.open_iff, by simp [hlocal], by simp⟩

lemma LinkStep.identifier {a : L2capAction ω} {out : List Bytes} {cid : UInt16} {l : Option ChannelLink}
    {x : ChannelLink}
    (hstep : LinkStep a out cid l (some x)) {identifier : UInt8}
      (hidentifier : x.localConfigIdentifier = some identifier) :
    (∃ y, l = some y ∧ y.localConfigIdentifier = some identifier ∧ y.remoteCid = x.remoteCid) ∨
      ∃ connectionHandle, buildOutboundAcl connectionHandle
        (buildConfigureRequest identifier x.remoteCid 0 []) ∈ out := by
  cases hstep with
  | same => exact .inl ⟨x, rfl, hidentifier, rfl⟩
  | accepted now connectionHandle identifier' psm sourceCid id l hcid hout =>
      obtain rfl : id = identifier := by simpa using hidentifier
      exact .inr ⟨connectionHandle, hout⟩
  | opened now connectionHandle psm upperHandler id l hcid => simp at hidentifier
  | remoteConfigured out cid now connectionHandle identifier' flags options y => exact .inl ⟨y, rfl, hidentifier, rfl⟩
  | localConfigured out cid now connectionHandle identifier' flags options hidentifier' => simp at hidentifier
  | connected cid now connectionHandle identifier' destinationCid status id hidentifier' hout =>
      obtain rfl : id = identifier := by simpa using hidentifier
      exact .inr ⟨connectionHandle, hout⟩

lemma LinkStep.configured {a : L2capAction ω} {out : List Bytes} {cid : UInt16} {l : Option ChannelLink}
    {x : ChannelLink}
    (hstep : LinkStep a out cid l (some x)) (hconfigured : x.localConfigured = true) :
    (∃ y, l = some y ∧ y.localConfigured = true) ∨
      ∃ now connectionHandle identifier flags options y,
        a = .signal now connectionHandle (.configureResponse identifier cid flags configResultSuccess options) ∧
        l = some y ∧ y.localConfigIdentifier = some identifier := by
  cases hstep with
  | same => exact .inl ⟨x, rfl, hconfigured⟩
  | accepted now connectionHandle identifier psm sourceCid id l hcid hout => simp at hconfigured
  | opened now connectionHandle psm upperHandler id l hcid => simp at hconfigured
  | remoteConfigured out cid now connectionHandle identifier flags options y => exact .inl ⟨y, rfl, hconfigured⟩
  | @localConfigured out cid now connectionHandle identifier flags options y hidentifier =>
      exact .inr ⟨now, connectionHandle, identifier, flags, options, y, rfl, rfl, hidentifier⟩
  | @connected out cid now connectionHandle identifier destinationCid status id y hidentifier hout =>
      exact .inl ⟨y, rfl, hconfigured⟩

namespace L2capState

def TableInv (s : L2capState ω) : Prop := ∀ cid, ∀ l ∈ s.link cid, l.WellConfigured cid

lemma TableInv.localCids {s : L2capState ω} (h : s.TableInv) : s.LocalCids :=
  fun cid channel hchannel => (h cid _ (link_eq_some_iff.mpr ⟨channel, hchannel, rfl⟩)).localCid

lemma TableInv.act {s : L2capState ω} (h : s.TableInv) (a : L2capAction ω) : (act s a).1.TableInv :=
  fun cid => (linkStep h.localCids a cid).wellConfigured (h cid)

lemma tableInv_new (sdp : Bytes → Except String Bytes) (captured : ω) : (new sdp captured).TableInv := by
  intro cid l hl
  simp [link, new, registerPsm] at hl

lemma tableInv_final (sdp : Bytes → Except String Bytes) (captured : ω) (actions : List (L2capAction ω)) :
    (act.final (new sdp captured) actions).TableInv :=
  Machine.always (fun _ a h => h.act a) (tableInv_new sdp captured) actions

/-- The run sent the configure request `identifier` to the peer's channel `remoteCid`, and ever since then the
channel at `cid` has been waiting for its answer. -/
def AwaitsSince (s : L2capState ω) (actions : List (L2capAction ω)) (cid : UInt16) (identifier : UInt8)
    (remoteCid : UInt16) : Prop :=
  ∃ before a after, actions = before ++ a :: after ∧
    (∃ connectionHandle, buildOutboundAcl connectionHandle (buildConfigureRequest identifier remoteCid 0 []) ∈
      (act (act.final s before) a).2) ∧
    ∀ since, since <+: after → ∃ l ∈ (act.final s (before ++ a :: since)).link cid,
      l.localConfigIdentifier = some identifier ∧ l.remoteCid = remoteCid

lemma AwaitsSince.concat {s : L2capState ω} {actions : List (L2capAction ω)} {cid : UInt16} {identifier : UInt8}
    {remoteCid : UInt16} (h : AwaitsSince s actions cid identifier remoteCid) (a : L2capAction ω) {l : ChannelLink}
    (hlink : (act.final s (actions ++ [a])).link cid = some l) (hidentifier : l.localConfigIdentifier = some identifier)
    (hremote : l.remoteCid = remoteCid) : AwaitsSince s (actions ++ [a]) cid identifier remoteCid := by
  obtain ⟨before, sent, after, rfl, hsent, hsince⟩ := h
  refine ⟨before, sent, after ++ [a], by simp, hsent, fun since hprefix => ?_⟩
  obtain rfl | hprefix := List.prefix_concat_iff.mp hprefix
  · exact ⟨l, by simpa using hlink, hidentifier, hremote⟩
  · exact hsince since hprefix

lemma awaitsSince_final (sdp : Bytes → Except String Bytes) (captured : ω) (actions : List (L2capAction ω))
    {cid : UInt16} {l : ChannelLink} (hlink : (act.final (new sdp captured) actions).link cid = some l)
    {identifier : UInt8} (hidentifier : l.localConfigIdentifier = some identifier) :
    AwaitsSince (new sdp captured) actions cid identifier l.remoteCid := by
  induction actions using List.reverseRecOn generalizing l with
  | nil => simp [link, new, registerPsm] at hlink
  | append_singleton actions a ih =>
      have hinv := tableInv_final sdp captured actions
      have hafter : (act.final (new sdp captured) (actions ++ [a])).link cid = some l := hlink
      rw [Machine.final_append] at hlink
      have hstep := linkStep hinv.localCids a cid
      rw [show (act (act.final (new sdp captured) actions) a).1.link cid = some l from hlink] at hstep
      obtain ⟨y, hy, hwaiting, hremote⟩ | ⟨connectionHandle, hsent⟩ := hstep.identifier hidentifier
      · have hearlier := ih hy hwaiting
        rw [hremote] at hearlier
        exact hearlier.concat a hafter hidentifier rfl
      · refine ⟨actions, a, [], rfl, ⟨connectionHandle, hsent⟩, fun since hprefix => ?_⟩
        obtain rfl := List.prefix_nil.mp hprefix
        exact ⟨l, hafter, hidentifier, rfl⟩

/-- In every reachable table each channel is filed under its own dynamic CID, is open exactly when both sides are
configured, and waits for nothing once it is open; and our side of a channel is configured only by a success that
answers the request which that very channel has been waiting on. -/
theorem channels_configured_by_handshake (sdp : Bytes → Except String Bytes) (captured : ω)
    (inputs : List (L2capInput ω)) :
    let start := new sdp captured
    (∀ (cid : UInt16) (channel : L2capChannel ω), (step.final start inputs).channels[cid]? = some channel →
      channel.localCid = cid ∧ firstDynamicCid ≤ cid ∧
      (channel.state = .open ↔ channel.localConfigured = true ∧ channel.remoteConfigured = true) ∧
      (channel.state = .open →
        channel.outboundConnectIdentifier = none ∧ channel.localConfigIdentifier = none)) ∧
    act.final start (start.trace inputs) = step.final start inputs ∧
    ∀ before a after, start.trace inputs = before ++ a :: after →
      ∀ (cid : UInt16) (channel : L2capChannel ω), (act (act.final start before) a).1.channels[cid]? = some channel →
        channel.localConfigured = true →
        (∃ channel' : L2capChannel ω,
          (act.final start before).channels[cid]? = some channel' ∧ channel'.localConfigured = true) ∨
        ∃ now connectionHandle identifier flags options, ∃ channel' : L2capChannel ω,
          a = .signal now connectionHandle (.configureResponse identifier cid flags configResultSuccess options) ∧
          (act.final start before).channels[cid]? = some channel' ∧
          channel'.localConfigIdentifier = some identifier ∧
          AwaitsSince start before cid identifier channel'.remoteCid := by
  intro start
  refine ⟨fun cid channel hchannel => ?_, final_trace start inputs, ?_⟩
  · have hinv := tableInv_final sdp captured (start.trace inputs)
    rw [show new sdp captured = start from rfl, final_trace] at hinv
    have hlink := hinv cid _ (link_eq_some_iff.mpr ⟨channel, hchannel, rfl⟩)
    refine ⟨hlink.localCid, hlink.dynamic, hlink.open_iff, fun hopen => ?_⟩
    exact (hlink.answered (hlink.open_iff.mp hopen).1).symm
  · intro before a after _ cid channel hchannel hconfigured
    have hstep := linkStep (tableInv_final sdp captured before).localCids a cid
    rw [link_eq_some_iff.mpr ⟨channel, hchannel, rfl⟩] at hstep
    obtain ⟨y, hy, hearlier⟩ | ⟨now, connectionHandle, identifier, flags, options, y, ha, hy, hidentifier⟩ :=
      hstep.configured hconfigured
    · obtain ⟨channel', hchannel', rfl⟩ := link_eq_some_iff.mp hy
      exact .inl ⟨channel', hchannel', hearlier⟩
    · obtain ⟨channel', hchannel', rfl⟩ := link_eq_some_iff.mp hy
      exact .inr ⟨now, connectionHandle, identifier, flags, options, channel', ha, hchannel', hidentifier,
        awaitsSince_final sdp captured before hy hidentifier⟩

end L2capState

end Aokie.Radio.L2cap
