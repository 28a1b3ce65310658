import Aokie.Radio.L2cap.Packet

/-! Runs of the channel table. Every operation is a sequence of single actions, and each action does at most one
thing to the link of each channel. -/

namespace Aokie.Radio.L2cap

open Aokie.Lib Aokie.Radio.Hfp Aokie.Radio.Rfcomm

variable {ω : Type}

/-- What the rest of the program asks of the table; `recapture` is a change of what the handlers' closures hold. -/
inductive L2capOp (ω : Type)
  | registerPsm (psm : UInt16) (handler : PsmHandler ω)
  | recapture (captured : ω)
  | attachClientDlci (localCid : UInt16) (serverChannel : UInt8)
  | takeClientEvents (localCid : UInt16)
  | takeClientEventsForDlci (localCid : UInt16) (dlci : UInt8)
  | sendUihOnClientDlci (localCid : UInt16) (dlci : UInt8) (payload : Bytes)
  | discClientDlci (localCid : UInt16) (dlci : UInt8)
  | forceDiscDlci (localCid : UInt16) (dlci : UInt8)
  | removeConnection (connectionHandle : UInt16)
  | takeHfpEvents
  | tickHfpStalls (now : Instant) (timeout : Duration)
  | tickL2capStalls (now : Instant) (timeout : Duration)
  | callControl (now : Instant) (command : HfpAtCommand)
  | openOutbound (now : Instant) (connectionHandle psm : UInt16) (upperHandler : Option (PsmHandler ω))
  | startHfpClient (now : Instant) (localCid : UInt16) (serverChannel : UInt8) (wbsSupported callWaiting : Bool)
  | disconnect (localCid : UInt16)

inductive L2capInput (ω : Type)
  | packet (now : Instant) (packet : Bytes)
  | op (op : L2capOp ω)

inductive L2capAction (ω : Type)
  | reassembled (connectionHandle : UInt16) (rest : Bytes)
  | signal (now : Instant) (connectionHandle : UInt16) (command : SignalingCommand)
  | reply (packets : List Bytes)
  | data (now : Instant) (connectionHandle : UInt16) (frame : BasicFrame)
  | op (op : L2capOp ω)

def packetOf (result : Except String Bytes) : List Bytes := result.toOption.toList

namespace L2capState

def perform (s : L2capState ω) : L2capOp ω → L2capState ω × List Bytes
  | .registerPsm psm handler => (s.registerPsm psm handler, [])
  | .recapture captured => ({ s with captured }, [])
  | .attachClientDlci localCid serverChannel =>
    (s.rfcommAttachClientDlci localCid serverChannel).map id fun result => packetOf (result.map Prod.snd)
  | .takeClientEvents localCid => ((s.takeRfcommClientEvents localCid).1, [])
  | .takeClientEventsForDlci localCid dlci => ((s.takeRfcommClientEventsForDlci localCid dlci).1, [])
  | .sendUihOnClientDlci localCid dlci payload =>
    (s.rfcommSendUihOnClientDlci localCid dlci payload).map id packetOf
  | .discClientDlci localCid dlci => (s.rfcommDiscClientDlci localCid dlci).map id packetOf
  | .forceDiscDlci localCid dlci => (s.rfcommForceDiscDlci localCid dlci).map id packetOf
  | .removeConnection connectionHandle => (s.removeConnection connectionHandle, [])
  | .takeHfpEvents => (s.takeHfpEvents.1, [])
  | .tickHfpStalls now timeout => (s.tickHfpStalls now timeout, [])
  | .tickL2capStalls now timeout => s.tickL2capStalls now timeout
  | .callControl now command => s.buildHfpCallControlPackets now command
  | .openOutbound now connectionHandle psm upperHandler =>
    (s.openOutboundChannelWithHandler now connectionHandle psm upperHandler).map id fun opened => [opened.2]
  | .startHfpClient now localCid serverChannel wbsSupported callWaiting =>
    (s.startHfpClient now localCid serverChannel wbsSupported callWaiting).map id packetOf
  | .disconnect localCid => (s.disconnectChannel localCid).map id Option.toList

def step : Machine (L2capState ω) (L2capInput ω) (List Bytes)
  | s, .packet now packet => (s.handleAclPacket now packet).map id (·.toOption.getD [])
  | s, .op op => s.perform op

def act : Machine (L2capState ω) (L2capAction ω) (List Bytes)
  | s, .reassembled connectionHandle rest =>
    ({ s with aclReassembly := s.aclReassembly.insert connectionHandle rest }, [])
  | s, .signal now connectionHandle command =>
    (s.handleSignalingCommand now connectionHandle command).map id (List.map (buildOutboundAcl connectionHandle))
  | s, .reply packets => (s, packets)
  | s, .data now connectionHandle frame =>
    (s.handleChannelPayload now connectionHandle frame).map id (·.toOption.getD [])
  | s, .op op => s.perform op

end L2capState

def headerAction (now : Instant) (connectionHandle : UInt16) (header : SignalingHeader) : L2capAction ω :=
  match parseSignalingCommand header with
  | .ok command => .signal now connectionHandle command
  | .error _ => .reply ((L2capState.rejectMalformed header).map (buildOutboundAcl connectionHandle))

def signalingActions (now : Instant) (connectionHandle : UInt16) : ℕ → Bytes → List (L2capAction ω)
  | 0, _ => []
  | fuel + 1, rest =>
    if rest.isEmpty then []
    else
      match parseSignalingHeader rest with
      | .error _ => [.reply ((L2capState.rejectTruncated rest).map (buildOutboundAcl connectionHandle))]
      | .ok header =>
        headerAction now connectionHandle header ::
          signalingActions now connectionHandle fuel (rest.drop (4 + header.payload.length))

def frameActions (now : Instant) (connectionHandle : UInt16) (frameBytes : Bytes) : List (L2capAction ω) :=
  match parseBasicFrame frameBytes with
  | .error _ => []
  | .ok frame =>
    if frame.cid = cidSignaling then signalingActions now connectionHandle frame.payload.length frame.payload
    else [.data now connectionHandle frame]

namespace L2capState

/-- The bytes a packet completes: those kept from the packets before it and its own. -/
def reassembly (s : L2capState ω) (acl : AclFrame) : Bytes :=
  if acl.packetBoundaryFlag = aclPacketBoundaryContinuingFragment then
    s.aclReassembly.getD acl.connectionHandle [] ++ acl.payload
  else acl.payload

def packetActions (s : L2capState ω) (now : Instant) (packet : Bytes) : List (L2capAction ω) :=
  match parseAclFrame packet with
  | .error _ => []
  | .ok acl => .reassembled acl.connectionHandle (drainFrames (s.reassembly acl)).2 ::
      (drainFrames (s.reassembly acl)).1.flatMap (frameActions now acl.connectionHandle)

def inputActions (s : L2capState ω) : L2capInput ω → List (L2capAction ω)
  | .packet now packet => s.packetActions now packet
  | .op op => [.op op]

def trace : L2capState ω → List (L2capInput ω) → List (L2capAction ω)
  | _, [] => []
  | s, input :: inputs => s.inputActions input ++ trace (step s input).1 inputs

variable (s : L2capState ω) (now : Instant) (connectionHandle : UInt16)

lemma act_headerAction (header : SignalingHeader) :
    act s (headerAction now connectionHandle header) =
      (s.handleSignalingHeader now connectionHandle header).map id (List.map (buildOutboundAcl connectionHandle)) := by
  simp only [headerAction, handleSignalingHeader]
  cases parseSignalingCommand header <;> rfl

lemma collect_signalingActions (fuel : ℕ) (rest : Bytes) :
    act.collect s (signalingActions now connectionHandle fuel rest) =
      (handleSignalingFrom now connectionHandle fuel s rest).map id (List.map (buildOutboundAcl connectionHandle)) := by
  induction fuel generalizing s rest with
  | zero => rfl
  | succ fuel ih =>
      simp only [signalingActions, handleSignalingFrom]
      split_ifs
      · rfl
      · cases parseSignalingHeader rest with
        | error message => simp [Machine.collect_cons, act]
        | ok header =>
            dsimp only
            rw [Machine.collect_cons, act_headerAction, Prod.map_fst, Prod.map_snd, id_eq, ih]
            simp [Prod.map_map, Function.comp_def]

lemma collect_frameActions (frameBytes : Bytes) :
    act.collect s (frameActions now connectionHandle frameBytes) = handleFrame now connectionHandle s frameBytes := by
  simp only [frameActions, handleFrame]
  cases parseBasicFrame frameBytes with
  | error message => rfl
  | ok frame =>
      dsimp only
      split_ifs
      · exact collect_signalingActions s now connectionHandle _ _
      · simp only [Machine.collect_cons, Machine.collect_nil, act, Prod.map_apply, id_eq, List.append_nil]

lemma collect_packetActions (packet : Bytes) :
    act.collect s (s.packetActions now packet) = step s (.packet now packet) := by
  simp only [packetActions, step, handleAclPacket]
  cases parseAclFrame packet with
  | error message => rfl
  | ok acl =>
      dsimp only
      rw [Machine.collect_cons, Machine.collect_flatMap act (handleFrame now acl.connectionHandle)]
      · rw [Prod.map_map]
        rfl
      · exact fun s frame => collect_frameActions s now acl.connectionHandle frame

lemma collect_inputActions (input : L2capInput ω) : act.collect s (s.inputActions input) = step s input := by
  cases input with
  | packet now packet => exact collect_packetActions s now packet
  | op op => simp [inputActions, Machine.collect_cons, act, step]

lemma collect_trace (inputs : List (L2capInput ω)) : act.collect s (s.trace inputs) = step.collect s inputs := by
  induction inputs generalizing s with
  | nil => rfl
  | cons input inputs ih =>
      rw [trace, Machine.collect_append, collect_inputActions, ih]
      rfl

lemma final_trace (inputs : List (L2capInput ω)) : act.final s (s.trace inputs) = step.final s inputs := by
  have hcollect := congrArg Prod.fst (collect_trace s inputs)
  simpa only [Machine.collect_eq] using hcollect

lemma final_packetActions (packet : Bytes) :
    act.final s (s.packetActions now packet) = (s.handleAclPacket now packet).1 := by
  have hcollect := congrArg Prod.fst (collect_packetActions s now packet)
  rw [Machine.collect_eq] at hcollect
  exact hcollect

end L2capState

section Links

namespace L2capState

def link (s : L2capState ω) (cid : UInt16) : Option ChannelLink := s.channels[cid]?.map (·.toChannelLink)

def LocalCids (s : L2capState ω) : Prop :=
  ∀ (cid : UInt16) (channel : L2capChannel ω), s.channels[cid]? = some channel → channel.localCid = cid

variable {s : L2capState ω}

lemma link_eq_some_iff {cid : UInt16} {l : ChannelLink} :
    s.link cid = some l ↔ ∃ channel, s.channels[cid]? = some channel ∧ channel.toChannelLink = l :=
  Option.map_eq_some_iff

lemma link_setChannel (cid cid' : UInt16) (channel : L2capChannel ω) :
    (s.setChannel cid channel).link cid' = if cid = cid' then some channel.toChannelLink else s.link cid' := by
  simp only [link, setChannel, Std.ExtTreeMap.getElem?_insert, Std.LawfulEqCmp.compare_eq_iff_eq]
  split_ifs <;> rfl

lemma link_setChannel_upper {cid : UInt16} {channel : L2capChannel ω} (hchannel : s.channels[cid]? = some channel)
    (channel' : L2capChannel ω) (hlink : channel'.toChannelLink = channel.toChannelLink) (cid' : UInt16) :
    (s.setChannel cid channel').link cid' = s.link cid' := by
  rw [link_setChannel]
  split_ifs with hcid
  · subst hcid
    rw [hlink, link, hchannel]
    rfl
  · rfl

lemma link_removeChannel (cid cid' : UInt16) :
    (s.removeChannel cid).link cid' = if cid = cid' then none else s.link cid' := by
  simp only [link, removeChannel, Std.ExtTreeMap.getElem?_erase, Std.LawfulEqCmp.compare_eq_iff_eq]
  split_ifs <;> rfl

lemma findChannel_eq_some {p : L2capChannel ω → Bool} {cid : UInt16} {channel : L2capChannel ω}
    (h : s.findChannel p = some (cid, channel)) : s.channels[cid]? = some channel ∧ p channel = true := by
  rw [findChannel] at h
  have hmem := List.mem_of_find?_eq_some h
  have hp := List.find?_some h
  exact ⟨Std.ExtTreeMap.mem_toList_iff_getElem?_eq_some.mp hmem, hp⟩

lemma findChannel_eq_none {p : L2capChannel ω → Bool} (h : s.findChannel p = none) {cid : UInt16}
    {channel : L2capChannel ω} (hchannel : s.channels[cid]? = some channel) : p channel = false := by
  have hmem := Std.ExtTreeMap.mem_toList_iff_getElem?_eq_some.mpr hchannel
  simpa using List.find?_eq_none.mp h _ hmem

end L2capState

/-- All that an action which sends `out` can do to the link at `cid`. -/
inductive LinkStep : L2capAction ω → List Bytes → UInt16 → Option ChannelLink → Option ChannelLink → Prop
  | same (a out cid l) : LinkStep a out cid l l
  | gone (a out cid l) : LinkStep a out cid l none
  | accepted {out cid} (now connectionHandle identifier psm sourceCid id l) (hcid : firstDynamicCid ≤ cid)
      (hout : buildOutboundAcl connectionHandle (buildConfigureRequest id sourceCid 0 []) ∈ out) :
      LinkStep (.signal now connectionHandle (.connectionRequest identifier psm sourceCid)) out cid l
        (some { connectionHandle, psm, localCid := cid, remoteCid := sourceCid, localConfigIdentifier := some id,
                localConfigSentAt := some now })
  | opened {out cid} (now connectionHandle psm upperHandler id l) (hcid : firstDynamicCid ≤ cid) :
      LinkStep (.op (.openOutbound now connectionHandle psm upperHandler)) out cid l
        (some { connectionHandle, psm, localCid := cid, remoteCid := 0, localConfigSentAt := some now,
                outboundConnectIdentifier := some id })
  | remoteConfigured (out cid now connectionHandle identifier flags options l) :
      LinkStep (.signal now connectionHandle (.configureRequest identifier cid flags options)) out cid (some l)
        (some { l with remoteConfigured := true, state := if l.localConfigured then .open else l.state })
  | localConfigured (out cid now connectionHandle identifier flags options) {l : ChannelLink}
      (hidentifier : l.localConfigIdentifier = some identifier) :
      LinkStep (.signal now connectionHandle (.configureResponse identifier cid flags configResultSuccess options)) out
        cid (some l)
        (some { l with
          localConfigIdentifier := none, localConfigSentAt := none, localConfigured := true
          state := if l.remoteConfigured then .open else l.state })
  | connected {out} (cid now connectionHandle identifier destinationCid status id) {l : ChannelLink}
      (hidentifier : l.outboundConnectIdentifier = some identifier)
      (hout : buildOutboundAcl connectionHandle (buildConfigureRequest id destinationCid 0 []) ∈ out) :
      LinkStep (.signal now connectionHandle
          (.connectionResponse identifier destinationCid cid connectionResultSuccess status)) out cid (some l)
        (some { l with
          remoteCid := destinationCid, outboundConnectIdentifier := none, localConfigIdentifier := some id
          localConfigSentAt := some now })

lemma LinkStep.of_eq {a : L2capAction ω} {out : List Bytes} {cid : UInt16} {l l' : Option ChannelLink} (h : l' = l) :
    LinkStep a out cid l l' := h ▸ .same a out cid l

namespace L2capState

variable {s : L2capState ω}

section Local

def SameLinks (s t : L2capState ω) : Prop := ∀ cid, t.link cid = s.link cid

def FewerLinks (s t : L2capState ω) : Prop := ∀ cid, t.link cid = s.link cid ∨ t.link cid = none

lemma SameLinks.refl (s : L2capState ω) : SameLinks s s := fun _ => rfl

lemma SameLinks.trans {t u : L2capState ω} (h : SameLinks s t) (h' : SameLinks t u) : SameLinks s u :=
  fun cid => (h' cid).trans (h cid)

lemma FewerLinks.trans {t u : L2capState ω} (h : FewerLinks s t) (h' : FewerLinks t u) : FewerLinks s u := by
  intro cid
  obtain hsame | hgone := h' cid
  · rw [hsame]
    exact h cid
  · exact .inr hgone

lemma sameLinks_onMux {α : Type} {cid : UInt16} {channel : L2capChannel ω} (hchannel : s.channels[cid]? = some channel)
    (server : RfcommState → RfcommState × Except String α)
    (client : HfpClientState → HfpClientState × Except String α) :
      SameLinks s (s.onMux cid channel server client).1 := by
  simp only [onMux]
  split
  · exact link_setChannel_upper hchannel _ rfl
  · exact link_setChannel_upper hchannel _ rfl
  · exact .refl s

lemma sameLinks_rfcommFrame (cid : UInt16) (server : RfcommState → RfcommState × Except String Bytes)
    (client : HfpClientState → HfpClientState × Except String Bytes) :
    SameLinks s (s.rfcommFrame cid server client).1 := by
  simp only [rfcommFrame]
  split
  · exact .refl s
  · exact sameLinks_onMux ‹_› server client

lemma sameLinks_map (f : L2capChannel ω → L2capChannel ω) (hf : ∀ channel,
    (f channel).toChannelLink = channel.toChannelLink)
    (orphans : List HfpEvent) :
    SameLinks s { s with orphanHfpEvents := orphans, channels := s.channels.map fun _ channel => f channel } := by
  intro cid
  simp only [link, Std.ExtTreeMap.getElem?_map, Option.map_map]
  cases s.channels[cid]? with
  | none => rfl
  | some channel => exact congrArg some (hf channel)

lemma getElem?_onMux_of_ne {α : Type} {cid cid' : UInt16} (hne : cid ≠ cid') (channel : L2capChannel ω)
    (server : RfcommState → RfcommState × Except String α)
    (client : HfpClientState → HfpClientState × Except String α) :
    (s.onMux cid channel server client).1.channels[cid']? = s.channels[cid']? := by
  simp only [onMux]
  split <;> simp [setChannel, Std.ExtTreeMap.getElem?_insert, hne]

lemma sameLinks_callControlOn (now : Instant) (command : HfpAtCommand) {entries : List (UInt16 × L2capChannel ω)}
    (hentries : ∀ entry ∈ entries, s.channels[entry.1]? = some entry.2)
    (hkeys : entries.Pairwise fun entry entry' => entry.1 ≠ entry'.1) :
    SameLinks s (callControlOn now command s entries).1 := by
  induction entries generalizing s with
  | nil => exact .refl s
  | cons entry entries ih =>
      obtain ⟨cid, channel⟩ := entry
      obtain ⟨hfirst, hlater⟩ := List.forall_mem_cons.mp hentries
      obtain ⟨hne, hkeys⟩ := List.pairwise_cons.mp hkeys
      simp only [callControlOn]
      split_ifs with hskip
      · exact ih hlater hkeys
      · have hmux := sameLinks_onMux hfirst (fun r => (r.buildCallControlCommand now command).map id .ok)
          (fun c => (c.buildCallControlCommand now command).map id .ok)
        have hother : ∀ entry ∈ entries,
            (s.onMux cid channel (fun r => (r.buildCallControlCommand now command).map id .ok)
            (fun c => (c.buildCallControlCommand now command).map id .ok)).1.channels[entry.1]? = some entry.2 := by
          intro entry hentry
          rw [getElem?_onMux_of_ne (hne entry hentry)]
          exact hlater entry hentry
        split
        case h_1 t frame hcalled =>
          rw [hcalled] at hmux
          exact hmux
        case h_2 t result _ hcalled =>
          rw [hcalled] at hmux hother
          exact hmux.trans (ih hother hkeys)

lemma fewerLinks_tearDown (timeout : Duration) (cid : UInt16) : FewerLinks s (tearDown timeout s cid).1 := by
  intro cid'
  simp only [tearDown]
  split
  · exact .inl rfl
  · have hremoved := link_removeChannel (s := s) cid cid'
    split_ifs at hremoved with hcid
    · exact .inr hremoved
    · exact .inl hremoved

lemma fewerLinks_tearDowns (timeout : Duration) (cids : List UInt16) :
    FewerLinks s (Machine.collect (tearDown timeout) s cids).1 := by
  induction cids generalizing s with
  | nil => exact fun _ => .inl rfl
  | cons cid cids ih => exact (fewerLinks_tearDown timeout cid).trans ih

lemma fewerLinks_removeConnection (connectionHandle : UInt16) : FewerLinks s (s.removeConnection connectionHandle) := by
  intro cid
  simp only [link, removeConnection, Std.ExtTreeMap.getElem?_filter']
  cases s.channels[cid]? with
  | none => exact .inl rfl
  | some channel =>
      by_cases hhandle : channel.connectionHandle = connectionHandle
      · exact .inr (by simp [hhandle])
      · exact .inl (by simp [hhandle])

lemma fewerLinks_disconnectChannel (cid : UInt16) : FewerLinks s (s.disconnectChannel cid).1 := by
  intro cid'
  simp only [disconnectChannel]
  split
  · exact .inl rfl
  · have hremoved := link_removeChannel (s := s) cid cid'
    split_ifs at hremoved with hcid
    · exact .inr hremoved
    · exact .inl hremoved

end Local

lemma channels_findLocalCid (remoteCid : UInt16) (steps : ℕ) (s : L2capState ω) :
    (findLocalCid remoteCid steps s).1.channels = s.channels := by
  induction steps generalizing s with
  | zero => rfl
  | succ steps ih =>
      simp only [findLocalCid]
      split_ifs
      · rfl
      · exact ih s.skipCid

lemma dynamic_findLocalCid (remoteCid : UInt16) (steps : ℕ) (s : L2capState ω) :
    firstDynamicCid ≤ (findLocalCid remoteCid steps s).2 := by
  induction steps generalizing s with
  | zero => exact UInt16.le_refl firstDynamicCid
  | succ steps ih =>
      simp only [findLocalCid]
      split_ifs with hfree
      · exact hfree.1
      · exact ih s.skipCid

lemma link_allocated (remoteCid cid : UInt16) (channel : L2capChannel ω) (cid' : UInt16) :
    ((s.allocateLocalCid remoteCid).1.allocateLocalSignalingId.1.setChannel cid channel).link cid' =
      if cid = cid' then some channel.toChannelLink else s.link cid' := by
  have hchannels := channels_findLocalCid remoteCid (0xffff - firstDynamicCid.toNat + 1) s
  rw [link_setChannel]
  simp only [link, allocateLocalSignalingId, allocateLocalCid, hchannels]

lemma linkStep_of_fewer {a : L2capAction ω} {out : List Bytes} {t : L2capState ω} (h : FewerLinks s t) (cid : UInt16) :
    LinkStep a out cid (s.link cid) (t.link cid) := by
  obtain hsame | hgone := h cid
  · exact .of_eq hsame
  · rw [hgone]
    exact .gone a out cid _

lemma linkStep_connectionRequest (now : Instant) (connectionHandle : UInt16) (identifier : UInt8)
    (psm sourceCid cid : UInt16) :
    LinkStep (.signal now connectionHandle (.connectionRequest identifier psm sourceCid) : L2capAction ω)
      (act s (.signal now connectionHandle (.connectionRequest identifier psm sourceCid))).2 cid (s.link cid)
      ((act s (.signal now connectionHandle (.connectionRequest identifier psm sourceCid))).1.link cid) := by
  by_cases hpsm : psm ∈ s.psmHandlers
  · simp only [act, handleSignalingCommand, handleConnectionRequest, if_neg (not_not.mpr hpsm), Prod.map_fst,
      Prod.map_snd, id_eq, link_allocated]
    split_ifs with hcid
    · subst hcid
      exact .accepted now connectionHandle identifier psm sourceCid _ _ (dynamic_findLocalCid _ _ s) (by simp)
    · exact .same _ _ _ _
  · simp only [act, handleSignalingCommand, handleConnectionRequest, if_pos hpsm, Prod.map_fst, id_eq]
    exact .same _ _ _ _

lemma linkStep_openOutbound (now : Instant) (connectionHandle psm : UInt16) (upperHandler : Option (PsmHandler ω))
    (out : List Bytes) (cid : UInt16) :
    LinkStep (.op (.openOutbound now connectionHandle psm upperHandler)) out cid (s.link cid)
      ((s.openOutboundChannelWithHandler now connectionHandle psm upperHandler).1.link cid) := by
  simp only [openOutboundChannelWithHandler, link_allocated]
  split_ifs with hcid
  · subst hcid
    exact .opened now connectionHandle psm upperHandler _ _ (dynamic_findLocalCid _ _ s)
  · exact .same _ _ _ _

lemma linkStep_configureRequest (now : Instant) (connectionHandle : UInt16) (identifier : UInt8)
    (destinationCid flags : UInt16) (options : Bytes) (out : List Bytes) (cid : UInt16) :
    LinkStep (.signal now connectionHandle
      (.configureRequest identifier destinationCid flags options) : L2capAction ω) out
      cid (s.link cid) ((s.handleConfigureRequest identifier destinationCid flags).1.link cid) := by
  simp only [handleConfigureRequest]
  split
  · exact .same _ _ _ _
  case h_2 channel hchannel =>
    by_cases hcid : destinationCid = cid
    · subst hcid
      rw [link_setChannel, if_pos rfl, link_eq_some_iff.mpr ⟨channel, hchannel, rfl⟩]
      exact .remoteConfigured out _ now connectionHandle identifier flags options channel.toChannelLink
    · rw [link_setChannel, if_neg hcid]
      exact .same _ _ _ _

lemma linkStep_configureResponse (hcids : s.LocalCids) (now : Instant) (connectionHandle : UInt16) (identifier : UInt8)
    (sourceCid flags result : UInt16) (options : Bytes) (out : List Bytes) (cid : UInt16) :
    LinkStep (.signal now connectionHandle
      (.configureResponse identifier sourceCid flags result options) : L2capAction ω)
      out cid (s.link cid) ((s.handleConfigureResponse identifier sourceCid result).link cid) := by
  simp only [handleConfigureResponse]
  split
  · exact .same _ _ _ _
  case h_2 found channel hfound =>
    obtain ⟨hchannel, hmatches⟩ := findChannel_eq_some hfound
    simp only [Bool.and_eq_true, beq_iff_eq] at hmatches
    obtain rfl : found = sourceCid := (hcids found channel hchannel).symm.trans hmatches.1
    by_cases hresult : result ≠ configResultSuccess
    · rw [if_pos hresult]
      exact .same _ _ _ _
    · rw [if_neg hresult]
      obtain rfl : result = configResultSuccess := not_not.mp hresult
      by_cases hcid : found = cid
      · subst hcid
        rw [link_setChannel, if_pos rfl, link_eq_some_iff.mpr ⟨channel, hchannel, rfl⟩]
        exact .localConfigured out _ now connectionHandle identifier flags options hmatches.2
      · rw [link_setChannel, if_neg hcid]
        exact .same _ _ _ _

lemma linkStep_connectionResponse (hcids : s.LocalCids) (now : Instant) (connectionHandle : UInt16) (identifier : UInt8)
    (destinationCid sourceCid result status cid : UInt16) :
    LinkStep (.signal now connectionHandle
        (.connectionResponse identifier destinationCid sourceCid result status) : L2capAction ω)
      ((s.handleConnectionResponse now identifier destinationCid sourceCid result).2.map
        (buildOutboundAcl connectionHandle)) cid (s.link cid)
      ((s.handleConnectionResponse now identifier destinationCid sourceCid result).1.link cid) := by
  simp only [handleConnectionResponse]
  split
  · exact .same _ _ _ _
  case h_2 found channel hfound =>
    obtain ⟨hchannel, hmatches⟩ := findChannel_eq_some hfound
    simp only [Bool.and_eq_true, beq_iff_eq] at hmatches
    obtain rfl : channel.localCid = found := hcids found channel hchannel
    obtain rfl : channel.localCid = sourceCid := hmatches.1
    split_ifs with hpending hsuccess
    · exact .same _ _ _ _
    · subst hsuccess
      simp only [link, setChannel, allocateLocalSignalingId, Std.ExtTreeMap.getElem?_modify,
        Std.LawfulEqCmp.compare_eq_iff_eq, Std.ExtTreeMap.getElem?_insert]
      by_cases hcid : channel.localCid = cid
      · subst hcid
        simp only [if_true, Option.map_some, hchannel]
        exact .connected _ now connectionHandle identifier destinationCid status _ hmatches.2
          (List.mem_map.mpr ⟨_, List.mem_singleton.mpr rfl, rfl⟩)
      · simp only [if_neg hcid]
        exact .same _ _ _ _
    · have hremoved := link_removeChannel (s := s) channel.localCid cid
      split_ifs at hremoved with hcid
      · exact hremoved ▸ .gone _ _ _ _
      · exact .of_eq hremoved

lemma linkStep_op (op : L2capOp ω) (cid : UInt16) :
    LinkStep (.op op) (act s (.op op)).2 cid (s.link cid) ((act s (.op op)).1.link cid) := by
  cases op with
  | registerPsm psm handler | recapture captured => exact .same _ _ _ _
  | attachClientDlci localCid serverChannel =>
      refine .of_eq ?_
      simp only [act, perform, rfcommAttachClientDlci]
      cases hchannel : s.channels[localCid]? with
      | none => rfl
      | some channel =>
          dsimp only
          split_ifs
          · rfl
          · exact sameLinks_onMux hchannel _ _ cid
  | takeClientEvents localCid =>
      refine .of_eq ?_
      simp only [act, perform, takeRfcommClientEvents]
      cases hchannel : s.channels[localCid]? with
      | none => rfl
      | some channel =>
          cases hmux : channel.rfcommState with
          | none => simp only [hmux]
          | some rfcommState =>
              simp only [hmux]
              exact link_setChannel_upper hchannel _ (by rfl) cid
  | takeClientEventsForDlci localCid dlci =>
      refine .of_eq ?_
      simp only [act, perform, takeRfcommClientEventsForDlci]
      cases hchannel : s.channels[localCid]? with
      | none => rfl
      | some channel =>
          simp only [Prod.map_fst, id_eq]
          exact sameLinks_onMux hchannel _ _ cid
  | sendUihOnClientDlci localCid dlci payload | discClientDlci localCid dlci | forceDiscDlci localCid dlci =>
      exact .of_eq (sameLinks_rfcommFrame localCid _ _ cid)
  | removeConnection connectionHandle => exact linkStep_of_fewer (fewerLinks_removeConnection connectionHandle) cid
  | takeHfpEvents => exact .of_eq (sameLinks_map (fun channel => channel.takeHfpEvents.1) (fun _ => rfl) _ cid)
  | tickHfpStalls now timeout =>
      exact .of_eq (sameLinks_map (fun channel => channel.tickHfpStall now timeout)
        (fun _ => rfl) s.orphanHfpEvents cid)
  | tickL2capStalls now timeout => exact linkStep_of_fewer (fewerLinks_tearDowns timeout _) cid
  | callControl now command =>
      refine .of_eq (sameLinks_callControlOn now command ?_ ?_ cid)
      · intro entry hentry
        exact Std.ExtTreeMap.mem_toList_iff_getElem?_eq_some.mp hentry
      · simpa using Std.ExtTreeMap.distinct_keys_toList (t := s.channels)
  | openOutbound now connectionHandle psm upperHandler =>
      exact linkStep_openOutbound now connectionHandle psm upperHandler _ cid
  | startHfpClient now localCid serverChannel wbsSupported callWaiting =>
      refine .of_eq ?_
      simp only [act, perform, startHfpClient]
      cases hchannel : s.channels[localCid]? with
      | none => rfl
      | some channel =>
          dsimp only
          split_ifs
          · rfl
          · rfl
          · rcases (HfpClientState.new serverChannel wbsSupported callWaiting).kickoff now with ⟨client, message | sabm⟩
            · rfl
            · exact link_setChannel_upper hchannel _ (by rfl) cid
  | disconnect localCid => exact linkStep_of_fewer (fewerLinks_disconnectChannel localCid) cid

lemma link_handleChannelPayload (now : Instant) (connectionHandle : UInt16) (frame : BasicFrame) (cid : UInt16) :
    (s.handleChannelPayload now connectionHandle frame).1.link cid = s.link cid := by
  simp only [handleChannelPayload]
  cases hchannel : s.channels[frame.cid]? with
  | none => rfl
  | some channel =>
      dsimp only
      split_ifs
      · rfl
      · split
        · rfl
        · exact link_setChannel_upper hchannel _ (by rfl) cid

theorem linkStep (hcids : s.LocalCids) (a : L2capAction ω) (cid : UInt16) :
    LinkStep a (act s a).2 cid (s.link cid) ((act s a).1.link cid) := by
  cases a with
  | reassembled connectionHandle rest => exact .same _ _ _ _
  | reply packets => exact .same _ _ _ _
  | data now connectionHandle frame => exact .of_eq (link_handleChannelPayload now connectionHandle frame cid)
  | op op => exact linkStep_op op cid
  | signal now connectionHandle command =>
      cases command with
      | connectionRequest identifier psm sourceCid =>
          exact linkStep_connectionRequest now connectionHandle identifier psm sourceCid cid
      | connectionResponse identifier destinationCid sourceCid result status =>
          exact linkStep_connectionResponse hcids now connectionHandle identifier destinationCid sourceCid result status
            cid
      | configureRequest identifier destinationCid flags options =>
          exact linkStep_configureRequest now connectionHandle identifier destinationCid flags options _ cid
      | configureResponse identifier sourceCid flags result options =>
          exact linkStep_configureResponse hcids now connectionHandle identifier sourceCid flags result options _ cid
      | disconnectionRequest identifier destinationCid sourceCid =>
          refine linkStep_of_fewer (fun cid => ?_) cid
          have hremoved := link_removeChannel (s := s) destinationCid cid
          split_ifs at hremoved with hcid
          · exact .inr hremoved
          · exact .inl hremoved
      | _ => exact .same _ _ _ _

end L2capState

end Links

end Aokie.Radio.L2cap
