import Aokie.Radio.L2cap.Configuration

/-! The watchdog of the configuration handshake: which channels its clock still covers. -/

namespace Aokie.Radio.L2cap

open Aokie.Lib

variable {ω : Type}

/-- The peer's answer to our configure request comes after its own configure request. -/
def ConfiguresInOrder (s : L2capState ω) : L2capAction ω → Prop
  | .signal _ _ (.configureResponse identifier sourceCid _ result _) => result = configResultSuccess →
      ∀ l ∈ s.link sourceCid, l.localConfigIdentifier = some identifier → l.remoteConfigured = true
  | _ => True

def ChannelLink.Armed (l : ChannelLink) : Prop := l.state = .configuring → l.localConfigSentAt.isSome = true

namespace L2capState

variable {s : L2capState ω}

instance (s : L2capState ω) : ∀ a, Decidable (ConfiguresInOrder s a)
  | .signal _ _ (.configureResponse _ _ _ _ _) =>
    inferInstanceAs (Decidable (_ → ∀ l ∈ s.link _, _ → l.remoteConfigured = true))
  | .signal _ _ (.connectionRequest _ _ _) | .signal _ _ (.connectionResponse _ _ _ _ _)
  | .signal _ _ (.configureRequest _ _ _ _) | .signal _ _ (.disconnectionRequest _ _ _)
  | .signal _ _ (.disconnectionResponse _ _ _) | .signal _ _ (.informationRequest _ _)
  | .signal _ _ (.informationResponse _ _ _ _) | .signal _ _ (.unknown _ _ _) | .reassembled _ _ | .reply _
  | .data _ _ _ | .op _ => .isTrue trivial

lemma armed_act (hcids : s.LocalCids) {a : L2capAction ω} (horder : ConfiguresInOrder s a)
    (h : ∀ cid, ∀ l ∈ s.link cid, l.Armed) : ∀ cid, ∀ l ∈ (act s a).1.link cid, l.Armed := by
  intro cid l' hl'
  have hstep := linkStep hcids a cid
  have hbefore := h cid
  rw [show (act s a).1.link cid = some l' from hl'] at hstep
  generalize hl : s.link cid = l at hstep hbefore
  cases hstep with
  | same => exact hbefore l' rfl
  | accepted now connectionHandle identifier psm sourceCid id l hcid hout => exact fun _ => rfl
  | opened now connectionHandle psm upperHandler id l hcid => exact fun _ => rfl
  | remoteConfigured out cid now connectionHandle identifier flags options l =>
      intro hconfiguring
      refine hbefore l rfl ?_
      cases hlocal : l.localConfigured with
      | true => simp [hlocal] at hconfiguring
      | false => simpa [hlocal] using hconfiguring
  | @localConfigured out cid now connectionHandle identifier flags options l hidentifier =>
      intro hconfiguring
      have hremote : l.remoteConfigured = true := horder rfl l hl hidentifier
      simp [hremote] at hconfiguring
  | connected cid now connectionHandle identifier destinationCid status id hidentifier hout => exact fun _ => rfl

lemma getElem?_tearDowns_of_none (timeout : Duration) (cids : List UInt16) {cid : UInt16}
    (h : s.channels[cid]? = none) : (Machine.collect (tearDown timeout) s cids).1.channels[cid]? = none := by
  obtain hsame | hgone := fewerLinks_tearDowns (s := s) timeout cids cid
  · simpa [link, h] using hsame
  · simpa [link] using hgone

lemma getElem?_tearDown_self (timeout : Duration) (cid : UInt16) :
    (tearDown timeout s cid).1.channels[cid]? = none := by
  simp only [tearDown]
  split
  · assumption
  · simp [removeChannel, allocateLocalSignalingId]

lemma getElem?_tearDowns_of_mem (timeout : Duration) {cids : List UInt16} {cid : UInt16} (h : cid ∈ cids) :
    (Machine.collect (tearDown timeout) s cids).1.channels[cid]? = none := by
  induction cids generalizing s with
  | nil => exact absurd h List.not_mem_nil
  | cons first cids ih =>
      rw [Machine.collect_cons]
      obtain rfl | hlater := List.mem_cons.mp h
      · exact getElem?_tearDowns_of_none timeout cids (getElem?_tearDown_self timeout cid)
      · exact ih hlater

lemma tickL2capStalls_removes (hcids : s.LocalCids) {cid : UInt16} {channel : L2capChannel ω}
    (hchannel : s.channels[cid]? = some channel) (hconfiguring : channel.state = .configuring) {sentAt : Instant}
    (hsent : channel.localConfigSentAt = some sentAt) {now : Instant} {timeout : Duration}
    (hlate : timeout ≤ saturatingDurationSince now sentAt) :
    (s.tickL2capStalls now timeout).1.channels[cid]? = none := by
  apply getElem?_tearDowns_of_mem
  have hmem := Std.ExtTreeMap.mem_toList_iff_getElem?_eq_some.mpr hchannel
  refine List.mem_map.mpr ⟨(cid, channel), List.mem_filter.mpr ⟨hmem, ?_⟩, hcids cid channel hchannel⟩
  simpa [ChannelLink.stalled, hconfiguring, hsent] using hlate

/-- As long as the peer's answer never overtakes its own request, every channel still in configuration is covered
by the watchdog, which removes it once the timeout has passed. -/
theorem configuring_channels_torn_down (sdp : Bytes → Except String Bytes) (captured : ω) (inputs : List (L2capInput ω))
    (horder : act.Along ConfiguresInOrder (new sdp captured) ((new sdp captured).trace inputs)) (cid : UInt16)
    (channel : L2capChannel ω) (hchannel : (step.final (new sdp captured) inputs).channels[cid]? = some channel)
    (hconfiguring : channel.state = .configuring) :
    ∃ sentAt, channel.localConfigSentAt = some sentAt ∧
      ∀ now timeout, timeout ≤ saturatingDurationSince now sentAt →
        ((step.final (new sdp captured) inputs).tickL2capStalls now timeout).1.channels[cid]? = none := by
  have hinv := Machine.invariant (m := act) (C := ConfiguresInOrder)
    (P := fun s : L2capState ω => s.TableInv ∧ ∀ cid, ∀ l ∈ s.link cid, l.Armed)
    (fun s a horder h => ⟨h.1.act a, armed_act h.1.localCids horder h.2⟩) horder
    ⟨tableInv_new sdp captured, by simp [link, new, registerPsm]⟩
  rw [final_trace] at hinv
  obtain ⟨htable, harmed⟩ := hinv
  have hsome := harmed cid _ (link_eq_some_iff.mpr ⟨channel, hchannel, rfl⟩) hconfiguring
  obtain ⟨sentAt, hsent⟩ := Option.isSome_iff_exists.mp hsome
  exact ⟨sentAt, hsent, fun now timeout hlate =>
    tickL2capStalls_removes htable.localCids hchannel hconfiguring hsent hlate⟩

section Session

def fromPhone (now : Instant) (connectionHandle : UInt16) (signaling : Bytes) : L2capInput Unit :=
  .packet now (buildOutboundAcl connectionHandle signaling)

def fresh : L2capState Unit := new (fun _ => .ok []) ()

/-- The phone opens an RFCOMM channel and falls silent. -/
theorem configuring_channels_torn_down_silent :
    ((step.final fresh [fromPhone 5 0x2a (buildConnectionRequest 1 psmRfcomm 0x40)]).tickL2capStalls
      12 7).1.channels[(0x41 : UInt16)]? = none := by
  have hlink : (step.final fresh [fromPhone 5 0x2a (buildConnectionRequest 1 psmRfcomm 0x40)]).link 0x41 =
      some { connectionHandle := 0x2a, psm := psmRfcomm, localCid := 0x41, remoteCid := 0x40,
             localConfigIdentifier := some 0x80, localConfigSentAt := some 5 } := by decide
  obtain ⟨channel, hchannel, hl⟩ := link_eq_some_iff.mp hlink
  obtain ⟨sentAt, hsent, hremoved⟩ := configuring_channels_torn_down (fun _ => .ok []) ()
    [fromPhone 5 0x2a (buildConnectionRequest 1 psmRfcomm 0x40)] (by decide) 0x41 channel hchannel (by rw [hl])
  obtain rfl : sentAt = 5 := by simpa [hl] using hsent.symm
  exact hremoved 12 7 (by decide)

/-- The phone answers our request before it sends its own: the clock is stopped and the channel is not open. -/
theorem early_answer_stops_the_clock :
    ((step.final fresh [fromPhone 5 0x2a (buildConnectionRequest 1 psmRfcomm 0x40),
      fromPhone 6 0x2a (buildConfigureResponse 0x80 0x41 0 configResultSuccess [])]).link 0x41).any
        (fun l => l.state = .configuring && l.localConfigSentAt.isNone) = true := by
  decide

end Session

end L2capState

end Aokie.Radio.L2cap
