import Aokie.Lib.Account
import Aokie.Plugin.Assistance.Uses

/-! One winner at the mailbox: whatever the devices, the radio and the gateway do there, in whatever order. -/

namespace Aokie.Plugin.Assistance

open Aokie.Lib

namespace AssistanceBroker

variable (uuid : ℕ → String)

/-- The mailbox takes an operation at a time; what it gives out is the result that is collected. -/
def turns : Machine AssistanceBroker BrokerOp (Option AssistanceResolution) := fun broker op =>
  (broker.perform uuid op,
    match op with
    | .takeResolution requestId clock => (broker.takeResolution requestId clock).2
    | _ => none)

def Collects (requestId : String) (broker : AssistanceBroker) (op : BrokerOp) : Prop :=
  ∃ clock resolution, op = .takeResolution requestId clock ∧ (turns uuid broker op).2 = some resolution

/-- How the request in the mailbox may change hands and end. -/
structure Orderly (broker : AssistanceBroker) (op : BrokerOp) : Prop where
  /-- It opens with nobody's name and no resolution. -/
  opened : ∀ q, (broker.perform uuid op).inner = some q → (∀ p, broker.inner = some p → p.requestId ≠ q.requestId) →
    q.acceptedBy = none ∧ q.resolution = none
  /-- It is recorded as taken for the device that has it, and before its setup deadline. -/
  taken : ∀ p q deviceId, broker.inner = some p → (broker.perform uuid op).inner = some q → p.resolution = none →
    q.resolution = some (.transferTaken deviceId) → p.acceptedBy = some deviceId ∧
      ∃ fence now, op = .transferTaken p.requestId fence deviceId (some now) ∧ now < p.transferActionDeadline
  /-- A device gets it before the ring is over, and while nobody has it. -/
  won : ∀ p q deviceId, broker.inner = some p → (broker.perform uuid op).inner = some q → q.requestId = p.requestId →
    p.acceptedBy = none → q.acceptedBy = some deviceId →
      ∃ fence setupNow now, op = .acceptTransfer p.requestId fence deviceId (some setupNow) (some now) ∧
        now < p.expiresAt
  /-- The device that has it loses it by its own release only, and nobody has it then. -/
  lost : ∀ p q deviceId, broker.inner = some p → (broker.perform uuid op).inner = some q → q.requestId = p.requestId →
    p.acceptedBy = some deviceId → q.acceptedBy ≠ some deviceId →
      q.acceptedBy = none ∧ ∃ fence now, op = .releaseTransferAcceptance p.requestId fence deviceId (some now)
  /-- It is collected as expired where nothing was recorded and its time is over. -/
  expired : ∀ requestId clock, op = .takeResolution requestId clock → (turns uuid broker op).2 = some .expired →
    ∃ p now, broker.inner = some p ∧ p.requestId = requestId ∧ clock = some now ∧ p.resolution = none ∧
      p.mailboxWaitDeadline ≤ now

/-- What holds of the mailbox in every state reached. -/
structure Sound (broker : AssistanceBroker) : Prop where
  drawn : ∀ p, broker.inner = some p → ∃ n < broker.drawn, p.requestId = "assist_" ++ uuid n
  setup : ∀ p, broker.inner = some p → p.acceptedBy = none → p.acceptedSetupExpiresAt = none
  recorded : ∀ p, broker.inner = some p → p.resolution ≠ some .expired

variable {uuid} {broker : AssistanceBroker} {op : BrokerOp} {requestId : String} {resolution : AssistanceResolution}

lemma prefixed_injective (huuid : Function.Injective uuid) {m n : ℕ} (h : "assist_" ++ uuid m = "assist_" ++ uuid n) :
    m = n := by
  have hlist := congrArg String.toList h
  rw [String.toList_append, String.toList_append] at hlist
  exact huuid (String.toList_injective (List.append_cancel_left hlist))

lemma sound_new : Sound uuid new where
  drawn := fun _ hp => by cases hp
  setup := fun _ hp => by cases hp
  recorded := fun _ hp => by cases hp

lemma sound_turn {broker' : AssistanceBroker} (hs : Sound uuid broker) (h : Turn uuid broker op broker') :
    Sound uuid broker' := by
  -- the request of a turn is the one before it but for what the turn changes
  have hsame : ∀ {p q : PendingAssistance} {drawn : ℕ}, broker.inner = some p → broker.drawn ≤ drawn →
      q.requestId = p.requestId →
      (q.acceptedBy = none → q.acceptedSetupExpiresAt = none) → q.resolution ≠ some .expired →
        Sound uuid ⟨some q, drawn⟩ := by
    intro p q drawn hp hle hid hsetup hrecorded
    refine ⟨?_, ?_, ?_⟩
    · rintro _ ⟨⟩
      obtain ⟨n, hn, hdrawn⟩ := hs.drawn p hp
      exact ⟨n, hn.trans_le hle, hid.trans hdrawn⟩
    · rintro _ ⟨⟩
      exact hsetup
    · rintro _ ⟨⟩
      exact hrecorded
  have hnone : ∀ drawn, Sound uuid ⟨none, drawn⟩ :=
    fun drawn => ⟨fun _ hp => (by cases hp), fun _ hp => (by cases hp), fun _ hp => (by cases hp)⟩
  cases h with
  | kept => exact hs
  | @opened _ pending now hfree hid hresolution hholder hsetup =>
      refine ⟨?_, ?_, ?_⟩
      · rintro _ ⟨⟩
        exact ⟨broker.drawn, Nat.lt_add_of_pos_right two_pos, hid⟩
      · rintro _ ⟨⟩ -
        exact hsetup
      · rintro _ ⟨⟩
        rw [hresolution]
        simp
  | answered _ hpending hresolution hholder hdrawn hkind =>
      have hsetup := hs.setup _ hpending
      refine hsame hpending hdrawn rfl (fun _ => hsetup hholder) ?_
      rintro ⟨⟩
      rcases hkind with ⟨answer, heq⟩ | ⟨deviceId, id, answer, heq⟩ <;> cases heq
  | taken hpending hresolution hid hholder hnow =>
      have hsetup := hs.setup _ hpending
      refine hsame hpending le_rfl rfl (fun hfree => hsetup hfree) ?_
      simp
  | unavailable hpending hresolution hid hholder =>
      have hsetup := hs.setup _ hpending
      refine hsame hpending le_rfl rfl (fun hfree => hsetup hfree) ?_
      simp
  | accepted hpending hresolution hid hholder hnow =>
      refine hsame hpending le_rfl rfl (fun hfree => by cases hfree) ?_
      rw [hresolution]
      simp
  | released hpending hresolution hid hholder =>
      refine hsame hpending le_rfl rfl (fun _ => rfl) ?_
      rw [hresolution]
      simp
  | advanced hpending hresolution hadvice =>
      have hsetup := hs.setup _ hpending
      refine hsame hpending le_rfl rfl (fun hfree => hsetup hfree) ?_
      rw [hresolution]
      simp
  | collected => exact hnone _
  | withdrawn => exact hnone _
  | discarded => exact hnone _

lemma sound_step (hs : Sound uuid broker) (op : BrokerOp) : Sound uuid (turns uuid broker op).1 :=
  sound_turn hs (perform_turn broker op)

lemma takeResolution_some {clock : Option ℕ} (h : (broker.takeResolution requestId clock).2 = some resolution) :
    ∃ p now, broker.inner = some p ∧ p.requestId = requestId ∧ clock = some now ∧ p.isOpen now = false ∧
      resolution = p.resolution.getD .expired ∧ (broker.takeResolution requestId clock).1 =
        { broker with inner := none } := by
  unfold takeResolution at h ⊢
  split at h
  · rename_i now p hp
    split_ifs at h with hover
    · exact ⟨p, now, hp, hover.1, rfl, hover.2, (Option.some.inj h).symm, by simp only [if_pos hover]⟩
  · cases h

lemma orderly_of_sound (huuid : Function.Injective uuid) (hs : Sound uuid broker) (op : BrokerOp) :
    Orderly uuid broker op := by
  have hturn : Turn uuid broker op (broker.perform uuid op) := perform_turn broker op
  -- a request that was just opened is not the one before it
  have hfresh : ∀ {p q : PendingAssistance}, broker.inner = some p → q.requestId = "assist_" ++ uuid broker.drawn →
      q.requestId ≠ p.requestId := by
    intro p q hp hid hsame
    obtain ⟨n, hn, hdrawn⟩ := hs.drawn p hp
    have := prefixed_injective huuid (hid.symm.trans (hsame.trans hdrawn))
    omega
  generalize hnext : broker.perform uuid op = broker' at hturn
  refine ⟨?_, ?_, ?_, ?_, ?_⟩
  · intro q hq hnew
    rw [hnext] at hq
    cases hturn with
    | kept => exact absurd rfl (hnew q hq)
    | opened _ hfree hid hresolution hholder hsetup =>
        obtain rfl := Option.some.inj hq
        exact ⟨hholder, hresolution⟩
    | answered _ hpending _ _ _ _ | taken hpending _ _ _ _ | unavailable hpending _ _ _ | accepted hpending _ _ _ _
    | released hpending _ _ _ | advanced hpending _ _ =>
        obtain rfl := Option.some.inj hq
        exact (hnew _ hpending rfl).elim
    | collected => cases hq
    | withdrawn => cases hq
    | discarded => cases hq
  · rintro p q deviceId hp hq hnone htaken
    rw [hnext] at hq
    cases hturn with
    | kept =>
        obtain rfl := Option.some.inj (hp.symm.trans hq)
        rw [hnone] at htaken
        cases htaken
    | opened _ hfree hid hresolution hholder hsetup =>
        obtain rfl := Option.some.inj hq
        rw [hresolution] at htaken
        cases htaken
    | answered _ hpending hresolution hholder hdrawn hkind =>
        obtain rfl := Option.some.inj hq
        obtain rfl := Option.some.inj htaken
        rcases hkind with ⟨answer, heq⟩ | ⟨deviceId, id, answer, heq⟩ <;> cases heq
    | taken hpending hresolution hid hholder hnow =>
        obtain rfl := Option.some.inj hq
        obtain rfl := Option.some.inj (hp.symm.trans hpending)
        obtain rfl : _ = deviceId := by simpa using htaken
        exact ⟨hholder, _, _, by rw [hid], hnow⟩
    | unavailable hpending hresolution hid hholder =>
        obtain rfl := Option.some.inj hq
        simp at htaken
    | accepted hpending hresolution hid hholder hnow =>
        obtain rfl := Option.some.inj hq
        rw [hresolution] at htaken
        cases htaken
    | released hpending hresolution hid hholder =>
        obtain rfl := Option.some.inj hq
        rw [hresolution] at htaken
        cases htaken
    | advanced hpending hresolution hadvice =>
        obtain rfl := Option.some.inj hq
        rw [hresolution] at htaken
        cases htaken
    | collected => cases hq
    | withdrawn => cases hq
    | discarded => cases hq
  · rintro p q deviceId hp hq hsame hnobody hwon
    rw [hnext] at hq
    -- no other turn gives the request to anyone
    have hunchanged : q.acceptedBy ≠ p.acceptedBy := by
      rw [hnobody, hwon]
      simp
    cases hturn with
    | kept =>
        obtain rfl := Option.some.inj (hp.symm.trans hq)
        exact absurd rfl hunchanged
    | opened _ hfree hid hresolution hholder hsetup =>
        obtain rfl := Option.some.inj hq
        exact absurd hsame (hfresh hp hid)
    | accepted hpending hresolution hid hholder hnow =>
        obtain rfl := Option.some.inj hq
        obtain rfl := Option.some.inj (hp.symm.trans hpending)
        obtain rfl : _ = deviceId := Option.some.inj hwon
        rw [PendingAssistance.transferActionDeadline, hs.setup p hp hnobody] at hnow
        exact ⟨_, _, _, by rw [hid], hnow⟩
    | released hpending hresolution hid hholder =>
        obtain rfl := Option.some.inj hq
        cases hwon
    | answered _ hpending _ _ _ _ =>
        obtain rfl := Option.some.inj hq
        obtain rfl := Option.some.inj (hp.symm.trans hpending)
        exact absurd rfl hunchanged
    | taken hpending _ _ _ _ =>
        obtain rfl := Option.some.inj hq
        obtain rfl := Option.some.inj (hp.symm.trans hpending)
        exact absurd rfl hunchanged
    | unavailable hpending _ _ _ =>
        obtain rfl := Option.some.inj hq
        obtain rfl := Option.some.inj (hp.symm.trans hpending)
        exact absurd rfl hunchanged
    | advanced hpending _ _ =>
        obtain rfl := Option.some.inj hq
        obtain rfl := Option.some.inj (hp.symm.trans hpending)
        exact absurd rfl hunchanged
    | collected => cases hq
    | withdrawn => cases hq
    | discarded => cases hq
  · rintro p q deviceId hp hq hsame hheld hlost
    rw [hnext] at hq
    have hunchanged : q.acceptedBy ≠ p.acceptedBy := by
      rw [hheld]
      exact hlost
    cases hturn with
    | kept =>
        obtain rfl := Option.some.inj (hp.symm.trans hq)
        exact absurd rfl hunchanged
    | opened _ hfree hid hresolution hholder hsetup =>
        obtain rfl := Option.some.inj hq
        exact absurd hsame (hfresh hp hid)
    | accepted hpending hresolution hid hholder hnow =>
        obtain rfl := Option.some.inj (hp.symm.trans hpending)
        rw [hheld] at hholder
        cases hholder
    | released hpending hresolution hid hholder =>
        obtain rfl := Option.some.inj hq
        obtain rfl := Option.some.inj (hp.symm.trans hpending)
        obtain rfl := Option.some.inj (hholder.symm.trans hheld)
        exact ⟨rfl, _, _, by rw [hid]⟩
    | answered _ hpending _ _ _ _ =>
        obtain rfl := Option.some.inj hq
        obtain rfl := Option.some.inj (hp.symm.trans hpending)
        exact absurd rfl hunchanged
    | taken hpending _ _ _ _ =>
        obtain rfl := Option.some.inj hq
        obtain rfl := Option.some.inj (hp.symm.trans hpending)
        exact absurd rfl hunchanged
    | unavailable hpending _ _ _ =>
        obtain rfl := Option.some.inj hq
        obtain rfl := Option.some.inj (hp.symm.trans hpending)
        exact absurd rfl hunchanged
    | advanced hpending _ _ =>
        obtain rfl := Option.some.inj hq
        obtain rfl := Option.some.inj (hp.symm.trans hpending)
        exact absurd rfl hunchanged
    | collected => cases hq
    | withdrawn => cases hq
    | discarded => cases hq
  · rintro requestId clock rfl hexpired
    obtain ⟨p, now, hp, hid, hclock, hover, hresolution, -⟩ := takeResolution_some hexpired
    have hnone : p.resolution = none := by
      cases hrecorded : p.resolution with
      | none => rfl
      | some resolution =>
          rw [hrecorded] at hresolution
          exact absurd (hrecorded.trans (congrArg some hresolution.symm)) (hs.recorded p hp)
    refine ⟨p, now, hp, hid, hclock, hnone, ?_⟩
    simpa [PendingAssistance.isOpen, hnone] using hover

def Ahead (uuid : ℕ → String) (requestId : String) (broker : AssistanceBroker) : Prop :=
  (∃ p, broker.inner = some p ∧ p.requestId = requestId) ∨ ∃ n, broker.drawn ≤ n ∧ requestId = "assist_" ++ uuid n

lemma ahead_of_turn {broker' : AssistanceBroker} (h : Turn uuid broker op broker')
    (hahead : Ahead uuid requestId broker') :
    Ahead uuid requestId broker := by
  rcases hahead with ⟨q, hq, hid⟩ | ⟨n, hn, hid⟩
  · cases h with
    | kept => exact .inl ⟨q, hq, hid⟩
    | opened _ hfree hopened hresolution hholder hsetup =>
        obtain rfl := Option.some.inj hq
        exact .inr ⟨broker.drawn, le_rfl, hid.symm.trans hopened⟩
    | answered _ hpending _ _ _ _ =>
        obtain rfl := Option.some.inj hq
        exact .inl ⟨_, hpending, hid⟩
    | taken hpending _ _ _ _ =>
        obtain rfl := Option.some.inj hq
        exact .inl ⟨_, hpending, hid⟩
    | unavailable hpending _ _ _ =>
        obtain rfl := Option.some.inj hq
        exact .inl ⟨_, hpending, hid⟩
    | accepted hpending _ _ _ _ =>
        obtain rfl := Option.some.inj hq
        exact .inl ⟨_, hpending, hid⟩
    | released hpending _ _ _ =>
        obtain rfl := Option.some.inj hq
        exact .inl ⟨_, hpending, hid⟩
    | advanced hpending _ _ =>
        obtain rfl := Option.some.inj hq
        exact .inl ⟨_, hpending, hid⟩
    | collected => cases hq
    | withdrawn => cases hq
    | discarded => cases hq
  · exact .inr ⟨n, h.drawn_le.trans hn, hid⟩

lemma collects_once (huuid : Function.Injective uuid) (requestId : String) (ops : List BrokerOp) :
    (turns uuid).count (Collects uuid requestId) new ops ≤ 1 := by
  have huses := Machine.uses_le_grants (m := turns uuid) (P := Sound uuid) (F := Ahead uuid requestId)
    (U := Collects uuid requestId) (G := fun _ _ => False) (fun _ op hs => sound_step hs op) ?_ ?_ sound_new ops
  · rw [Machine.count_eq_zero (Machine.along_of_forall fun _ _ => not_false)] at huses
    split_ifs at huses <;> omega
  · rintro broker op hs ⟨clock, resolution, rfl, hresult⟩
    obtain ⟨p, now, hp, hid, -, -, -, hgone⟩ := takeResolution_some hresult
    refine ⟨.inl ⟨p, hp, hid⟩, ?_⟩
    have hnext : (turns uuid broker (.takeResolution requestId clock)).1 = { broker with inner := none } := hgone
    rw [hnext]
    rintro (⟨q, hq, -⟩ | ⟨n, hn, hdrawn⟩)
    · cases hq
    · obtain ⟨m, hm, hearlier⟩ := hs.drawn p hp
      have := prefixed_injective huuid (hdrawn.symm.trans (hid.symm.trans hearlier))
      dsimp only at hn
      omega
  · intro broker op hs hnot hahead
    exact hnot (ahead_of_turn (perform_turn broker op) hahead)

/-- The request has this resolution while it is in the mailbox, and is not opened again. -/
structure Recorded (uuid : ℕ → String) (requestId : String) (resolution : AssistanceResolution)
    (broker : AssistanceBroker) : Prop where
  kept : ∀ q, broker.inner = some q → q.requestId = requestId → q.resolution = some resolution
  drawn : ∃ n < broker.drawn, requestId = "assist_" ++ uuid n

lemma recorded_turn (huuid : Function.Injective uuid) {broker' : AssistanceBroker}
    (hrecorded : Recorded uuid requestId resolution broker)
    (h : Turn uuid broker op broker') : Recorded uuid requestId resolution broker' := by
  obtain ⟨n, hn, hdrawn⟩ := hrecorded.drawn
  refine ⟨?_, n, hn.trans_le h.drawn_le, hdrawn⟩
  -- a turn that changes the request finds no resolution at it
  have hopen : ∀ {p : PendingAssistance}, broker.inner = some p → p.resolution = none → p.requestId ≠ requestId := by
    intro p hp hnone hid
    rw [hrecorded.kept p hp hid] at hnone
    cases hnone
  intro q hq hid
  cases h with
  | kept => exact hrecorded.kept q hq hid
  | opened _ hfree hopened hresolution hholder hsetup =>
      obtain rfl := Option.some.inj hq
      have := prefixed_injective huuid (hopened.symm.trans (hid.trans hdrawn))
      omega
  | answered _ hpending hnone _ _ _ =>
      obtain rfl := Option.some.inj hq
      have hother := hopen hpending hnone
      exact absurd hid hother
  | taken hpending hnone _ _ _ =>
      obtain rfl := Option.some.inj hq
      have hother := hopen hpending hnone
      exact absurd hid hother
  | unavailable hpending hnone _ _ =>
      obtain rfl := Option.some.inj hq
      have hother := hopen hpending hnone
      exact absurd hid hother
  | accepted hpending hnone _ _ _ =>
      obtain rfl := Option.some.inj hq
      have hother := hopen hpending hnone
      exact absurd hid hother
  | released hpending hnone _ _ =>
      obtain rfl := Option.some.inj hq
      have hother := hopen hpending hnone
      exact absurd hid hother
  | advanced hpending hnone _ =>
      obtain rfl := Option.some.inj hq
      have hother := hopen hpending hnone
      exact absurd hid hother
  | collected => cases hq
  | withdrawn => cases hq
  | discarded => cases hq

/-- In every run at the mailbox: each request changes hands and ends in order; a result is collected for it at most
once; and a resolution that was recorded never changes, and is what is collected. -/
theorem mailbox_first_winner (huuid : Function.Injective uuid) (ops : List BrokerOp) :
    (turns uuid).Along (Orderly uuid) new ops ∧
    (∀ requestId, (turns uuid).count (Collects uuid requestId) new ops ≤ 1) ∧
    ∀ before after p resolution, ops = before ++ after → ((turns uuid).final new before).inner = some p →
      p.resolution = some resolution →
      (∀ q, ((turns uuid).final new ops).inner = some q → q.requestId = p.requestId → q.resolution = some resolution) ∧
      (turns uuid).Along (fun broker op => ∀ clock collected, op = .takeResolution p.requestId clock →
        (turns uuid broker op).2 = some collected → collected = resolution) ((turns uuid).final new before) after := by
  refine ⟨?_, fun requestId => collects_once huuid requestId ops, ?_⟩
  · refine Machine.along_of_invariant (C := fun _ _ => True) (P := Sound uuid) ?_
      (Machine.along_of_forall fun _ _ => trivial) sound_new
    exact fun broker op _ hs => ⟨orderly_of_sound huuid hs op, sound_step hs op⟩
  · rintro before after p resolution rfl hp hresolution
    have hs : Sound uuid ((turns uuid).final new before) :=
        Machine.always (m := turns uuid) (P := Sound uuid) (fun _ op hs => sound_step hs op) sound_new before
    have hrecorded : Recorded uuid p.requestId resolution ((turns uuid).final new before) := by
      refine ⟨?_, hs.drawn p hp⟩
      intro q hq _
      obtain rfl := Option.some.inj (hp.symm.trans hq)
      exact hresolution
    have hstep : ∀ broker op, Recorded uuid p.requestId resolution broker →
        Recorded uuid p.requestId resolution (turns uuid broker op).1 :=
      fun broker op hrecorded => recorded_turn huuid hrecorded (perform_turn broker op)
    refine ⟨?_, ?_⟩
    · rw [Machine.final_append]
      exact (Machine.always hstep hrecorded after).kept
    · refine Machine.along_of_invariant (C := fun _ _ => True) (P := Recorded uuid p.requestId resolution) ?_
        (Machine.along_of_forall fun _ _ => trivial) hrecorded
      intro broker op _ hrecorded
      refine ⟨?_, hstep broker op hrecorded⟩
      rintro clock collected rfl hcollected
      obtain ⟨q, now, hq, hid, -, -, heq, -⟩ := takeResolution_some hcollected
      rw [heq, hrecorded.kept q hq hid]
      rfl

def unaryUuid (n : ℕ) : String := String.ofList (List.replicate n 'a')

lemma unaryUuid_injective : Function.Injective unaryUuid := by
  intro m n h
  have hlength := congrArg (fun text => text.toList.length) h
  simpa [unaryUuid] using hlength

def sampleFence : AssistanceCallFence := ⟨"call-1", 3, 1, 7, 2⟩

theorem transfer_collected_once :
    (turns unaryUuid).count (Collects unaryUuid "assist_") new
      [.requestTransferTo sampleFence none 30 none (some 100),
        .acceptTransfer "assist_" sampleFence "phone-1" (some 101) (some 101),
        .transferTaken "assist_" sampleFence "phone-1" (some 102), .takeResolution "assist_" (some 103),
        .takeResolution "assist_" (some 104)] ≤ 1 :=
  (mailbox_first_winner unaryUuid_injective _).2.1 "assist_"

end AssistanceBroker

end Aokie.Plugin.Assistance
