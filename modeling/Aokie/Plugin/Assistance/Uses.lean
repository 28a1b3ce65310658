import Aokie.Plugin.Assistance.Broker

/-! What anyone may do at the assistance mailbox. -/

namespace Aokie.Plugin.Assistance

open Aokie.Lib

/-- One operation at the mailbox, with its arguments and the clock readings it makes. -/
inductive BrokerOp
  | request (fence : AssistanceCallFence) (question : String) (context : Option String) (ttlSeconds : ℕ)
      (clock : Option ℕ)
  | requestTransferTo (fence : AssistanceCallFence) (context : Option String) (ttlSeconds : ℕ)
      (targets : Option (List String)) (clock : Option ℕ)
  | accept (frame : PluginAssistanceAnswerFrame) (clock : Option ℕ)
  | beginVoiceConsult (previous currentFence : AssistanceCallFence) (clock : Option ℕ)
  | acceptVoice (requestId : String) (fence : AssistanceCallFence) (deviceId answer : String) (clock : Option ℕ)
  | acceptTransfer (requestId : String) (fence : AssistanceCallFence) (deviceId : String)
      (setupClock clock : Option ℕ)
  | releaseTransferAcceptance (requestId : String) (fence : AssistanceCallFence) (deviceId : String)
      (clock : Option ℕ)
  | transferTaken (requestId : String) (fence : AssistanceCallFence) (deviceId : String) (clock : Option ℕ)
  | transferUnavailable (requestId : String) (offeredFence currentFence : AssistanceCallFence)
      (deviceId : Option String)
  | takeResolution (requestId : String) (clock : Option ℕ)
  | withdrawIfUnaccepted (requestId : String)
  | discard (requestId : String)

namespace AssistanceBroker

variable (uuid : ℕ → String)

def perform (broker : AssistanceBroker) : BrokerOp → AssistanceBroker
  | .request fence question context ttlSeconds clock => (broker.request uuid fence question context ttlSeconds clock).1
  | .requestTransferTo fence context ttlSeconds targets clock =>
      (broker.requestTransferTo uuid fence context ttlSeconds targets clock).1
  | .accept frame clock => (broker.accept frame clock).1
  | .beginVoiceConsult previous currentFence clock => (broker.beginVoiceConsult previous currentFence clock).1
  | .acceptVoice requestId fence deviceId answer clock =>
      (broker.acceptVoice uuid requestId fence deviceId answer clock).1
  | .acceptTransfer requestId fence deviceId setupClock clock =>
      (broker.acceptTransfer requestId fence deviceId setupClock clock).1
  | .releaseTransferAcceptance requestId fence deviceId clock =>
      (broker.releaseTransferAcceptance requestId fence deviceId clock).1
  | .transferTaken requestId fence deviceId clock => (broker.transferTaken requestId fence deviceId clock).1
  | .transferUnavailable requestId offeredFence currentFence deviceId =>
      (broker.transferUnavailable requestId offeredFence currentFence deviceId).1
  | .takeResolution requestId clock => (broker.takeResolution requestId clock).1
  | .withdrawIfUnaccepted requestId => (broker.withdrawIfUnaccepted requestId).1
  | .discard requestId => broker.discard requestId

def performAll (broker : AssistanceBroker) (ops : List BrokerOp) : AssistanceBroker := ops.foldl (perform uuid) broker

/-- What an operation can do: nothing, open a request, resolve the open one, change who has it, or take it away. -/
inductive Turn (uuid : ℕ → String) (broker : AssistanceBroker) : BrokerOp → AssistanceBroker → Prop
  | kept (op : BrokerOp) : Turn uuid broker op broker
  | opened (op : BrokerOp) {pending : PendingAssistance} {now : ℕ} (hfree : broker.inner.any (·.isOpen now) = false)
      (hid : pending.requestId = "assist_" ++ uuid broker.drawn) (hresolution : pending.resolution = none)
      (hholder : pending.acceptedBy = none) (hsetup : pending.acceptedSetupExpiresAt = none) :
      Turn uuid broker op ⟨some pending, broker.drawn + 2⟩
  | answered (op : BrokerOp) {pending : PendingAssistance} {resolution : AssistanceResolution} {drawn : ℕ}
      (hpending : broker.inner = some pending) (hresolution : pending.resolution = none)
      (hholder : pending.acceptedBy = none) (hdrawn : broker.drawn ≤ drawn)
      (hkind : (∃ answer, resolution = .answered answer) ∨ ∃ deviceId id answer,
        resolution = .declined deviceId id answer) :
      Turn uuid broker op ⟨some { pending with resolution := some resolution }, drawn⟩
  | taken {requestId deviceId : String} {fence : AssistanceCallFence} {now : ℕ} {pending : PendingAssistance}
      (hpending : broker.inner = some pending) (hresolution : pending.resolution = none)
      (hid : pending.requestId = requestId) (hholder : pending.acceptedBy = some deviceId)
      (hnow : now < pending.transferActionDeadline) :
      Turn uuid broker (.transferTaken requestId fence deviceId (some now))
        (broker.withPending { pending with resolution := some (.transferTaken deviceId) })
  | unavailable {requestId : String} {offeredFence currentFence : AssistanceCallFence} {deviceId : Option String}
      {pending : PendingAssistance} (hpending : broker.inner = some pending) (hresolution : pending.resolution = none)
      (hid : pending.requestId = requestId) (hholder : pending.acceptedBy = none ∨ pending.acceptedBy = deviceId) :
      Turn uuid broker (.transferUnavailable requestId offeredFence currentFence deviceId)
        (broker.withPending { pending with resolution := some (.transferUnavailable currentFence) })
  | accepted {requestId deviceId : String} {fence : AssistanceCallFence} {setupNow now : ℕ}
      {pending : PendingAssistance}
      (hpending : broker.inner = some pending) (hresolution : pending.resolution = none)
      (hid : pending.requestId = requestId) (hholder : pending.acceptedBy = none)
      (hnow : now < pending.transferActionDeadline) :
      Turn uuid broker (.acceptTransfer requestId fence deviceId (some setupNow) (some now))
        (broker.withPending { pending with
          acceptedBy := some deviceId, acceptedSetupExpiresAt := some (saturatingAdd setupNow transferSetupSeconds) })
  | released {requestId deviceId : String} {fence : AssistanceCallFence} {now : ℕ} {pending : PendingAssistance}
      (hpending : broker.inner = some pending) (hresolution : pending.resolution = none)
      (hid : pending.requestId = requestId) (hholder : pending.acceptedBy = some deviceId) :
      Turn uuid broker (.releaseTransferAcceptance requestId fence deviceId (some now))
        (broker.withPending { pending with acceptedBy := none, acceptedSetupExpiresAt := none })
  | advanced {previous currentFence : AssistanceCallFence} {clock : Option ℕ} {pending : PendingAssistance}
      (hpending : broker.inner = some pending) (hresolution : pending.resolution = none)
      (hadvice : pending.intent = .advice) :
      Turn uuid broker (.beginVoiceConsult previous currentFence clock)
        (broker.withPending { pending with fence := currentFence })
  | collected {requestId : String} {now : ℕ} {pending : PendingAssistance} (hpending : broker.inner = some pending)
      (hid : pending.requestId = requestId) (hover : pending.isOpen now = false) :
      Turn uuid broker (.takeResolution requestId (some now)) { broker with inner := none }
  | withdrawn {requestId : String} {pending : PendingAssistance} (hpending : broker.inner = some pending)
      (hid : pending.requestId = requestId) (hresolution : pending.resolution = none)
      (hholder : pending.acceptedBy = none) :
      Turn uuid broker (.withdrawIfUnaccepted requestId) { broker with inner := none }
  | discarded {requestId : String} {pending : PendingAssistance} (hpending : broker.inner = some pending)
      (hid : pending.requestId = requestId) :
      Turn uuid broker (.discard requestId) { broker with inner := none }

variable {uuid} {broker : AssistanceBroker}

section Checks

lemma transferInHand_ok {requestId : String} {fence : AssistanceCallFence} {clock : Option ℕ}
    {pending : PendingAssistance} (h : broker.transferInHand requestId fence clock = .ok pending) :
    ∃ now, clock = some now ∧ broker.inner = some pending ∧ pending.requestId = requestId ∧
      now < pending.transferActionDeadline := by
  simp only [transferInHand, unixNow, bind_eq_ok_iff, okOr_eq_ok_iff, ensure_eq_ok_iff, pure_eq_ok_iff] at h
  obtain ⟨now, hnow, found, hfound, _, hfence, rfl⟩ := h
  exact ⟨now, hnow, hfound, hfence.1, hfence.2.2.2⟩

lemma resolution_checked {found pending : PendingAssistance} {fence : AssistanceCallFence} {deviceId : Option String}
    (h : (match found.resolution with
      | some resolution => do
          ensure (resolution = .transferUnavailable fence) "transfer request is already resolved"
          pure found
      | none => do
          ensure (found.acceptedBy = none ∨ found.acceptedBy =
            deviceId) "transfer failure does not match its accepting device"
          pure found) = Except.ok pending) :
    found = pending ∧ (found.resolution = none → found.acceptedBy = none ∨ found.acceptedBy = deviceId) := by
  cases hresolution : found.resolution with
  | some resolution =>
      simp only [hresolution, bind_eq_ok_iff, pure_eq_ok_iff] at h
      obtain ⟨_, _, hsame⟩ := h
      exact ⟨hsame, fun hnone => by simp at hnone⟩
  | none =>
      simp only [hresolution, bind_eq_ok_iff, ensure_eq_ok_iff, pure_eq_ok_iff] at h
      obtain ⟨_, hholder, hsame⟩ := h
      exact ⟨hsame, fun _ => hholder⟩

lemma unavailableChecks_ok {requestId : String} {offeredFence currentFence : AssistanceCallFence}
    {deviceId : Option String} {pending : PendingAssistance}
    (h : broker.unavailableChecks requestId offeredFence currentFence deviceId = .ok pending) :
    broker.inner = some pending ∧ pending.requestId = requestId ∧
      (pending.resolution = none → pending.acceptedBy = none ∨ pending.acceptedBy = deviceId) := by
  cases deviceId with
  | none =>
      simp only [unavailableChecks, bind_eq_ok_iff, okOr_eq_ok_iff, ensure_eq_ok_iff] at h
      obtain ⟨_, _, _, _, found, hpending, _, hid, h⟩ := h
      obtain ⟨rfl, hholder⟩ := resolution_checked h
      exact ⟨hpending, hid.1, hholder⟩
  | some deviceId =>
      simp only [unavailableChecks, bind_eq_ok_iff, okOr_eq_ok_iff, ensure_eq_ok_iff] at h
      obtain ⟨_, _, _, _, _, _, found, hpending, _, hid, h⟩ := h
      obtain ⟨rfl, hholder⟩ := resolution_checked h
      exact ⟨hpending, hid.1, hholder⟩

lemma requestWithIntent_turn (op : BrokerOp) (fence : AssistanceCallFence) (intent : AssistanceIntent)
    (question : String)
    (context : Option String) (ttlSeconds : ℕ) (targets : Option (List String)) (clock : Option ℕ) :
    Turn uuid broker op (broker.requestWithIntent uuid fence intent question context ttlSeconds targets clock).1 := by
  rw [requestWithIntent]
  cases hchecks : broker.requestChecks fence intent question context ttlSeconds clock with
  | error e => exact .kept op
  | ok now =>
      have hfree : broker.inner.any (·.isOpen now) = false := by
        cases context with
        | none =>
            simp only [requestChecks, unixNow, bind_eq_ok_iff, ensure_eq_ok_iff, pure_eq_ok_iff] at hchecks
            obtain ⟨_, _, _, _, _, _, _, _, now', _, _, hfree, rfl⟩ := hchecks
            exact hfree
        | some context =>
            simp only [requestChecks, unixNow, bind_eq_ok_iff, ensure_eq_ok_iff, pure_eq_ok_iff] at hchecks
            obtain ⟨_, _, _, _, _, _, _, _, _, _, now', _, _, hfree, rfl⟩ := hchecks
            exact hfree
      exact .opened op hfree rfl rfl rfl rfl

end Checks

theorem perform_turn (broker : AssistanceBroker) (op : BrokerOp) : Turn uuid broker op (broker.perform uuid op) := by
  cases op with
  | request fence question context ttlSeconds clock => exact requestWithIntent_turn _ _ _ _ _ _ _ _
  | requestTransferTo fence context ttlSeconds targets clock =>
      cases targets with
      | none => exact requestWithIntent_turn _ _ _ _ _ _ _ _
      | some named =>
          rw [perform, requestTransferTo]
          cases hnamed : normalizeTargets named with
          | error e => exact .kept _
          | ok clean => exact requestWithIntent_turn _ _ _ _ _ _ _ _
  | accept frame clock =>
      rw [perform, accept]
      cases hchecks : broker.acceptChecks frame clock with
      | error e => exact .kept _
      | ok found =>
          obtain ⟨pending, fresh⟩ := found
          cases fresh with
          | false => exact .kept _
          | true =>
              simp only [acceptChecks, unixNow, bind_eq_ok_iff, okOr_eq_ok_iff, ensure_eq_ok_iff] at hchecks
              obtain ⟨_, _, now, _, found, hfound, _, _, _, _, _, hholder, _, _, hresolved⟩ := hchecks
              cases hresolution : found.resolution with
              | some resolution =>
                  simp only [hresolution, bind_eq_ok_iff, pure_eq_ok_iff, Prod.mk.injEq] at hresolved
                  obtain ⟨_, _, _, hfresh⟩ := hresolved
                  cases hfresh
              | none =>
                  simp only [hresolution, bind_eq_ok_iff, pure_eq_ok_iff, Prod.mk.injEq, and_true] at hresolved
                  obtain ⟨_, _, rfl⟩ := hresolved
                  refine .answered _ hfound hresolution hholder le_rfl ?_
                  rw [frameResolution]
                  cases frame.responseAction with
                  | answer => exact Or.inl ⟨_, rfl⟩
                  | decline => exact Or.inr ⟨_, _, _, rfl⟩
  | beginVoiceConsult previous currentFence clock =>
      rw [perform, beginVoiceConsult]
      cases hchecks : broker.beginVoiceConsultChecks previous currentFence clock with
      | error e => exact .kept _
      | ok pending =>
          simp only [beginVoiceConsultChecks, unixNow, bind_eq_ok_iff, okOr_eq_ok_iff, ensure_eq_ok_iff,
            pure_eq_ok_iff] at hchecks
          obtain ⟨_, _, now, _, found, hfound, _, hstate, _, _, rfl⟩ := hchecks
          exact .advanced hfound hstate.2.1 hstate.1
  | acceptVoice requestId fence deviceId answer clock =>
      rw [perform, acceptVoice]
      cases hchecks : broker.acceptVoiceChecks requestId fence deviceId answer clock with
      | error e => exact .kept _
      | ok pending =>
          simp only [acceptVoiceChecks, unixNow, bind_eq_ok_iff, okOr_eq_ok_iff, ensure_eq_ok_iff,
            pure_eq_ok_iff] at hchecks
          obtain ⟨_, _, now, _, found, hfound, _, hstate, _, _, rfl⟩ := hchecks
          exact .answered _ hfound hstate.2.2.2.2.1 hstate.2.2.2.2.2 (Nat.le_succ _) (Or.inl ⟨_, rfl⟩)
  | acceptTransfer requestId fence deviceId setupClock clock =>
      rw [perform, acceptTransfer]
      cases hchecks : broker.acceptTransferChecks requestId fence deviceId setupClock clock with
      | error e => exact .kept _
      | ok found =>
          obtain ⟨pending, setupExpiresAt⟩ := found
          simp only [acceptTransferChecks, unixNow, bind_eq_ok_iff, okOr_eq_ok_iff, ensure_eq_ok_iff, pure_eq_ok_iff,
            Prod.mk.injEq] at hchecks
          obtain ⟨_, _, setupNow, rfl, found, hfound, _, hresolution, _, hholder, rfl, rfl⟩ := hchecks
          obtain ⟨now, rfl, hpending, hid, hnow⟩ := transferInHand_ok hfound
          dsimp only
          by_cases hheld : found.acceptedBy.isSome = true
          · rw [if_pos hheld]
            exact .kept _
          · rw [if_neg hheld]
            exact .accepted hpending hresolution hid (Option.not_isSome_iff_eq_none.mp hheld) hnow
  | releaseTransferAcceptance requestId fence deviceId clock =>
      rw [perform, releaseTransferAcceptance]
      cases hchecks : broker.releaseChecks requestId fence deviceId clock with
      | error e => exact .kept _
      | ok pending =>
          simp only [releaseChecks, bind_eq_ok_iff, ensure_eq_ok_iff, pure_eq_ok_iff] at hchecks
          obtain ⟨_, _, found, hfound, _, hresolution, _, hholder, rfl⟩ := hchecks
          obtain ⟨now, rfl, hpending, hid, -⟩ := transferInHand_ok hfound
          exact .released hpending hresolution hid hholder
  | transferTaken requestId fence deviceId clock =>
      rw [perform, transferTaken]
      cases hchecks : broker.takenChecks requestId fence deviceId clock with
      | error e => exact .kept _
      | ok pending =>
          simp only [takenChecks, bind_eq_ok_iff] at hchecks
          obtain ⟨_, _, found, hfound, hchecks⟩ := hchecks
          obtain ⟨now, rfl, hpending, hid, hnow⟩ := transferInHand_ok hfound
          cases hresolution : found.resolution with
          | some resolution =>
              simp only [hresolution, bind_eq_ok_iff, pure_eq_ok_iff] at hchecks
              obtain ⟨_, _, rfl⟩ := hchecks
              simp only [hresolution, Option.isSome_some, if_true]
              exact .kept _
          | none =>
              simp only [hresolution, bind_eq_ok_iff, ensure_eq_ok_iff, pure_eq_ok_iff] at hchecks
              obtain ⟨_, hholder, rfl⟩ := hchecks
              simp only [hresolution, Option.isSome_none, Bool.false_eq_true, if_false]
              exact .taken hpending hresolution hid hholder hnow
  | transferUnavailable requestId offeredFence currentFence deviceId =>
      rw [perform, transferUnavailable]
      cases hchecks : broker.unavailableChecks requestId offeredFence currentFence deviceId with
      | error e => exact .kept _
      | ok pending =>
          obtain ⟨hpending, hid, hholder⟩ := unavailableChecks_ok hchecks
          dsimp only
          by_cases hresolution : pending.resolution.isSome = true
          · rw [if_pos hresolution]
            exact .kept _
          · rw [if_neg hresolution]
            have hnone := Option.not_isSome_iff_eq_none.mp hresolution
            exact .unavailable hpending hnone hid (hholder hnone)
  | takeResolution requestId clock =>
      cases clock with
      | none => exact .kept _
      | some now =>
          cases hpending : broker.inner with
          | none =>
              have hkept : broker.perform uuid (.takeResolution requestId (some now)) = broker := by
                simp [perform, takeResolution, hpending]
              rw [hkept]
              exact .kept _
          | some pending =>
              simp only [perform, takeResolution, hpending]
              split_ifs with hover
              · exact .collected hpending hover.1 hover.2
              · exact .kept _
  | withdrawIfUnaccepted requestId =>
      rw [perform, withdrawIfUnaccepted]
      cases hfound : broker.inner.filter (·.requestId == requestId) with
      | none => exact .kept _
      | some pending =>
          obtain ⟨hpending, hid⟩ := Option.filter_eq_some_iff.mp hfound
          dsimp only
          split_ifs with hheld hresolved
          · exact .kept _
          · exact .kept _
          · exact .withdrawn hpending (beq_iff_eq.mp hid) (Option.not_isSome_iff_eq_none.mp hresolved)
              (Option.not_isSome_iff_eq_none.mp hheld)
  | discard requestId =>
      rw [perform, discard]
      split_ifs with hfound
      · cases hpending : broker.inner with
        | none => simp [hpending] at hfound
        | some pending =>
            refine .discarded hpending ?_
            simpa [hpending] using hfound
      · exact .kept _

lemma Turn.drawn_le {op : BrokerOp} {broker' : AssistanceBroker} (h : Turn uuid broker op broker') :
    broker.drawn ≤ broker'.drawn := by
  cases h with
  | answered op hpending hresolution hholder hdrawn hkind => exact hdrawn
  | opened => exact Nat.le_add_right _ _
  | _ => exact le_rfl

lemma performAll_drawn_le (broker : AssistanceBroker) (ops : List BrokerOp) :
    broker.drawn ≤ (broker.performAll uuid ops).drawn := by
  induction ops generalizing broker with
  | nil => exact le_rfl
  | cons op ops ih => exact (perform_turn broker op).drawn_le.trans (ih _)

end AssistanceBroker

end Aokie.Plugin.Assistance
