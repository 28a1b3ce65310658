import Aokie.Plugin.Relay.Sending
import Aokie.Protocol.ClaimChecks

/-! How a snapshot that is too long for the relay is cut down: it keeps as many of its newest captions as fit. -/

namespace Aokie.Protocol

structure Caption where
  captionId : String
  speaker : String
  text : String
  occurredAt : String
  finalText : Bool
  deriving DecidableEq, Repr

end Aokie.Protocol

namespace Aokie.Plugin.Relay

open Aokie.Lib Aokie.Protocol

def captionJson (caption : Caption) : Json :=
  .object [("captionId", .string caption.captionId), ("speaker", .string caption.speaker),
    ("text", .string caption.text), ("occurredAt", .string caption.occurredAt), ("finalText", .bool caption.finalText)]

/-- The members of the frame and of its snapshot, but for the kind and the captions, in the order of the structs. -/
structure FrameRest where
  head : List (String × Json)
  before : List (String × Json)
  after : List (String × Json)

def frameJson (frame : PluginSnapshotFrame Caption FrameRest) : Json :=
  .object (("kind", .string frame.kind) :: frame.rest.head ++ ("snapshot",
    .object (frame.rest.before ++ ("captions", .array (frame.captions.map captionJson)) :: frame.rest.after)) :: [])

/-- `serde_json::to_string` of the typed frame. -/
def frameText (frame : PluginSnapshotFrame Caption FrameRest) : List Char := (frameJson frame).print

def captionText (caption : Caption) : List Char := (captionJson caption).print

def captionSize (caption : Caption) : ℕ := byteLength (captionText caption) + 1

section Sizes

lemma printFields_room (before after : List (String × Json)) (name : String) (first : Bool) :
    ∃ room, ∀ value : Json,
      byteLength (Json.printFields first (before ++ (name, value) :: after)) = room + byteLength value.print := by
  induction before generalizing first with
  | nil =>
      refine ⟨byteLength (if first then [] else [',']) + byteLength (Json.printString name.toList) +
        byteLength [':'] + byteLength (Json.printFields false after), ?_⟩
      intro value
      rw [List.nil_append, Json.printFields]
      simp only [byteLength_append, byteLength_cons]
      simp only [byteLength, List.map_nil, List.sum_nil]
      omega
  | cons field before ih =>
      obtain ⟨other, text⟩ := field
      obtain ⟨room, hroom⟩ := ih false
      refine ⟨byteLength (if first then [] else [',']) + byteLength (Json.printString other.toList) +
        byteLength [':'] + byteLength text.print + room, ?_⟩
      intro value
      rw [List.cons_append, Json.printFields]
      simp only [byteLength_append, byteLength_cons, hroom]
      simp only [byteLength, List.map_nil, List.sum_nil]
      omega

lemma object_room (before after : List (String × Json)) (name : String) :
    ∃ room, ∀ value : Json,
      byteLength (Json.object (before ++ (name, value) :: after)).print = room + byteLength value.print := by
  obtain ⟨room, hroom⟩ := printFields_room before after name true
  refine ⟨byteLength ['{'] + room, ?_⟩
  intro value
  rw [Json.print, byteLength_cons, hroom]
  simp only [byteLength, List.map_cons, List.map_nil, List.sum_cons, List.sum_nil]
  omega

lemma byteLength_laterItems (captions : List Caption) :
    byteLength (Json.printItems false (captions.map captionJson)) = (captions.map captionSize).sum + 1 := by
  have hcomma : byteLength [','] = 1 := by decide
  induction captions with
  | nil => decide
  | cons caption captions ih =>
      simp only [List.map_cons, Json.printItems, byteLength_append, ih, List.sum_cons, captionSize, captionText]
      rw [if_neg (by decide), hcomma]
      omega

lemma byteLength_items {captions : List Caption} (h : captions ≠ []) :
    byteLength (Json.printItems true (captions.map captionJson)) = (captions.map captionSize).sum := by
  cases captions with
  | nil => exact absurd rfl h
  | cons caption captions =>
      simp only [List.map_cons, Json.printItems, byteLength_append, byteLength_laterItems, List.sum_cons, captionSize,
        captionText]
      rw [if_pos trivial]
      simp only [byteLength, List.map_nil, List.sum_nil]
      omega

lemma frame_room (frame : PluginSnapshotFrame Caption FrameRest) :
    ∃ room, ∀ captions ≠ [],
      byteLength (frameText { frame with captions := captions }) = room + (captions.map captionSize).sum := by
  obtain ⟨inner, hinner⟩ := object_room frame.rest.before frame.rest.after "captions"
  obtain ⟨outer, houter⟩ := object_room (("kind", .string frame.kind) :: frame.rest.head) [] "snapshot"
  refine ⟨outer + inner + byteLength ['['], ?_⟩
  intro captions h
  have harray : byteLength (Json.array (captions.map captionJson)).print =
      byteLength ['['] + (captions.map captionSize).sum := by
    rw [Json.print, byteLength_cons, byteLength_items h]
    simp only [byteLength, List.map_cons, List.map_nil, List.sum_cons, List.sum_nil]
    omega
  rw [frameText, frameJson, houter, hinner, harray]
  omega

end Sizes

section Shedding

lemma estimateShed_le (excess : ℕ) (captions : List Caption) :
    estimateShed (fun caption => some (captionText caption)) excess captions ≤ captions.length := by
  induction captions generalizing excess with
  | nil => cases excess <;> simp [estimateShed]
  | cons caption captions ih =>
      cases excess with
      | zero => simp [estimateShed]
      | succ excess =>
          simp only [estimateShed, List.length_cons]
          exact Nat.succ_le_succ (ih _)

lemma sum_take_lt_excess {excess k : ℕ} {captions : List Caption}
    (h : k < estimateShed (fun caption => some (captionText caption)) excess captions) :
    ((captions.take k).map captionSize).sum < excess := by
  induction captions generalizing excess k with
  | nil => cases excess <;> simp [estimateShed] at h
  | cons caption captions ih =>
      cases excess with
      | zero => simp [estimateShed] at h
      | succ excess =>
          cases k with
          | zero => simp
          | succ k =>
              simp only [estimateShed, Nat.add_lt_add_iff_right] at h
              have htail := ih h
              simp only [Option.elim_some] at htail
              simp only [List.take_succ_cons, List.map_cons, List.sum_cons, captionSize]
              omega

variable {frame : PluginSnapshotFrame Caption FrameRest} {validate : PluginSnapshotFrame Caption FrameRest → Bool}
  {budget : ℕ}

lemma shedCaptions_spec (captions : List Caption) :
    ∃ k ≤ captions.length,
      shedCaptions (fun frame => some (frameText frame)) validate budget frame captions =
        (if validate { frame with captions := captions.drop k } then
          some (frameText { frame with captions := captions.drop k }) else none) ∧
      (byteLength (frameText { frame with captions := captions.drop k }) ≤ budget ∨ captions.drop k = []) ∧
      ∀ j < k, budget < byteLength (frameText { frame with captions := captions.drop j }) := by
  induction captions with
  | nil => exact ⟨0, Nat.le_refl 0, by simp [shedCaptions], Or.inr rfl, by simp⟩
  | cons caption captions ih =>
      by_cases hfits : byteLength (frameText { frame with captions := caption :: captions }) ≤ budget
      · refine ⟨0, Nat.zero_le _, ?_, Or.inl hfits, by simp⟩
        simp [shedCaptions, hfits]
      · obtain ⟨k, hk, hresult, hends, hbefore⟩ := ih
        refine ⟨k + 1, Nat.succ_le_succ hk, ?_, hends, ?_⟩
        · rw [List.drop_succ_cons, ← hresult]
          simp [shedCaptions, hfits]
        · intro j hj
          cases j with
          | zero => exact Nat.lt_of_not_le hfits
          | succ j => exact hbefore j (Nat.lt_of_succ_lt_succ hj)

lemma estimate_is_needed {j : ℕ} (hj : j < estimateShed (fun caption => some (captionText caption))
      (byteLength (frameText frame) - budget) frame.captions) :
    budget < byteLength (frameText { frame with captions := frame.captions.drop j }) := by
  obtain ⟨room, hroom⟩ := frame_room frame
  have hlength := Nat.lt_of_lt_of_le hj (estimateShed_le _ frame.captions)
  have htaken := sum_take_lt_excess hj
  have hall : frame.captions ≠ [] := by
    intro hempty
    simp [hempty] at hlength
  have hrest : frame.captions.drop j ≠ [] := by
    rw [Ne, List.drop_eq_nil_iff]
    omega
  have hsum : ((frame.captions.take j).map captionSize).sum + ((frame.captions.drop j).map captionSize).sum =
      (frame.captions.map captionSize).sum := by
    rw [← List.sum_append, ← List.map_append, List.take_append_drop]
  have hwhole := hroom _ hall
  rw [hroom _ hrest]
  change byteLength (frameText frame) = _ at hwhole
  omega

/-- The captions that stay are the longest suffix that fits, or none where no suffix does. -/
theorem fit_keeps_the_most {fromStr : List Char → Option (PluginSnapshotFrame Caption FrameRest)}
    (hread : fromStr (frameText frame) = some frame) (hlong : budget < byteLength (frameText frame))
    (hcaptions : frame.captions ≠ []) :
    ∃ kept, kept <:+ frame.captions ∧
      fitRelaySnapshot fromStr (fun caption => some (captionText caption))
        (fun frame => some (frameText frame)) validate
          (frameText frame) budget =
        (if frame.kind = "plugin_snapshot" ∧ validate { frame with captions := kept } = true then
          some (frameText { frame with captions := kept }) else none) ∧
      (byteLength (frameText { frame with captions := kept }) ≤ budget ∨ kept = []) ∧
      ∀ longer, longer <:+ frame.captions → kept.length < longer.length →
        budget < byteLength (frameText { frame with captions := longer }) := by
  obtain ⟨shed, hshed⟩ : ∃ shed, shed = estimateShed (fun caption => some (captionText caption))
    (byteLength (frameText frame) - budget) frame.captions := ⟨_, rfl⟩
  obtain ⟨k, hk, hresult, hends, hbefore⟩ :=
    @shedCaptions_spec frame validate budget (frame.captions.drop shed)
  simp only [List.drop_drop] at hresult hends hbefore
  refine ⟨frame.captions.drop (shed + k), List.drop_suffix _ _, ?_, hends, ?_⟩
  · rw [fitRelaySnapshot, if_neg (Nat.not_le_of_lt hlong), hread]
    by_cases hkind : frame.kind = "plugin_snapshot"
    · simp [hkind, hcaptions, ← hshed, hresult]
    · simp [hkind]
  · intro longer hsuffix hlonger
    rw [List.suffix_iff_eq_drop] at hsuffix
    generalize frame.captions.length - longer.length = j at hsuffix
    subst hsuffix
    rw [List.length_drop, List.length_drop] at hlonger
    by_cases hearly : j < shed
    · exact estimate_is_needed (hshed ▸ hearly)
    · have hlate := hbefore (j - shed) (by omega)
      rwa [Nat.add_sub_cancel' (Nat.le_of_not_lt hearly)] at hlate

end Shedding

def samplePair : PluginSnapshotFrame Caption FrameRest where
  kind := "plugin_snapshot"
  captions :=
    [⟨"caption_1", "caller", "hello", "2026-07-16T00:00:00Z", true⟩,
      ⟨"caption_2", "aokie", "hi", "2026-07-16T00:00:01Z", true⟩]
  rest :=
    { head := [("schemaVersion", .number (.ofNat 2)), ("appId", .string "app"), ("eventId", .string "event_1")]
      before :=
        [("callId", .string "call_1"), ("callEpoch", .number (.ofNat 1)), ("ownerEpoch", .number (.ofNat 0)),
          ("switchboardRevision", .number (.ofNat 0)), ("remoteRevision", .number (.ofNat 0)),
          ("telephonyState", .string "active"), ("serviceMode", .string "aokie_active"),
          ("mediaState", .string "ready"),
          ("remoteCapabilities", .object [("softwareHold", .bool true), ("carrierHoldEvidence", .string "unknown"),
            ("secondaryCallObservation", .string "unknown"), ("voiceConsult", .bool true), ("takeover", .bool true)]),
          ("secondaryCallPolicy", .string "normal"),
          ("remoteConsent", .object [("policyId", .string "remote_policy"), ("policyVersion", .number (.ofNat 3)),
            ("enabled", .bool true), ("acknowledged", .bool true), ("captionsEnabled", .bool true),
            ("assistanceEnabled", .bool true), ("monitorEnabled", .bool true), ("consultEnabled", .bool true),
            ("takeoverEnabled", .bool true)])]
      after := [("occurredAt", .string "2026-07-16T00:00:02Z")] }

def readPair (text : List Char) : Option (PluginSnapshotFrame Caption FrameRest) :=
  if text = frameText samplePair then some samplePair else none

set_option maxRecDepth 40000 in
theorem fit_keeps_the_most_of_two :
    ∃ kept, kept <:+ samplePair.captions ∧
      fitRelaySnapshot readPair (fun caption => some (captionText caption)) (fun frame => some (frameText frame))
          (fun _ => true) (frameText samplePair) 850 =
        (if samplePair.kind = "plugin_snapshot" ∧ true = true then
          some (frameText { samplePair with captions := kept }) else none) ∧
      (byteLength (frameText { samplePair with captions := kept }) ≤ 850 ∨ kept = []) ∧
      ∀ longer, longer <:+ samplePair.captions → kept.length < longer.length →
        850 < byteLength (frameText { samplePair with captions := longer }) :=
  fit_keeps_the_most (if_pos rfl) (by decide) (by decide)

end Aokie.Plugin.Relay
