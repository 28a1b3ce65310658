import Aokie.Plugin.RealtimeAppointment.Request

/-! Where the booking check returns: the slices of a caller's words lie on them unless two of the days run into one. -/

namespace Aokie.Plugin.RealtimeAppointment

open Aokie.Lib Aokie.Protocol

/-! ### Where a slice lies -/

section Slices

variable {text before word after : List Char}

lemma takeBytes_append (word after : List Char) : takeBytes (byteLength word) (word ++ after) = some word := by
  induction word with
  | nil => cases after <;> rfl
  | cons c word ih =>
      have hpos := c.utf8Size_pos
      obtain ⟨n, hn⟩ : ∃ n, byteLength (c :: word) = n + 1 :=
          ⟨byteLength (c :: word) - 1, by rw [byteLength_cons]; omega⟩
      have hrest : n + 1 - c.utf8Size = byteLength word := by rw [← hn, byteLength_cons]; omega
      rw [hn, List.cons_append, takeBytes, if_pos (by rw [byteLength_cons] at hn; omega), hrest, ih]
      rfl

lemma dropBytes_append (word after : List Char) : dropBytes (byteLength word) (word ++ after) = some after := by
  induction word with
  | nil => cases after <;> rfl
  | cons c word ih =>
      have hpos := c.utf8Size_pos
      obtain ⟨n, hn⟩ : ∃ n, byteLength (c :: word) = n + 1 :=
          ⟨byteLength (c :: word) - 1, by rw [byteLength_cons]; omega⟩
      have hrest : n + 1 - c.utf8Size = byteLength word := by rw [← hn, byteLength_cons]; omega
      rw [hn, List.cons_append, dropBytes, if_pos (by rw [byteLength_cons] at hn; omega), hrest, ih]

lemma slice_append (before word after : List Char) :
    slice (before ++ (word ++ after)) (byteLength before) (byteLength before + byteLength word) = some word := by
  rw [slice, if_pos (by omega), dropBytes_append, Option.bind_some, Nat.add_sub_cancel_left, takeBytes_append]

lemma slice_none (h : ended < start) : slice text start ended = none := if_neg (not_le.2 h)

def Unbordered (word : List Char) : Prop :=
  ∀ k < word.length, k ≠ 0 → ¬(word.drop k <+: word ∨ word <+: word.drop k)

instance (word : List Char) : Decidable (Unbordered word) := by unfold Unbordered; infer_instance

lemma overlap {first second x after : List Char} (h : first ++ x = before ++ (second ++ after))
    (hlen : before.length ≤ first.length) :
    first.drop before.length <+: second ∨ second <+: first.drop before.length := by
  have hdrop : first.drop before.length ++ x = second ++ after := by
    have := congrArg (List.drop before.length) h
    rwa [List.drop_append_of_le_length hlen, List.drop_left] at this
  apply List.prefix_or_prefix_of_prefix
  · exact ⟨x, hdrop⟩
  · exact List.prefix_append _ _

lemma mem_matchesFrom (hword : Unbordered word) (hne : word ≠ []) {skip at_ found : ℕ} :
    found ∈ matchesFrom word skip at_ text ↔
      ∃ before after, text = before ++ (word ++ after) ∧ skip ≤ before.length ∧ found = at_ + byteLength before := by
  induction text generalizing skip at_ with
  | nil =>
      refine iff_of_false (by simp [matchesFrom]) ?_
      rintro ⟨before, after, h, -⟩
      simp [hne] at h
  | cons c rest ih =>
      -- the places behind the first character
      have hlater : ∀ k, (∃ before after, rest = before ++ (word ++ after) ∧ k ≤ before.length ∧
            found = at_ + c.utf8Size + byteLength before) ↔
          ∃ before after, c :: rest = before ++ (word ++ after) ∧ (before ≠ [] ∧ k + 1 ≤ before.length) ∧
            found = at_ + byteLength before := by
        intro k
        constructor
        · rintro ⟨before, after, rfl, hk, rfl⟩
          exact ⟨c :: before, after, rfl, ⟨by simp, by simpa using hk⟩, by rw [byteLength_cons]; omega⟩
        · rintro ⟨before, after, htext, ⟨hbefore, hk⟩, rfl⟩
          obtain ⟨d, before, rfl⟩ := List.exists_cons_of_ne_nil hbefore
          obtain ⟨rfl, rfl⟩ := List.cons.inj htext
          exact ⟨before, after, rfl, by simpa using hk, by rw [byteLength_cons]; omega⟩
      cases skip with
      | succ skip =>
          rw [matchesFrom, ih, hlater]
          refine exists₂_congr fun before after => and_congr_right fun _ => and_congr_left fun _ => ?_
          constructor
          · exact And.right
          · intro hk
            exact ⟨by rintro rfl; simp at hk, hk⟩
      | zero =>
          by_cases hhere : word.isPrefixOf (c :: rest)
          · rw [matchesFrom, if_pos hhere, List.mem_cons, ih, hlater]
            obtain ⟨after, hafter⟩ := List.isPrefixOf_iff_prefix.1 hhere
            constructor
            · rintro (rfl | ⟨before, after, htext, -, rfl⟩)
              · exact ⟨[], after, hafter.symm, Nat.zero_le _, rfl⟩
              · exact ⟨before, after, htext, Nat.zero_le _, rfl⟩
            · rintro ⟨before, after', htext, -, rfl⟩
              cases before with
              | nil => exact .inl rfl
              | cons d before =>
                  refine .inr ⟨d :: before, after', htext, ⟨by simp, ?_⟩, rfl⟩
                  by_contra hshort
                  have hpos := List.length_pos_iff.2 hne
                  have hlt : (d :: before).length < word.length := by omega
                  exact hword _ hlt (by simp) (overlap (hafter.trans htext) hlt.le)
          · rw [matchesFrom, if_neg hhere, ih, hlater]
            refine exists₂_congr fun before after => and_congr_right fun htext => and_congr_left fun _ => ?_
            refine iff_of_true ?_ (Nat.zero_le _)
            have hbefore : before ≠ [] := by
              rintro rfl
              exact hhere (List.isPrefixOf_iff_prefix.2 ⟨after, htext.symm⟩)
            exact ⟨hbefore, List.length_pos_iff.2 hbefore⟩

lemma mem_matchIndices (hword : Unbordered word) (hne : word ≠ []) {found : ℕ} :
    found ∈ matchIndices word text ↔ ∃ before after, text = before ++ (word ++ after) ∧ found = byteLength before := by
  simp [matchIndices, mem_matchesFrom hword hne]

lemma matchesFrom_ge {skip at_ found : ℕ} (h : found ∈ matchesFrom word skip at_ text) : at_ ≤ found := by
  induction text generalizing skip at_ with
  | nil => simp [matchesFrom] at h
  | cons c rest ih =>
      cases skip with
      | succ skip => exact le_trans (by omega) (ih h)
      | zero =>
          rw [matchesFrom] at h
          split_ifs at h
          · rcases List.mem_cons.1 h with rfl | h
            · exact le_rfl
            · exact le_trans (by omega) (ih h)
          · exact le_trans (by omega) (ih h)

lemma nodup_matchesFrom (word : List Char) (skip at_ : ℕ) (text : List Char) :
    (matchesFrom word skip at_ text).Nodup := by
  induction text generalizing skip at_ with
  | nil => exact List.nodup_nil
  | cons c rest ih =>
      cases skip with
      | succ skip => exact ih ..
      | zero =>
          rw [matchesFrom]
          split_ifs
          · refine List.nodup_cons.2 ⟨fun h => ?_, ih ..⟩
            have hpos := c.utf8Size_pos
            have := matchesFrom_ge h
            omega
          · exact ih ..

end Slices

/-! ### The days a turn names -/

def RunTogether (speech : List Char) : Prop :=
  ∃ before after, speech = before ++ ("tomorrowednesday".toList ++ after) ∧
    ∀ word ∈ dayNames, ¬word.toList <:+: "ednesday".toList ++ after

/-- No other date is spelt out, and the last two days the turn names share a letter. -/
def TwoDaysInOne (h : Host) (turn : List Char) (date today : NaiveDate) : Prop :=
  (∀ spoken, explicitDate h turn today = some (some spoken) → spoken = date) ∧ RunTogether (normalizedSpeech h turn)

section NamedDays

variable {speech : List Char} {today tomorrow : NaiveDate} {a b chosen previous : NamedDay} {rest : List NamedDay}
  {word : String} {day : NaiveDate ⊕ ℕ}

lemma byteLength_pos {text : List Char} (h : text ≠ []) : 0 < byteLength text := by
  obtain ⟨c, rest, rfl⟩ := List.exists_cons_of_ne_nil h
  have := c.utf8Size_pos
  rw [byteLength_cons]
  omega

lemma prefix_of_byteLength_le {front longer text : List Char} (hfront : front <+: text) (hlonger : longer <+: text)
    (hle : byteLength front ≤ byteLength longer) : front <+: longer := by
  rcases List.prefix_or_prefix_of_prefix hfront hlonger with h | ⟨more, rfl⟩
  · exact h
  · rw [byteLength_append] at hle
    have hmore : more = [] := by
      by_contra hne
      have := byteLength_pos hne
      omega
    rw [hmore, List.append_nil]

lemma dayNames_unbordered : ∀ word ∈ dayNames, Unbordered word.toList := by decide

lemma dayNames_ne_nil : ∀ word ∈ dayNames, word.toList ≠ [] := by decide

lemma dayNames_overlap : ∀ first ∈ dayNames, ∀ second ∈ dayNames, ∀ k < first.toList.length,
    first.toList.drop k <+: second.toList ∨ second.toList <+: first.toList.drop k →
      k = 0 ∧ first = second ∨ first = "tomorrow" ∧ second = "wednesday" ∧ k = 7 := by decide +kernel

lemma mem_dayNames (h : (word, day) ∈ dayTable today tomorrow) : word ∈ dayNames :=
  List.mem_map_of_mem (f := Prod.fst) h

lemma exists_day (h : word ∈ dayNames) (today tomorrow : NaiveDate) : ∃ day, (word, day) ∈ dayTable today tomorrow := by
  have hmap : word ∈ (dayTable today tomorrow).map Prod.fst := h
  obtain ⟨⟨_, day⟩, hmem, rfl⟩ := List.mem_map.1 hmap
  exact ⟨day, hmem⟩

lemma dayTable_nodup (today tomorrow : NaiveDate) : ((dayTable today tomorrow).map Prod.fst).Nodup := by
  have : (dayTable today tomorrow).map Prod.fst = dayNames := rfl
  rw [this]
  decide +kernel

lemma mem_namedDays : a ∈ namedDays speech today tomorrow ↔ ∃ word day before after,
    (word, day) ∈ dayTable today tomorrow ∧ speech = before ++ (word.toList ++ after) ∧
      a = ⟨byteLength before, byteLength before + byteLength word.toList, word, day⟩ := by
  rw [namedDays, List.mem_insertionSort, List.mem_flatMap]
  constructor
  · rintro ⟨⟨word, day⟩, hword, ha⟩
    obtain ⟨at_, hat, rfl⟩ := List.mem_map.1 ha
    have hname := mem_dayNames hword
    obtain ⟨before, after, htext, rfl⟩ :=
        (mem_matchIndices (dayNames_unbordered _ hname) (dayNames_ne_nil _ hname)).1 hat
    exact ⟨word, day, before, after, hword, htext, rfl⟩
  · rintro ⟨word, day, before, after, hword, htext, rfl⟩
    have hname := mem_dayNames hword
    refine ⟨(word, day), hword, List.mem_map.2 ⟨byteLength before, ?_, rfl⟩⟩
    exact (mem_matchIndices (dayNames_unbordered _ hname) (dayNames_ne_nil _ hname)).2 ⟨before, after, htext, rfl⟩

lemma mem_namedDays_of_text (today tomorrow : NaiveDate) {before after : List Char} (hword : word ∈ dayNames)
    (htext : speech = before ++ (word.toList ++ after)) :
    ∃ a ∈ namedDays speech today tomorrow, a.begins = byteLength before ∧
      a.ended = byteLength before + byteLength word.toList := by
  obtain ⟨day, hday⟩ := exists_day hword today tomorrow
  exact ⟨_, mem_namedDays.2 ⟨word, day, before, after, hday, htext, rfl⟩, rfl, rfl⟩

lemma begins_lt_ended (ha : a ∈ namedDays speech today tomorrow) : a.begins < a.ended := by
  obtain ⟨word, day, before, after, hword, -, rfl⟩ := mem_namedDays.1 ha
  have := byteLength_pos (dayNames_ne_nil _ (mem_dayNames hword))
  dsimp only
  omega

lemma eq_or_runTogether (ha : a ∈ namedDays speech today tomorrow) (hb : b ∈ namedDays speech today tomorrow)
    (hle : a.begins ≤ b.begins) (hlt : b.begins < a.ended) :
    a = b ∨ ∃ before after, speech = before ++ ("tomorrowednesday".toList ++ after) ∧ a.begins = byteLength before ∧
      b.begins = byteLength before + 7 := by
  obtain ⟨first, day, u, v, hfirst, hu, rfl⟩ := mem_namedDays.1 ha
  obtain ⟨second, day', u', v', hsecond, hu', rfl⟩ := mem_namedDays.1 hb
  dsimp only at hle hlt
  obtain ⟨x, rfl⟩ := prefix_of_byteLength_le ⟨_, hu.symm⟩ ⟨_, hu'.symm⟩ hle
  rw [byteLength_append] at hlt
  have htail : first.toList ++ v = x ++ (second.toList ++ v') := by
    have := hu.symm.trans hu'
    rw [List.append_assoc] at this
    exact List.append_cancel_left this
  have hx : x.length < first.toList.length := by
    by_contra hlong
    have hwhole := List.prefix_of_prefix_length_le ⟨v, htail⟩ (List.prefix_append x _) (not_lt.1 hlong)
    have := byteLength_le_of_start hwhole
    omega
  rcases dayNames_overlap first (mem_dayNames hfirst) second (mem_dayNames hsecond) x.length hx
      (overlap htail hx.le) with
    ⟨hzero, rfl⟩ | ⟨rfl, rfl, hseven⟩
  · obtain rfl := List.length_eq_zero_iff.1 hzero
    have hday := List.inj_on_of_nodup_map (dayTable_nodup today tomorrow) hfirst hsecond rfl
    obtain rfl : day = day' := congrArg Prod.snd hday
    left
    simp
  · right
    have hxs : x = "tomorro".toList := by
      have htake := congrArg (List.take 7) htail
      rw [List.take_append_of_le_length (by decide), ← hseven, List.take_left] at htake
      rw [← htake, hseven]
      decide
    subst hxs
    refine ⟨u, v', ?_, rfl, ?_⟩
    · rw [hu', List.append_assoc]
      rfl
    · rw [byteLength_append]
      rfl

lemma nodup_namedDays : (namedDays speech today tomorrow).Nodup := by
  rw [namedDays, (List.perm_insertionSort _ _).nodup_iff, List.nodup_flatMap]
  constructor
  · rintro ⟨word, day⟩ -
    refine List.Nodup.map ?_ (nodup_matchesFrom ..)
    intro m n h
    exact congrArg NamedDay.begins h
  · have hpairs := List.pairwise_map.1 (dayTable_nodup today tomorrow)
    refine hpairs.imp ?_
    rintro ⟨word, day⟩ ⟨word', day'⟩ hne c hc hc'
    obtain ⟨_, _, rfl⟩ := List.mem_map.1 hc
    obtain ⟨_, _, h⟩ := List.mem_map.1 hc'
    exact hne (congrArg NamedDay.word h).symm

lemma sorted_namedDays : (namedDays speech today tomorrow).Pairwise fun a b => a.begins ≤ b.begins := by
  have : Std.Total fun a b : NamedDay => a.begins ≤ b.begins := ⟨fun a b => le_total ..⟩
  have : IsTrans NamedDay fun a b => a.begins ≤ b.begins := ⟨fun a b c => le_trans⟩
  exact List.pairwise_insertionSort _ _

/-- The last two named days overlap exactly in a text that runs the two words together. -/
theorem overlap_iff_runTogether (hlast : (namedDays speech today tomorrow).reverse = chosen :: previous :: rest) :
    chosen.begins < previous.ended ↔ RunTogether speech := by
  have hmem : ∀ a, a ∈ namedDays speech today tomorrow ↔ a ∈ chosen :: previous :: rest := by
    intro a
    rw [← hlast, List.mem_reverse]
  have hsorted : (chosen :: previous :: rest).Pairwise fun a b => b.begins ≤ a.begins := by
    rw [← hlast, List.pairwise_reverse]
    exact sorted_namedDays
  have hnodup : (chosen :: previous :: rest).Nodup := by
    rw [← hlast, List.nodup_reverse]
    exact nodup_namedDays
  have hchosen : chosen ∈ namedDays speech today tomorrow := (hmem _).2 (by simp)
  have hprevious : previous ∈ namedDays speech today tomorrow := (hmem _).2 (by simp)
  have hbefore : previous.begins ≤ chosen.begins := (List.pairwise_cons.1 hsorted).1 _ (by simp)
  constructor
  · intro hlt
    rcases eq_or_runTogether hprevious hchosen hbefore hlt with heq | ⟨before, after, htext, hfirst, hsecond⟩
    · exact absurd (by simp [heq]) (List.nodup_cons.1 hnodup).1
    · refine ⟨before, after, htext, ?_⟩
      rintro word hword ⟨x, y, hxy⟩
      have hlater : speech = (before ++ ("tomorrow".toList ++ x)) ++ (word.toList ++ y) := by
        rw [htext, show "tomorrowednesday".toList = "tomorrow".toList ++ "ednesday".toList from rfl,
          List.append_assoc, ← hxy]
        simp only [List.append_assoc]
      obtain ⟨a, ha, hbegins, -⟩ := mem_namedDays_of_text today tomorrow hword hlater
      have hmax : a.begins ≤ chosen.begins := by
        rcases List.mem_cons.1 ((hmem a).1 ha) with rfl | ha
        · exact le_rfl
        · exact (List.pairwise_cons.1 hsorted).1 _ ha
      rw [hbegins, byteLength_append, byteLength_append, hsecond] at hmax
      have : byteLength "tomorrow".toList = 8 := by decide
      omega
  · rintro ⟨before, after, htext, hnone⟩
    have hT : speech = before ++ ("tomorrow".toList ++ ("ednesday".toList ++ after)) := htext
    have hW : speech = (before ++ "tomorro".toList) ++ ("wednesday".toList ++ after) := by
      rw [htext, List.append_assoc]
      rfl
    obtain ⟨first, hfirst, hfirstBegins, hfirstEnds⟩ := mem_namedDays_of_text today tomorrow (by decide) hT
    obtain ⟨second, hsecond, hsecondBegins, -⟩ := mem_namedDays_of_text today tomorrow (by decide) hW
    have hlen : byteLength "tomorrow".toList = 8 := by decide
    have hlen' : byteLength "tomorro".toList = 7 := by decide
    rw [byteLength_append, hlen'] at hsecondBegins
    rw [hlen] at hfirstEnds
    -- nothing begins later than `wednesday`
    have hmax : chosen.begins ≤ byteLength before + 7 := by
      by_contra hlater
      obtain ⟨word, day, u, v, hword, hu, rfl⟩ := mem_namedDays.1 hchosen
      dsimp only at hlater
      have hfront : before ++ "tomorrow".toList <+: u := by
        apply prefix_of_byteLength_le ⟨"ednesday".toList ++ after, by rw [hT, List.append_assoc]⟩ ⟨_, hu.symm⟩
        rw [byteLength_append, hlen]
        omega
      obtain ⟨x, rfl⟩ := hfront
      refine hnone word (mem_dayNames hword) ⟨x, v, ?_⟩
      have := hu.symm.trans hT
      simp only [List.append_assoc, List.append_cancel_left_eq] at this
      rw [List.append_assoc]
      exact this
    have hleast : second.begins ≤ chosen.begins := by
      rcases List.mem_cons.1 ((hmem second).1 hsecond) with rfl | h
      · exact le_rfl
      · exact (List.pairwise_cons.1 hsorted).1 _ h
    have hne : first ≠ chosen := by
      rintro rfl
      omega
    have hfirstLe : first.begins ≤ previous.begins := by
      rcases List.mem_cons.1 (((hmem first).1 hfirst)) with h | h
      · exact absurd h hne
      · rcases List.mem_cons.1 h with rfl | h
        · exact le_rfl
        · exact (List.pairwise_cons.1 (List.pairwise_cons.1 hsorted).2).1 _ h
    have hpos := begins_lt_ended hprevious
    rcases eq_or_runTogether hfirst hprevious hfirstLe (by omega) with rfl | ⟨front, _, -, hfront, hback⟩
    · omega
    · omega

end NamedDays

/-! ### When the check returns -/

section Returns

variable {h : Host} {agreement speech : List Char} {date today tomorrow : NaiveDate} {chosen : NamedDay}

lemma exists_addDays {n : ℤ} (hn : 0 ≤ n) (hroom : today.day + n ≤ lastDay) :
    ∃ later, today.addDays n = some later ∧ later.day = today.day + n := by
  have hfirst := today.first_le
  exact ⟨_, dif_pos ⟨by omega, hroom⟩, rfl⟩

lemma exists_nextYear (h : Host) (today : NaiveDate) (month day : ℕ) {ahead : List ℤ}
    (hahead : ∀ n ∈ ahead, 0 ≤ n ∧ n ≤ 8) :
    ∃ found, nextYear h today month day ahead = some found := by
  induction ahead with
  | nil => exact ⟨none, rfl⟩
  | cons n rest ih =>
      obtain ⟨hn, hrest⟩ := List.forall_mem_cons.1 hahead
      have hyear := h.year_bounds today
      have hadd : addI32 (h.year today) n = some (h.year today + n) := if_pos ⟨by omega, by omega⟩
      rw [nextYear, hadd, Option.bind_eq_bind, Option.bind_some]
      cases h.fromYmd (h.year today + n) month day with
      | some date => exact ⟨_, rfl⟩
      | none => exact ih hrest

lemma exists_explicitDate (h : Host) (value : List Char) (today : NaiveDate) :
    ∃ found, explicitDate h value today = some found := by
  unfold explicitDate
  split
  · exact ⟨_, rfl⟩
  · split
    · exact ⟨_, rfl⟩
    · split
      · split
        · exact ⟨_, rfl⟩
        · exact exists_nextYear h today _ _ (by decide)
      · exact ⟨_, rfl⟩

lemma exists_slice_before (hchosen : chosen ∈ namedDays speech today tomorrow) :
    ∃ before, slice speech 0 chosen.begins = some before := by
  obtain ⟨word, day, before, after, -, rfl, rfl⟩ := mem_namedDays.1 hchosen
  have := slice_append [] before (word.toList ++ after)
  rw [List.nil_append, show byteLength [] = 0 from rfl, Nat.zero_add] at this
  exact ⟨before, this⟩

lemma isSome_offersTwo {previous : NamedDay} (hchosen : chosen ∈ namedDays speech today tomorrow)
    (hprevious : previous ∈ namedDays speech today tomorrow) :
    (offersTwo h speech chosen (some previous)).isSome = true ↔ previous.ended ≤ chosen.begins := by
  rw [offersTwo]
  constructor
  · intro hsome
    by_contra hlt
    rw [slice_none (not_le.1 hlt)] at hsome
    cases hsome
  · intro hle
    obtain ⟨word, day, before, after, -, htext, rfl⟩ := mem_namedDays.1 hprevious
    obtain ⟨word', day', before', after', -, htext', rfl⟩ := mem_namedDays.1 hchosen
    dsimp only at hle ⊢
    have hfront : before ++ word.toList <+: before' := by
      apply prefix_of_byteLength_le ⟨after, by rw [htext, List.append_assoc]⟩ ⟨_, htext'.symm⟩
      rwa [byteLength_append]
    obtain ⟨x, rfl⟩ := hfront
    have hslice := slice_append (before ++ word.toList) x (word'.toList ++ after')
    rw [← List.append_assoc, ← htext', byteLength_append] at hslice
    rw [byteLength_append, byteLength_append, hslice]
    rfl

lemma exists_coming (hroom : today.day + 6 ≤ lastDay) (weekday : ℕ) :
    ∃ coming, today.addDays ((7 + weekday - today.weekday : ℤ) % 7) = some coming := by
  have hgap := Int.emod_nonneg (7 + weekday - today.weekday : ℤ) (by decide : (7 : ℤ) ≠ 0)
  have hgap' := Int.emod_lt_of_pos (7 + weekday - today.weekday : ℤ) (by decide : (0 : ℤ) < 7)
  have hcoming : today.day + (7 + weekday - today.weekday : ℤ) % 7 ≤ lastDay := by omega
  obtain ⟨coming, hcoming, -⟩ := exists_addDays hgap hcoming
  exact ⟨coming, hcoming⟩

lemma isSome_judgeDay (hchosen : chosen ∈ namedDays speech today tomorrow) (hroom : today.day + 6 ≤ lastDay) :
    (judgeDay h speech chosen date today).isSome = true := by
  obtain ⟨before, hbefore⟩ := exists_slice_before hchosen
  unfold judgeDay
  cases chosen.day with
  | inl day => rfl
  | inr weekday =>
      obtain ⟨coming, hcoming⟩ := exists_coming hroom weekday
      dsimp only
      split_ifs
      · rfl
      · simp only [hbefore, hcoming, Option.bind_eq_bind, Option.bind_some]
        split_ifs <;> rfl

/-- The check of the spoken date panics exactly on two days in one. -/
theorem isSome_validateSpokenDate (hroom : today.day + 730 ≤ lastDay) :
    (validateSpokenDate h agreement date today).isSome = true ↔ ¬TwoDaysInOne h agreement date today := by
  obtain ⟨explicit, hexplicit⟩ := exists_explicitDate h agreement today
  rw [validateSpokenDate, hexplicit, Option.bind_eq_bind, Option.bind_some, TwoDaysInOne, hexplicit]
  cases hother : explicit.filter (· ≠ date) with
  | some spoken =>
      refine iff_of_true rfl fun htwo => ?_
      obtain ⟨hsome, hne⟩ := Option.filter_eq_some_iff.1 hother
      exact of_decide_eq_true hne (htwo.1 spoken (congrArg some hsome))
  | none =>
      have hsame : ∀ spoken, some explicit = some (some spoken) → spoken = date := by
        intro spoken hspoken
        obtain rfl := Option.some.inj hspoken
        by_contra hne
        simp [hne] at hother
      rw [and_iff_right hsame]
      obtain ⟨tomorrow, htomorrow, -⟩ := exists_addDays (by decide : (0 : ℤ) ≤ 1) (by omega : today.day + 1 ≤ lastDay)
      simp only [htomorrow, Option.bind_eq_bind, Option.bind_some]
      cases hlast : (namedDays (normalizedSpeech h agreement) today tomorrow).reverse with
      | nil =>
          refine iff_of_true rfl ?_
          rintro ⟨before, after, htext, -⟩
          obtain ⟨a, ha, -⟩ := mem_namedDays_of_text today tomorrow (by decide : "tomorrow" ∈ dayNames) htext
          rw [List.reverse_eq_nil_iff.1 hlast] at ha
          cases ha
      | cons chosen earlier =>
          have hmem : ∀ a ∈ chosen :: earlier, a ∈ namedDays (normalizedSpeech h agreement) today tomorrow := by
            intro a ha
            rw [← List.mem_reverse, hlast]
            exact ha
          have hjudge : (judgeDay h (normalizedSpeech h agreement) chosen date today).isSome = true :=
            isSome_judgeDay (hmem _ (by simp)) (by omega)
          have hends : ∀ two : Option Bool, (two.bind fun two =>
              if two then some (Except.error
                ("the caller named two days (" ++ ((earlier.head?.map NamedDay.word).getD "") ++
                " or " ++ chosen.word ++ "): ask which one, then call this tool again"))
              else judgeDay h (normalizedSpeech h agreement) chosen date today).isSome = two.isSome := by
            intro two
            cases two with
            | none => rfl
            | some two => cases two <;> simp [hjudge]
          simp only [hends]
          cases earlier with
          | nil =>
              refine iff_of_true rfl ?_
              rintro ⟨before, after, htext, -⟩
              have hwednesday : normalizedSpeech h agreement =
                  (before ++ "tomorro".toList) ++ ("wednesday".toList ++ after) := by
                rw [htext, List.append_assoc]
                rfl
              obtain ⟨a, ha, hbegins, -⟩ :=
                  mem_namedDays_of_text today tomorrow (by decide : "tomorrow" ∈ dayNames) htext
              obtain ⟨b, hb, hbegins', -⟩ :=
                mem_namedDays_of_text today tomorrow (by decide : "wednesday" ∈ dayNames) hwednesday
              rw [← List.mem_reverse, hlast, List.mem_singleton] at ha hb
              rw [byteLength_append, hb, ← ha, hbegins, show byteLength "tomorro".toList = 7 by decide] at hbegins'
              omega
          | cons previous rest =>
              rw [← overlap_iff_runTogether hlast, not_lt]
              exact isSome_offersTwo (hmem _ (by simp)) (hmem _ (by simp))

variable {args : Arguments} {latest : List Char} {history assistantRecent : List (List Char)}

lemma isSome_confirmsTurn (service : List Char) (time : NaiveTime) (turn : List Char)
    (hroom : today.day + 730 ≤ lastDay) :
    (confirmsTurn h service date time today turn).isSome = true ↔
      (namesSlot h service date time turn = true → ¬TwoDaysInOne h (normalizedSpeech h turn) date today) := by
  unfold confirmsTurn
  split_ifs with hnames
  · rw [forall_prop_of_true hnames, ← isSome_validateSpokenDate hroom]
    cases validateSpokenDate h (normalizedSpeech h turn) date today <;> rfl
  · exact iff_of_true rfl fun h => absurd h hnames

/-- No read-back that is looked at has its last two days in one; the first that confirms is the last looked at. -/
def ReadsBackApart (h : Host) (service : List Char) (date : NaiveDate) (time : NaiveTime) (today : NaiveDate) :
    List (List Char) → Prop
  | [] => True
  | turn :: rest =>
    (namesSlot h service date time turn = true → ¬TwoDaysInOne h (normalizedSpeech h turn) date today) ∧
      (confirmsTurn h service date time today turn = some false → ReadsBackApart h service date time today rest)

lemma isSome_anyConfirms (service : List Char) (time : NaiveTime) (hroom : today.day + 730 ≤ lastDay)
    (turns : List (List Char)) :
    (anyConfirms h service date time today turns).isSome = true ↔ ReadsBackApart h service date time today turns := by
  induction turns with
  | nil => exact iff_of_true rfl trivial
  | cons turn rest ih =>
      rw [anyConfirms, ReadsBackApart, ← isSome_confirmsTurn service time turn hroom]
      cases confirmsTurn h service date time today turn with
      | none => exact iff_of_false (by simp) (by simp)
      | some confirmed =>
          cases confirmed with
          | true => exact iff_of_true rfl ⟨rfl, by simp⟩
          | false => simpa using ih

lemma exists_dateTurn (h : Host) (today : NaiveDate) (recent : List (List Char)) :
    ∃ selected, dateTurn h today recent = some selected := by
  induction recent with
  | nil => exact ⟨none, rfl⟩
  | cons turn rest ih =>
      obtain ⟨found, hfound⟩ := exists_explicitDate h turn today
      unfold dateTurn
      split_ifs
      · exact ⟨_, rfl⟩
      · rw [hfound, Option.bind_eq_bind, Option.bind_some]
        split_ifs
        · exact ⟨_, rfl⟩
        · exact ih

lemma isSome_spokenDate (hroom : today.day + 730 ≤ lastDay) (recent : List (List Char)) :
    (spokenDate h args recent today).isSome = true ↔
      ∀ selected, dateTurn h today recent = some (some selected) → ¬TwoDaysInOne h selected args.date today := by
  obtain ⟨selected, hselected⟩ := exists_dateTurn h today recent
  rw [spokenDate, hselected, Option.bind_eq_bind, Option.bind_some]
  cases selected with
  | none => exact iff_of_true rfl (by simp)
  | some turn => simpa using isSome_validateSpokenDate hroom

lemma byteLength_hexText (bytes : Bytes) : byteLength (hexText bytes) = 2 * bytes.length := by
  have hdigit : ∀ n < 16, (Nat.digitChar n).utf8Size = 1 := by decide
  induction bytes with
  | nil => rfl
  | cons byte rest ih =>
      have hbyte := byte.toNat_lt
      rw [hexText, List.flatMap_cons, byteLength_append, ← hexText, ih, byteLength_cons, byteLength_cons,
        hdigit _ (by omega), hdigit _ (by omega), List.length_cons, show byteLength [] = 0 from rfl]
      omega

lemma exists_requestId (h : Host) (callId : List Char) (args : Arguments) :
    ∃ id, requestId h callId args = some id := by
  set bytes := (h.sha256 (intoBytes (textOf (identity h callId args)))).bytes with hbytes
  have hlen : bytes.length = 32 := (h.sha256 _).length_bytes
  have hsplit : hexText bytes = hexText (bytes.take 16) ++ hexText (bytes.drop 16) := by
    rw [hexText, hexText, hexText, ← List.flatMap_append, List.take_append_drop]
  have hhalf : byteLength (hexText (bytes.take 16)) = 32 := by
    rw [byteLength_hexText, List.length_take, hlen]
    rfl
  have hslice := slice_append [] (hexText (bytes.take 16)) (hexText (bytes.drop 16))
  rw [hhalf, List.nil_append, ← hsplit] at hslice
  exact ⟨_, by rw [requestId, ← hbytes]; exact congrArg _ hslice⟩

lemma isSome_conclude (callId : List Char) (agreementTurn : ℕ) (recent : List (List Char)) (day : Except String Unit) :
    (conclude h args callId agreementTurn recent history day).isSome = true := by
  obtain ⟨id, hid⟩ := exists_requestId h callId args
  unfold conclude
  split
  · rfl
  · split
    · rfl
    · split_ifs
      · rfl
      · rw [hid]
        rfl

def Fenced (h : Host) (args : Arguments) (latest : List Char) (history assistantRecent : List (List Char))
    (today : NaiveDate) : Prop :=
  (quoteMatches h args.agreement (recentTurns latest history) = true ∨
      readbackAffirmed h args latest assistantRecent today = some true) ∧
    agreed h latest (recentTurns latest history) = true

/-- No turn that the date is read from has its last two days in one. -/
structure DaysApart (h : Host) (args : Arguments) (latest : List Char) (history assistantRecent : List (List Char))
    (today : NaiveDate) : Prop where
  readBack : isConservativeAgreement h latest = true →
    ReadsBackApart h args.service args.date args.time today (assistantRecent.take 3)
  spoken : Fenced h args latest history assistantRecent today →
    ∀ selected, dateTurn h today (recentTurns latest history) = some (some selected) →
      ¬TwoDaysInOne h selected args.date today

lemma isSome_judgeSpeech (callId : List Char) (agreementTurn : ℕ) (hroom : today.day + 730 ≤ lastDay) :
    (judgeSpeech h args callId agreementTurn latest history assistantRecent today).isSome = true ↔
      DaysApart h args latest history assistantRecent today := by
  have hback : (readbackAffirmed h args latest assistantRecent today).isSome = true ↔
      (isConservativeAgreement h latest = true →
      ReadsBackApart h args.service args.date args.time today (assistantRecent.take 3)) := by
    unfold readbackAffirmed
    split_ifs with hagrees
    · rw [forall_prop_of_true hagrees]
      exact isSome_anyConfirms _ _ hroom _
    · exact iff_of_true rfl fun h => absurd h hagrees
  have hspoken : (spokenDate h args (recentTurns latest history) today).isSome = true ↔ _ :=
    isSome_spokenDate hroom (recentTurns latest history)
  rw [judgeSpeech]
  cases haffirmed : readbackAffirmed h args latest assistantRecent today with
  | none =>
      rw [haffirmed] at hback
      exact iff_of_false Bool.false_ne_true fun hapart => Bool.false_ne_true (hback.2 hapart.readBack)
  | some affirmed =>
      have hread := hback.1 (by rw [haffirmed]; rfl)
      have hfence : Fenced h args latest history assistantRecent today ↔
          (quoteMatches h args.agreement (recentTurns latest history) = true ∨ affirmed = true) ∧
            agreed h latest (recentTurns latest history) = true := by
        rw [Fenced, haffirmed, Option.some.injEq]
      rw [Option.bind_eq_bind, Option.bind_some]
      by_cases hquote : (!quoteMatches h args.agreement (recentTurns latest history) && !affirmed) = true
      · rw [if_pos hquote]
        refine iff_of_true rfl ⟨hread, fun hfenced => ?_⟩
        rcases (hfence.1 hfenced).1 with hyes | hyes
        · rw [hyes] at hquote
          cases hquote
        · rw [hyes, Bool.not_true, Bool.and_false] at hquote
          cases hquote
      · rw [if_neg hquote]
        by_cases hagreed : (!agreed h latest (recentTurns latest history)) = true
        · rw [if_pos hagreed]
          refine iff_of_true rfl ⟨hread, fun hfenced => ?_⟩
          rw [(hfence.1 hfenced).2] at hagreed
          cases hagreed
        · rw [if_neg hagreed]
          have hfenced : Fenced h args latest history assistantRecent today := by
            rw [hfence]
            refine ⟨?_, by simpa using hagreed⟩
            by_contra hneither
            exact hquote (by simpa using hneither)
          have hends : ∀ day : Option (Except String Unit),
              (day.bind (conclude h args callId agreementTurn (recentTurns latest history) history)).isSome =
                day.isSome := by
            rintro (_ | day)
            · rfl
            · exact isSome_conclude ..
          rw [Option.bind_eq_bind, hends, hspoken]
          exact ⟨fun hall => ⟨hread, fun _ => hall⟩, fun hapart => hapart.spoken hfenced⟩

lemma exists_readArguments (h : Host) (arguments : Option (Keyed String Json)) (callId : List Char)
    (hroom : today.day + 730 ≤ lastDay) :
    ∃ args, readArguments h arguments callId today = some args := by
  obtain ⟨limit, hlimit, -⟩ := exists_addDays (by decide : (0 : ℤ) ≤ 730) hroom
  unfold readArguments
  dsimp only
  split
  · exact ⟨_, rfl⟩
  · rw [hlimit]
    split_ifs
    · exact ⟨_, rfl⟩
    · simp only [Option.bind_eq_bind, Option.bind_some]
      split_ifs <;> exact ⟨_, rfl⟩

/-- The booking check returns exactly where no turn that the date is read from ends its days in `tomorrowednesday`. -/
theorem validate_returns_iff (h : Host) (arguments : Option (Keyed String Json)) (callId : List Char)
    (latest : Option (ℕ × List Char))
    (history assistantRecent : List (List Char)) (today : NaiveDate) (hroom : today.day + 1095 ≤ lastDay) :
    (validateWithReadback h arguments callId latest history assistantRecent today).isSome = true ↔
      ∀ args turn text, readArguments h arguments callId today = some (.ok args) → latest = some (turn, text) →
        DaysApart h args text history assistantRecent today := by
  have hyears : today.day + 730 ≤ lastDay := by omega
  obtain ⟨result, hresult⟩ := exists_readArguments h arguments callId hyears
  rw [validateWithReadback, hresult, Option.bind_eq_bind, Option.bind_some]
  cases result with
  | error e => exact iff_of_true rfl (by simp)
  | ok args =>
      cases latest with
      | none => exact iff_of_true rfl (by simp)
      | some turn =>
          obtain ⟨turn, text⟩ := turn
          simp only [Option.some.injEq, Except.ok.injEq, Prod.mk.injEq]
          rw [isSome_judgeSpeech callId turn hyears]
          constructor
          · rintro hapart _ _ _ rfl ⟨rfl, rfl⟩
            exact hapart
          · intro hall
            exact hall _ _ _ rfl ⟨rfl, rfl⟩

end Returns

/-- What the crates read of the texts below: a Monday in July 2026 and the Wednesday after it. -/
def sampleHost : Host where
  toLowercase text := text.map Char.toLower
  isAlphanumeric := Char.isAlphanum
  dateCaptures _ := none
  timeCaptures text := if contains text "at 10" then some fun group =>
    if group = 1 then some "10".toList else none else none
  year _ := 2026
  year_bounds _ := by decide
  dayOfMonth _ := 22
  fromYmd _ _ _ := none
  parseDate text := if text = "2026-07-22".toList then some ⟨20656, by decide, by decide⟩ else none
  parseTime text := if text = "10:00".toList then some ⟨10, 0, by decide, by decide⟩ else none
  ymd _ := "2026-07-22".toList
  longDay _ := "Wednesday 22 July".toList
  sha256 _ := ⟨List.replicate 32 0, List.length_replicate⟩

def sampleRequest (agreement : String) : Keyed String Json where
  entries := [("callerName", .string "Susan"), ("service", .string "Gardening"), ("date", .string "2026-07-22"),
    ("time", .string "10:00"), ("agreementPhrase", .string agreement)]
  nodup := by simp

def sampleToday : NaiveDate := ⟨20654, by decide, by decide⟩

/-- A caller who only asks: no turn is crashed on. -/
theorem validate_returns_iff_question :
    (validateWithReadback sampleHost (some (sampleRequest "Yes")) "call".toList
      (some (3, "Is Wednesday at 10 free?".toList))
      ["A booking please".toList] [] sampleToday).isSome = true ↔
      ∀ args turn text, readArguments sampleHost (some (sampleRequest "Yes")) "call".toList sampleToday =
        some (.ok args) →
        some (3, "Is Wednesday at 10 free?".toList) = some (turn, text) →
          DaysApart sampleHost args text ["A booking please".toList] [] sampleToday :=
  validate_returns_iff sampleHost (some (sampleRequest "Yes")) "call".toList
    (some (3, "Is Wednesday at 10 free?".toList))
    ["A booking please".toList] [] sampleToday (by decide)

/-- `&speech[8..7]`: the caller's two days come as one word. -/
theorem two_days_in_one_word_panic : ¬∀ h arguments callId latest history assistantRecent (today : NaiveDate),
    today.day + 1095 ≤ lastDay → (validateWithReadback h arguments callId latest history assistantRecent today).isSome =
      true := by
  intro hall
  have hsome := hall sampleHost (some (sampleRequest "Book me tomorrowednesday at 10")) "call".toList
    (some (3, "Book me tomorrowednesday at 10".toList)) ["Book me tomorrowednesday at 10".toList] []
    sampleToday (by decide)
  revert hsome
  decide +kernel

end Aokie.Plugin.RealtimeAppointment
