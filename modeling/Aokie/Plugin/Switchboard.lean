import Aokie.Plugin.WaitingCallers

/-! The swap-back judge: who has the line after a toggle, from the phone's call list and its held-call indicator. -/

namespace Aokie.Plugin.Switchboard

open WaitingCallers

/-- One leg of a `CLCC` list; status 0 is active, 1 held, the rest neither. -/
structure ClccLeg where
  status : ℕ
  number : Option String
  deriving DecidableEq, Repr

/-- What the phone said when the settling ended; `clcc` is a list that began after it did. -/
structure SwapSnapshot where
  callheld : ℕ
  currentAlive : Bool
  clcc : Option (List ClccLeg)
  deriving DecidableEq, Repr

inductive SwapBackVerdict
  | swapped | swappedNewcomerGone | stayedOnNewcomer | newcomerAlone | activeDied | allGone | strangerActive
  | inconclusive
  deriving DecidableEq, Repr

def activeLegs (clcc : List ClccLeg) : List ClccLeg := clcc.filter (·.status = 0)

def heldLegs (clcc : List ClccLeg) : List ClccLeg := clcc.filter (·.status = 1)

/-- Whether a leg is this party's; nothing where either number cannot be used. -/
def legIs (leg : ClccLeg) (who : Option String) : Option Bool :=
  match leg.number.map digitSuffix, who with
  | some n, some w => if 6 ≤ n.length then some (n == w) else none
  | _, _ => none

def resolveSwapBackByIndicator (snap : SwapSnapshot) : SwapBackVerdict :=
  if snap.callheld = 2 then .activeDied
  else if snap.callheld = 0 then if snap.currentAlive then .newcomerAlone else .allGone
  else if snap.currentAlive then .swapped else .allGone

def judgeSwapBack (snap : SwapSnapshot) (primary newcomer : Option String) : SwapBackVerdict :=
  let primary := suffixOf primary
  let newcomer := suffixOf newcomer
  match snap.clcc with
  | none => resolveSwapBackByIndicator snap
  | some clcc =>
    let held := heldLegs clcc
    match activeLegs clcc with
    | [] =>
      if held = [] then if snap.callheld = 0 then .allGone else .inconclusive
      else if snap.callheld = 2 then .activeDied else .inconclusive
    | a :: _ =>
      if held = [] ∧ snap.callheld = 1 then .inconclusive
      else if legIs a primary = some true then if held = [] then .swappedNewcomerGone else .swapped
      else if legIs a newcomer = some true then if held = [] then .newcomerAlone else .stayedOnNewcomer
      else if legIs a primary = some false ∧ legIs a newcomer = some false then .strangerActive
      else if held = [] then .newcomerAlone
      else resolveSwapBackByIndicator snap

def swapBackVerdictForTracker (verdict : SwapBackVerdict) (newcomerTracked : Bool) : SwapBackVerdict :=
  if newcomerTracked then verdict
  else match verdict with
    | .swapped => .swappedNewcomerGone
    | .stayedOnNewcomer => .activeDied
    | .newcomerAlone => .allGone
    | other => other

/-- `snap` and `snap2` are what the two settlings came back with. -/
def settleAndJudgeSwapBack (snap snap2 : SwapSnapshot) (primary newcomer : Option String) : SwapBackVerdict :=
  if judgeSwapBack snap primary newcomer ≠ .inconclusive then judgeSwapBack snap primary newcomer
  else if judgeSwapBack snap2 primary newcomer ≠ .inconclusive then judgeSwapBack snap2 primary newcomer
  else resolveSwapBackByIndicator snap2

/-! ### The phone the list is a picture of -/

inductive Party
  | primary | newcomer | stranger
  deriving DecidableEq, Repr

structure PhoneLine where
  active : Option Party
  held : Option Party
  deriving DecidableEq, Repr

def PhoneLine.topology : PhoneLine → Option SwapBackVerdict
  | ⟨none, none⟩ => some .allGone
  | ⟨none, some _⟩ => some .activeDied
  | ⟨some .primary, none⟩ => some .swappedNewcomerGone
  | ⟨some .primary, some .newcomer⟩ => some .swapped
  | ⟨some .newcomer, none⟩ => some .newcomerAlone
  | ⟨some .newcomer, some .primary⟩ => some .stayedOnNewcomer
  | ⟨some .stranger, _⟩ => some .strangerActive
  | _ => none

def PhoneLine.indicator : PhoneLine → ℕ
  | ⟨_, none⟩ => 0
  | ⟨some _, some _⟩ => 1
  | ⟨none, some _⟩ => 2

/-- The leg shows this party: its own number, and for a stranger a number that is neither party's. -/
def Shows (primary newcomer : Option String) (leg : ClccLeg) : Party → Prop
  | .primary => suffixOf leg.number = suffixOf primary
  | .newcomer => suffixOf leg.number = suffixOf newcomer
  | .stranger => suffixOf leg.number ≠ none ∧ suffixOf leg.number ≠ suffixOf primary ∧
      suffixOf leg.number ≠ suffixOf newcomer

/-- No leg speaks against this party: each shows it or comes without its number. -/
def Allows (primary newcomer : Option String) (legs : List ClccLeg) (party : Party) : Prop :=
  ∀ leg ∈ legs, suffixOf leg.number = none ∨ Shows primary newcomer leg party

structure Pictures (primary newcomer : Option String) (snap : SwapSnapshot) (line : PhoneLine) : Prop where
  indicator : snap.callheld = line.indicator
  legs : ∃ clcc, snap.clcc = some clcc ∧
    (activeLegs clcc = [] ↔ line.active = none) ∧ (heldLegs clcc = [] ↔ line.held = none) ∧
    (∀ party, line.active = some party → Allows primary newcomer (activeLegs clcc) party) ∧
    ∀ party, line.held = some party → Allows primary newcomer (heldLegs clcc) party

def impliedIndicator (clcc : List ClccLeg) : ℕ :=
  if heldLegs clcc = [] then 0 else if activeLegs clcc = [] then 2 else 1

def SwapBackVerdict.gone : SwapBackVerdict → Bool
  | .allGone | .activeDied | .swappedNewcomerGone | .newcomerAlone => true
  | _ => false

def SwapBackVerdict.primaryActive : SwapBackVerdict → Bool
  | .swapped | .swappedNewcomerGone => true
  | _ => false

def SwapBackVerdict.needsNewcomer : SwapBackVerdict → Bool
  | .swapped | .stayedOnNewcomer | .newcomerAlone => true
  | _ => false

def Distinct (primary newcomer : Option String) : Prop :=
  suffixOf primary ≠ none ∧ suffixOf newcomer ≠ none ∧ suffixOf primary ≠ suffixOf newcomer

/-- The leg carries a usable number that is not the primary's usable number. -/
def NotThePrimary (primary : Option String) (leg : ClccLeg) : Prop :=
  suffixOf leg.number ≠ none ∧ suffixOf primary ≠ none ∧ suffixOf leg.number ≠ suffixOf primary

structure JudgedWell (snap : SwapSnapshot) (primary newcomer : Option String) : Prop where
  topology : Distinct primary newcomer → ∀ line verdict, Pictures primary newcomer snap line →
    line.topology = some verdict → judgeSwapBack snap primary newcomer = verdict
  gone : ∀ clcc, snap.clcc = some clcc → snap.callheld ≠ impliedIndicator clcc →
    (judgeSwapBack snap primary newcomer).gone = false
  notThePrimary : ∀ clcc a rest, snap.clcc = some clcc → activeLegs clcc = a :: rest → NotThePrimary primary a →
    (judgeSwapBack snap primary newcomer).primaryActive = false
  actionable : ∀ snap2 tracked,
    let verdict := swapBackVerdictForTracker (settleAndJudgeSwapBack snap snap2 primary newcomer) tracked
    verdict ≠ .inconclusive ∧ (tracked = false → verdict.needsNewcomer = false)

def KnownStranger (primary newcomer : Option String) (leg : ClccLeg) : Prop :=
  suffixOf primary ≠ none ∧ suffixOf newcomer ≠ none ∧ Shows primary newcomer leg .stranger

def Recognised (primary newcomer : Option String) (leg : ClccLeg) : Prop :=
  suffixOf leg.number ≠ none ∧ (suffixOf leg.number = suffixOf primary ∨ suffixOf leg.number = suffixOf newcomer) ∨
    KnownStranger primary newcomer leg

/-- The legs that show their numbers leave no line but the one the judge assumes of a withheld active leg: the newcomer
alone, or the primary beside the newcomer. -/
structure OthersTell (snap : SwapSnapshot) (primary newcomer : Option String) (clcc : List ClccLeg) : Prop where
  alone : heldLegs clcc = [] → ∀ party, Allows primary newcomer (activeLegs clcc) party → party = .newcomer
  strangerTalks : heldLegs clcc ≠ [] → Allows primary newcomer (activeLegs clcc) .stranger →
    ∀ party, ¬Allows primary newcomer (heldLegs clcc) party
  newcomerTalks : heldLegs clcc ≠ [] → Allows primary newcomer (activeLegs clcc) .newcomer →
    ¬Allows primary newcomer (heldLegs clcc) .primary
  primaryTalks : heldLegs clcc ≠ [] → Allows primary newcomer (activeLegs clcc) .primary →
    Allows primary newcomer (heldLegs clcc) .newcomer → snap.currentAlive = true

/-- Where the evidence is enough: an active leg that is alone is a known stranger's or the indicator reads 0 or 1; an
active leg beside a held one is recognised, or the indicator does not make a loss of the pair and the trusted toggle
does not give the primary a line whose number is not theirs; and the others tell who has a withheld active leg. -/
def EvidenceSuffices (snap : SwapSnapshot) (primary newcomer : Option String) : Prop :=
  ∀ clcc a rest, snap.clcc = some clcc → activeLegs clcc = a :: rest →
    (heldLegs clcc = [] → snap.callheld = 0 ∨ snap.callheld = 1 ∨ KnownStranger primary newcomer a) ∧
    (heldLegs clcc ≠ [] → ¬Recognised primary newcomer a →
      (snap.callheld = 1 ∨ 2 < snap.callheld ∧ snap.currentAlive = true) ∧
        (snap.currentAlive = true → ¬NotThePrimary primary a)) ∧
    (Distinct primary newcomer → snap.callheld = impliedIndicator clcc → suffixOf a.number = none →
      OthersTell snap primary newcomer clcc)

/-! ### What the judge reads -/

theorem legIs_suffixOf (leg : ClccLeg) (who : Option String) :
    legIs leg (suffixOf who) = match suffixOf leg.number, suffixOf who with
      | some n, some w => some (n == w)
      | _, _ => none := by
  cases hnumber : leg.number with
  | none => simp [legIs, suffixOf, hnumber]
  | some number =>
    cases suffixOf who with
    | none => simp [legIs]
    | some w =>
      by_cases hlong : 6 ≤ (digitSuffix number).length
      · simp [legIs, suffixOf, hnumber, hlong, Option.filter_some]
      · simp [legIs, suffixOf, hnumber, hlong, Option.filter_some]

theorem legIs_true (leg : ClccLeg) (who : Option String) :
    legIs leg (suffixOf who) = some true ↔ suffixOf leg.number ≠ none ∧ suffixOf leg.number = suffixOf who := by
  rw [legIs_suffixOf]
  cases suffixOf leg.number <;> cases suffixOf who <;> simp

theorem legIs_false (leg : ClccLeg) (who : Option String) :
    legIs leg (suffixOf who) = some false ↔
      suffixOf leg.number ≠ none ∧ suffixOf who ≠ none ∧ suffixOf leg.number ≠ suffixOf who := by
  rw [legIs_suffixOf]
  cases suffixOf leg.number <;> cases suffixOf who <;> simp

section Judge

variable {snap : SwapSnapshot} {primary newcomer : Option String} {clcc : List ClccLeg} {a : ClccLeg}
    {rest : List ClccLeg}

theorem judge_nobody (hclcc : snap.clcc = some clcc) (hactive : activeLegs clcc = []) :
    judgeSwapBack snap primary newcomer =
      if heldLegs clcc = [] then if snap.callheld = 0 then .allGone else .inconclusive
      else if snap.callheld = 2 then .activeDied else .inconclusive := by
  simp only [judgeSwapBack, hclcc, hactive]

theorem judge_transitional (hclcc : snap.clcc = some clcc) (hactive : activeLegs clcc = a :: rest)
    (hheld : heldLegs clcc = [])
    (hone : snap.callheld = 1) : judgeSwapBack snap primary newcomer = .inconclusive := by
  simp only [judgeSwapBack, hclcc, hactive, hheld, hone, and_self, if_true]

theorem judge_primary (hclcc : snap.clcc = some clcc) (hactive : activeLegs clcc = a :: rest)
    (hsettled : ¬(heldLegs clcc = [] ∧ snap.callheld = 1)) (hknown : suffixOf a.number ≠ none)
    (hprimary : suffixOf a.number = suffixOf primary) :
    judgeSwapBack snap primary newcomer = if heldLegs clcc = [] then .swappedNewcomerGone else .swapped := by
  simp only [judgeSwapBack, hclcc, hactive]
  rw [if_neg hsettled, if_pos ((legIs_true a primary).2 ⟨hknown, hprimary⟩)]

theorem judge_newcomer (hclcc : snap.clcc = some clcc) (hactive : activeLegs clcc = a :: rest)
    (hsettled : ¬(heldLegs clcc = [] ∧ snap.callheld = 1)) (hknown : suffixOf a.number ≠ none)
    (hprimary : suffixOf a.number ≠ suffixOf primary) (hnewcomer : suffixOf a.number = suffixOf newcomer) :
    judgeSwapBack snap primary newcomer = if heldLegs clcc = [] then .newcomerAlone else .stayedOnNewcomer := by
  have hnot : ¬legIs a (suffixOf primary) = some true := fun h => hprimary ((legIs_true a primary).1 h).2
  simp only [judgeSwapBack, hclcc, hactive]
  rw [if_neg hsettled, if_neg hnot, if_pos ((legIs_true a newcomer).2 ⟨hknown, hnewcomer⟩)]

theorem judge_stranger (hclcc : snap.clcc = some clcc) (hactive : activeLegs clcc = a :: rest)
    (hsettled : ¬(heldLegs clcc = [] ∧ snap.callheld = 1)) (hstranger : KnownStranger primary newcomer a) :
    judgeSwapBack snap primary newcomer = .strangerActive := by
  obtain ⟨hp, hn, hknown, hprimary, hnewcomer⟩ := hstranger
  have hnotp : ¬legIs a (suffixOf primary) = some true := fun h => hprimary ((legIs_true a primary).1 h).2
  have hnotn : ¬legIs a (suffixOf newcomer) = some true := fun h => hnewcomer ((legIs_true a newcomer).1 h).2
  have hneither : legIs a (suffixOf primary) = some false ∧ legIs a (suffixOf newcomer) = some false :=
    ⟨(legIs_false a primary).2 ⟨hknown, hp, hprimary⟩, (legIs_false a newcomer).2 ⟨hknown, hn, hnewcomer⟩⟩
  simp only [judgeSwapBack, hclcc, hactive]
  rw [if_neg hsettled, if_neg hnotp, if_neg hnotn, if_pos hneither]

theorem judge_dark (hclcc : snap.clcc = some clcc) (hactive : activeLegs clcc = a :: rest)
    (hsettled : ¬(heldLegs clcc = [] ∧ snap.callheld = 1)) (hdark : ¬Recognised primary newcomer a) :
    judgeSwapBack snap primary newcomer =
      if heldLegs clcc = [] then .newcomerAlone else resolveSwapBackByIndicator snap := by
  have hnotp : ¬legIs a (suffixOf primary) = some true := by
    intro h
    exact hdark (.inl ⟨((legIs_true a primary).1 h).1, .inl ((legIs_true a primary).1 h).2⟩)
  have hnotn : ¬legIs a (suffixOf newcomer) = some true := by
    intro h
    exact hdark (.inl ⟨((legIs_true a newcomer).1 h).1, .inr ((legIs_true a newcomer).1 h).2⟩)
  have hnots : ¬(legIs a (suffixOf primary) = some false ∧ legIs a (suffixOf newcomer) = some false) := by
    rintro ⟨hp, hn⟩
    obtain ⟨hknown, hprimary, hotherp⟩ := (legIs_false a primary).1 hp
    obtain ⟨-, hnewcomer, hothern⟩ := (legIs_false a newcomer).1 hn
    exact hdark (.inr ⟨hprimary, hnewcomer, hknown, hotherp, hothern⟩)
  simp only [judgeSwapBack, hclcc, hactive]
  rw [if_neg hsettled, if_neg hnotp, if_neg hnotn, if_neg hnots]

end Judge

/-! ### The topology of a phone that is pictured as it is -/

section Topology

variable {snap : SwapSnapshot} {primary newcomer : Option String} {clcc : List ClccLeg} {a : ClccLeg}
    {rest : List ClccLeg}
  {line : PhoneLine} {verdict : SwapBackVerdict}

theorem impliedIndicator_alone (hheld : heldLegs clcc = []) : impliedIndicator clcc = 0 := by
  simp [impliedIndicator, hheld]

theorem impliedIndicator_pair (hactive : activeLegs clcc = a :: rest) (hheld : heldLegs clcc ≠ []) :
    impliedIndicator clcc = 1 := by
  simp [impliedIndicator, hactive, hheld]

theorem dark_of_withheld (hwithheld : suffixOf a.number = none) : ¬Recognised primary newcomer a := by
  rintro (⟨hknown, -⟩ | ⟨-, -, hknown, -⟩) <;> exact hknown hwithheld

theorem dark_pair (hclcc : snap.clcc = some clcc) (hactive : activeLegs clcc = a :: rest) (hheld : heldLegs clcc ≠ [])
    (hdark : ¬Recognised primary newcomer a) : judgeSwapBack snap primary newcomer =
      resolveSwapBackByIndicator snap := by
  rw [judge_dark hclcc hactive (fun h => hheld h.1) hdark, if_neg hheld]

/-- The trusted toggle of a pair. -/
theorem resolve_pair (hone : snap.callheld = 1) :
    resolveSwapBackByIndicator snap = if snap.currentAlive then .swapped else .allGone := by
  simp [resolveSwapBackByIndicator, hone]

/-- A picture of a line with nobody on it, or with a held leg alone. -/
theorem judge_pictured_nobody (hpicture : Pictures primary newcomer snap line) (hnobody : line.active = none)
    (htopology : line.topology = some verdict) : judgeSwapBack snap primary newcomer = verdict := by
  obtain ⟨hind, clcc, hclcc, hactive, hheld, -, -⟩ := hpicture
  obtain ⟨active, held⟩ := line
  subst hnobody
  rw [judge_nobody hclcc (hactive.2 rfl)]
  cases held with
  | none =>
    cases htopology
    change snap.callheld = 0 at hind
    rw [if_pos (hheld.2 rfl), if_pos hind]
  | some party =>
    have hsome : heldLegs clcc ≠ [] := fun h => by simpa using hheld.1 h
    cases htopology
    change snap.callheld = 2 at hind
    rw [if_neg hsome, if_pos hind]

/-- A picture of a line on which someone talks: the first active leg shows them. -/
theorem judge_pictured_shown (hdistinct : Distinct primary newcomer) (hpicture : Pictures primary newcomer snap line)
    (hclcc : snap.clcc = some clcc) (hlegs : activeLegs clcc = a :: rest) {party : Party}
    (htalks : line.active = some party) (hshown : Shows primary newcomer a party)
    (htopology : line.topology = some verdict) : judgeSwapBack snap primary newcomer = verdict := by
  obtain ⟨hind, clcc', hclcc', -, hheld, -, -⟩ := hpicture
  obtain rfl : clcc = clcc' := Option.some.inj (hclcc.symm.trans hclcc')
  obtain ⟨active, held⟩ := line
  subst htalks
  have hsettled : ¬(heldLegs clcc = [] ∧ snap.callheld = 1) := by
    rintro ⟨hnone, hone⟩
    obtain rfl : held = none := hheld.1 hnone
    simp [PhoneLine.indicator, hone] at hind
  obtain ⟨hp, hn, hne⟩ := hdistinct
  cases party with
  | primary =>
    change suffixOf a.number = suffixOf primary at hshown
    rw [judge_primary hclcc hlegs hsettled (hshown ▸ hp) hshown]
    rcases held with _ | (_ | _ | _)
    · cases htopology
      rw [if_pos (hheld.2 rfl)]
    · cases htopology
    · cases htopology
      rw [if_neg fun h => by simpa using hheld.1 h]
    · cases htopology
  | newcomer =>
    change suffixOf a.number = suffixOf newcomer at hshown
    rw [judge_newcomer hclcc hlegs hsettled (hshown ▸ hn) (fun h => hne (h.symm.trans hshown)) hshown]
    rcases held with _ | (_ | _ | _)
    · cases htopology
      rw [if_pos (hheld.2 rfl)]
    · cases htopology
      rw [if_neg fun h => by simpa using hheld.1 h]
    · cases htopology
    · cases htopology
  | stranger =>
    rw [judge_stranger hclcc hlegs hsettled ⟨hp, hn, hshown⟩]
    rcases held with _ | (_ | _ | _) <;> cases htopology <;> rfl

/-- A picture whose first active leg is withheld: the others tell whose it is. -/
theorem judge_pictured_withheld (hpicture : Pictures primary newcomer snap line) (hclcc : snap.clcc = some clcc)
    (hlegs : activeLegs clcc = a :: rest) (hwithheld : suffixOf a.number = none)
    (htell : OthersTell snap primary newcomer clcc) (htopology : line.topology = some verdict) :
    judgeSwapBack snap primary newcomer = verdict := by
  have hdark : ¬Recognised primary newcomer a := dark_of_withheld hwithheld
  obtain ⟨hind, clcc', hclcc', hactive, hheld, hactives, hhelds⟩ := hpicture
  obtain rfl : clcc = clcc' := Option.some.inj (hclcc.symm.trans hclcc')
  obtain ⟨active, held⟩ := line
  obtain ⟨party, rfl⟩ : ∃ party, active = some party := by
    cases active with
    | none => simp [hlegs] at hactive
    | some party => exact ⟨party, rfl⟩
  have hallowed := hactives party rfl
  cases held with
  | none =>
    have hnone := hheld.2 rfl
    change snap.callheld = 0 at hind
    obtain rfl := htell.alone hnone party hallowed
    cases htopology
    rw [judge_dark hclcc hlegs (fun h => absurd (hind.symm.trans h.2) (by decide)) hdark, if_pos hnone]
  | some other =>
    have hsome : heldLegs clcc ≠ [] := fun h => by simpa using hheld.1 h
    change snap.callheld = 1 at hind
    rw [dark_pair hclcc hlegs hsome hdark, resolve_pair hind]
    have hother := hhelds other rfl
    cases party with
    | primary =>
      cases other <;> cases htopology
      rw [if_pos (htell.primaryTalks hsome hallowed hother)]
    | newcomer =>
      cases other <;> cases htopology
      exact absurd hother (htell.newcomerTalks hsome hallowed)
    | stranger => exact absurd hother (htell.strangerTalks hsome hallowed other)

theorem indicator_of_pictures (hpicture : Pictures primary newcomer snap line) (hclcc : snap.clcc = some clcc) :
    snap.callheld = impliedIndicator clcc := by
  obtain ⟨hind, clcc', hclcc', hactive, hheld, -, -⟩ := hpicture
  obtain rfl : clcc = clcc' := Option.some.inj (hclcc.symm.trans hclcc')
  obtain ⟨active, held⟩ := line
  rw [hind, impliedIndicator]
  cases held with
  | none => rw [if_pos (hheld.2 rfl)]; cases active <;> rfl
  | some other =>
    rw [if_neg fun h => by simpa using hheld.1 h]
    cases active with
    | none => rw [if_pos (hactive.2 rfl)]; rfl
    | some party => rw [if_neg fun h => by simpa using hactive.1 h]; rfl

theorem judge_pictured (hdistinct : Distinct primary newcomer) (hevidence : EvidenceSuffices snap primary newcomer)
    (hpicture : Pictures primary newcomer snap line) (htopology : line.topology = some verdict) :
    judgeSwapBack snap primary newcomer = verdict := by
  cases htalks : line.active with
  | none => exact judge_pictured_nobody hpicture htalks htopology
  | some party =>
    obtain ⟨clcc, hclcc, hactive, -, hactives, -⟩ := hpicture.legs
    obtain ⟨a, rest, hlegs⟩ : ∃ a rest, activeLegs clcc = a :: rest := by
      cases h : activeLegs clcc with
      | nil => simp [hactive.1 h] at htalks
      | cons a rest => exact ⟨a, rest, rfl⟩
    rcases hactives party htalks a (by simp [hlegs]) with hwithheld | hshown
    · have htell := (hevidence clcc a rest hclcc hlegs).2.2 hdistinct (indicator_of_pictures hpicture hclcc) hwithheld
      exact judge_pictured_withheld hpicture hclcc hlegs hwithheld htell htopology
    · exact judge_pictured_shown hdistinct hpicture hclcc hlegs htalks hshown htopology

/-- A judge that names every line the picture allows has been told by the others. -/
theorem othersTell_of_topology (hclcc : snap.clcc = some clcc) (hlegs : activeLegs clcc = a :: rest)
    (hind : snap.callheld = impliedIndicator clcc) (hwithheld : suffixOf a.number = none)
    (hnames : ∀ line verdict, Pictures primary newcomer snap line → line.topology = some verdict →
      judgeSwapBack snap primary newcomer = verdict) : OthersTell snap primary newcomer clcc := by
  have hdark : ¬Recognised primary newcomer a := dark_of_withheld hwithheld
  have hpair : heldLegs clcc ≠ [] → ∀ party other verdict, Allows primary newcomer (activeLegs clcc) party →
      Allows primary newcomer (heldLegs clcc) other → PhoneLine.topology ⟨some party, some other⟩ = some verdict →
      (if snap.currentAlive then SwapBackVerdict.swapped else .allGone) = verdict := by
    intro hsome party other verdict hparty hother htopology
    have hone : snap.callheld = 1 := hind.trans (impliedIndicator_pair hlegs hsome)
    rw [← resolve_pair hone, ← dark_pair hclcc hlegs hsome hdark]
    refine hnames ⟨some party, some other⟩ verdict ⟨hone, clcc, hclcc, ?_, ?_, ?_, ?_⟩ htopology
    · simp [hlegs]
    · simp [hsome]
    · rintro _ ⟨⟩
      exact hparty
    · rintro _ ⟨⟩
      exact hother
  constructor
  case alone =>
    intro hnone party hparty
    have hzero : snap.callheld = 0 := hind.trans (impliedIndicator_alone hnone)
    have hpicture : Pictures primary newcomer snap ⟨some party, none⟩ := by
      refine ⟨hzero, clcc, hclcc, by simp [hlegs], by simp [hnone], ?_, nofun⟩
      rintro _ ⟨⟩
      exact hparty
    have hjudge := judge_dark hclcc hlegs (fun h => absurd (hzero.symm.trans h.2) (by decide)) hdark
    rw [if_pos hnone] at hjudge
    cases party with
    | primary => exact nomatch hjudge.symm.trans (hnames _ _ hpicture rfl)
    | newcomer => rfl
    | stranger => exact nomatch hjudge.symm.trans (hnames _ _ hpicture rfl)
  case strangerTalks =>
    intro hsome hstranger other hother
    have hverdict := hpair hsome .stranger other .strangerActive hstranger hother rfl
    split_ifs at hverdict
  case newcomerTalks =>
    intro hsome hnewcomer hprimary
    have hverdict := hpair hsome .newcomer .primary .stayedOnNewcomer hnewcomer hprimary rfl
    split_ifs at hverdict
  case primaryTalks =>
    intro hsome hprimary hnewcomer
    have hverdict := hpair hsome .primary .newcomer .swapped hprimary hnewcomer rfl
    by_contra halive
    rw [if_neg halive] at hverdict
    cases hverdict

end Topology

/-! ### The final verdict -/

theorem resolve_actionable (snap : SwapSnapshot) : resolveSwapBackByIndicator snap ≠ .inconclusive := by
  unfold resolveSwapBackByIndicator
  split_ifs <;> simp

theorem settle_actionable (snap snap2 : SwapSnapshot) (primary newcomer : Option String) :
    settleAndJudgeSwapBack snap snap2 primary newcomer ≠ .inconclusive := by
  unfold settleAndJudgeSwapBack
  split_ifs with hfirst hsecond
  · exact hfirst
  · exact hsecond
  · exact resolve_actionable snap2

theorem tracker_actionable {verdict : SwapBackVerdict} (h : verdict ≠ .inconclusive) (tracked : Bool) :
    swapBackVerdictForTracker verdict tracked ≠ .inconclusive ∧
      (tracked = false → (swapBackVerdictForTracker verdict tracked).needsNewcomer = false) := by
  cases tracked <;> cases verdict <;> simp_all [swapBackVerdictForTracker, SwapBackVerdict.needsNewcomer]

/-! ### Where the evidence is enough -/

section Evidence

variable {snap : SwapSnapshot} {primary newcomer : Option String} {clcc : List ClccLeg} {a : ClccLeg}
    {rest : List ClccLeg}

/-- An empty list and a held leg alone are only read where the indicator says the same. -/
theorem gone_nobody (hclcc : snap.clcc = some clcc) (hactive : activeLegs clcc = [])
    (hodd : snap.callheld ≠ impliedIndicator clcc) :
    (judgeSwapBack snap primary newcomer).gone = false := by
  rw [judge_nobody hclcc hactive]
  by_cases hheld : heldLegs clcc = []
  · rw [if_pos hheld, if_neg (by simpa [impliedIndicator, hheld] using hodd)]
    rfl
  · rw [if_neg hheld, if_neg (by simpa [impliedIndicator, hheld, hactive] using hodd)]
    rfl

/-- A lone active leg is read as a loss whatever the indicator reads but 1, a known stranger's apart. -/
theorem gone_alone (hclcc : snap.clcc = some clcc) (hactive : activeLegs clcc = a :: rest) (hheld : heldLegs clcc = [])
    (hone : snap.callheld ≠ 1) : (judgeSwapBack snap primary newcomer).gone = false ↔
      KnownStranger primary newcomer a := by
  have hsettled : ¬(heldLegs clcc = [] ∧ snap.callheld = 1) := fun h => hone h.2
  by_cases hrecognised : Recognised primary newcomer a
  · rcases hrecognised with ⟨hknown, hwho⟩ | hstranger
    · by_cases hprimary : suffixOf a.number = suffixOf primary
      · rw [judge_primary hclcc hactive hsettled hknown hprimary, if_pos hheld]
        exact iff_of_false (by simp [SwapBackVerdict.gone]) fun h => h.2.2.2.1 hprimary
      · have hnewcomer := hwho.resolve_left hprimary
        rw [judge_newcomer hclcc hactive hsettled hknown hprimary hnewcomer, if_pos hheld]
        exact iff_of_false (by simp [SwapBackVerdict.gone]) fun h => h.2.2.2.2 hnewcomer
    · rw [judge_stranger hclcc hactive hsettled hstranger]
      exact iff_of_true rfl hstranger
  · rw [judge_dark hclcc hactive hsettled hrecognised, if_pos hheld]
    exact iff_of_false (by simp [SwapBackVerdict.gone]) fun h => hrecognised (.inr h)

/-- A recognised active leg beside a held one is never read as a loss, and never as the primary's where it is not. -/
theorem judge_recognised_pair (hclcc : snap.clcc = some clcc) (hactive : activeLegs clcc = a :: rest)
    (hheld : heldLegs clcc ≠ [])
    (hrecognised : Recognised primary newcomer a) :
    (judgeSwapBack snap primary newcomer).gone = false ∧
      (NotThePrimary primary a → (judgeSwapBack snap primary newcomer).primaryActive = false) := by
  have hsettled : ¬(heldLegs clcc = [] ∧ snap.callheld = 1) := fun h => hheld h.1
  rcases hrecognised with ⟨hknown, hwho⟩ | hstranger
  · by_cases hprimary : suffixOf a.number = suffixOf primary
    · rw [judge_primary hclcc hactive hsettled hknown hprimary, if_neg hheld]
      exact ⟨rfl, fun h => absurd hprimary h.2.2⟩
    · rw [judge_newcomer hclcc hactive hsettled hknown hprimary (hwho.resolve_left hprimary), if_neg hheld]
      exact ⟨rfl, fun _ => rfl⟩
  · rw [judge_stranger hclcc hactive hsettled hstranger]
    exact ⟨rfl, fun _ => rfl⟩

/-- What the indicator alone makes of a pair. -/
theorem resolve_gone (snap : SwapSnapshot) :
    (resolveSwapBackByIndicator snap).gone = false ↔
      (snap.callheld = 1 ∨ 2 < snap.callheld) ∧ snap.currentAlive = true := by
  unfold resolveSwapBackByIndicator
  split_ifs with htwo hzero halive halive
  · simp [SwapBackVerdict.gone, htwo]
  · simp [SwapBackVerdict.gone, hzero]
  · simp [SwapBackVerdict.gone, hzero]
  · refine iff_of_true rfl ⟨?_, halive⟩
    omega
  · exact iff_of_false (by simp [SwapBackVerdict.gone]) fun h => halive h.2

theorem resolve_primaryActive (snap : SwapSnapshot) :
    (resolveSwapBackByIndicator snap).primaryActive = true ↔ (resolveSwapBackByIndicator snap).gone = false := by
  unfold resolveSwapBackByIndicator
  split_ifs <;> simp [SwapBackVerdict.gone, SwapBackVerdict.primaryActive]

/-- Alone, an active leg is the primary's only by the primary's own number. -/
theorem alone_notThePrimary (hclcc : snap.clcc = some clcc) (hactive : activeLegs clcc = a :: rest)
    (hheld : heldLegs clcc = [])
    (hnot : NotThePrimary primary a) : (judgeSwapBack snap primary newcomer).primaryActive = false := by
  by_cases hone : snap.callheld = 1
  · rw [judge_transitional hclcc hactive hheld hone]
    rfl
  have hsettled : ¬(heldLegs clcc = [] ∧ snap.callheld = 1) := fun h => hone h.2
  by_cases hrecognised : Recognised primary newcomer a
  · rcases hrecognised with ⟨hknown, hwho⟩ | hstranger
    · rw [judge_newcomer hclcc hactive hsettled hknown hnot.2.2 (hwho.resolve_left hnot.2.2), if_pos hheld]
      rfl
    · rw [judge_stranger hclcc hactive hsettled hstranger]
      rfl
  · rw [judge_dark hclcc hactive hsettled hrecognised, if_pos hheld]
    rfl

end Evidence

end Aokie.Plugin.Switchboard
