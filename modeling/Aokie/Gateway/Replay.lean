import Aokie.Lib.Run
import Aokie.Lib.Rust

/-! The gateway's cache of one-use ids: what it forgets, and that it decides as if it forgot nothing. -/

namespace Aokie.Gateway

open Aokie.Lib

structure Use where
  appId : String
  id : String
  expiresAt : ℕ
  deriving DecidableEq, Repr

inductive ReplayClaim
  | fresh | replay | appFull | full
  deriving DecidableEq, Repr

structure Limits where
  perApp : ℕ
  total : ℕ
  perApp_pos : 0 < perApp

def claimedAdmissionLimits : Limits := ⟨1024, 16384, by decide⟩
def usedEndpointJtiLimits : Limits := ⟨4096, 65536, by decide⟩

def replayCacheSweepSeconds : ℕ := 60

structure ReplayCache where
  byApp : List (String × List (String × ℕ)) := []
  total : ℕ := 0
  prunedAt : ℕ := 0
  deriving DecidableEq, Repr

def unexpired (now : ℕ) (entries : List (String × ℕ)) : List (String × ℕ) := entries.filter fun e => now < e.2

namespace ReplayCache

variable (c : ReplayCache)

def size : ℕ := (c.byApp.map fun a => a.2.length).sum

/-- `entry(app)`, changed in place. -/
def setEntries (appId : String) (entries : List (String × ℕ)) : ReplayCache :=
  { c with byApp := c.byApp.map fun a => if a.1 = appId then (a.1, entries) else a }

def removeApp (appId : String) : ReplayCache := { c with byApp := c.byApp.filter fun a => a.1 ≠ appId }

def prune (now : ℕ) : ReplayCache :=
  let kept := (c.byApp.map fun a => (a.1, unexpired now a.2)).filter fun a => !a.2.isEmpty
  ⟨kept, (kept.map fun a => a.2.length).sum, now⟩

def insert (use : Use) : ReplayCache :=
  match c.byApp.lookup use.appId with
  | some entries =>
      { c.setEntries use.appId (entries ++ [(use.id, use.expiresAt)]) with total := c.total + 1 }
  | none => { c with byApp := c.byApp ++ [(use.appId, [(use.id, use.expiresAt)])], total := c.total + 1 }

def letIn (limits : Limits) (use : Use) (now : ℕ) : ReplayCache × ReplayClaim :=
  if limits.total ≤ c.total then
    let c := c.prune now
    if limits.total ≤ c.total then (c, .full) else (c.insert use, .fresh)
  else (c.insert use, .fresh)

def retain (appId : String) (entries : List (String × ℕ)) (now : ℕ) : ReplayCache :=
  let live := unexpired now entries
  { c.setEntries appId live with total := c.total - (entries.length - live.length) }

def claimAmong (limits : Limits) (live : List (String × ℕ)) (use : Use) (now : ℕ) : ReplayCache × ReplayClaim :=
  if live.isEmpty then (c.removeApp use.appId).letIn limits use now
  else if live.any fun e => e.1 = use.id then (c, .replay)
  else if limits.perApp ≤ live.length then (c, .appFull)
  else c.letIn limits use now

def claim (limits : Limits) (use : Use) (now : ℕ) : ReplayCache × ReplayClaim :=
  let c := if saturatingAdd c.prunedAt replayCacheSweepSeconds ≤ now then c.prune now else c
  match c.byApp.lookup use.appId with
  | some entries => (c.retain use.appId entries now).claimAmong limits (unexpired now entries) use now
  | none => c.letIn limits use now

end ReplayCache

/-! ### The ledger that forgets nothing -/

def Use.live (now : ℕ) (use : Use) : Bool := now < use.expiresAt

def answerTo (limits : Limits) (live : List Use) (use : Use) : ReplayClaim :=
  let mine := live.filter fun u => u.appId = use.appId
  if mine.any fun u => u.id = use.id then .replay
  else if limits.perApp ≤ mine.length then .appFull
  else if limits.total ≤ live.length then .full
  else .fresh

/-! ### What the cache holds -/

def usesOf (byApp : List (String × List (String × ℕ))) : List Use :=
  byApp.flatMap fun a => a.2.map fun e => ⟨a.1, e.1, e.2⟩

def ReplayCache.uses (c : ReplayCache) : List Use := usesOf c.byApp

/-- The maps are keyed once, the running total is their size, and both bounds hold. -/
structure ReplayCache.Accounted (limits : Limits) (c : ReplayCache) : Prop where
  keys : (c.byApp.map Prod.fst).Nodup
  total : c.total = c.size
  perApp : ∀ a ∈ c.byApp, a.2.length ≤ limits.perApp
  bounded : c.total ≤ limits.total

section Contents

variable {c : ReplayCache} {limits : Limits} {use : Use} {now : ℕ} {appId : String}
  {byApp l r : List (String × List (String × ℕ))} {entries : List (String × ℕ)}

lemma usesOf_append (l r : List (String × List (String × ℕ))) : usesOf (l ++ r) = usesOf l ++ usesOf r :=
  List.flatMap_append

lemma usesOf_cons (appId : String) (entries : List (String × ℕ)) (r : List (String × List (String × ℕ))) :
    usesOf ((appId, entries) :: r) = (entries.map fun e => ⟨appId, e.1, e.2⟩) ++ usesOf r := rfl

lemma length_uses (c : ReplayCache) : c.uses.length = c.size := by
  simp [ReplayCache.uses, usesOf, ReplayCache.size, List.length_flatMap]

lemma appId_of_mem_usesOf (h : appId ∉ byApp.map Prod.fst) (hu : use ∈ usesOf byApp) : use.appId ≠ appId := by
  obtain ⟨a, ha, hin⟩ := List.mem_flatMap.mp hu
  obtain ⟨e, -, rfl⟩ := List.mem_map.mp hin
  rintro rfl
  exact h (List.mem_map_of_mem ha)

lemma map_unexpired (appId : String) (entries : List (String × ℕ)) (now : ℕ) :
    (unexpired now entries).map (fun e => (⟨appId, e.1, e.2⟩ : Use)) =
      (entries.map fun e => (⟨appId, e.1, e.2⟩ : Use)).filter (Use.live now) := by
  rw [List.filter_map]
  rfl

lemma split_of_lookup (hkeys : (byApp.map Prod.fst).Nodup) (hlookup : byApp.lookup appId = some entries) :
    ∃ l r, byApp = l ++ (appId, entries) :: r ∧ appId ∉ l.map Prod.fst ∧ appId ∉ r.map Prod.fst := by
  induction byApp with
  | nil => cases hlookup
  | cons a byApp ih =>
      obtain ⟨app, es⟩ := a
      rw [List.map_cons, List.nodup_cons] at hkeys
      rw [List.lookup_cons] at hlookup
      split at hlookup
      next heq =>
        cases hlookup
        obtain rfl := beq_iff_eq.mp heq
        exact ⟨[], byApp, rfl, nofun, hkeys.1⟩
      next hne =>
        obtain ⟨l, r, rfl, hl, hr⟩ := ih hkeys.2 hlookup
        refine ⟨(app, es) :: l, r, rfl, ?_, hr⟩
        rw [List.map_cons, List.mem_cons, not_or]
        exact ⟨by simpa using hne, hl⟩

lemma not_mem_of_lookup (hlookup : byApp.lookup appId = none) : appId ∉ byApp.map Prod.fst := by
  intro hin
  obtain ⟨a, ha, rfl⟩ := List.mem_map.mp hin
  have hnone := List.lookup_eq_none_iff.mp hlookup a ha
  simp at hnone

lemma map_of_not_mem (h : appId ∉ l.map Prod.fst) (entries : List (String × ℕ)) :
    (l.map fun a => if a.1 = appId then (a.1, entries) else a) = l := by
  refine (List.map_congr_left fun a ha => ?_).trans (List.map_id l)
  rw [if_neg]
  · rfl
  · rintro rfl
    exact h (List.mem_map_of_mem ha)

lemma filter_of_not_mem (h : appId ∉ l.map Prod.fst) : (l.filter fun a => a.1 ≠ appId) = l := by
  apply List.filter_eq_self.mpr
  intro a ha
  refine decide_eq_true ?_
  rintro rfl
  exact h (List.mem_map_of_mem ha)

section Split

variable (hsplit : c.byApp = l ++ (appId, entries) :: r) (hl : appId ∉ l.map Prod.fst) (hr : appId ∉ r.map Prod.fst)

include hsplit hl hr

lemma byApp_setEntries (entries' : List (String × ℕ)) :
    (c.setEntries appId entries').byApp = l ++ (appId, entries') :: r := by
  simp only [ReplayCache.setEntries, hsplit, List.map_append, List.map_cons, if_true]
  rw [map_of_not_mem hl, map_of_not_mem hr]

lemma byApp_removeApp : (c.removeApp appId).byApp = l ++ r := by
  simp only [ReplayCache.removeApp, hsplit, List.filter_append, List.filter_cons]
  rw [filter_of_not_mem hl, filter_of_not_mem hr]
  simp

lemma uses_of_split : c.uses.filter (fun u => u.appId = appId) = entries.map fun e => ⟨appId, e.1, e.2⟩ := by
  have hnone : ∀ m : List (String × List (String × ℕ)), appId ∉ m.map Prod.fst →
      (usesOf m).filter (fun u => u.appId = appId) = [] := by
    intro m hm
    apply List.filter_eq_nil_iff.mpr
    intro u hu
    simpa using appId_of_mem_usesOf hm hu
  rw [ReplayCache.uses, hsplit, usesOf_append, usesOf_cons, List.filter_append, List.filter_append,
    hnone l hl, hnone r hr,
    List.nil_append, List.append_nil]
  apply List.filter_eq_self.mpr
  intro u hu
  obtain ⟨e, -, rfl⟩ := List.mem_map.mp hu
  exact decide_eq_true rfl

end Split

lemma uses_prune (c : ReplayCache) (now : ℕ) : (c.prune now).uses = c.uses.filter (Use.live now) := by
  obtain ⟨byApp, total, prunedAt⟩ := c
  simp only [ReplayCache.uses, usesOf, ReplayCache.prune]
  induction byApp with
  | nil => rfl
  | cons a byApp ih =>
      rw [List.map_cons, List.flatMap_cons, List.filter_append, ← ih, ← map_unexpired, List.filter_cons]
      cases hlive : unexpired now a.2 with
      | nil => simp
      | cons e es => simp

lemma prune_accounted (h : c.Accounted limits) (now : ℕ) : (c.prune now).Accounted limits where
  keys := by
    have hkeys : ((c.byApp.map fun a => (a.1, unexpired now a.2)).map Prod.fst).Nodup := by
      simpa [List.map_map, Function.comp_def] using h.keys
    exact hkeys.sublist (List.filter_sublist.map _)
  total := rfl
  perApp := by
    intro a ha
    obtain ⟨b, hb, rfl⟩ := List.mem_map.mp (List.mem_of_mem_filter ha)
    exact (List.length_filter_le _ _).trans (h.perApp b hb)
  bounded := by
    have hsize : (c.prune now).total = (c.prune now).uses.length := (length_uses (c.prune now)).symm
    rw [hsize, uses_prune]
    refine (List.length_filter_le _ _).trans ?_
    rw [length_uses, ← h.total]
    exact h.bounded

lemma insert_accounted (h : c.Accounted limits) (hroom : c.total < limits.total)
    (happ : (c.uses.filter fun u => u.appId = use.appId).length < limits.perApp) :
    (c.insert use).Accounted limits ∧ (c.insert use).uses.Perm (c.uses ++ [use]) := by
  have htotal := h.total
  unfold ReplayCache.insert
  split
  next entries hlookup =>
    obtain ⟨l, r, hsplit, hl, hr⟩ := split_of_lookup h.keys hlookup
    rw [uses_of_split hsplit hl hr, List.length_map] at happ
    have hbyApp := byApp_setEntries hsplit hl hr (entries ++ [(use.id, use.expiresAt)])
    have hkeys := h.keys
    have hper := h.perApp
    simp only [ReplayCache.size, hsplit, List.map_append, List.map_cons, List.sum_append, List.sum_cons] at htotal hkeys
    rw [hsplit] at hper
    refine ⟨⟨?_, ?_, ?_, hroom⟩, ?_⟩
    · simpa only [hbyApp, List.map_append, List.map_cons] using hkeys
    · simp only [ReplayCache.size, hbyApp, List.map_append, List.map_cons, List.sum_append, List.sum_cons,
        List.length_append,
        List.length_singleton]
      omega
    · simp only [hbyApp]
      intro a ha
      rcases List.mem_append.mp ha with ha | ha
      · exact hper a (List.mem_append_left _ ha)
      · rcases List.mem_cons.mp ha with rfl | ha
        · rw [List.length_append]
          exact happ
        · exact hper a (List.mem_append_right _ (List.mem_cons_of_mem _ ha))
    · simp only [ReplayCache.uses, hbyApp, hsplit, usesOf_append, usesOf_cons, List.map_append, List.map_cons,
        List.map_nil,
        List.append_assoc]
      refine List.Perm.append_left _ (List.Perm.append_left _ ?_)
      exact List.perm_append_comm
  next hlookup =>
    have hnew := not_mem_of_lookup hlookup
    refine ⟨⟨?_, ?_, ?_, hroom⟩, ?_⟩
    · rw [List.map_append, List.nodup_append]
      refine ⟨h.keys, List.nodup_singleton _, ?_⟩
      rintro a ha b hb rfl
      obtain rfl : a = use.appId := List.mem_singleton.mp hb
      exact hnew ha
    · simp only [ReplayCache.size, List.map_append, List.sum_append] at htotal ⊢
      simp [htotal]
    · intro a ha
      rcases List.mem_append.mp ha with ha | ha
      · exact h.perApp a ha
      · rw [List.mem_singleton.mp ha]
        exact limits.perApp_pos
    · simp only [ReplayCache.uses, usesOf_append]
      exact List.Perm.refl _

def SameLive (now : ℕ) (held uses : List Use) : Prop := (held.filter (Use.live now)).Perm (uses.filter (Use.live now))

lemma SameLive.refl (now : ℕ) (uses : List Use) : SameLive now uses uses := List.Perm.refl _

lemma SameLive.trans {u v w : List Use} (h : SameLive now u v) (h' : SameLive now v w) : SameLive now u w :=
  List.Perm.trans h h'

lemma SameLive.append {u v : List Use} (h : SameLive now u v) (more : List Use) :
    SameLive now (u ++ more) (v ++ more) := by
  rw [SameLive, List.filter_append, List.filter_append]
  exact h.append_right _

lemma sameLive_of_perm {u v : List Use} (h : u.Perm v) : SameLive now u v := h.filter _

lemma sameLive_filter (uses : List Use) : SameLive now (uses.filter (Use.live now)) uses := by
  rw [SameLive, List.filter_filter]
  simp

lemma answerTo_congr {u v : List Use} (h : u.Perm v) (use : Use) : answerTo limits u use = answerTo limits v use := by
  have hmine := h.filter fun u => u.appId = use.appId
  simp only [answerTo, hmine.any_eq, hmine.length_eq, h.length_eq]

lemma letIn_spec (h : c.Accounted limits)
    (happ : (c.uses.filter fun u => u.appId = use.appId).length < limits.perApp) (now : ℕ) :
    (c.letIn limits use now).1.Accounted limits ∧
      (c.letIn limits use now).2 =
        (if limits.total ≤ (c.uses.filter (Use.live now)).length then .full else .fresh) ∧
      SameLive now (c.letIn limits use now).1.uses
        (c.uses ++ if (c.letIn limits use now).2 = .fresh then [use] else []) := by
  have hlen : c.uses.length = c.total := (length_uses c).trans h.total.symm
  unfold ReplayCache.letIn
  by_cases hfull : limits.total ≤ c.total
  · have hpruned := prune_accounted h now
    have huses := uses_prune c now
    have hsize : (c.prune now).total = (c.uses.filter (Use.live now)).length := by
      rw [hpruned.total, ← length_uses, huses]
    rw [if_pos hfull]
    dsimp only
    by_cases hstill : limits.total ≤ (c.prune now).total
    · rw [if_pos hstill, if_pos (hsize ▸ hstill)]
      refine ⟨hpruned, rfl, ?_⟩
      rw [huses]
      simpa using sameLive_filter c.uses
    · rw [if_neg hstill, if_neg (hsize ▸ hstill)]
      have hroom : ((c.prune now).uses.filter fun u => u.appId = use.appId).length < limits.perApp := by
        rw [huses, List.filter_filter]
        refine lt_of_le_of_lt ?_ happ
        apply List.Sublist.length_le
        apply List.monotone_filter_right
        intro u hu
        exact (Bool.and_eq_true_iff.mp hu).1
      obtain ⟨haccounted, hperm⟩ := insert_accounted hpruned (by omega) hroom
      refine ⟨haccounted, rfl, (sameLive_of_perm hperm).trans ?_⟩
      rw [huses]
      exact (sameLive_filter c.uses).append [use]
  · have hnot : ¬limits.total ≤ (c.uses.filter (Use.live now)).length := by
      have hle := List.length_filter_le (Use.live now) c.uses
      omega
    rw [if_neg hfull, if_neg hnot]
    obtain ⟨haccounted, hperm⟩ := insert_accounted h (by omega) happ
    exact ⟨haccounted, rfl, sameLive_of_perm hperm⟩

lemma retain_accounted (h : c.Accounted limits) (hlookup : c.byApp.lookup appId = some entries) {c' : ReplayCache}
    (hc' : c' = c.retain appId entries now) :
    c'.Accounted limits ∧ SameLive now c'.uses c.uses ∧
      c'.uses.filter (fun u => u.appId = appId) = (unexpired now entries).map (fun e => ⟨appId, e.1, e.2⟩) ∧
      (unexpired now entries = [] → (c'.removeApp appId).Accounted limits ∧ (c'.removeApp appId).uses = c'.uses) := by
  obtain ⟨l, r, hsplit, hl, hr⟩ := split_of_lookup h.keys hlookup
  have hbyApp : c'.byApp = l ++ (appId, unexpired now entries) :: r := by
    rw [hc']
    exact byApp_setEntries hsplit hl hr _
  have hlen : (unexpired now entries).length ≤ entries.length := List.length_filter_le _ _
  have hkeys := h.keys
  have htotal := h.total
  have hper := h.perApp
  simp only [ReplayCache.size, hsplit, List.map_append, List.map_cons, List.sum_append, List.sum_cons] at htotal hkeys
  rw [hsplit] at hper
  have htotal' : c'.total = (l.map fun a => a.2.length).sum + ((unexpired now entries).length +
      (r.map fun a => a.2.length).sum) := by
    rw [hc']
    dsimp only [ReplayCache.retain]
    omega
  have hbound : c'.total ≤ limits.total := by
    have hbounded := h.bounded
    omega
  have hothers : ∀ a ∈ l ++ r, a.2.length ≤ limits.perApp := by
    intro a ha
    rcases List.mem_append.mp ha with ha | ha
    · exact hper a (List.mem_append_left _ ha)
    · exact hper a (List.mem_append_right _ (List.mem_cons_of_mem _ ha))
  refine ⟨⟨?_, ?_, ?_, hbound⟩, ?_, uses_of_split hbyApp hl hr, fun hempty => ⟨⟨?_, ?_, ?_, hbound⟩, ?_⟩⟩
  · simpa only [hbyApp, List.map_append, List.map_cons] using hkeys
  · simp only [ReplayCache.size, hbyApp, List.map_append, List.map_cons, List.sum_append, List.sum_cons, htotal']
  · rw [hbyApp]
    intro a ha
    rcases List.mem_append.mp ha with ha | ha
    · exact hothers a (List.mem_append_left _ ha)
    · rcases List.mem_cons.mp ha with rfl | ha
      · exact hlen.trans (hper (appId, entries) (by simp))
      · exact hothers a (List.mem_append_right _ ha)
  · simp only [SameLive, ReplayCache.uses, hbyApp, hsplit, usesOf_append, usesOf_cons, List.filter_append,
      map_unexpired,
      List.filter_filter, Bool.and_self]
    exact List.Perm.refl _
  · rw [byApp_removeApp hbyApp hl hr, List.map_append]
    exact hkeys.sublist (List.Sublist.append_left (List.sublist_cons_self _ _) _)
  · simp only [ReplayCache.size, byApp_removeApp hbyApp hl hr, List.map_append, List.sum_append]
    rw [show (c'.removeApp appId).total = c'.total from rfl, htotal', hempty, List.length_nil, Nat.zero_add]
  · rw [byApp_removeApp hbyApp hl hr]
    exact hothers
  · simp only [ReplayCache.uses, byApp_removeApp hbyApp hl hr, hbyApp, usesOf_append, usesOf_cons, hempty, List.map_nil,
      List.nil_append]

lemma claimAmong_spec {live : List (String × ℕ)} (h : c.Accounted limits)
    (huses : c.uses.filter (fun u => u.appId = use.appId) = live.map fun e => ⟨use.appId, e.1, e.2⟩)
    (hremove : live = [] → (c.removeApp use.appId).Accounted limits ∧ (c.removeApp use.appId).uses = c.uses) :
    (c.claimAmong limits live use now).1.Accounted limits ∧
      (c.claimAmong limits live use now).2 =
        (if live.any fun e => e.1 = use.id then .replay
        else if limits.perApp ≤ live.length then .appFull
        else if limits.total ≤ (c.uses.filter (Use.live now)).length then .full
        else .fresh) ∧
      SameLive now (c.claimAmong limits live use now).1.uses
        (c.uses ++ if (c.claimAmong limits live use now).2 = .fresh then [use] else []) := by
  have hcount : (c.uses.filter fun u => u.appId = use.appId).length = live.length := by rw [huses, List.length_map]
  unfold ReplayCache.claimAmong
  by_cases hempty : live = []
  · subst hempty
    obtain ⟨h', huses'⟩ := hremove rfl
    have hroom : ((c.removeApp use.appId).uses.filter fun u => u.appId = use.appId).length < limits.perApp := by
      rw [huses', hcount]
      exact limits.perApp_pos
    have hletIn := letIn_spec h' hroom now
    rw [huses'] at hletIn
    simpa [limits.perApp_pos.ne'] using hletIn
  · rw [if_neg (by simpa using hempty)]
    by_cases hused : live.any (fun e => e.1 = use.id) = true
    · rw [if_pos hused, if_pos hused]
      exact ⟨h, rfl, by simpa using SameLive.refl now c.uses⟩
    · rw [if_neg hused, if_neg hused]
      by_cases hfull : limits.perApp ≤ live.length
      · rw [if_pos hfull, if_pos hfull]
        exact ⟨h, rfl, by simpa using SameLive.refl now c.uses⟩
      · rw [if_neg hfull, if_neg hfull]
        exact letIn_spec h (by omega) now

theorem claim_spec (h : c.Accounted limits) (use : Use) (now : ℕ) :
    (c.claim limits use now).1.Accounted limits ∧
      (c.claim limits use now).2 = answerTo limits (c.uses.filter (Use.live now)) use ∧
      SameLive now (c.claim limits use now).1.uses
        (c.uses ++ if (c.claim limits use now).2 = .fresh then [use] else []) := by
  -- the sweep changes nothing that is still alive
  obtain ⟨c₀, hsweep, h₀, hsame⟩ :
      ∃ c₀, (if saturatingAdd c.prunedAt replayCacheSweepSeconds ≤ now then c.prune now else c) =
      c₀ ∧ c₀.Accounted limits ∧ SameLive now c₀.uses c.uses := by
    split
    · exact ⟨_, rfl, prune_accounted h now, uses_prune c now ▸ sameLive_filter c.uses⟩
    · exact ⟨_, rfl, h, .refl now _⟩
  have hanswer : answerTo limits (c.uses.filter (Use.live now)) use = answerTo limits
      (c₀.uses.filter (Use.live now)) use :=
    (answerTo_congr hsame use).symm
  suffices hclaim : (c.claim limits use now).1.Accounted limits ∧
      (c.claim limits use now).2 = answerTo limits (c₀.uses.filter (Use.live now)) use ∧
      SameLive now (c.claim limits use now).1.uses
        (c₀.uses ++ if (c.claim limits use now).2 = .fresh then [use] else []) by
    obtain ⟨haccounted, hresult, hlive⟩ := hclaim
    exact ⟨haccounted, hresult.trans hanswer.symm, hlive.trans (hsame.append _)⟩
  simp only [ReplayCache.claim, hsweep]
  cases hlookup : c₀.byApp.lookup use.appId with
  | none =>
      have hnone : c₀.uses.filter (fun u => u.appId = use.appId) = [] := by
        apply List.filter_eq_nil_iff.mpr
        intro u hu
        simpa using appId_of_mem_usesOf (not_mem_of_lookup hlookup) hu
      have hmine : (c₀.uses.filter (Use.live now)).filter (fun u => u.appId = use.appId) = [] := by
        rw [List.filter_comm, hnone, List.filter_nil]
      obtain ⟨haccounted, hresult, hlive⟩ := letIn_spec h₀ (by rw [hnone]; exact limits.perApp_pos) now
      refine ⟨haccounted, ?_, hlive⟩
      rw [hresult, answerTo, hmine]
      simp [limits.perApp_pos.ne']
  | some entries =>
      have hmine : (c₀.uses.filter (Use.live now)).filter (fun u => u.appId = use.appId) =
          (unexpired now entries).map fun e => ⟨use.appId, e.1, e.2⟩ := by
        obtain ⟨l, r, hsplit, hl, hr⟩ := split_of_lookup h₀.keys hlookup
        rw [List.filter_comm, uses_of_split hsplit hl hr, map_unexpired]
      obtain ⟨h₁, hlive, huses, hremove⟩ := retain_accounted h₀ hlookup rfl
      obtain ⟨haccounted, hresult, hkept⟩ := claimAmong_spec h₁ huses hremove
      refine ⟨haccounted, ?_, hkept.trans (hlive.append _)⟩
      rw [hresult, answerTo, hmine, hlive.length_eq, List.any_map, List.length_map]
      rfl

end Contents

/-! ### Whole runs -/

/-- A use of an id, or the release of an admission, whose clock may fail. -/
inductive ReplayOp
  | claim (use : Use) (now : ℕ)
  | release (now : Option ℕ)
  deriving DecidableEq, Repr

def ReplayOp.time : ReplayOp → Option ℕ
  | claim _ now => some now
  | release now => now

def replayStep (limits : Limits) : Machine (ReplayCache × List Use) ReplayOp (Option ReplayClaim)
  | (c, uses), .claim use now =>
      let (c, answer) := c.claim limits use now
      ((c, uses ++ if answer = .fresh then [use] else []), some answer)
  | (c, uses), .release now => ((c.prune (now.getD 0), uses), none)

def replayRun (limits : Limits) (ops : List ReplayOp) : ReplayCache × List Use :=
  (replayStep limits).final ({}, []) ops

section Runs

variable {limits : Limits} {ops : List ReplayOp} {now : ℕ}

lemma SameLive.later {u v : List Use} {later : ℕ} (h : SameLive now u v) (hle : now ≤ later) : SameLive later u v := by
  have hsub : ∀ w : List Use, w.filter (Use.live later) = (w.filter (Use.live now)).filter (Use.live later) := by
    intro w
    rw [List.filter_filter]
    apply List.filter_congr
    intro u _
    by_cases hlive : later < u.expiresAt
    · simp [Use.live, hlive, hle.trans_lt hlive]
    · simp [Use.live, hlive]
  rw [SameLive, hsub u, hsub v]
  exact h.filter _

lemma replayRun_concat (limits : Limits) (ops : List ReplayOp) (op : ReplayOp) :
    replayRun limits (ops ++ [op]) = (replayStep limits (replayRun limits ops) op).1 := by
  rw [replayRun, Machine.final_append]
  rfl

lemma replayRun_spec (limits : Limits) (hops : (ops.filterMap ReplayOp.time).Pairwise (· ≤ ·))
    (hnow : ∀ t ∈ ops.filterMap ReplayOp.time, t ≤ now) :
    (replayRun limits ops).1.Accounted limits ∧ SameLive now (replayRun limits ops).1.uses
      (replayRun limits ops).2 := by
  induction ops using List.reverseRecOn generalizing now with
  | nil => exact ⟨⟨List.nodup_nil, rfl, nofun, Nat.zero_le _⟩, .refl now _⟩
  | append_singleton ops op ih =>
      rw [List.filterMap_append, List.pairwise_append] at hops
      rw [List.filterMap_append] at hnow
      obtain ⟨hbefore, -, hlast⟩ := hops
      rw [replayRun_concat]
      cases op with
      | claim use t =>
          obtain ⟨haccounted, hsame⟩ := ih hbefore fun t' ht' => hlast t' ht' t (by simp [ReplayOp.time])
          obtain ⟨hnext, -, hlive⟩ := claim_spec haccounted use t
          refine ⟨hnext, ?_⟩
          have hthen := hlive.trans (hsame.append _)
          exact hthen.later (hnow t (List.mem_append_right _ (by simp [ReplayOp.time])))
      | release t =>
          have hkept : ∀ t' ∈ ops.filterMap ReplayOp.time, t' ≤ now :=
              fun t' ht' => hnow t' (List.mem_append_left _ ht')
          obtain ⟨haccounted, hsame⟩ := ih hbefore hkept
          refine ⟨prune_accounted haccounted _, ?_⟩
          have hle : t.getD 0 ≤ now := by
            cases t with
            | none => exact Nat.zero_le now
            | some t => exact hnow t (List.mem_append_right _ (by simp [ReplayOp.time]))
          have hpruned : SameLive now ((replayRun limits ops).1.prune (t.getD 0)).uses
              (replayRun limits ops).1.uses := by
            rw [uses_prune]
            exact (sameLive_filter _).later hle
          exact hpruned.trans hsame

lemma answerTo_eq_replay {live : List Use} {use : Use} :
    answerTo limits live use = .replay ↔ ∃ u ∈ live, u.appId = use.appId ∧ u.id = use.id := by
  have hany : (live.filter fun u => u.appId = use.appId).any (fun u => u.id = use.id) = true ↔
      ∃ u ∈ live, u.appId = use.appId ∧ u.id = use.id := by
    simp
  rw [← hany]
  simp only [answerTo]
  split_ifs with hused <;> simp [hused]

lemma bound_of_answerTo {live : List Use} {use : Use} :
    (answerTo limits live use = .appFull → limits.perApp ≤ (live.filter fun u => u.appId = use.appId).length) ∧
      (answerTo limits live use = .full → limits.total ≤ live.length) := by
  simp only [answerTo]
  split_ifs with _ hmine htotal <;> simp_all

end Runs

/-- The cache stays within its bounds and its own accounts, and answers every use as the list of all earlier uses
would: never fresh twice before the expiry, and with a refusal only at a bound of unexpired ids. -/
theorem replay_cache_forgets_nothing_alive (limits : Limits) (ops : List ReplayOp) (use : Use) (now : ℕ)
    (htimes : ((ops ++ [ReplayOp.claim use now]).filterMap ReplayOp.time).Pairwise (· ≤ ·)) :
    let (c, uses) := replayRun limits ops
    let live := uses.filter (Use.live now)
    let answer := (c.claim limits use now).2
    c.total = c.size ∧ c.total ≤ limits.total ∧ (∀ a ∈ c.byApp, a.2.length ≤ limits.perApp) ∧
    (answer = .fresh → ∀ u ∈ uses, u.appId = use.appId → u.id = use.id → u.expiresAt ≤ now) ∧
    (answer = .replay → ∃ u ∈ live, u.appId = use.appId ∧ u.id = use.id) ∧
    (answer = .appFull → limits.perApp ≤ (live.filter fun u => u.appId = use.appId).length) ∧
    (answer = .full → limits.total ≤ live.length) := by
  rw [List.filterMap_append, List.pairwise_append] at htimes
  obtain ⟨hbefore, -, hlast⟩ := htimes
  obtain ⟨haccounted, hsame⟩ := replayRun_spec limits hbefore
    fun t ht => hlast t ht now (by simp [ReplayOp.time])
  obtain ⟨-, hanswer, -⟩ := claim_spec haccounted use now
  rw [answerTo_congr hsame] at hanswer
  dsimp only
  rw [hanswer]
  refine ⟨haccounted.total, haccounted.bounded, haccounted.perApp, ?_, answerTo_eq_replay.mp, bound_of_answerTo.1,
    bound_of_answerTo.2⟩
  intro hfresh u hu happ hid
  by_contra hlive
  have hin : u ∈ (replayRun limits ops).2.filter (Use.live now) :=
    List.mem_filter.mpr ⟨hu, by simpa [Use.live] using hlive⟩
  cases (answerTo_eq_replay.mpr ⟨u, hin, happ, hid⟩).symm.trans hfresh

/-- An id is used, an admission is released without a clock and with one, and the id is used again. -/
def reuseRun : List ReplayOp := [.claim ⟨"app", "jti", 30⟩ 0, .release none, .release (some 30)]

theorem replay_cache_reuses_expired :
    let (c, uses) := replayRun claimedAdmissionLimits reuseRun
    let live := uses.filter (Use.live 30)
    let answer := (c.claim claimedAdmissionLimits ⟨"app", "jti", 60⟩ 30).2
    c.total = c.size ∧ c.total ≤ 16384 ∧ (∀ a ∈ c.byApp, a.2.length ≤ 1024) ∧
    (answer = .fresh → ∀ u ∈ uses, u.appId = "app" → u.id = "jti" → u.expiresAt ≤ 30) ∧
    (answer = .replay → ∃ u ∈ live, u.appId = "app" ∧ u.id = "jti") ∧
    (answer = .appFull → 1024 ≤ (live.filter fun u => u.appId = "app").length) ∧
    (answer = .full → 16384 ≤ live.length) :=
  replay_cache_forgets_nothing_alive claimedAdmissionLimits reuseRun ⟨"app", "jti", 60⟩ 30 (by decide)

end Aokie.Gateway
