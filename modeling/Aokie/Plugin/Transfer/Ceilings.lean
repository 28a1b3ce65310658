import Aokie.Lib.Window
import Aokie.Plugin.Transfer.Cancelling

/-! The ceilings on requests to the owner, over any number of calls that share one governor. -/

namespace Aokie.Plugin.Transfer

open Aokie.Lib Aokie.Plugin.RemoteMedia Aokie.Plugin.Assistance

/-- A request that was opened: when, in which call, and under which key of the caller's number. -/
structure Opening where
  time : Instant
  call : ℕ
  key : Option ℕ
  deriving DecidableEq

def hour : Duration := seconds 3600

def ceiling : Option ℕ → ℕ
  | none => maxAttemptsPerWithheldPerHour
  | some _ => maxAttemptsPerCallerPerHour

def times (log : List Opening) : List Instant := log.map Opening.time

def timesOf (key : Option ℕ) (log : List Opening) : List Instant := times (log.filter (·.key = key))

section Log

variable {log : List Opening} {opening : Opening} {key : Option ℕ}

lemma times_concat : times (log ++ [opening]) = times log ++ [opening.time] := by simp [times]

lemma timesOf_concat : timesOf key (log ++ [opening]) = timesOf key log ++ (if opening.key =
    key then [opening.time] else []) := by
  rw [timesOf, List.filter_append, times, List.map_append, ← times, ← timesOf]
  by_cases hkey : opening.key = key
  · simp [hkey]
  · simp [hkey]

lemma mem_timesOf {time : Instant} (h : time ∈ timesOf key log) :
    ∃ opening ∈ log, opening.time = time ∧ opening.key = key := by
  obtain ⟨opening, hmem, rfl⟩ := List.mem_map.1 h
  obtain ⟨hlog, hkey⟩ := List.mem_filter.1 hmem
  exact ⟨opening, hlog, rfl, by simpa using hkey⟩

end Log

section Governor

def Governor.kept (g : Governor) : Option ℕ → List Instant
  | none => g.withheld
  | some key => (g.callers.get key).getD []

/-- A kept list tells of the true one what a ceiling asks, now and later. -/
structure Follows (now : Instant) (kept whole : List Instant) : Prop where
  sorted : kept.Pairwise (· ≤ ·)
  past : ∀ time ∈ kept, time ≤ now
  same : ∀ later, now ≤ later → recent hour later kept = recent hour later whole

structure Tracks (now : Instant) (log : List Opening) (g : Governor) : Prop where
  all : Follows now g.opened (times log)
  each : ∀ key, Follows now (g.kept key) (timesOf key log)

variable {now later : Instant} {kept whole : List Instant} {log : List Opening} {g : Governor} {key : Option ℕ}

lemma prune_eq (h : kept.Pairwise (· ≤ ·)) : Governor.prune kept now = recent hour now kept := dropWhile_eq_recent h

lemma Follows.nil (now : Instant) : Follows now [] [] := ⟨List.Pairwise.nil, by simp, fun _ _ => rfl⟩

lemma Follows.mono (h : Follows now kept whole) (hle : now ≤ later) : Follows later kept whole :=
  ⟨h.sorted, fun time htime => (h.past time htime).trans hle, fun last hlast => h.same last (hle.trans hlast)⟩

lemma Follows.recent (h : Follows now kept whole) : Follows now (recent hour now kept) whole :=
  ⟨h.sorted.sublist List.filter_sublist, fun time htime => h.past time (mem_recent.1 htime).1,
    fun last hlast => (recent_recent hlast).trans (h.same last hlast)⟩

lemma Follows.prune (h : Follows now kept whole) : Follows now (Governor.prune kept now) whole := by
  rw [prune_eq h.sorted]
  exact h.recent

lemma Follows.concat (h : Follows now kept whole) : Follows now (kept ++ [now]) (whole ++ [now]) := by
  refine ⟨?_, ?_, ?_⟩
  · rw [List.pairwise_append]
    refine ⟨h.sorted, List.pairwise_singleton _ _, ?_⟩
    intro time htime last hlast
    rw [List.mem_singleton.1 hlast]
    exact h.past time htime
  · intro time htime
    rcases List.mem_append.1 htime with htime | htime
    · exact h.past time htime
    · exact (List.mem_singleton.1 htime).le
  · intro last hlast
    rw [recent_append, recent_append, h.same last hlast]

lemma Follows.length_prune (h : Follows now kept whole) :
    (Governor.prune kept now).length = (Lib.recent hour now whole).length := by
  rw [prune_eq h.sorted, h.same now le_rfl]

lemma Tracks.mono (h : Tracks now log g) (hle : now ≤ later) : Tracks later log g :=
  ⟨h.all.mono hle, fun key => (h.each key).mono hle⟩

lemma tracks_new (now : Instant) : Tracks now [] Governor.new := by
  refine ⟨.nil now, ?_⟩
  rintro (_ | key) <;> exact .nil now

lemma Tracks.allows (h : Tracks now log g) :
    Tracks now log (g.allows now).1 ∧ ((g.allows now).2 = true →
      (recent hour now (times log)).length < maxAttemptsPerHour) := by
  refine ⟨⟨h.all.prune, ?_⟩, ?_⟩
  · rintro (_ | key)
    · exact h.each none
    · exact h.each (some key)
  · intro hallowed
    rw [Governor.allows, decide_eq_true_eq, h.all.length_prune] at hallowed
    exact hallowed

lemma Tracks.allowsCaller (h : Tracks now log g) (key : Option ℕ) :
    Tracks now log (g.allowsCaller now key).1 ∧
      ((g.allowsCaller now key).2 = true → (recent hour now (timesOf key log)).length < ceiling key) := by
  cases key with
  | none =>
      have hnone : Follows now g.withheld (timesOf none log) := h.each none
      refine ⟨⟨h.all, ?_⟩, ?_⟩
      · rintro (_ | key)
        · exact hnone.prune
        · exact h.each (some key)
      · intro hallowed
        rw [Governor.allowsCaller, decide_eq_true_eq, hnone.length_prune] at hallowed
        exact hallowed
  | some key =>
      have hkey := h.each (some key)
      cases hget : g.callers.get key with
      | none =>
          have hsame : g.allowsCaller now (some key) = (g, true) := by simp only [Governor.allowsCaller, hget]
          rw [hsame]
          refine ⟨h, fun _ => ?_⟩
          rw [Governor.kept, hget] at hkey
          rw [← hkey.same now le_rfl]
          exact show 0 < maxAttemptsPerCallerPerHour by decide
      | some opened =>
          rw [Governor.kept, hget, Option.getD_some] at hkey
          have hasked : g.allowsCaller now (some key) =
              ({ g with callers := g.callers.modify key fun _ => Governor.prune opened now },
              decide ((Governor.prune opened now).length < maxAttemptsPerCallerPerHour)) := by
            simp only [Governor.allowsCaller, hget]
          rw [hasked]
          refine ⟨⟨h.all, ?_⟩, ?_⟩
          · rintro (_ | other)
            · exact h.each none
            · by_cases hother : other = key
              · obtain rfl := hother
                rw [Governor.kept, Keyed.get_modify, if_pos rfl, hget]
                exact hkey.prune
              · have hsame := h.each (some other)
                rw [Governor.kept] at hsame ⊢
                rwa [Keyed.get_modify, if_neg hother]
          · intro hallowed
            rw [decide_eq_true_eq, hkey.length_prune] at hallowed
            exact hallowed

lemma live_size_le (h : Tracks now log g) :
    ((g.callers.mapValues fun _ opened => Governor.prune opened now).retain fun _ opened => !opened.isEmpty).size ≤
      (recent hour now (times log)).length := by
  set live := (g.callers.mapValues fun _ opened => Governor.prune opened now).retain fun _ opened => !opened.isEmpty
  have hrecent : (recent hour now (times log)).length =
      ((log.filter fun opening => now - opening.time < hour).map Opening.key).length := by
    rw [recent, times, List.filter_map, List.length_map, List.length_map]
    rfl
  have hsubset : live.keys.map some ⊆ (log.filter fun opening => now - opening.time < hour).map Opening.key := by
    intro key hkey
    obtain ⟨k, hk, rfl⟩ := List.mem_map.1 hkey
    obtain ⟨opened, hopened⟩ := Keyed.mem_keys_iff.1 hk
    rw [Keyed.get_retain, Option.filter_eq_some_iff, Keyed.get_mapValues, Option.map_eq_some_iff] at hopened
    obtain ⟨⟨whole, hwhole, rfl⟩, hne⟩ := hopened
    have hfollows := h.each (some k)
    rw [Governor.kept, hwhole, Option.getD_some] at hfollows
    have hpruned : Governor.prune whole now = recent hour now (timesOf (some k) log) := by
      rw [prune_eq hfollows.sorted]
      exact hfollows.same now le_rfl
    rw [hpruned] at hne
    obtain ⟨time, htime⟩ := List.exists_mem_of_ne_nil (recent hour now (timesOf (some k) log)) (by simpa using hne)
    obtain ⟨hmem, hlt⟩ := mem_recent.1 htime
    obtain ⟨opening, hopening, rfl, hkey⟩ := mem_timesOf hmem
    exact List.mem_map.2 ⟨opening, List.mem_filter.2 ⟨hopening, by simpa using hlt⟩, hkey⟩
  have hnodup : (live.keys.map some).Nodup := live.nodup.map (Option.some_injective ℕ)
  have hle := (hnodup.subperm hsubset).length_le
  rw [hrecent]
  simpa [Keyed.keys, Keyed.size] using hle

lemma Tracks.noteOpened (h : Tracks now log g) (hroom : (recent hour now (times log)).length < maxAttemptsPerHour)
    (walk : List (ℕ × List Instant) → List (ℕ × List Instant)) (key : Option ℕ) (call : ℕ) :
    Tracks now (log ++ [⟨now, call, key⟩]) (g.noteOpened now walk key) := by
  have hall : Follows now (Governor.prune g.opened now ++ [now]) (times (log ++ [⟨now, call, key⟩])) := by
    rw [times_concat]
    exact h.all.prune.concat
  have hother : ∀ other kept, other ≠ key → Follows now kept (timesOf other log) →
      Follows now kept (timesOf other (log ++ [⟨now, call, key⟩])) := by
    intro other kept hne hkept
    rwa [timesOf_concat, if_neg hne.symm, List.append_nil]
  have hsame : ∀ kept, Follows now kept (timesOf key log) → Follows now (kept ++ [now])
      (timesOf key (log ++ [⟨now, call, key⟩])) := by
    intro kept hkept
    rw [timesOf_concat, if_pos rfl]
    exact hkept.concat
  cases key with
  | none =>
      refine ⟨hall, ?_⟩
      rintro (_ | other)
      · exact hsame _ (h.each none).prune
      · exact hother _ _ (by simp) (h.each (some other))
  | some key =>
      -- with so few live callers nobody is forgotten but who has no recent opening
      have hroomy : ∀ k, Follows now (((if maxCallersTracked ≤ g.callers.size ∧ g.callers.contains key = false then
          Governor.makeRoom now walk g.callers else g.callers).get k).getD []) (timesOf (some k) log) := by
        intro k
        split_ifs
        · have hlive := live_size_le h
          have hfew : ¬maxCallersTracked ≤ ((g.callers.mapValues fun _ opened => Governor.prune opened now).retain
              fun _ opened => !opened.isEmpty).size := by
            simp only [maxCallersTracked, maxAttemptsPerHour] at hroom ⊢
            omega
          have hkept := h.each (some k)
          rw [Governor.kept] at hkept
          rw [Governor.makeRoom, if_neg hfew, Keyed.get_retain, Keyed.get_mapValues]
          cases hget : g.callers.get k with
          | none =>
              rw [hget] at hkept
              exact hkept
          | some opened =>
              rw [hget] at hkept
              have hpruned := hkept.prune
              rw [Option.map_some, Option.filter_some]
              split_ifs with hempty
              · exact hpruned
              · have hnil : Governor.prune opened now = [] := by simpa using hempty
                rw [Option.getD_some, hnil] at hpruned
                exact hpruned
        · exact h.each (some k)
      refine ⟨hall, ?_⟩
      rintro (_ | other)
      · exact hother _ _ (by simp) (h.each none)
      · by_cases heq : other = key
        · obtain rfl := heq
          simp only [Governor.kept, Governor.noteOpened, Keyed.get_insert, if_true, Option.getD_some]
          exact hsame _ (hroomy other).prune
        · simp only [Governor.kept, Governor.noteOpened, Keyed.get_insert, if_neg heq]
          exact hother _ _ (by simpa using heq) (hroomy other)

end Governor

def Effect.rings : Effect → Bool
  | .toolAnswer _ (.ringing _ _) => true
  | _ => false

def Act.env : Act → TransferEnv
  | .begin env _ _ | .poll env _ | .withdrawUnaccepted env _ _ | .cancelRequested env _ _ _ | .park env _ _ |
    .parkForced env _ _ | .endCall env _ => env

namespace World

variable {uuid : ℕ → String} {sanitizeOwnerMessage : String → Option String} {hashOne : List Char → ℕ}
    {env : TransferEnv}
  {request : Open} {w w' : World} {effects : List Effect}

structure Calm (w w' : World) (effects : List Effect) : Prop where
  governor : w'.governor = w.governor
  attempts : w'.call.attempts = w.call.attempts
  unplanned : ∀ planning, w'.call.stage ≠ .planning planning
  silent : effects.any Effect.rings = false

lemma silent_audit (event : Option AuditEvent) : (event.toList.map Effect.audit).any Effect.rings = false := by
  cases event <;> rfl

lemma calm_cancel (l : CancelLooks) (h : ∀ planning, w.call.stage ≠ .planning planning) :
    Calm w (w.cancel uuid env request l).1 (w.cancel uuid env request l).2 := by
  refine ⟨rfl, rfl, h, ?_⟩
  rw [cancel_effects, List.any_cons, silent_audit]
  rfl

lemma calm_finish (resolution : AssistanceResolution) (dropping : Look)
    (h : ∀ planning, w.call.stage ≠ .planning planning) :
    Calm w (w.finish uuid sanitizeOwnerMessage env request resolution dropping).1
      (w.finish uuid sanitizeOwnerMessage env request resolution dropping).2 := by
  refine ⟨rfl, rfl, h, ?_⟩
  rw [finish]
  generalize ending sanitizeOwnerMessage request resolution = told
  obtain ⟨outcome, message, audit, ended⟩ := told
  dsimp only
  rw [List.any_append, silent_audit, Bool.or_false]
  cases outcome <;> rfl

lemma Calm.of_eq {v : World} (h : Calm v w' effects) (hgovernor : v.governor = w.governor)
    (hattempts : v.call.attempts = w.call.attempts) :
    Calm w w' effects := ⟨h.governor.trans hgovernor, h.attempts.trans hattempts, h.unplanned, h.silent⟩

lemma calm_pollOpen (accepted : Bool) (l : OpenLooks) (h : ∀ planning, w.call.stage ≠ .planning planning) :
    Calm w (w.pollOpen uuid sanitizeOwnerMessage env request accepted l).1
      (w.pollOpen uuid sanitizeOwnerMessage env request accepted l).2 := by
  by_cases hcalm : Undisturbed env request l accepted
  · cases hopen : w.stillOpen uuid request l with
    | false =>
        rw [pollOpen_over hcalm hopen]
        refine Calm.of_eq (calm_finish _ l.dropping ?_) rfl rfl
        exact h
    | true =>
        obtain hlate | hlate := Nat.lt_or_ge env.now request.hardDeadline
        · rw [pollOpen_ring hcalm hopen hlate]
          refine ⟨rfl, rfl, ?_, ?_⟩
          · intro planning
            dsimp only [setStage_call]
            split_ifs <;> simp
          · dsimp only
            split_ifs <;> rfl
        · rw [pollOpen_late hcalm hopen hlate]
          refine Calm.of_eq (calm_finish _ l.dropping ?_) rfl rfl
          exact h
  · rw [pollOpen_disturbed hcalm]
    exact calm_cancel _ h

/-- What a call into the machine can do to the ceilings: nothing, or open the request that it planned. -/
inductive Polled (now : Instant) (w : World) : World → List Effect → Prop
  | calm {w' : World} {effects : List Effect} (h : Calm w w' effects) : Polled now w w' effects
  | same {w' : World} {effects : List Effect} (hgovernor : w'.governor = w.governor) (hcall : w'.call = w.call)
      (hsilent : effects.any Effect.rings = false) : Polled now w w' effects
  | opened {w' : World} {effects : List Effect} {planning : Planning}
      {walk : List (ℕ × List Instant) → List (ℕ × List Instant)}
      (hstage : w.call.stage = .planning planning) (hgovernor : w'.governor =
        w.governor.noteOpened now walk planning.callerKey)
      (hattempts : w'.call.attempts = w.call.attempts + 1) (hunplanned : ∀ planning, w'.call.stage ≠ .planning planning)
      (hrings : effects.any Effect.rings = true) : Polled now w w' effects

lemma Polled.andThen {w'' : World} {more : List Effect} {now : Instant} (h : Polled now w w' effects)
    (hcalm : Calm w' w'' more) :
    Polled now w w'' (effects ++ more) := by
  cases h with
  | calm hfirst =>
      refine .calm ⟨hcalm.governor.trans hfirst.governor, hcalm.attempts.trans hfirst.attempts, hcalm.unplanned, ?_⟩
      rw [List.any_append, hfirst.silent, hcalm.silent]
      rfl
  | same hgovernor hcall hsilent =>
      refine .calm ⟨hcalm.governor.trans hgovernor, hcalm.attempts.trans (congrArg TransferCall.attempts hcall),
        hcalm.unplanned, ?_⟩
      rw [List.any_append, hsilent, hcalm.silent]
      rfl
  | opened hstage hgovernor hattempts hunplanned hrings =>
      refine .opened hstage (hcalm.governor.trans hgovernor) (hcalm.attempts.trans hattempts) hcalm.unplanned ?_
      rw [List.any_append, hrings]
      rfl

lemma Polled.said {more : List Effect} {now : Instant} (h : Polled now w w' effects)
    (hsilent : more.any Effect.rings = false) :
    Polled now w w' (effects ++ more) := by
  have hmore : (effects ++ more).any Effect.rings =
      effects.any Effect.rings := by rw [List.any_append, hsilent, Bool.or_false]
  cases h with
  | calm hcalm => exact .calm ⟨hcalm.governor, hcalm.attempts, hcalm.unplanned, hmore.trans hcalm.silent⟩
  | same hgovernor hcall hfirst => exact .same hgovernor hcall (hmore.trans hfirst)
  | opened hstage hgovernor hattempts hunplanned hrings =>
      exact .opened hstage hgovernor hattempts hunplanned (hmore.trans hrings)

lemma Polled.idle {now : Instant} (h : Polled now w w' effects) : Polled now w (w'.setStage .idle) effects := by
  have hcalm : Calm w' (w'.setStage .idle) [] := ⟨rfl, rfl, fun planning => by simp, rfl⟩
  have hstopped := h.andThen hcalm
  rwa [List.append_nil] at hstopped

lemma silent_refusal (toolCallId : String) (status : RefusalStatus) (reason : String) :
    [Effect.toolAnswer toolCallId (refusal status reason)].any Effect.rings = false := by
  rw [refusal]
  split_ifs <;> rfl

lemma idle_unplanned (w : World) (planning : Planning) : (w.setStage .idle).call.stage ≠ .planning planning := by simp

variable (uuid sanitizeOwnerMessage env) in
lemma polled_poll (l : PollLooks) (w : World) :
    Polled env.now w (w.poll uuid sanitizeOwnerMessage env l).1 (w.poll uuid sanitizeOwnerMessage env l).2 := by
  cases hstage : w.call.stage with
  | idle =>
      simp only [poll, hstage]
      exact .same rfl rfl rfl
  | planning planning =>
      simp only [poll, hstage]
      have hplanned := pollPlanning_planned uuid env planning l.plan (w.setStage .idle)
      generalize (w.setStage .idle).pollPlanning uuid env planning l.plan = r at hplanned
      cases hplanned with
      | dropped h => exact .calm ⟨rfl, rfl, idle_unplanned w, rfl⟩
      | waiting h hnow =>
          refine .same rfl ?_ rfl
          rw [setStage_call, setStage_call, ← hstage]
      | answered h status reason => exact .calm ⟨rfl, rfl, idle_unplanned w, silent_refusal _ _ _⟩
      | occupied h op status reason => exact .calm ⟨rfl, rfl, idle_unplanned w, silent_refusal _ _ _⟩
      | opened h hfence hopened => exact .opened hstage rfl rfl (fun _ hplanning => by cases hplanning) rfl
  | ringing request =>
      simp only [poll, hstage]
      exact .calm ((calm_pollOpen false l.request (idle_unplanned w)).of_eq rfl rfl)
  | accepted request =>
      simp only [poll, hstage]
      exact .calm ((calm_pollOpen true l.request (idle_unplanned w)).of_eq rfl rfl)

lemma poll_ringing (l : PollLooks) (request : Open) (w : World) :
    (w.setStage (.ringing request)).poll uuid sanitizeOwnerMessage env l =
      (w.setStage .idle).pollOpen uuid sanitizeOwnerMessage env request false l.request := rfl

lemma calm_withdrawUnwon (l : WithdrawLooks) (h : ∀ planning, w.call.stage ≠ .planning planning) :
    Calm w (w.withdrawUnwon uuid sanitizeOwnerMessage env request l).1
      (w.withdrawUnwon uuid sanitizeOwnerMessage env request l).2.1 := by
  rw [withdrawUnwon]
  dsimp only
  split
  · refine Calm.of_eq (calm_cancel l.cancel ?_) rfl rfl
    exact h
  · refine Calm.of_eq (calm_cancel l.cancel ?_) rfl rfl
    exact h
  · rw [poll_ringing]
    exact (calm_pollOpen false l.poll.request (idle_unplanned _)).of_eq rfl rfl
  · rw [poll_ringing]
    exact (calm_pollOpen false l.poll.request (idle_unplanned _)).of_eq rfl rfl

lemma calm_withdrawOpen (l : CancelLooks) : Calm w (w.withdrawOpen uuid env l).1 (w.withdrawOpen uuid env l).2 := by
  rw [withdrawOpen]
  split
  · exact (calm_cancel l (idle_unplanned w)).of_eq rfl rfl
  · exact (calm_cancel l (idle_unplanned w)).of_eq rfl rfl
  · exact ⟨rfl, rfl, idle_unplanned w, rfl⟩
  · exact ⟨rfl, rfl, idle_unplanned w, rfl⟩

variable (uuid sanitizeOwnerMessage env) in
lemma polled_withdrawUnaccepted (first : PollLooks) (l : WithdrawLooks) (w : World) :
    Polled env.now w (w.withdrawUnaccepted uuid sanitizeOwnerMessage env first l).1
      (w.withdrawUnaccepted uuid sanitizeOwnerMessage env first l).2 := by
  have hpoll := polled_poll uuid sanitizeOwnerMessage env first w
  rw [withdrawUnaccepted]
  dsimp only
  split
  · exact hpoll.andThen ((calm_withdrawUnwon l (idle_unplanned _)).of_eq rfl rfl)
  · exact hpoll

lemma silent_notice (requestId : String) : [notice env requestId w].any Effect.rings = false := by
  rw [notice]
  split
  · split_ifs <;> rfl
  · rfl

lemma polled_cancelRequested (requestId : String) (first : PollLooks) (l : WithdrawLooks) (w : World) :
    Polled env.now w (w.cancelRequested uuid sanitizeOwnerMessage env requestId first l).1
      (w.cancelRequested uuid sanitizeOwnerMessage env requestId first l).2 := by
  have hpoll := polled_poll uuid sanitizeOwnerMessage env first w
  rw [cancelRequested]
  dsimp only
  split_ifs with hother
  · exact .same rfl rfl rfl
  · split
    · split_ifs
      · exact hpoll.andThen ((calm_withdrawUnwon l (idle_unplanned _)).of_eq rfl rfl)
      · exact (hpoll.andThen ((calm_withdrawUnwon l (idle_unplanned _)).of_eq rfl rfl)).said (silent_notice requestId)
      · exact hpoll.said (silent_notice requestId)
    · exact hpoll.said (silent_notice requestId)

lemma polled_park (first : PollLooks) (l : WithdrawLooks) (w : World) :
    Polled env.now w (w.park uuid sanitizeOwnerMessage env first l).1
      (w.park uuid sanitizeOwnerMessage env first l).2.1 := by
  have hwithdrawn := polled_withdrawUnaccepted uuid sanitizeOwnerMessage env first l w
  cases hstage : (w.withdrawUnaccepted uuid sanitizeOwnerMessage env first l).1.call.stage with
  | planning planning =>
      simp only [World.park, hstage]
      exact hwithdrawn.idle
  | idle =>
      simp only [World.park, hstage]
      exact hwithdrawn
  | ringing request =>
      simp only [World.park, hstage]
      exact hwithdrawn
  | accepted request =>
      simp only [World.park, hstage]
      exact hwithdrawn

/-- What a call into the machine can do to the ceilings, a tool call among them. -/
inductive Moved (now : Instant) (w : World) : World → List Effect → Prop
  | polled {w' : World} {effects : List Effect} (h : Polled now w w' effects) : Moved now w w' effects
  | asked {w' : World} {governor : Governor} {key : Option ℕ} (hgovernor : w'.governor = governor)
      (hcall : w'.call = w.call)
      (hasked : governor = (w.governor.allowsCaller now key).1 ∨
        governor = ((w.governor.allowsCaller now key).1.allows now).1) : Moved now w w' []
  | planned {w' : World} {planning : Planning}
      (hgovernor : w'.governor = ((w.governor.allowsCaller now planning.callerKey).1.allows now).1)
      (hstage : w'.call.stage = .planning planning) (hattempts : w'.call.attempts = w.call.attempts)
        (hfew : w.call.attempts < maxAttemptsPerCall)
      (hcaller : (w.governor.allowsCaller now planning.callerKey).2 = true)
      (hglobal : ((w.governor.allowsCaller now planning.callerKey).1.allows now).2 = true) : Moved now w w' []

lemma act_moved (w : World) (a : Act) :
    Moved a.env.now w (act uuid sanitizeOwnerMessage hashOne w a).1
      (act uuid sanitizeOwnerMessage hashOne w a).2.effects := by
  cases a with
  | begin env args l =>
      have hbegun := begin_begun uuid hashOne env args l w
      simp only [act, Act.env]
      generalize w.begin uuid hashOne env args l = r at hbegun
      cases hbegun with
      | unheard status reason => exact .polled (.same rfl rfl rfl)
      | refused hactive status reason hgovernor =>
          rcases hgovernor with rfl | rfl | rfl
          · exact .polled (.same rfl rfl rfl)
          · exact .asked rfl rfl (.inl rfl)
          · exact .asked rfl rfl (.inr rfl)
      | planning hactive hfree hcall hattempts hgap hcaller hglobal =>
          exact .planned rfl rfl rfl hattempts hcaller hglobal
  | poll env l => exact .polled (polled_poll uuid sanitizeOwnerMessage env l w)
  | withdrawUnaccepted env first l => exact .polled (polled_withdrawUnaccepted uuid sanitizeOwnerMessage env first l w)
  | cancelRequested env requestId first l => exact .polled (polled_cancelRequested requestId first l w)
  | park env first l => exact .polled (polled_park first l w)
  | parkForced env first l => exact .polled ((polled_poll uuid sanitizeOwnerMessage env first w).andThen
      (calm_withdrawOpen l))
  | endCall env l => exact .polled (.calm (calm_withdrawOpen l))

end World

/-- The radio: the machine of the call on the line, those of the other calls, and what was opened so far. The governor
and the mailbox are the same for all. -/
structure Radio where
  world : World
  line : ℕ
  calls : ℕ → TransferCall
  now : Instant
  log : List Opening

namespace Radio

def start : Radio := ⟨⟨{}, .new, .new, []⟩, 0, fun _ => {}, 0, []⟩

inductive Move
  | act (a : Act)
  | line (call : ℕ)

variable (uuid : ℕ → String) (sanitizeOwnerMessage : String → Option String) (hashOne : List Char → ℕ)

/-- The request that a call into the machine opens is the one it had planned. -/
def opened (r : Radio) (now : Instant) (effects : List Effect) : List Opening :=
  match r.world.call.stage with
  | .planning planning => if effects.any Effect.rings then [⟨now, r.line, planning.callerKey⟩] else []
  | _ => []

def move : Machine Radio Move (List Effect)
  | r, .act a =>
    let (world, report) := World.act uuid sanitizeOwnerMessage hashOne r.world a
    ({ r with world, now := a.env.now, log := r.log ++ r.opened a.env.now report.effects }, report.effects)
  | r, .line call =>
    let calls := Function.update r.calls r.line r.world.call
    ({ r with world := { r.world with call := calls call }, line := call, calls }, [])

/-- Time does not go back, and a call that loses the line has no plan under way: it was parked or ended first. -/
def Fair (r : Radio) : Move → Prop
  | .act a => r.now ≤ a.env.now
  | .line _ => ∀ planning, r.world.call.stage ≠ .planning planning

def machine (r : Radio) (call : ℕ) : TransferCall := if call = r.line then r.world.call else r.calls call

structure Room (r : Radio) (planning : Planning) : Prop where
  attempts : r.world.call.attempts < maxAttemptsPerCall
  all : (recent hour r.now (times r.log)).length < maxAttemptsPerHour
  caller : (recent hour r.now (timesOf planning.callerKey r.log)).length < ceiling planning.callerKey

structure Bounded (r : Radio) : Prop where
  tracked : Tracks r.now r.log r.world.governor
  all : Spaced maxAttemptsPerHour hour (times r.log)
  each : ∀ key, Spaced (ceiling key) hour (timesOf key r.log)
  room : ∀ planning, r.world.call.stage = .planning planning → Room r planning
  parked : ∀ call planning, call ≠ r.line → (r.calls call).stage ≠ .planning planning
  attempts : ∀ call, (r.log.filter (·.call = call)).length = (r.machine call).attempts
  few : ∀ call, (r.machine call).attempts ≤ maxAttemptsPerCall

variable {uuid sanitizeOwnerMessage hashOne} {r : Radio}

lemma bounded_start : Bounded start := by
  have hmachine : ∀ call, machine start call = {} := by
    intro call
    unfold machine
    split_ifs <;> rfl
  refine ⟨tracks_new 0, .nil, fun _ => .nil, ?_, ?_, ?_, ?_⟩
  · rintro planning ⟨⟩
  · rintro call planning - ⟨⟩
  · intro call
    rw [hmachine]
    rfl
  · intro call
    rw [hmachine]
    exact Nat.zero_le _

lemma recent_length_le {span now later : ℕ} (h : now ≤ later) (times : List ℕ) :
    (recent span later times).length ≤ (recent span now times).length := by
  rw [← recent_recent h]
  exact List.length_filter_le _ _

lemma Room.mono {now : Instant} {world : World} {planning : Planning} (h : Room r planning) (hle : r.now ≤ now)
    (hattempts : world.call.attempts = r.world.call.attempts) : Room { r with world, now } planning where
  attempts := hattempts ▸ h.attempts
  all := (recent_length_le hle _).trans_lt h.all
  caller := (recent_length_le hle _).trans_lt h.caller

lemma Bounded.unopened {now : Instant} {world : World} (h : Bounded r) (htracked : Tracks now r.log world.governor)
    (hattempts : world.call.attempts = r.world.call.attempts)
    (hroom : ∀ planning, world.call.stage = .planning planning → Room { r with world, now } planning) :
    Bounded { r with world, now } := by
  have hmachine : ∀ call, (machine { r with world, now } call).attempts = (r.machine call).attempts := by
    intro call
    simp only [machine]
    split_ifs
    · exact hattempts
    · rfl
  refine ⟨htracked, h.all, h.each, hroom, h.parked, ?_, ?_⟩
  · intro call
    rw [hmachine]
    exact h.attempts call
  · intro call
    rw [hmachine]
    exact h.few call

lemma opened_of_silent {now : Instant} {effects : List Effect} (h : effects.any Effect.rings = false) :
    r.opened now effects = [] := by
  unfold opened
  split
  · rw [h]
    rfl
  · rfl

lemma Bounded.opened {now : Instant} {world : World} {planning : Planning}
    {walk : List (ℕ × List Instant) → List (ℕ × List Instant)}
    (h : Bounded r) (hle : r.now ≤ now) (hstage : r.world.call.stage = .planning planning)
    (hgovernor : world.governor = r.world.governor.noteOpened now walk planning.callerKey)
    (hattempts : world.call.attempts = r.world.call.attempts + 1)
      (hunplanned : ∀ planning, world.call.stage ≠ .planning planning) :
    Bounded { r with world, now, log := r.log ++ [⟨now, r.line, planning.callerKey⟩] } := by
  obtain ⟨hfew, hall, hcaller⟩ := h.room planning hstage
  have hall' := (recent_length_le hle (times r.log)).trans_lt hall
  have hcaller' := (recent_length_le hle (timesOf planning.callerKey r.log)).trans_lt hcaller
  refine ⟨?_, ?_, ?_, fun other hother => absurd hother (hunplanned other), h.parked, ?_, ?_⟩
  · rw [hgovernor]
    exact (h.tracked.mono hle).noteOpened hall' walk planning.callerKey r.line
  · rw [times_concat]
    exact h.all.concat hall'
  · intro key
    rw [timesOf_concat]
    split_ifs with hkey
    · obtain rfl := hkey
      exact (h.each _).concat hcaller'
    · rw [List.append_nil]
      exact h.each key
  · intro call
    rw [List.filter_append, List.length_append, h.attempts call]
    by_cases hcall : call = r.line
    · simp [machine, hcall, hattempts]
    · simp [machine, hcall, Ne.symm hcall]
  · intro call
    by_cases hcall : call = r.line
    · simp only [machine, hcall, if_true, hattempts]
      omega
    · have hother := h.few call
      simp only [machine, if_neg hcall] at hother ⊢
      exact hother

lemma bounded_act (h : Bounded r) (a : Act) (hle : r.now ≤ a.env.now) :
    Bounded (move uuid sanitizeOwnerMessage hashOne r (.act a)).1 := by
  have hmoved : World.Moved a.env.now r.world (World.act uuid sanitizeOwnerMessage hashOne r.world a).1
      (World.act uuid sanitizeOwnerMessage hashOne r.world a).2.effects := World.act_moved r.world a
  simp only [move]
  generalize World.act uuid sanitizeOwnerMessage hashOne r.world a = result at hmoved ⊢
  obtain ⟨world, effects, answer, mayPark⟩ := result
  dsimp only at hmoved ⊢
  have hlater := h.tracked.mono hle
  cases hmoved with
  | polled hpolled =>
      cases hpolled with
      | calm hcalm =>
          rw [opened_of_silent hcalm.silent, List.append_nil]
          refine h.unopened ?_ hcalm.attempts fun planning hplanning => absurd hplanning (hcalm.unplanned planning)
          rw [hcalm.governor]
          exact hlater
      | same hgovernor hcall hsilent =>
          rw [opened_of_silent hsilent, List.append_nil]
          refine h.unopened ?_ (congrArg TransferCall.attempts hcall) fun planning hplanning => ?_
          · rw [hgovernor]
            exact hlater
          · rw [hcall] at hplanning
            exact (h.room planning hplanning).mono hle (congrArg TransferCall.attempts hcall)
      | @opened planning walk hstage hgovernor hattempts hunplanned hrings =>
          have hlog : r.opened a.env.now effects = [⟨a.env.now, r.line, planning.callerKey⟩] := by
            unfold Radio.opened
            rw [hstage]
            simp only [hrings, if_true]
          rw [hlog]
          exact h.opened hle hstage hgovernor hattempts hunplanned
  | @asked governor key hgovernor hcall hasked =>
      rw [opened_of_silent rfl, List.append_nil]
      refine h.unopened ?_ (congrArg TransferCall.attempts hcall) fun planning hplanning => ?_
      · rw [hgovernor]
        rcases hasked with rfl | rfl
        · exact (hlater.allowsCaller key).1
        · exact (hlater.allowsCaller key).1.allows.1
      · rw [hcall] at hplanning
        exact (h.room planning hplanning).mono hle (congrArg TransferCall.attempts hcall)
  | @planned planning hgovernor hstage hattempts hfew hcaller hglobal =>
      rw [opened_of_silent rfl, List.append_nil]
      obtain ⟨htracked, hroom⟩ := hlater.allowsCaller planning.callerKey
      refine h.unopened ?_ hattempts fun other hother => ?_
      · rw [hgovernor]
        exact htracked.allows.1
      · obtain rfl := Stage.planning.inj (hstage.symm.trans hother)
        exact ⟨by rw [hattempts]; exact hfew, htracked.allows.2 hglobal, hroom hcaller⟩

lemma bounded_line (h : Bounded r) (call : ℕ) (hunplanned : ∀ planning, r.world.call.stage ≠ .planning planning) :
    Bounded (move uuid sanitizeOwnerMessage hashOne r (.line call)).1 := by
  have hmachine : ∀ other, machine (move uuid sanitizeOwnerMessage hashOne r (.line call)).1 other =
      r.machine other := by
    intro other
    simp only [move, machine, Function.update_apply]
    split_ifs <;> simp_all
  refine ⟨h.tracked, h.all, h.each, ?_, ?_, ?_, ?_⟩
  · intro planning hplanning
    simp only [move, Function.update_apply] at hplanning
    split_ifs at hplanning with hline
    · exact absurd hplanning (hunplanned planning)
    · exact absurd hplanning (h.parked call planning hline)
  · intro other planning hne
    simp only [move, Function.update_apply] at hne ⊢
    split_ifs with hline
    · exact hunplanned planning
    · exact h.parked other planning hline
  · intro other
    rw [hmachine]
    exact h.attempts other
  · intro other
    rw [hmachine]
    exact h.few other

variable (uuid sanitizeOwnerMessage hashOne) in
/-- Over any number of calls, each of which is parked or ended before another has the line, every window of an hour
holds at most twenty requests, at most three for a caller number and two without one; and a call has at most three in
its life. -/
theorem ring_ceilings {moves : List Move} (hfair : (move uuid sanitizeOwnerMessage hashOne).Along Fair start moves)
    (since : Instant) :
    (((move uuid sanitizeOwnerMessage hashOne).final start moves).log.filter
        fun opening => since ≤ opening.time ∧ opening.time < since + hour).length ≤ 20 ∧
    (∀ key, (((move uuid sanitizeOwnerMessage hashOne).final start moves).log.filter
        fun opening => opening.key = key ∧ since ≤ opening.time ∧
          opening.time < since + hour).length ≤ if key.isSome then 3 else 2) ∧
    ∀ call, (((move uuid sanitizeOwnerMessage hashOne).final start moves).log.filter (·.call = call)).length ≤ 3 := by
  have hbounded : Bounded ((move uuid sanitizeOwnerMessage hashOne).final start moves) := by
    refine Machine.invariant ?_ hfair bounded_start
    intro r m hfair h
    cases m with
    | act a => exact bounded_act h a hfair
    | line call => exact bounded_line h call hfair
  generalize (move uuid sanitizeOwnerMessage hashOne).final start moves = r at hbounded
  refine ⟨?_, ?_, ?_⟩
  · have hwindow := hbounded.all.window since
    rw [times, List.filter_map, List.length_map] at hwindow
    exact hwindow
  · intro key
    have hwindow := (hbounded.each key).window since
    rw [timesOf, times, List.filter_map, List.length_map, List.filter_filter] at hwindow
    cases key <;> simpa [Function.comp_def, and_comm, and_left_comm, ceiling,
      maxAttemptsPerWithheldPerHour, maxAttemptsPerCallerPerHour] using hwindow
  · intro call
    rw [hbounded.attempts call]
    exact hbounded.few call

open World in
def askedMoves : List Move :=
  [.act (.begin sampleEnv ⟨"tool_1", some .callerAsked, "call_1", ⟨"call_1", 1, 1⟩, true, 1, none⟩
      ⟨{ clock := some 100 }, sampleRemote, some ⟨"call_1", 1, 1⟩, true⟩),
    .act (.poll sampleEnv (samplePoll []))]

open World in
theorem withheld_caller_rings :
    (((move plainUuid some List.length).final start askedMoves).log.filter
      fun opening => opening.key = none ∧ 0 ≤ opening.time ∧ opening.time < 0 + hour).length ≤ 2 :=
  have hfair : (move plainUuid some List.length).Along Fair start askedMoves := ⟨le_rfl, le_rfl, trivial⟩
  (ring_ceilings plainUuid some List.length hfair 0).2.1 none

end Radio

end Aokie.Plugin.Transfer
