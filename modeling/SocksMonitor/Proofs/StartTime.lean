import Mathlib.Data.Nat.Find
import Mathlib.Data.Nat.Init
import SocksMonitor.Agent.Store

/-!
# Phase and start time

Nothing in the store ties its start time to its phase: the two fields agree because of the moves
that the lifecycle table lacks, and because a reset keeps or drops them together. This file says
what an operation can do to the two (`lifecycleStep_apply`) and derives from it how they hang
together after any history (`history_coupled`).

- `coupled_moment`: which phases have a start time and which have none.
- `startedAt_eq_some_iff`: the start time is the reading of the clock at the first entry into the
  active phase behind the last moment at which the agent became inactive.

A moment of a history is the number of operations that have been done.
-/

namespace SocksMonitor.Agent

open Time (Timestamp)

/-! ## Moments -/

namespace History

/-- A new store after the first `k` operations. -/
def moment (history : History) (k : Nat) : Snapshot := Snapshot.applyAll {} (history.take k)

variable {history : History} {k : Nat} {now : Timestamp} {op : Operation}

theorem moment_succ (hop : history[k]? = some (now, op)) :
    history.moment (k + 1) = ((history.moment k).apply now op).1 := by
  obtain ⟨hlt, hget⟩ := List.getElem?_eq_some_iff.mp hop
  rw [moment, List.take_succ_eq_append_getElem hlt, hget, Snapshot.applyAll_concat]
  rfl

theorem moment_succ_of_none (hend : history[k]? = none) :
    history.moment (k + 1) = history.moment k := by
  have hlength := List.getElem?_eq_none_iff.mp hend
  rw [moment, moment, List.take_of_length_le hlength,
    List.take_of_length_le (Nat.le_succ_of_le hlength)]

end History

/-! ## One operation -/

/-- What an operation makes of phase and start time: it leaves both as they are, moves along the
table, or resets both. -/
inductive LifecycleStep (s : Snapshot) (now : Timestamp) : Operation → Snapshot → Prop where
  | stay {op : Operation} {s' : Snapshot} (hreset : op ≠ .reset true) (hphase : s'.phase = s.phase)
      (hstart : s'.startedAt = s.startedAt) : LifecycleStep s now op s'
  | move {target : Phase} {s' : Snapshot} (hedge : s.phase.canMoveTo target = true)
      (hphase : s'.phase = target) (hstart : s'.startedAt = s.startOnEntry target now) :
      LifecycleStep s now (.setPhase target) s'
  | reset {s' : Snapshot} (hphase : s'.phase = .inactive) (hstart : s'.startedAt = none) :
      LifecycleStep s now (.reset true) s'

theorem lifecycleStep_apply (s : Snapshot) (now : Timestamp) (op : Operation) :
    LifecycleStep s now op (s.apply now op).1 := by
  cases op with
  | setPhase target =>
      rw [Snapshot.apply_setPhase]
      by_cases hsame : s.phase = target
      · rw [if_pos hsame]
        exact .stay (by simp) rfl rfl
      rw [if_neg hsame]
      by_cases hedge : s.phase.canMoveTo target = true
      · rw [if_pos hedge]
        exact .move hedge rfl rfl
      · rw [if_neg hedge]
        exact .stay (by simp) rfl rfl
  | appendWarning text =>
      simp only [Snapshot.apply, Snapshot.appendWarning]
      split <;> exact .stay (by simp) rfl rfl
  | reset clearLifecycle =>
      cases clearLifecycle with
      | true => exact .reset rfl rfl
      | false => exact .stay (by simp) rfl rfl
  | clearWarnings | updateTun | updateRoutes | updateTunnel | updateProbe | read =>
      exact .stay (by simp) rfl rfl

/-- A refusal names a move that the table lacks, and nothing has changed. -/
theorem apply_of_refusal {s : Snapshot} {now : Timestamp} {op : Operation} {refusal : InvalidMove}
    (h : (s.apply now op).2 = some refusal) :
    op = .setPhase refusal.target ∧ refusal.source = s.phase
      ∧ s.phase.canMoveTo refusal.target = false ∧ (s.apply now op).1 = s := by
  cases op with
  | setPhase target =>
      rw [Snapshot.apply_setPhase] at h ⊢
      split at h
      · cases h
      · next hsame =>
        split at h
        · cases h
        · next hedge =>
          cases h
          rw [if_neg hsame, if_neg hedge]
          exact ⟨rfl, rfl, Bool.eq_false_iff.mpr hedge, rfl⟩
  | appendWarning | clearWarnings | updateTun | updateRoutes | updateTunnel | updateProbe | reset
  | read => cases h

/-! ## Which phases have a start time -/

namespace Phase

/-- The phases of an agent that is up. -/
def isUp : Phase → Bool
  | active | degraded | stopping => true
  | inactive | starting | error => false

/-- Only the entry into the active phase leads up. -/
theorem isUp_of_canMoveTo {source target : Phase} (hedge : source.canMoveTo target = true)
    (hup : target.isUp = true) : target = .active ∨ source.isUp = true := by
  revert hedge hup
  cases source <;> cases target <;> decide

end Phase

section Entry

variable {s : Snapshot} {target : Phase} {now t : Timestamp}

theorem startOnEntry_of_none (hnone : s.startedAt = none) :
    s.startOnEntry target now = if target = .active then some now else none := by
  cases target <;> simp [Snapshot.startOnEntry, hnone]

theorem startOnEntry_of_some (hsome : s.startedAt = some t) (htarget : target ≠ .inactive) :
    s.startOnEntry target now = some t := by
  cases target <;> simp_all [Snapshot.startOnEntry]

end Entry

/-- An inactive agent has no start time, and one that is up has one. -/
structure Snapshot.Coupled (s : Snapshot) : Prop where
  inactive : s.phase = .inactive → s.startedAt = none
  up : s.phase.isUp = true → s.startedAt.isSome = true

theorem coupled_step {s s' : Snapshot} {now : Timestamp} {op : Operation} (hs : s.Coupled)
    (hstep : LifecycleStep s now op s') : s'.Coupled := by
  cases hstep with
  | stay _ hphase hstart =>
      constructor
      · rw [hphase, hstart]
        exact hs.inactive
      · rw [hphase, hstart]
        exact hs.up
  | @move target _ hedge hphase hstart =>
      constructor
      · intro hinactive
        rw [hphase] at hinactive
        rw [hstart, hinactive]
        rfl
      · intro hup
        rw [hphase] at hup
        rw [hstart]
        -- without a start time the source is not up, so this is an entry into the active phase
        cases hstarted : s.startedAt with
        | none =>
            rcases Phase.isUp_of_canMoveTo hedge hup with rfl | hsource
            · simp [startOnEntry_of_none hstarted]
            · simpa [hstarted] using hs.up hsource
        | some t =>
            have htarget : target ≠ .inactive := by
              rintro rfl
              cases hup
            simp [startOnEntry_of_some hstarted htarget]
  | reset hphase hstart =>
      constructor
      · exact fun _ => hstart
      · intro hup
        rw [hphase] at hup
        cases hup

section Moments

variable {history : History}

theorem coupled_moment (k : Nat) : (history.moment k).Coupled := by
  induction k with
  | zero => exact ⟨fun _ => rfl, fun hup => by cases hup⟩
  | succ k ih =>
      cases hop : history[k]? with
      | none => rwa [History.moment_succ_of_none hop]
      | some step =>
          rw [History.moment_succ hop]
          exact coupled_step ih (lifecycleStep_apply _ _ _)

/-! ## Where the start time comes from -/

/-- At a moment the agent becomes inactive: by its creation, by coming from another phase, or by a
reset. -/
inductive BecomesInactive (history : History) : Nat → Prop where
  | creation : BecomesInactive history 0
  | arrival {k : Nat} (hbefore : (history.moment k).phase ≠ .inactive)
      (hafter : (history.moment (k + 1)).phase = .inactive) : BecomesInactive history (k + 1)
  | reset {k : Nat} {now : Timestamp} (hop : history[k]? = some (now, .reset true)) :
      BecomesInactive history (k + 1)

/-- The operation that comes at a moment enters the active phase, with a reading of the clock. -/
structure EntersActive (history : History) (k : Nat) (now : Timestamp) : Prop where
  reading : ∃ op, history[k]? = some (now, op)
  before : (history.moment k).phase ≠ .active
  after : (history.moment (k + 1)).phase = .active

/-- As seen at a moment, the reading belongs to the first entry into the active phase since the
agent has last become inactive. -/
def FirstEntry (history : History) (k : Nat) (now : Timestamp) : Prop :=
  ∃ asleep ≤ k, BecomesInactive history asleep
    ∧ (∀ i, asleep < i → i ≤ k → ¬ BecomesInactive history i)
    ∧ ∃ entry < k, asleep ≤ entry ∧ EntersActive history entry now
      ∧ ∀ i t, asleep ≤ i → i < entry → ¬ EntersActive history i t

theorem startedAt_of_becomesInactive {k : Nat} (h : BecomesInactive history k) :
    (history.moment k).startedAt = none := by
  refine (coupled_moment k).inactive ?_
  cases h with
  | creation => rfl
  | arrival _ hafter => exact hafter
  | reset hop =>
      rw [History.moment_succ hop]
      rfl

/-- Only an entry into the active phase brings a start time about. -/
theorem startedAt_stays_none {i k : Nat} (hik : i ≤ k) (hnone : (history.moment i).startedAt = none)
    (hidle : ∀ j t, i ≤ j → j < k → ¬ EntersActive history j t) :
    (history.moment k).startedAt = none := by
  induction k, hik using Nat.le_induction with
  | base => exact hnone
  | succ k hik ih =>
      have hbefore := ih fun j t hij hjk => hidle j t hij (Nat.lt_succ_of_lt hjk)
      cases hop : history[k]? with
      | none => rwa [History.moment_succ_of_none hop]
      | some step =>
          obtain ⟨now, op⟩ := step
          have hstep := lifecycleStep_apply (history.moment k) now op
          rw [← History.moment_succ hop] at hstep
          cases hstep with
          | stay _ _ hstart => rwa [hstart]
          | @move target _ hedge hphase hstart =>
              -- a move from the active phase to itself is none, so its target is another phase
              rw [hstart, startOnEntry_of_none hbefore, if_neg]
              rintro rfl
              refine hidle k now hik (Nat.lt_succ_self k) ⟨⟨_, hop⟩, fun hactive => ?_, hphase⟩
              rw [hactive, Phase.canMoveTo_self] at hedge
              cases hedge
          | reset _ hstart => exact hstart

/-- Only becoming inactive takes a start time away. -/
theorem startedAt_stays_some {i k : Nat} {t : Timestamp} (hik : i ≤ k)
    (hsome : (history.moment i).startedAt = some t)
    (hawake : ∀ j, i < j → j ≤ k → ¬ BecomesInactive history j) :
    (history.moment k).startedAt = some t := by
  induction k, hik using Nat.le_induction with
  | base => exact hsome
  | succ k hik ih =>
      have hbefore := ih fun j hij hjk => hawake j hij (Nat.le_succ_of_le hjk)
      have hstays := hawake (k + 1) (Nat.lt_succ_of_le hik) (Nat.le_refl _)
      cases hop : history[k]? with
      | none => rwa [History.moment_succ_of_none hop]
      | some step =>
          obtain ⟨now, op⟩ := step
          have hstep := lifecycleStep_apply (history.moment k) now op
          rw [← History.moment_succ hop] at hstep
          cases hstep with
          | stay _ _ hstart => rwa [hstart]
          | @move target _ hedge hphase hstart =>
              rw [hstart]
              refine startOnEntry_of_some hbefore ?_
              rintro rfl
              refine hstays (.arrival (fun hinactive => ?_) hphase)
              rw [hinactive, Phase.canMoveTo_self] at hedge
              cases hedge
          | reset => exact absurd (.reset hop) hstays

/-- The entry into the active phase without a start time reads the clock. -/
theorem startedAt_of_entersActive {k : Nat} {t : Timestamp} (hentry : EntersActive history k t)
    (hnone : (history.moment k).startedAt = none) :
    (history.moment (k + 1)).startedAt = some t := by
  obtain ⟨⟨op, hop⟩, hbefore, hafter⟩ := hentry
  have hstep := lifecycleStep_apply (history.moment k) t op
  rw [← History.moment_succ hop] at hstep
  cases hstep with
  | stay _ hphase _ => exact absurd (hphase ▸ hafter) hbefore
  | move _ hphase hstart =>
      rw [hstart, startOnEntry_of_none hnone, if_pos (hphase ▸ hafter)]
  | reset hphase _ =>
      rw [hphase] at hafter
      cases hafter

/-- Some moment was the last one at which the agent became inactive. -/
theorem exists_last_becomesInactive (history : History) (k : Nat) :
    ∃ asleep ≤ k, BecomesInactive history asleep
      ∧ ∀ i, asleep < i → i ≤ k → ¬ BecomesInactive history i := by
  induction k with
  | zero => exact ⟨0, Nat.le_refl 0, .creation, fun i h0 hi => by omega⟩
  | succ k ih =>
      by_cases hnow : BecomesInactive history (k + 1)
      · exact ⟨k + 1, Nat.le_refl _, hnow, fun i hlt hle => by omega⟩
      · obtain ⟨asleep, hle, hasleep, hlast⟩ := ih
        refine ⟨asleep, Nat.le_succ_of_le hle, hasleep, fun i hlt hi => ?_⟩
        rcases Nat.le_succ_iff.mp hi with hi | rfl
        · exact hlast i hlt hi
        · exact hnow

theorem startedAt_of_firstEntry {k : Nat} {t : Timestamp} (h : FirstEntry history k t) :
    (history.moment k).startedAt = some t := by
  obtain ⟨asleep, -, hasleep, hlast, entry, hentry, hle, henters, hfirst⟩ := h
  have hidle := startedAt_stays_none hle (startedAt_of_becomesInactive hasleep) hfirst
  refine startedAt_stays_some hentry (startedAt_of_entersActive henters hidle) ?_
  exact fun j hj => hlast j (by omega)

theorem exists_firstEntry {k : Nat} (hstarted : (history.moment k).startedAt ≠ none) :
    ∃ t, FirstEntry history k t := by
  obtain ⟨asleep, hle, hasleep, hlast⟩ := exists_last_becomesInactive history k
  -- had there been no entry since, the start time would still be missing
  have hentries : ∃ entry, asleep ≤ entry ∧ entry < k ∧ ∃ t, EntersActive history entry t := by
    by_contra hnever
    refine hstarted (startedAt_stays_none hle (startedAt_of_becomesInactive hasleep) ?_)
    exact fun j t hj hjk hentry => hnever ⟨j, hj, hjk, t, hentry⟩
  classical
  obtain ⟨hge, hlt, t, hentry⟩ := Nat.find_spec hentries
  refine ⟨t, asleep, hle, hasleep, hlast, Nat.find hentries, hlt, hge, hentry, ?_⟩
  exact fun i t' hi hlti hearlier =>
    Nat.find_min hentries hlti ⟨hi, Nat.lt_trans hlti hlt, t', hearlier⟩

theorem startedAt_eq_some_iff {k : Nat} {t : Timestamp} :
    (history.moment k).startedAt = some t ↔ FirstEntry history k t := by
  constructor
  · intro hstarted
    have hsome : (history.moment k).startedAt ≠ none := by simp [hstarted]
    obtain ⟨t', hfirst⟩ := exists_firstEntry hsome
    rw [startedAt_of_firstEntry hfirst] at hstarted
    exact Option.some.inj hstarted ▸ hfirst
  · exact startedAt_of_firstEntry

end Moments

/-! ## All histories -/

/-- How phase and start time hang together at every moment of a history. -/
structure History.Coupled (history : History) : Prop where
  moved : ∀ k now op, history[k]? = some (now, op) →
    (history.moment (k + 1)).phase = (history.moment k).phase
      ∨ (op = .setPhase (history.moment (k + 1)).phase
        ∧ (history.moment k).phase.canMoveTo (history.moment (k + 1)).phase = true)
      ∨ (op = .reset true ∧ (history.moment (k + 1)).phase = .inactive)
  accepted : ∀ k now target, history[k]? = some (now, .setPhase target) →
    (history.moment k).phase.canMoveTo target = true → (history.moment (k + 1)).phase = target
  refused : ∀ k now op refusal, history[k]? = some (now, op) →
    ((history.moment k).apply now op).2 = some refusal →
      history.moment (k + 1) = history.moment k
        ∧ (history.moment k).phase.canMoveTo refusal.target = false
  inactive : ∀ k, (history.moment k).phase = .inactive →
    (history.moment k).startedAt = none
      ∧ ∀ now, (history.moment k).uptimeNanos now = 0
        ∧ ((history.moment k).report now).uptimeSec = 0
  started : ∀ k, (history.moment k).phase = .active ∨ (history.moment k).phase = .degraded
    ∨ (history.moment k).phase = .stopping → (history.moment k).startedAt.isSome = true
  startedAt : ∀ k t, (history.moment k).startedAt = some t ↔ FirstEntry history k t

/-- **Phase and start time stay coupled over every history** of a new store, with any readings of
the clock. -/
theorem history_coupled (history : History) : history.Coupled where
  moved k now op hop := by
    have hstep := lifecycleStep_apply (history.moment k) now op
    rw [← History.moment_succ hop] at hstep
    cases hstep with
    | stay _ hphase _ => exact .inl hphase
    | move hedge hphase _ =>
        rw [hphase]
        exact .inr (.inl ⟨rfl, hedge⟩)
    | reset hphase _ => exact .inr (.inr ⟨rfl, hphase⟩)
  accepted k now target hop hedge := by
    have hmoves : (history.moment k).phase ≠ target := by
      intro hsame
      rw [hsame, Phase.canMoveTo_self] at hedge
      cases hedge
    rw [History.moment_succ hop, Snapshot.apply_setPhase, if_neg hmoves, if_pos hedge]
  refused k now op refusal hop hrefusal := by
    obtain ⟨-, -, hedge, hsame⟩ := apply_of_refusal hrefusal
    exact ⟨(History.moment_succ hop).trans hsame, hedge⟩
  inactive k hinactive := by
    have hnone := (coupled_moment k).inactive hinactive
    refine ⟨hnone, fun now => ?_⟩
    simp [Snapshot.uptimeNanos, Snapshot.report, hnone]
  started k hup := by
    refine (coupled_moment k).up ?_
    rcases hup with h | h | h <;> rw [h] <;> rfl
  startedAt _ _ := startedAt_eq_some_iff

/-- A detour by way of an error keeps the start time, since the agent is never inactive. -/
example (t u : Timestamp) :
    (Snapshot.applyAll {} [(t, .setPhase .active), (u, .setPhase .error), (u, .setPhase .starting),
      (u, .setPhase .active)]).startedAt = some t := rfl

end SocksMonitor.Agent
