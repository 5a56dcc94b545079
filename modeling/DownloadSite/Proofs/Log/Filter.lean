import Mathlib.Data.List.Infix
import Mathlib.Data.List.Nodup
import DownloadSite.Log.Filter

/-!
# Which directive counts

In a plain filter, whose directives ask for nothing but a part of the program, the directive with the longest
origin counts among those that speak about an event. If the origins are different there is only one such
directive, so a filter in another order lets the same events through (`allows_eq_of_perm`).
-/

namespace DownloadSite.Log

variable {filter other : Filter} {event : Event} {directive next best : Directive}

/-- The directives ask for no field and no span. -/
def Filter.IsPlain (filter : Filter) : Prop := ∀ directive ∈ filter, directive.condition = .always

theorem Directive.covers_iff (h : directive.condition = .always) :
    directive.covers event = true ↔ directive.origin.toList <+: event.origin.toList := by
  rw [covers, h, Condition.holds, Bool.and_true, List.isPrefixOf_iff_prefix]

/-- The directive speaks about the event, and no other one that does has a longer origin. -/
structure Counts (filter : Filter) (event : Event) (directive : Directive) : Prop where
  mem : directive ∈ filter
  covers : directive.covers event = true
  longest : ∀ other ∈ filter, other.covers event = true → other.origin.length ≤ directive.origin.length

/-! ### Picking -/

namespace Directive

theorem better_of_not_covers (h : next.covers event = false) (best : Option Directive) :
    better event best next = best := by
  unfold better
  rw [h]
  rfl

theorem better_none (h : next.covers event = true) : better event none next = some next := by
  unfold better
  rw [if_pos h]

theorem better_some (h : next.covers event = true) :
    better event (some best) next = if best.isAtMost next then some next else some best := by
  unfold better
  rw [if_pos h]

end Directive

theorem Filter.pick_concat (filter : Filter) (event : Event) (next : Directive) :
    Filter.pick (filter ++ [next]) event = Directive.better event (filter.pick event) next :=
  List.foldl_append

theorem Counts.concat_of_le (h : Counts filter event best) (hnext : next.covers event = true)
    (hle : best.origin.length ≤ next.origin.length) : Counts (filter ++ [next]) event next := by
  refine ⟨List.mem_append_right _ List.mem_cons_self, hnext, fun other hother hcovers => ?_⟩
  rcases List.mem_append.1 hother with hother | hother
  · exact Nat.le_trans (h.longest other hother hcovers) hle
  · rw [List.mem_singleton.1 hother]

theorem Counts.concat (h : Counts filter event best)
    (hnext : next.covers event = true → next.origin.length ≤ best.origin.length) :
    Counts (filter ++ [next]) event best := by
  refine ⟨List.mem_append_left _ h.mem, h.covers, fun other hother hcovers => ?_⟩
  rcases List.mem_append.1 hother with hother | hother
  · exact h.longest other hother hcovers
  · rw [List.mem_singleton.1 hother] at hcovers ⊢
    exact hnext hcovers

/-- What is picked counts, and nothing is picked only if no directive speaks about the event. -/
theorem Filter.pick_cases (hplain : filter.IsPlain) (event : Event) :
    (filter.pick event = none ∧ ∀ directive ∈ filter, directive.covers event = false) ∨
      ∃ directive, filter.pick event = some directive ∧ Counts filter event directive := by
  induction filter using List.reverseRecOn with
  | nil => exact .inl ⟨rfl, fun _ h => nomatch h⟩
  | append_singleton filter next ih =>
    have hnext : next.condition = .always := hplain next (List.mem_append_right _ List.mem_cons_self)
    have hfront : Filter.IsPlain filter := fun directive h => hplain directive (List.mem_append_left _ h)
    rw [Filter.pick_concat]
    cases hcovers : next.covers event with
    | false =>
      rw [Directive.better_of_not_covers hcovers]
      rcases ih hfront with ⟨hnone, hall⟩ | ⟨best, hbest, hcounts⟩
      · refine .inl ⟨hnone, fun directive h => ?_⟩
        rcases List.mem_append.1 h with h | h
        · exact hall directive h
        · rw [List.mem_singleton.1 h, hcovers]
      · exact .inr ⟨best, hbest, hcounts.concat fun h => by cases hcovers.symm.trans h⟩
    | true =>
      rcases ih hfront with ⟨hnone, hall⟩ | ⟨best, hbest, hcounts⟩
      · rw [hnone, Directive.better_none hcovers]
        refine .inr ⟨next, rfl, List.mem_append_right _ List.mem_cons_self, hcovers, fun other h hother => ?_⟩
        rcases List.mem_append.1 h with h | h
        · cases (hall other h).symm.trans hother
        · rw [List.mem_singleton.1 h]
      · have hplace : best.isAtMost next = decide (best.origin.length ≤ next.origin.length) :=
          Directive.isAtMost_of_always (hfront best hcounts.mem) hnext
        rw [hbest, Directive.better_some hcovers, hplace]
        by_cases hle : best.origin.length ≤ next.origin.length
        · rw [if_pos (decide_eq_true hle)]
          exact .inr ⟨next, rfl, hcounts.concat_of_le hcovers hle⟩
        · rw [if_neg (by simpa using hle)]
          exact .inr ⟨best, rfl, hcounts.concat fun _ => Nat.le_of_not_le hle⟩

/-! ### What is let through -/

/-- Two origins that an event's begins with are equal if they are equally long. -/
theorem Counts.unique (hplain : filter.IsPlain) (hnodup : (filter.map Directive.origin).Nodup)
    (h : Counts filter event directive) (h' : Counts filter event best) : directive = best := by
  have hlength : directive.origin.toList.length = best.origin.toList.length := by
    rw [String.length_toList, String.length_toList]
    exact Nat.le_antisymm (h'.longest _ h.mem h.covers) (h.longest _ h'.mem h'.covers)
  have hfront : directive.origin.toList <+: best.origin.toList :=
    List.prefix_of_prefix_length_le ((Directive.covers_iff (hplain _ h.mem)).1 h.covers)
      ((Directive.covers_iff (hplain _ h'.mem)).1 h'.covers) (Nat.le_of_eq hlength)
  exact List.inj_on_of_nodup_map hnodup h.mem h'.mem
    (String.toList_inj.1 (hfront.eq_of_length hlength))

theorem Filter.allows_iff (hplain : filter.IsPlain) (hnodup : (filter.map Directive.origin).Nodup)
    (event : Event) : filter.allows event = true ↔
      ∃ directive, Counts filter event directive ∧ event.level.rank ≤ directive.rank := by
  unfold allows
  rcases pick_cases hplain event with ⟨hnone, hall⟩ | ⟨best, hbest, hcounts⟩
  · rw [hnone]
    constructor
    · exact fun h => nomatch h
    · rintro ⟨directive, hcounts, -⟩
      cases (hall directive hcounts.mem).symm.trans hcounts.covers
  · rw [hbest]
    constructor
    · exact fun h => ⟨best, hcounts, of_decide_eq_true h⟩
    · rintro ⟨directive, hother, hrank⟩
      rw [hother.unique hplain hnodup hcounts] at hrank
      exact decide_eq_true hrank

theorem counts_iff_of_perm (hperm : filter.Perm other) :
    Counts filter event directive ↔ Counts other event directive := by
  constructor
  · intro h
    exact ⟨hperm.mem_iff.1 h.mem, h.covers, fun another hmem => h.longest another (hperm.mem_iff.2 hmem)⟩
  · intro h
    exact ⟨hperm.mem_iff.2 h.mem, h.covers, fun another hmem => h.longest another (hperm.mem_iff.1 hmem)⟩

/-- The order of different origins does not matter. -/
theorem Filter.allows_eq_of_perm (hplain : filter.IsPlain) (hnodup : (filter.map Directive.origin).Nodup)
    (hperm : filter.Perm other) : filter.allows = other.allows := by
  have hplain' : other.IsPlain := fun directive h => hplain directive (hperm.mem_iff.2 h)
  have hnodup' : (other.map Directive.origin).Nodup := (hperm.map _).nodup_iff.1 hnodup
  funext event
  rw [Bool.eq_iff_iff, allows_iff hplain hnodup, allows_iff hplain' hnodup']
  simp only [counts_iff_of_perm hperm]

theorem Filter.lines_eq_of_allows_eq (h : filter.allows = other.allows) (stamp : String) (events : List Event) :
    filter.lines stamp events = other.lines stamp events := by
  rw [lines, lines, h]

end DownloadSite.Log
