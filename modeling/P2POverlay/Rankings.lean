import Mathlib.Data.List.Perm.Subperm

/-!
# The first of a ranking

A list whose members are ranked strictly by a relation has its least members in front, so
the first ones of any number are the least ones of that number. A filter that lets the
front of a list through does not change it.
-/

namespace Rankings

universe u
variable {α : Type u} {before : α → α → Prop}

/-- What is chosen is ranked, as long as it can be, and everything that is left comes after
everything that is chosen. -/
structure Least (before : α → α → Prop) (count : Nat) (available chosen : List α) : Prop where
  ranked : chosen.Pairwise before
  among : chosen ⊆ available
  full : chosen.length = min count available.length
  least : ∀ value ∈ available, value ∉ chosen → ∀ one ∈ chosen, before one value

/-- The front of a ranking is the least part of it. -/
theorem least_take (count : Nat) (ranking : List α) (ranked : ranking.Pairwise before) :
    Least before count ranking (ranking.take count) := by
  refine ⟨ranked.sublist (List.take_sublist _ _), List.take_subset _ _, List.length_take, ?_⟩
  intro value member left one chosen
  have split := ranked
  rw [← List.take_append_drop count ranking, List.pairwise_append] at split
  rw [← List.take_append_drop count ranking] at member
  cases List.mem_append.mp member with
  | inl front => exact absurd front left
  | inr rest => exact split.2.2 one chosen value rest

/-- The members determine their ranking. -/
theorem ranking_unique (irreflexive : ∀ value, ¬ before value value)
    (transitive : ∀ one two three, before one two → before two three → before one three)
    (left right : List α) (ranked : left.Pairwise before) (rankedRight : right.Pairwise before)
    (same : ∀ value, value ∈ left ↔ value ∈ right) : left = right := by
  have distinct : ∀ values : List α, values.Pairwise before → values.Nodup := by
    intro values order
    refine order.imp ?_
    rintro value _ ahead rfl
    exact irreflexive value ahead
  have rearranged : left.Perm right :=
    (List.perm_ext_iff_of_nodup (distinct left ranked) (distinct right rankedRight)).mpr same
  apply List.Perm.eq_of_pairwise _ ranked rankedRight rearranged
  intro one two _ _ ahead behind
  exact absurd (transitive one two one ahead behind) (irreflexive one)

/-- A value is one of the least ones of a number: fewer than that many come before it. -/
structure AmongLeast (before : α → α → Prop) (count : Nat) (available : α → Prop) (value : α) :
    Prop where
  member : available value
  few : ∀ earlier : List α, earlier.Nodup → (∀ one ∈ earlier, available one ∧ before one value) →
    earlier.length < count

/-- One of the least values is in the front of a ranking of all of them. -/
theorem AmongLeast.mem_take {count : Nat} {available : α → Prop} {value : α}
    (least : AmongLeast before count available value) (ranking : List α)
    (ranked : ranking.Pairwise before) (distinct : ranking.Nodup)
    (all : ∀ one, one ∈ ranking ↔ available one) : value ∈ ranking.take count := by
  by_contra outside
  have front := least_take count ranking ranked
  have fewer := least.few (ranking.take count) (distinct.sublist (List.take_sublist _ _)) ?_
  · have short : ranking.length < count := by
      rw [List.length_take] at fewer
      omega
    rw [List.take_of_length_le (Nat.le_of_lt short)] at outside
    exact outside ((all value).mpr least.member)
  · intro one chosen
    exact ⟨(all one).mp (front.among chosen),
      front.least value ((all value).mpr least.member) outside one chosen⟩

/-- One of the least values is among those that were chosen as the least ones. -/
theorem Least.mem_of_amongLeast {count : Nat} {available chosen : List α} {value : α}
    (least : Least before count available chosen) (irreflexive : ∀ one, ¬ before one one)
    (among : AmongLeast before count (· ∈ available) value) : value ∈ chosen := by
  by_contra outside
  have distinct : chosen.Nodup := by
    refine least.ranked.imp ?_
    rintro one _ earlier rfl
    exact irreflexive one earlier
  have few := among.few chosen distinct fun one member =>
    ⟨least.among member, least.least value among.member outside one member⟩
  have more : (value :: chosen).length ≤ available.length := by
    apply (List.subperm_of_subset (List.nodup_cons.mpr ⟨outside, distinct⟩) _).length_le
    exact List.cons_subset.mpr ⟨among.member, least.among⟩
  have full := least.full
  rw [List.length_cons] at more
  omega

/-- A front that passes a filter is the front of what passes it. -/
theorem take_filter (passes : α → Bool) (count : Nat) (values : List α)
    (front : ∀ value ∈ values.take count, passes value = true) (long : count ≤ values.length) :
    (values.filter passes).take count = values.take count := by
  have kept : (values.take count).filter passes = values.take count :=
    List.filter_eq_self.mpr front
  have length : (values.take count).length = count := by simp [long]
  conv_lhs => rw [← List.take_append_drop count values, List.filter_append, kept]
  exact List.take_left' length

end Rankings
