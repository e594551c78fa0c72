import Mathlib.Data.List.Nodup

/-!
# Maps without an order

The contents of a hash map are listed in some order, with one entry for each key.
Looking a key up, assigning to it and erasing it do not depend on that order. An
iteration does: it visits the entries in an arrangement that the caller cannot
choose, and a loop that erases the entries it passes and stops at the first one it
looks for leaves the entries behind that one alone.
-/

namespace UnorderedMaps

universe u v
variable {κ : Type u} {ν : Type v}

/-- The entries of a map; no key occurs twice. The order in which they are listed is
nobody's. -/
structure UnorderedMap (κ : Type u) (ν : Type v) where
  entries : List (κ × ν)
  distinct : (entries.map Prod.fst).Nodup
deriving DecidableEq

/-- The order in which an iteration visits the entries. It is a rearrangement and may be
another one at each iteration. -/
structure Layout (κ : Type u) (ν : Type v) where
  arrange : List (κ × ν) → List (κ × ν)
  rearranges : ∀ entries, (arrange entries).Perm entries

/-- The layout that visits the entries as they are listed. -/
def Layout.listed : Layout κ ν where
  arrange := id
  rearranges := fun _ => List.Perm.refl _

namespace UnorderedMap

/-- A map without entries. -/
def empty : UnorderedMap κ ν where
  entries := []
  distinct := List.nodup_nil

/-- Keep the entries that a test accepts. -/
def retain (map : UnorderedMap κ ν) (kept : κ × ν → Bool) : UnorderedMap κ ν where
  entries := map.entries.filter kept
  distinct := (List.filter_sublist.map Prod.fst).nodup map.distinct

/-- Erase while iterating: an entry to drop is erased, the first other entry that
is wanted ends the loop, and what the loop did not reach stays. -/
def scanEntries (dropped wanted : ν → Bool) : List (κ × ν) → Option ν × List (κ × ν)
  | [] => (none, [])
  | entry :: rest =>
    if dropped entry.2 then scanEntries dropped wanted rest
    else if wanted entry.2 then (some entry.2, entry :: rest)
    else
      let scanned := scanEntries dropped wanted rest
      (scanned.1, entry :: scanned.2)

/-- The loop only removes entries. -/
theorem scanEntries_sublist (dropped wanted : ν → Bool) (entries : List (κ × ν)) :
    (scanEntries dropped wanted entries).2.Sublist entries := by
  induction entries with
  | nil => exact List.Sublist.refl _
  | cons entry rest inductionHypothesis =>
    simp only [scanEntries]
    split
    · exact inductionHypothesis.cons entry
    · split
      · exact List.Sublist.refl _
      · exact inductionHypothesis.cons_cons entry

/-- An entry that must not be dropped survives the loop. -/
theorem mem_scanEntries (dropped wanted : ν → Bool) (entries : List (κ × ν)) (entry : κ × ν)
    (member : entry ∈ entries) (keeps : dropped entry.2 = false) :
    entry ∈ (scanEntries dropped wanted entries).2 := by
  induction entries with
  | nil => simp at member
  | cons first rest inductionHypothesis =>
    simp only [scanEntries]
    cases List.mem_cons.mp member with
    | inl same =>
      subst same
      simp only [keeps, Bool.false_eq_true, ↓reduceIte]
      split <;> simp
    | inr later =>
      split
      · exact inductionHypothesis later
      · split
        · exact member
        · exact List.mem_cons_of_mem _ (inductionHypothesis later)

/-- What ends the loop is an entry that is kept and wanted. -/
theorem scanEntries_some (dropped wanted : ν → Bool) (entries : List (κ × ν)) (value : ν)
    (ended : (scanEntries dropped wanted entries).1 = some value) :
    ∃ key, (key, value) ∈ entries ∧ dropped value = false ∧ wanted value = true := by
  induction entries with
  | nil => simp [scanEntries] at ended
  | cons entry rest inductionHypothesis =>
    obtain ⟨key, held⟩ := entry
    simp only [scanEntries] at ended
    split at ended
    · obtain ⟨other, member, found⟩ := inductionHypothesis ended
      exact ⟨other, List.mem_cons_of_mem _ member, found⟩
    · split at ended
      · obtain rfl := Option.some.inj ended
        exact ⟨key, by simp, by simpa using ‹¬ dropped held = true›, ‹wanted held = true›⟩
      · obtain ⟨other, member, found⟩ := inductionHypothesis ended
        exact ⟨other, List.mem_cons_of_mem _ member, found⟩

/-- A loop that runs to the end has met no entry that is kept and wanted. -/
theorem scanEntries_none (dropped wanted : ν → Bool) (entries : List (κ × ν))
    (ended : (scanEntries dropped wanted entries).1 = none) (entry : κ × ν)
    (member : entry ∈ entries) (keeps : dropped entry.2 = false) : wanted entry.2 = false := by
  induction entries with
  | nil => simp at member
  | cons first rest inductionHypothesis =>
    simp only [scanEntries] at ended
    cases List.mem_cons.mp member with
    | inl same =>
      subst same
      simp only [keeps, Bool.false_eq_true, ↓reduceIte] at ended
      split at ended
      · simp at ended
      · simpa using ‹¬ wanted entry.2 = true›
    | inr later =>
      split at ended
      · exact inductionHypothesis ended later
      · split at ended
        · simp at ended
        · exact inductionHypothesis ended later

/-- Run the loop over the entries as the layout arranges them. -/
def scan (layout : Layout κ ν) (map : UnorderedMap κ ν) (dropped wanted : ν → Bool) :
    Option ν × UnorderedMap κ ν :=
  let scanned := scanEntries dropped wanted (layout.arrange map.entries)
  (scanned.1,
    { entries := scanned.2
      distinct := by
        have arranged := ((layout.rearranges map.entries).map Prod.fst).nodup_iff.mpr map.distinct
        exact ((scanEntries_sublist dropped wanted _).map Prod.fst).nodup arranged })

variable [DecidableEq κ]

/-- The value under a key. -/
def find (map : UnorderedMap κ ν) (key : κ) : Option ν :=
  (map.entries.find? fun entry => entry.1 = key).map Prod.snd

/-- Erase a key. -/
def erase (map : UnorderedMap κ ν) (key : κ) : UnorderedMap κ ν :=
  map.retain fun entry => entry.1 ≠ key

/-- Assign to a key, whether it is present or not. -/
def assign (map : UnorderedMap κ ν) (key : κ) (value : ν) : UnorderedMap κ ν where
  entries := (key, value) :: (map.erase key).entries
  distinct := by
    refine List.nodup_cons.mpr ⟨?_, (map.erase key).distinct⟩
    simp [erase, retain]

/-- An empty map has no value under any key. -/
@[simp] theorem find_empty (key : κ) : (empty : UnorderedMap κ ν).find key = none := rfl

/-- A lookup finds exactly the entries of the map. -/
theorem find_eq_some_iff (map : UnorderedMap κ ν) (key : κ) (value : ν) :
    map.find key = some value ↔ (key, value) ∈ map.entries := by
  obtain ⟨entries, distinct⟩ := map
  induction entries with
  | nil => simp [find]
  | cons entry rest inductionHypothesis =>
    obtain ⟨first, held⟩ := entry
    obtain ⟨fresh, others⟩ := List.nodup_cons.mp distinct
    have later := inductionHypothesis others
    by_cases same : first = key
    · subst same
      have absent : (first, value) ∉ rest := by
        intro member
        exact fresh (List.mem_map.mpr ⟨(first, value), member, rfl⟩)
      simp [find, absent, eq_comm]
    · have different : key ≠ first := fun equal => same equal.symm
      simp only [find, List.find?_cons, same, decide_false, List.mem_cons, Prod.mk.injEq,
        different, false_and, false_or]
      exact later

/-- Keeping some entries keeps the value of a key if its entry passes the test. -/
theorem find_retain (map : UnorderedMap κ ν) (kept : κ × ν → Bool) (key : κ) :
    (map.retain kept).find key = (map.find key).filter fun value => kept (key, value) := by
  apply Option.ext
  intro value
  rw [find_eq_some_iff, Option.filter_eq_some_iff, find_eq_some_iff]
  simp [retain]

/-- An erased key has no value any more. -/
@[simp] theorem find_erase_self (map : UnorderedMap κ ν) (key : κ) :
    (map.erase key).find key = none := by
  simp [erase, find_retain]

/-- The other keys keep theirs. -/
@[simp] theorem find_erase_other (map : UnorderedMap κ ν) (key other : κ) (different : other ≠ key) :
    (map.erase key).find other = map.find other := by
  rw [erase, find_retain]
  cases map.find other <;> simp [different]

/-- An assigned key has the new value, whether it had one before or not. -/
@[simp] theorem find_assign_self (map : UnorderedMap κ ν) (key : κ) (value : ν) :
    (map.assign key value).find key = some value := by
  simp [assign, find]

/-- The other keys keep theirs. -/
@[simp] theorem find_assign_other (map : UnorderedMap κ ν) (key other : κ) (value : ν)
    (different : other ≠ key) : (map.assign key value).find other = map.find other := by
  have unequal : ¬ key = other := fun same => different same.symm
  rw [← find_erase_other map key other different]
  simp [assign, find, unequal]

/-- An iteration leaves a key alone or, if its value was to be dropped, without a
value. -/
theorem find_scan (layout : Layout κ ν) (map : UnorderedMap κ ν) (dropped wanted : ν → Bool)
    (key : κ) :
    (map.scan layout dropped wanted).2.find key = map.find key ∨
      (map.scan layout dropped wanted).2.find key = none ∧
        ∃ value, map.find key = some value ∧ dropped value = true := by
  have arranged : ∀ entry, entry ∈ layout.arrange map.entries ↔ entry ∈ map.entries := fun _ =>
    (layout.rearranges map.entries).mem_iff
  have fewer : ∀ value, (map.scan layout dropped wanted).2.find key = some value →
      map.find key = some value := by
    intro value found
    rw [find_eq_some_iff] at found ⊢
    exact (arranged _).mp ((scanEntries_sublist dropped wanted _).mem found)
  cases held : map.find key with
  | none =>
    refine Or.inl ?_
    cases left : (map.scan layout dropped wanted).2.find key with
    | none => rfl
    | some value =>
      rw [fewer value left] at held
      simp at held
  | some value =>
    cases status : dropped value with
    | false =>
      refine Or.inl ((find_eq_some_iff _ _ _).mpr ?_)
      exact mem_scanEntries dropped wanted _ _ ((arranged _).mpr ((find_eq_some_iff _ _ _).mp held)) status
    | true =>
      cases left : (map.scan layout dropped wanted).2.find key with
      | none => exact Or.inr ⟨rfl, value, rfl, status⟩
      | some other => exact Or.inl ((fewer other left).symm.trans held)

/-- What an iteration finds is a value of the map that is kept and wanted. -/
theorem scan_some (layout : Layout κ ν) (map : UnorderedMap κ ν) (dropped wanted : ν → Bool)
    (value : ν) (ended : (map.scan layout dropped wanted).1 = some value) :
    ∃ key, map.find key = some value ∧ dropped value = false ∧ wanted value = true := by
  obtain ⟨key, member, found⟩ := scanEntries_some dropped wanted _ value ended
  exact ⟨key, (find_eq_some_iff _ _ _).mpr ((layout.rearranges map.entries).mem_iff.mp member), found⟩

/-- An iteration that finds nothing has no value that is kept and wanted. -/
theorem scan_none (layout : Layout κ ν) (map : UnorderedMap κ ν) (dropped wanted : ν → Bool)
    (ended : (map.scan layout dropped wanted).1 = none) (key : κ) (value : ν)
    (held : map.find key = some value) (keeps : dropped value = false) : wanted value = false :=
  scanEntries_none dropped wanted _ ended (key, value)
    ((layout.rearranges map.entries).mem_iff.mpr ((find_eq_some_iff _ _ _).mp held)) keeps

end UnorderedMap

end UnorderedMaps
