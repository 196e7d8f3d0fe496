import EnergyGateway.ComponentId
import Mathlib.Data.List.Nodup
import Mathlib.Data.List.Perm.Subperm
import Mathlib.Order.Bounds.Basic

/-!
# New ids are free

A number that is not taken exists among the first ones, since there are more of them than taken numbers, so the search
ends at the least one (`isLeast_lowestFree`).  The number behind a stem is read back as it was written
(`number?_numbered`), so an id with a number that is not taken is not among the ids (`next_not_mem`).  Numbers are read
as words, and so the ids must not be more than a word can count.  A new id is free, has the least number that can be
given, and depends only on which ids there are (`next_isNew`).
-/

namespace EnergyGateway.ComponentId

variable {stem : String} {n : Nat}

/-! ### The lowest free number -/

private theorem exists_free (taken : List Nat) : ∃ n ∈ List.range (taken.length + 1), n ∉ taken := by
  by_contra hall
  push Not at hall
  have hnodup : (List.range (taken.length + 1)).Nodup := List.nodup_range
  have hlength := (hnodup.subperm hall).length_le
  rw [List.length_range] at hlength
  omega

private theorem find?_lowestFree (taken : List Nat) :
    (List.range (taken.length + 1)).find? (fun n => !taken.contains n) = some (lowestFree taken) := by
  obtain ⟨n, hn, hfree⟩ := exists_free taken
  have hsome : ((List.range (taken.length + 1)).find? fun n => !taken.contains n).isSome := by
    rw [List.find?_isSome]
    exact ⟨n, hn, by simpa using hfree⟩
  obtain ⟨m, hm⟩ := Option.isSome_iff_exists.1 hsome
  rw [lowestFree, hm]
  rfl

theorem lowestFree_not_mem (taken : List Nat) : lowestFree taken ∉ taken := by
  have hfree := List.find?_some (find?_lowestFree taken)
  simpa using hfree

/-- The search passes the numbers that are taken and stops at the least other one. -/
theorem isLeast_lowestFree (taken : List Nat) : IsLeast {m | m ∉ taken} (lowestFree taken) := by
  refine ⟨lowestFree_not_mem taken, fun m hm => ?_⟩
  obtain ⟨-, -, hpassed⟩ := List.find?_range_eq_some.1 (find?_lowestFree taken)
  by_contra! hlt
  exact hm (by simpa using hpassed m hlt)

/-- Neither the order of the taken numbers nor how often each of them is taken matters. -/
theorem lowestFree_congr {taken taken' : List Nat} (h : ∀ m, m ∈ taken ↔ m ∈ taken') :
    lowestFree taken = lowestFree taken' := by
  have hleast := isLeast_lowestFree taken
  simp only [h] at hleast
  exact hleast.unique (isLeast_lowestFree taken')

theorem lowestFree_le_length (taken : List Nat) : lowestFree taken ≤ taken.length := by
  have hmem := List.mem_of_find?_eq_some (find?_lowestFree taken)
  rw [List.mem_range] at hmem
  omega

/-! ### Numbers behind a stem -/

theorem toList_numbered (stem : String) (n : Nat) : (numbered stem n).toList = stem.toList ++ Nat.toDigits 10 n := by
  simp [numbered]

private theorem natural?_toDigits (h : n ≤ Text.wordMax) : Text.natural? Text.wordMax (Nat.toDigits 10 n) = some n := by
  have hplus : ∀ rest, Nat.toDigits 10 n ≠ '+' :: rest := by
    intro rest heq
    have hmem : '+' ∈ Nat.toDigits 10 n := by simp [heq]
    have hdigit := Nat.isDigit_of_mem_toDigits (by decide) (by decide) hmem
    simp at hdigit
  unfold Text.natural?
  split
  · rename_i rest heq
    exact absurd heq (hplus rest)
  · simp [Text.digits?_toDigits, Option.filter, h]

/-- An id has a number if a number is read behind the stem, whichever way it is written. -/
theorem number?_eq_some_iff {id : String} :
    number? stem id = some n ↔ ∃ suffix, id = stem ++ suffix ∧ Text.natural? Text.wordMax suffix.toList = some n := by
  simp only [number?, Option.bind_eq_some_iff, Text.after?_eq_some_iff]

theorem number?_numbered (h : n ≤ Text.wordMax) : number? stem (numbered stem n) = some n := by
  refine number?_eq_some_iff.2 ⟨toString n, rfl, ?_⟩
  simpa using natural?_toDigits h

/-! ### Free ids -/

theorem next_not_mem {existing : List String} (hsize : existing.length ≤ Text.wordMax) :
    next stem existing ∉ existing := by
  have hfree := lowestFree_not_mem (existing.filterMap (number? stem))
  have hle := lowestFree_le_length (existing.filterMap (number? stem))
  have hfilter : (existing.filterMap (number? stem)).length ≤ existing.length := List.length_filterMap_le _ _
  intro hmem
  apply hfree
  rw [List.mem_filterMap]
  exact ⟨next stem existing, hmem, number?_numbered (by omega)⟩

/-- What is promised of a new id. -/
structure IsNew (stem : String) (existing : List String) (id : String) : Prop where
  /-- No component has it. -/
  free : id ∉ existing
  /-- Each lower number is read behind the stem of some id, and so there are at least as many ids as lower numbers. -/
  least : ∃ n ≤ existing.length, id = numbered stem n ∧
    ∀ m < n, ∃ suffix, stem ++ suffix ∈ existing ∧ Text.natural? Text.wordMax suffix.toList = some m

/-- The next id is new, and it depends only on which ids there are, neither on their order nor on how often each of them
occurs.  The length of a list is a machine word. -/
theorem next_isNew {existing : List String} (hsize : existing.length ≤ Text.wordMax) :
    IsNew stem existing (next stem existing) ∧
      ∀ other : List String, (∀ id, id ∈ other ↔ id ∈ existing) → next stem other = next stem existing := by
  refine ⟨⟨next_not_mem hsize, lowestFree (existing.filterMap (number? stem)), ?_, rfl, fun m hm => ?_⟩,
    fun other h => ?_⟩
  · exact (lowestFree_le_length _).trans (List.length_filterMap_le _ _)
  · have htaken : m ∈ existing.filterMap (number? stem) := by
      by_contra hfree
      exact absurd ((isLeast_lowestFree _).2 hfree) (not_le.2 hm)
    obtain ⟨id, hid, hnumber⟩ := List.mem_filterMap.1 htaken
    obtain ⟨suffix, rfl, hsuffix⟩ := number?_eq_some_iff.1 hnumber
    exact ⟨suffix, hid, hsuffix⟩
  · have hnumbers (m : Nat) : m ∈ other.filterMap (number? stem) ↔ m ∈ existing.filterMap (number? stem) := by
      simp only [List.mem_filterMap, h]
    rw [next, next, lowestFree_congr hnumbers]

/-- Numbers count however they are written, but not if they are beyond a word or behind another stem. -/
theorem next_isNew_unusual :
    let existing :=
      ["meter0", "meter+1", "meter002", "meter0", "meter18446744073709551616", "battery3", "meter4", "meterX"]
    existing.length ≤ Text.wordMax ∧ next "meter" existing = "meter3" ∧ IsNew "meter" existing "meter3" ∧
      next "meter" (existing.reverse ++ ["meter+1"]) = "meter3" := by
  intro existing
  have hsize : existing.length ≤ Text.wordMax := by decide
  have hnext : next "meter" existing = "meter3" := by decide +kernel
  obtain ⟨hnew, hsame⟩ := @next_isNew "meter" existing hsize
  rw [hnext] at hnew hsame
  exact ⟨hsize, hnext, hnew, hsame _ fun id => by simp [existing, or_comm, or_left_comm]⟩

end EnergyGateway.ComponentId
