import EnergyGateway.KeyMap

/-!
# Keys of a map

A key that is new to a map gets one place among the entries, and nothing else changes (`exists_entries_insert`).  A map
of pairs that are made by a function of their keys has the values of the function (`get?_ofList_filterMap`), and a map
is the map of its own entries (`ofList_entries`).
-/

namespace EnergyGateway

variable {α : Type} {key k : String} {value : α}

/-! ### Keys of a list of pairs -/

section Lookup

variable {entries : List (String × α)}

theorem lookup_eq_none_iff_not_mem : entries.lookup key = none ↔ key ∉ entries.map Prod.fst := by
  simp only [List.lookup_eq_none_iff, bne_iff_ne, List.mem_map, not_exists, not_and, ne_comm]

theorem lookup_eq_some_of_mem (hnodup : (entries.map Prod.fst).Nodup) (h : (key, value) ∈ entries) :
    entries.lookup key = some value := by
  induction entries with
  | nil => cases h
  | cons e rest ih =>
    rw [List.map_cons, List.nodup_cons] at hnodup
    rw [lookup_cons_eq_ite]
    rcases List.mem_cons.1 h with rfl | h
    · rw [if_pos rfl]
    · rw [if_neg, ih hnodup.2 h]
      rintro rfl
      exact hnodup.1 (List.mem_map.2 ⟨_, h, rfl⟩)

theorem mem_of_lookup_eq_some (h : entries.lookup key = some value) : (key, value) ∈ entries := by
  obtain ⟨before, after, rfl, -⟩ := List.lookup_eq_some_iff.1 h
  exact List.mem_append_right _ List.mem_cons_self

/-- Without repeats it does not matter from which end a key is looked up. -/
theorem lookup_reverse (hnodup : (entries.map Prod.fst).Nodup) (key : String) :
    entries.reverse.lookup key = entries.lookup key := by
  have hreverse : (entries.reverse.map Prod.fst).Nodup := by
    rw [List.map_reverse]
    exact List.pairwise_reverse.2 (hnodup.imp Ne.symm)
  ext value
  exact ⟨fun h => lookup_eq_some_of_mem hnodup (List.mem_reverse.1 (mem_of_lookup_eq_some h)),
    fun h => lookup_eq_some_of_mem hreverse (List.mem_reverse.2 (mem_of_lookup_eq_some h))⟩

theorem lookup_filter (p : String → Bool) (entries : List (String × α)) (key : String) :
    (entries.filter fun e => p e.1).lookup key = if p key then entries.lookup key else none := by
  induction entries with
  | nil => simp
  | cons e rest ih =>
    rw [List.filter_cons, lookup_cons_eq_ite]
    by_cases hkey : key = e.1
    · subst hkey
      cases hp : p e.1 <;> simp [hp, ih, lookup_cons_eq_ite]
    · cases hp : p e.1 <;> simp [ih, lookup_cons_eq_ite, hkey]

theorem lookup_map {β : Type} (g : α → β) (entries : List (String × α)) (key : String) :
    (entries.map fun e => (e.1, g e.2)).lookup key = (entries.lookup key).map g := by
  induction entries with
  | nil => rfl
  | cons e rest ih =>
    rw [List.map_cons, lookup_cons_eq_ite, lookup_cons_eq_ite, ih]
    split <;> rfl

end Lookup

namespace KeyMap

variable {m : KeyMap α}

theorem contains_iff : m.contains key ↔ key ∈ m.keys := by
  simp [contains, keys]

theorem contains_eq_false_iff : m.contains key = false ↔ key ∉ m.keys := by
  rw [← contains_iff, Bool.not_eq_true]

theorem get?_insert : (m.insert key value).get? k = if k = key then some value else m.get? k :=
  lookup_insertKey key k value m.entries

private theorem exists_insertKey {entries : List (String × α)} (h : key ∉ entries.map Prod.fst) :
    ∃ before after, entries = before ++ after ∧ insertKey key value entries = before ++ (key, value) :: after := by
  induction entries with
  | nil => exact ⟨[], [], rfl, rfl⟩
  | cons e rest ih =>
    rw [List.map_cons, List.mem_cons, not_or] at h
    unfold insertKey
    split
    · exact ⟨[], e :: rest, rfl, rfl⟩
    · rw [if_neg h.1]
      obtain ⟨before, after, hrest, hinsert⟩ := ih h.2
      exact ⟨e :: before, after, by rw [hrest, List.cons_append], by rw [hinsert, List.cons_append]⟩

/-- The entry of a new key stands between entries that were there before. -/
theorem exists_entries_insert (h : m.contains key = false) (value : α) :
    ∃ before after, m.entries = before ++ after ∧ (m.insert key value).entries = before ++ (key, value) :: after :=
  exists_insertKey (contains_eq_false_iff.1 h)

private theorem lookup_filterMap_pair (g : String → Option α) (ks : List String) :
    (ks.filterMap fun k => (g k).map ((k, ·))).lookup k = if k ∈ ks then g k else none := by
  induction ks with
  | nil => rfl
  | cons l ks ih =>
    rw [List.filterMap_cons]
    cases hl : g l with
    | none =>
      by_cases hk : k = l
      · subst hk
        simp [ih, hl]
      · simp [ih, hk]
    | some a =>
      rw [Option.map_some, lookup_cons_eq_ite, ih]
      by_cases hk : k = l <;> simp [hk, hl]

/-- A key that is given more than once has the same value each time, so the order of the keys does not matter. -/
theorem get?_ofList_filterMap (g : String → Option α) (ks : List String) (k : String) :
    (ofList (ks.filterMap fun k => (g k).map ((k, ·)))).get? k = if k ∈ ks then g k else none := by
  rw [get?_ofList, ← List.filterMap_reverse, lookup_filterMap_pair]
  simp

/-! ### Entries -/

theorem nodup_keys (m : KeyMap α) : (m.entries.map Prod.fst).Nodup := m.increasing.imp fun h => String.ne_of_lt h

private theorem mem_of_mem_insertKey {e : String × α} {entries : List (String × α)}
    (h : e ∈ insertKey key value entries) : e = (key, value) ∨ e ∈ entries := by
  induction entries with
  | nil => exact .inl (List.mem_singleton.1 h)
  | cons first rest ih =>
    unfold insertKey at h
    split at h
    · exact List.mem_cons.1 h
    · split at h
      · exact (List.mem_cons.1 h).imp_right (List.mem_cons_of_mem _)
      · rcases List.mem_cons.1 h with rfl | h
        · exact .inr List.mem_cons_self
        · exact (ih h).imp_right (List.mem_cons_of_mem _)

/-- A map has only pairs that it was given. -/
theorem mem_of_mem_ofList {e : String × α} {pairs : List (String × α)} (h : e ∈ (ofList pairs).entries) :
    e ∈ pairs := by
  suffices hfold : ∀ entries : List (String × α),
      e ∈ pairs.foldl (fun entries pair => insertKey pair.1 pair.2 entries) entries → e ∈ entries ∨ e ∈ pairs from
    (hfold [] h).resolve_left List.not_mem_nil
  clear h
  induction pairs with
  | nil => exact fun entries h => .inl h
  | cons pair rest ih =>
    intro entries h
    rcases ih _ h with h | h
    · rcases mem_of_mem_insertKey h with rfl | h
      · exact .inr List.mem_cons_self
      · exact .inl h
    · exact .inr (List.mem_cons_of_mem _ h)

private theorem insertKey_of_forall_lt {entries : List (String × α)} (h : ∀ e ∈ entries, e.1 < key) :
    insertKey key value entries = entries ++ [(key, value)] := by
  induction entries with
  | nil => rfl
  | cons e rest ih =>
    have hlt : e.1 < key := h e List.mem_cons_self
    rw [insertKey, if_neg (String.lt_asymm hlt), if_neg (String.ne_of_lt hlt).symm,
      ih fun e' he' => h e' (List.mem_cons_of_mem _ he'), List.cons_append]

/-- Entries that stand in key order stay where they are. -/
theorem ofList_entries (m : KeyMap α) : ofList m.entries = m := by
  suffices hfold : ∀ before entries : List (String × α), Increasing (before ++ entries) →
      entries.foldl (fun entries pair => insertKey pair.1 pair.2 entries) before = before ++ entries by
    obtain ⟨entries, hentries⟩ := m
    have heq : sortKeys entries = entries := hfold [] entries hentries
    simp only [ofList, heq]
  intro before entries h
  induction entries generalizing before with
  | nil => exact (List.append_nil before).symm
  | cons e rest ih =>
    have hlt : ∀ e' ∈ before, e'.1 < e.1 := by
      rw [Increasing, List.map_append, List.pairwise_append] at h
      exact fun e' he' => h.2.2 _ (List.mem_map_of_mem he') _ List.mem_cons_self
    have hmove : before ++ e :: rest = before ++ [e] ++ rest := List.append_cons ..
    rw [List.foldl_cons, insertKey_of_forall_lt hlt, hmove]
    exact ih _ (hmove ▸ h)

end KeyMap

end EnergyGateway
