/-!
# Maps in key order

The edge and its configuration manager exchange maps whose order carries no meaning.  They are kept as lists of
pairs in strictly increasing key order, by code points, so that a map has one representation and is always
listed the same way.  Of repeated keys the last one written wins.
-/

namespace EnergyGateway

variable {α β : Type}

/-- Whether the keys increase strictly. -/
def Increasing (entries : List (String × α)) : Prop := (entries.map Prod.fst).Pairwise (· < ·)

/-- Put a value at the place of its key, over the value that was there. -/
def insertKey (key : String) (value : α) : List (String × α) → List (String × α)
  | [] => [(key, value)]
  | (k, v) :: rest =>
    if key < k then (key, value) :: (k, v) :: rest
    else if key = k then (key, value) :: rest
    else (k, v) :: insertKey key value rest

/-- The pairs in key order, the last of repeated keys kept. -/
def sortKeys (pairs : List (String × α)) : List (String × α) :=
  pairs.foldl (fun entries (key, value) => insertKey key value entries) []

theorem mem_keys_insertKey {key k : String} {value : α} {entries : List (String × α)} :
    k ∈ (insertKey key value entries).map Prod.fst ↔ k = key ∨ k ∈ entries.map Prod.fst := by
  induction entries with
  | nil => simp [insertKey]
  | cons e rest ih =>
    unfold insertKey
    split
    · simp
    · split
      · rename_i h
        simp [h]
      · rw [List.map_cons, List.mem_cons, ih]
        simp only [List.map_cons, List.mem_cons]
        exact ⟨fun h => by rcases h with h | h | h <;> simp [h], fun h => by rcases h with h | h | h <;> simp [h]⟩

theorem increasing_insertKey {key : String} {value : α} {entries : List (String × α)} (h : Increasing entries) :
    Increasing (insertKey key value entries) := by
  induction entries with
  | nil => simp [insertKey, Increasing]
  | cons e rest ih =>
    obtain ⟨k, v⟩ := e
    simp only [Increasing, List.map_cons, List.pairwise_cons] at h
    unfold insertKey
    split
    · rename_i hlt
      simp only [Increasing, List.map_cons, List.pairwise_cons, List.mem_cons]
      refine ⟨?_, h⟩
      rintro a (rfl | ha)
      · exact hlt
      · exact String.lt_trans hlt (h.1 a ha)
    · rename_i hlt
      split
      · rename_i heq
        subst heq
        simpa only [Increasing, List.map_cons, List.pairwise_cons] using h
      · rename_i hne
        simp only [Increasing, List.map_cons, List.pairwise_cons]
        refine ⟨fun a ha => ?_, ih h.2⟩
        rcases mem_keys_insertKey.1 ha with rfl | ha
        · exact Std.lt_of_le_of_ne (Std.not_lt.1 hlt) (fun he => hne he.symm)
        · exact h.1 a ha

/-- Looking up a key, the first pair decides first. -/
theorem lookup_cons_eq_ite (key : String) (e : String × α) (rest : List (String × α)) :
    (e :: rest).lookup key = if key = e.1 then some e.2 else rest.lookup key := by
  by_cases h : key = e.1
  · subst h
    rw [if_pos rfl]
    exact List.lookup_cons_self
  · rw [List.lookup_cons, beq_eq_false_iff_ne.2 h, if_neg h]

theorem lookup_insertKey (key k : String) (value : α) (entries : List (String × α)) :
    (insertKey key value entries).lookup k = if k = key then some value else entries.lookup k := by
  induction entries with
  | nil => rw [insertKey, lookup_cons_eq_ite]
  | cons e rest ih =>
    unfold insertKey
    split
    · rw [lookup_cons_eq_ite]
    · split
      · rename_i heq
        subst heq
        rw [lookup_cons_eq_ite, lookup_cons_eq_ite]
        by_cases h : k = e.1 <;> simp [h]
      · rename_i hne
        rw [lookup_cons_eq_ite, ih, lookup_cons_eq_ite]
        by_cases h : k = key
        · subst h
          simp [hne]
        · simp [h]

private theorem increasing_foldl_insertKey (pairs : List (String × α)) {entries : List (String × α)}
    (h : Increasing entries) :
    Increasing (pairs.foldl (fun entries (key, value) => insertKey key value entries) entries) := by
  induction pairs generalizing entries with
  | nil => exact h
  | cons p rest ih => exact ih (increasing_insertKey h)

private theorem lookup_foldl_insertKey (pairs entries : List (String × α)) (k : String) :
    (pairs.foldl (fun entries (key, value) => insertKey key value entries) entries).lookup k =
      (pairs.reverse.lookup k).or (entries.lookup k) := by
  induction pairs generalizing entries with
  | nil => rfl
  | cons p rest ih =>
    rw [List.foldl_cons, ih, lookup_insertKey, List.reverse_cons, List.lookup_append, Option.or_assoc]
    congr 1
    rw [lookup_cons_eq_ite]
    by_cases h : k = p.1 <;> simp [h]

theorem increasing_sortKeys (pairs : List (String × α)) : Increasing (sortKeys pairs) :=
  increasing_foldl_insertKey pairs List.Pairwise.nil

/-- A finite map from texts, listed in key order. -/
structure KeyMap (α : Type) where
  entries : List (String × α)
  increasing : Increasing entries

namespace KeyMap

def empty : KeyMap α := ⟨[], List.Pairwise.nil⟩

instance : Inhabited (KeyMap α) := ⟨empty⟩

/-- The map of a list of pairs; of repeated keys the last one counts. -/
def ofList (pairs : List (String × α)) : KeyMap α := ⟨sortKeys pairs, increasing_sortKeys pairs⟩

def insert (m : KeyMap α) (key : String) (value : α) : KeyMap α :=
  ⟨insertKey key value m.entries, increasing_insertKey m.increasing⟩

def get? (m : KeyMap α) (key : String) : Option α := m.entries.lookup key

def contains (m : KeyMap α) (key : String) : Bool := m.entries.any (·.1 == key)

def keys (m : KeyMap α) : List String := m.entries.map Prod.fst

def size (m : KeyMap α) : Nat := m.entries.length

/-- Of repeated keys the last one counts. -/
theorem get?_ofList (pairs : List (String × α)) (key : String) :
    (ofList pairs).get? key = pairs.reverse.lookup key := by
  show (sortKeys pairs).lookup key = _
  rw [sortKeys, lookup_foldl_insertKey]
  simp

end KeyMap

end EnergyGateway
