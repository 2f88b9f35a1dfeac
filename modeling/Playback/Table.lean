/-!
# Tables

Finite maps from texts to values, kept in the order of their keys. The order of texts is that of
their code points, which is also that of their UTF-8 bytes.
-/

namespace Playback

/-- Put a value at a key into a list of entries that is in the order of its keys. -/
def putEntry (key : String) (value : α) : List (String × α) → List (String × α)
  | [] => [(key, value)]
  | (k, v) :: rest =>
    if key < k then (key, value) :: (k, v) :: rest
    else if key = k then (key, value) :: rest
    else (k, v) :: putEntry key value rest

/-- The keys of a list of entries are in strictly ascending order. -/
def InKeyOrder (entries : List (String × α)) : Prop :=
  entries.Pairwise fun a b => a.1 < b.1

/-- Every key after a put is the new one or one from before. -/
theorem mem_putEntry {key : String} {value : α} {entries : List (String × α)} {e : String × α}
    (h : e ∈ putEntry key value entries) : e = (key, value) ∨ e ∈ entries := by
  induction entries with
  | nil => simpa [putEntry] using h
  | cons head rest ih =>
    obtain ⟨k, v⟩ := head
    simp only [putEntry] at h
    split at h
    · simpa using h
    · split at h
      · rcases List.mem_cons.1 h with h | h
        · exact .inl h
        · exact .inr (List.mem_cons_of_mem _ h)
      · rcases List.mem_cons.1 h with h | h
        · exact .inr (h ▸ List.mem_cons_self)
        · exact (ih h).imp_right (List.mem_cons_of_mem _)

/-- Of two texts that are neither equal nor in order, the second comes first. -/
theorem lt_of_not_lt_of_ne {a b : String} (h : ¬ a < b) (hne : a ≠ b) : b < a := by
  refine String.not_le.1 fun hle => ?_
  rcases String.le_total b a with h' | h'
  · exact hne (String.le_antisymm hle h')
  · exact hne (String.le_antisymm hle (String.not_lt.1 h))

/-- A put keeps the keys in order. -/
theorem InKeyOrder.putEntry {entries : List (String × α)} (h : InKeyOrder entries)
    (key : String) (value : α) : InKeyOrder (Playback.putEntry key value entries) := by
  induction entries with
  | nil => simp [InKeyOrder, Playback.putEntry]
  | cons head rest ih =>
    obtain ⟨k, v⟩ := head
    obtain ⟨hk, hrest⟩ := List.pairwise_cons.1 h
    simp only [Playback.putEntry]
    split
    · rename_i hlt
      refine List.pairwise_cons.2 ⟨fun e he => ?_, h⟩
      rcases List.mem_cons.1 he with rfl | he
      · exact hlt
      · exact String.lt_trans hlt (hk e he)
    · split
      · rename_i heq
        subst heq
        exact List.pairwise_cons.2 ⟨hk, hrest⟩
      · rename_i hlt hne
        refine List.pairwise_cons.2 ⟨fun e he => ?_, ih hrest⟩
        rcases mem_putEntry he with rfl | he
        · exact lt_of_not_lt_of_ne hlt hne
        · exact hk e he

/-- Looking up a key after a put. -/
theorem lookup_putEntry (key other : String) (value : α) (entries : List (String × α)) :
    (putEntry key value entries).lookup other =
      if other = key then some value else entries.lookup other := by
  have hb {k : String} (h : other ≠ k) : (other == k) = false := by simpa using h
  induction entries with
  | nil =>
    by_cases h : other = key
    · simp [putEntry, h]
    · simp [putEntry, List.lookup_cons, h, hb h]
  | cons head rest ih =>
    obtain ⟨k, v⟩ := head
    simp only [putEntry]
    by_cases h : other = key
    · subst h
      split
      · simp
      · split
        · simp
        · rename_i hne
          simpa [List.lookup_cons, hb hne] using ih
    · rw [if_neg h] at ih ⊢
      split
      · simp [List.lookup_cons, hb h]
      · split
        · rename_i heq
          subst heq
          simp [List.lookup_cons, hb h]
        · simp only [List.lookup_cons, ih]

/-- Looking up a key where keys are in order finds its only entry. -/
theorem InKeyOrder.lookup_eq_some_iff {entries : List (String × α)} (h : InKeyOrder entries)
    {key : String} {value : α} :
    entries.lookup key = some value ↔ (key, value) ∈ entries := by
  induction entries with
  | nil => simp
  | cons head rest ih =>
    obtain ⟨k, v⟩ := head
    obtain ⟨hk, hrest⟩ := List.pairwise_cons.1 h
    have hlater : (k, value) ∉ rest := fun hmem => String.lt_irrefl k (hk (k, value) hmem)
    by_cases hkey : key = k
    · subst hkey
      simp [hlater, eq_comm]
    · have hb : (key == k) = false := by simpa using hkey
      simp [List.lookup_cons, hb, hkey, ih hrest]

/-- A finite map from texts to values. -/
structure Table (α : Type) where
  /-- The entries in the order of their keys. -/
  entries : List (String × α)
  /-- No two entries have the same key, and each comes before those with greater keys. -/
  ordered : InKeyOrder entries

namespace Table

/-- Tables with the same entries are equal. -/
@[ext] theorem ext {s t : Table α} (h : s.entries = t.entries) : s = t := by
  cases s
  cases t
  cases h
  rfl

/-- The table without entries. -/
def empty : Table α :=
  ⟨[], List.Pairwise.nil⟩

/-- The value at a key. -/
def get? (t : Table α) (key : String) : Option α :=
  t.entries.lookup key

/-- The table with a value at a key, in place of the one that was there. -/
def put (t : Table α) (key : String) (value : α) : Table α :=
  ⟨putEntry key value t.entries, t.ordered.putEntry key value⟩

/-- The table of a list of entries, where a later entry replaces an earlier one with its key. -/
def ofList (entries : List (String × α)) : Table α :=
  entries.foldl (fun t (key, value) => t.put key value) empty

/-- The values in the order of their keys. -/
def values (t : Table α) : List α :=
  t.entries.map (·.2)

/-- Looking up after a put. -/
theorem get?_put (t : Table α) (key other : String) (value : α) :
    (t.put key value).get? other = if other = key then some value else t.get? other :=
  lookup_putEntry key other value t.entries

/-- The entries of a table are its keys with their values. -/
theorem mem_entries_iff {t : Table α} {key : String} {value : α} :
    (key, value) ∈ t.entries ↔ t.get? key = some value :=
  t.ordered.lookup_eq_some_iff.symm

end Table

end Playback
