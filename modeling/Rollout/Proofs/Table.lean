import Rollout.Table

/-!
# Looking up in tables

A table is that of its own entries, and its lookups are those of the list that it is made of,
where the last value of a name counts.
-/

namespace Rollout.Table

variable {α β : Type} {t : Table α} {name other : String} {value : α}

theorem insertEntry_of_lt {name : String} {value : α} {entries : List (String × α)}
    (h : ∀ entry ∈ entries, entry.1 < name) :
    insertEntry name value entries = entries ++ [(name, value)] := by
  induction entries with
  | nil => rfl
  | cons entry entries ih =>
    obtain ⟨key, other⟩ := entry
    have hlt : key < name := h _ List.mem_cons_self
    have hge : ¬ name < key := String.lt_asymm hlt
    have hne : name ≠ key := by
      rintro rfl
      exact String.lt_irrefl _ hlt
    rw [insertEntry, if_neg hge, if_neg hne,
      ih fun entry hentry => h entry (List.mem_cons_of_mem _ hentry), List.cons_append]

theorem entries_foldl_insert {t : Table α} {pairs : List (String × α)}
    (h : (t.entries ++ pairs).Pairwise fun a b => a.1 < b.1) :
    (pairs.foldl (fun t pair => t.insert pair.1 pair.2) t).entries = t.entries ++ pairs := by
  induction pairs generalizing t with
  | nil => rw [List.foldl_nil, List.append_nil]
  | cons pair pairs ih =>
    have hbefore : ∀ entry ∈ t.entries, entry.1 < pair.1 := fun entry hentry =>
      (List.pairwise_append.mp h).2.2 entry hentry pair List.mem_cons_self
    have hinsert : (t.insert pair.1 pair.2).entries = t.entries ++ [pair] :=
      insertEntry_of_lt hbefore
    have hsplit : t.entries ++ pair :: pairs = (t.entries ++ [pair]) ++ pairs := by simp
    rw [List.foldl_cons, ih, hinsert, hsplit]
    rw [hinsert, ← hsplit]
    exact h

/-- A table is that of its own entries. -/
theorem ofList_entries (t : Table α) : ofList t.entries = t := by
  have hentries : (ofList t.entries).entries = t.entries :=
    entries_foldl_insert (t := empty) t.ascending
  cases t
  cases h : ofList _ with
  | mk entries ascending =>
    rw [h] at hentries
    cases hentries
    rfl

theorem mem_foldl_insert {t : Table α} {pairs : List (String × α)} {entry : String × α}
    (h : entry ∈ (pairs.foldl (fun t pair => t.insert pair.1 pair.2) t).entries) :
    entry ∈ t.entries ∨ entry ∈ pairs := by
  induction pairs generalizing t with
  | nil => exact .inl h
  | cons pair pairs ih =>
    rcases ih h with h | h
    · rcases mem_insertEntry h with rfl | h
      · exact .inr List.mem_cons_self
      · exact .inl h
    · exact .inr (List.mem_cons_of_mem _ h)

theorem mem_of_mem_ofList {pairs : List (String × α)} {entry : String × α}
    (h : entry ∈ (ofList pairs).entries) : entry ∈ pairs := by
  rcases mem_foldl_insert h with h | h
  · cases h
  · exact h

theorem eq_empty_of_isEmpty (h : t.isEmpty = true) : t = empty := by
  obtain ⟨entries, ascending⟩ := t
  obtain rfl : entries = [] := List.isEmpty_iff.mp h
  rfl

theorem mapValues_mapValues {γ : Type} (f : α → β) (g : β → γ) (t : Table α) :
    (t.mapValues f).mapValues g = t.mapValues fun value => g (f value) := by
  simp [mapValues]

theorem mapValues_eq_self {f : α → α} (h : ∀ value, f value = value) (t : Table α) :
    t.mapValues f = t := by
  obtain ⟨entries, ascending⟩ := t
  simp [mapValues, h]

/-! ## Lookups -/

theorem lookup_cons (entry : String × α) (entries : List (String × α)) :
    (entry :: entries).lookup name =
      if entry.1 = name then some entry.2 else entries.lookup name := by
  rw [List.lookup_cons]
  by_cases h : entry.1 = name
  · simp [h]
  · simp [h, beq_eq_false_iff_ne.mpr (Ne.symm h)]

theorem lookup_insertEntry {entries : List (String × α)} :
    (insertEntry other value entries).lookup name =
      if other = name then some value else entries.lookup name := by
  induction entries with
  | nil =>
    rw [insertEntry, lookup_cons]
  | cons entry entries ih =>
    obtain ⟨key, found⟩ := entry
    rw [insertEntry]
    split
    · rw [lookup_cons]
    split
    · rename_i hsame
      rw [lookup_cons, lookup_cons, ← hsame]
      split <;> rfl
    · rename_i hne
      rw [lookup_cons, lookup_cons, ih]
      by_cases h : key = name
      · rw [if_pos h, if_pos h, if_neg fun hother => hne (hother.trans h.symm)]
      · rw [if_neg h, if_neg h]

theorem get?_insert : (t.insert other value).get? name =
    if other = name then some value else t.get? name := lookup_insertEntry

theorem get?_foldl_insert (pairs : List (String × α)) :
    (pairs.foldl (fun t pair => t.insert pair.1 pair.2) t).get? name =
      (pairs.reverse.lookup name).or (t.get? name) := by
  induction pairs generalizing t with
  | nil => rfl
  | cons pair pairs ih =>
    rw [List.foldl_cons, ih, get?_insert, List.reverse_cons, List.lookup_append, lookup_cons]
    cases pairs.reverse.lookup name with
    | some found => rfl
    | none => split <;> rfl

theorem get?_ofList (pairs : List (String × α)) :
    (ofList pairs).get? name = pairs.reverse.lookup name := by
  rw [ofList, get?_foldl_insert]
  exact Option.or_none

theorem lookup_map (f : α → β) (entries : List (String × α)) :
    (entries.map fun entry => (entry.1, f entry.2)).lookup name =
      (entries.lookup name).map f := by
  induction entries with
  | nil => rfl
  | cons entry entries ih =>
    rw [List.map_cons, lookup_cons, lookup_cons, ih]
    split <;> rfl

theorem get?_mapValues (f : α → β) : (t.mapValues f).get? name = (t.get? name).map f :=
  lookup_map f t.entries

theorem get?_eq_none_iff : t.get? name = none ↔ name ∉ t.names := by
  rw [get?, List.lookup_eq_none_iff, names, List.mem_map]
  constructor
  · rintro h ⟨entry, hentry, rfl⟩
    exact bne_iff_ne.mp (h entry hentry) rfl
  · intro h entry hentry
    exact bne_iff_ne.mpr fun hname => h ⟨entry, hentry, hname.symm⟩

theorem mem_entries_iff : (name, value) ∈ t.entries ↔ t.get? name = some value := by
  obtain ⟨entries, ascending⟩ := t
  change _ ↔ entries.lookup name = some value
  induction entries with
  | nil => simp
  | cons entry entries ih =>
    obtain ⟨key, found⟩ := entry
    have hentry := List.pairwise_cons.mp ascending
    rw [lookup_cons, List.mem_cons, Prod.mk.injEq]
    by_cases h : key = name
    · have hrest : (name, value) ∉ entries := fun hmem =>
        String.lt_irrefl name (h ▸ hentry.1 _ hmem)
      simp [h, hrest, eq_comm]
    · simp [h, Ne.symm h, ih hentry.2]

theorem names_ascending (t : Table α) : t.names.Pairwise (· < ·) :=
  List.pairwise_map.mpr t.ascending

/-! ## Entries of some names -/

/-- The entries whose names pass a test. -/
def filter (keeps : String → Bool) (t : Table α) : Table α :=
  ⟨t.entries.filter fun entry => keeps entry.1, t.ascending.filter _⟩

theorem get?_filter (keeps : String → Bool) (t : Table α) :
    (t.filter keeps).get? name = if keeps name then t.get? name else none := by
  apply Option.ext
  intro value
  rw [← mem_entries_iff, filter, List.mem_filter, mem_entries_iff]
  cases keeps name <;> simp

end Rollout.Table
