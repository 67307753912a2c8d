import Mathlib.Data.List.Induction
import QueryLint.Distinct
import QueryLint.OrderedMap

/-!
# Maps made of lists

The keys of a map that is made of a list of entries are the different keys of the list in the order
in which they first occur, and each has the value of its last entry. Giving a key a value changes no
entries of other keys (`filter_entries_insert_of_ne`).
-/

namespace QueryLint.OrderedMap

variable {α : Type}

/-- An entry that is looked up is in the list. -/
theorem mem_of_lookup {key : String} {value : α} {entries : List (String × α)}
    (h : entries.lookup key = some value) : (key, value) ∈ entries := by
  induction entries with
  | nil => cases h
  | cons e rest ih =>
    rw [List.lookup_cons] at h
    split at h
    next hkey =>
      cases h
      rw [eq_of_beq hkey]
      exact List.mem_cons_self
    next => exact List.mem_cons_of_mem _ (ih h)

/-- Keys with one more, unless it is there already. -/
def addKey (keys : List String) (key : String) : List String :=
  if key ∈ keys then keys else keys ++ [key]

/-- What is left when keys are added one after the other are the different ones. -/
theorem foldl_addKey (keys : List String) : keys.foldl addKey [] = keys.eraseDups := by
  induction keys using List.reverseRecOn with
  | nil => rfl
  | append_singleton keys key ih =>
    rw [List.foldl_append, ih, List.eraseDups_append, List.foldl_cons, List.foldl_nil, addKey]
    by_cases h : key ∈ keys
    · rw [if_pos (List.mem_eraseDups.mpr h)]
      simp [List.removeAll, h]
    · rw [if_neg (mt List.mem_eraseDups.mp h)]
      simp [List.removeAll, List.eraseDups_cons, h]

/-- Adding a key adds no other. -/
theorem mem_addKey_iff {keys : List String} {key k : String} : k ∈ addKey keys key ↔ k ∈ keys
    ∨ k = key := by
  unfold addKey
  split
  next h =>
    constructor
    · exact .inl
    · rintro (hk | rfl)
      · exact hk
      · exact h
  next => rw [List.mem_append, List.mem_singleton]

/-- Adding a key lists none twice. -/
theorem nodup_addKey {keys : List String} (h : keys.Nodup) (key : String) :
    (addKey keys key).Nodup := by
  unfold addKey
  split
  next => exact h
  next hkey =>
    refine List.nodup_append.mpr
      ⟨h, List.pairwise_singleton _ key, fun k hk last hlast heq => hkey ?_⟩
    rwa [← List.mem_singleton.mp hlast, ← heq]

/-- Nothing is left twice when repetitions are dropped. -/
theorem nodup_eraseDups (keys : List String) : keys.eraseDups.Nodup := by
  rw [← foldl_addKey]
  induction keys using List.reverseRecOn with
  | nil => exact List.nodup_nil
  | append_singleton keys key ih =>
    rw [List.foldl_append]
    exact nodup_addKey ih key

/-- A map of entries is that of all but the last one, with the last one inserted. -/
theorem ofList_concat (entries : List (String × α)) (e : String × α) :
    ofList (entries ++ [e]) = (ofList entries).insert e.1 e.2 := by
  rw [ofList, List.foldl_append]
  rfl

/-- The keys of a map of entries are in the order in which they first came. -/
theorem keys_ofList (entries : List (String × α)) :
    (ofList entries).keys = (entries.map Prod.fst).eraseDups := by
  rw [← foldl_addKey]
  induction entries using List.reverseRecOn with
  | nil => rfl
  | append_singleton entries e ih =>
    rw [ofList_concat, keys_insert, ih, List.map_append, List.foldl_append]
    rfl

/-- No key is twice in a map of entries. -/
theorem nodup_keys_ofList (entries : List (String × α)) : (ofList entries).keys.Nodup := by
  rw [keys_ofList]
  exact nodup_eraseDups _

/-- The last entry of a key counts. -/
theorem find?_ofList (entries : List (String × α)) (key : String) :
    (ofList entries).find? key = entries.reverse.lookup key := by
  induction entries using List.reverseRecOn with
  | nil => rfl
  | append_singleton entries e ih =>
    rw [ofList_concat, find?_insert, ih, List.reverse_concat, List.lookup_cons]
    cases key == e.1 <;> rfl

/-- Maps with the same keys in the same order are equal if each key has the same value in both, and
none stands twice. -/
theorem eq_of_find? {m m' : OrderedMap α} (hnodup : m.keys.Nodup) (hkeys : m.keys = m'.keys)
    (h : ∀ key, m.find? key = m'.find? key) : m = m' := by
  obtain ⟨entries⟩ := m
  obtain ⟨entries'⟩ := m'
  simp only [find?, keys, OrderedMap.mk.injEq] at hnodup hkeys h ⊢
  induction entries generalizing entries' with
  | nil => exact (List.map_eq_nil_iff.mp hkeys.symm).symm
  | cons e rest ih =>
    obtain ⟨k, v⟩ := e
    obtain ⟨⟨k', v'⟩, rest', rfl, hk, hrest⟩ := List.map_eq_cons_iff.mp hkeys.symm
    obtain rfl : k' = k := hk
    rw [List.map_cons, List.nodup_cons] at hnodup
    have hv : v = v' := by simpa using h k'
    have hlater : rest = rest' := by
      refine ih hnodup.2 rest' hrest.symm fun key => ?_
      by_cases hkey : key = k'
      · subst hkey
        have hnone : ∀ {later : List (String × α)}, key ∉ later.map Prod.fst → later.lookup key
            = none := by
          intro later hlater
          rw [List.lookup_eq_none_iff]
          rintro ⟨k, v⟩ hmem
          exact bne_iff_ne.mpr fun heq => hlater (List.mem_map.mpr ⟨_, hmem, heq.symm⟩)
        rw [hnone hnodup.1, hnone (hrest ▸ hnodup.1)]
      · have hall := h key
        rwa [List.lookup_cons, List.lookup_cons, beq_false_of_ne hkey] at hall
    rw [hv, hlater]

/-- A list repeated has the same members as the list, in the same order. -/
theorem eraseDups_flatten_replicate_succ (n : Nat) (keys : List String) :
    (List.replicate (n + 1) keys).flatten.eraseDups = keys.eraseDups := by
  have hnone : (List.replicate n keys).flatten.removeAll keys = [] := by
    simp [List.removeAll]
  rw [List.replicate_succ, List.flatten_cons, List.eraseDups_append, hnone, List.eraseDups_nil,
    List.append_nil]

/-- A key is looked up in a repeated list as in the list. -/
theorem lookup_flatten_replicate_succ (n : Nat) (entries : List (String × α)) (key : String) :
    (List.replicate (n + 1) entries).flatten.lookup key = entries.lookup key := by
  induction n with
  | zero => rw [List.replicate_one, List.flatten_singleton]
  | succ n ih =>
    rw [List.replicate_succ, List.flatten_cons, List.lookup_append, ih]
    cases entries.lookup key <;> rfl

/-- Entries that are put into a map once more change nothing. -/
theorem ofList_flatten_replicate_succ (n : Nat) (entries : List (String × α)) :
    ofList (List.replicate (n + 1) entries).flatten = ofList entries := by
  have hkeys : (ofList (List.replicate (n + 1) entries).flatten).keys = (ofList entries).keys := by
    rw [keys_ofList, keys_ofList, List.map_flatten, List.map_replicate,
      eraseDups_flatten_replicate_succ]
  refine eq_of_find? (hkeys ▸ nodup_keys_ofList entries) hkeys fun key => ?_
  rw [find?_ofList, find?_ofList, List.reverse_flatten, List.map_replicate, List.reverse_replicate,
    lookup_flatten_replicate_succ]

/-! ### Entries of one key -/

variable {m : OrderedMap α} {key k : String} {value : α}

/-- The value of a key is that of its first entry. -/
theorem find?_eq_head? (m : OrderedMap α) (key : String) :
    m.find? key = (m.entries.filter fun e => e.1 == key).head?.map Prod.snd := by
  obtain ⟨entries⟩ := m
  rw [find?]
  induction entries with
  | nil => rfl
  | cons first rest ih =>
    rw [List.lookup_cons, List.filter_cons, Bool.beq_comm (a := first.1)]
    cases hkey : key == first.1 with
    | true => rfl
    | false => exact ih

/-- A key that is found is among the keys. -/
theorem mem_keys_of_find? (h : m.find? key = some value) : key ∈ m.keys := by
  rw [find?_eq_head?, Option.map_eq_some_iff] at h
  obtain ⟨e, he, -⟩ := h
  obtain ⟨hmem, hkey⟩ := List.mem_filter.mp (List.mem_of_head? he)
  exact List.mem_map.mpr ⟨e, hmem, eq_of_beq hkey⟩

/-- Where no key stands twice, the value of a key is that of its entry. -/
theorem find?_eq_some_iff (h : m.keys.Nodup) : m.find? key = some value
    ↔ (key, value) ∈ m.entries := by
  obtain ⟨entries⟩ := m
  simp only [find?, keys] at h ⊢
  induction entries with
  | nil => simp
  | cons first rest ih =>
    obtain ⟨k, v⟩ := first
    rw [List.map_cons, List.nodup_cons] at h
    rw [List.lookup_cons, List.mem_cons]
    by_cases hkey : key = k
    · subst hkey
      have hrest : (key, value) ∉ rest := fun hmem => h.1 (List.mem_map.mpr ⟨_, hmem, rfl⟩)
      simp [hrest, eq_comm]
    · rw [beq_false_of_ne hkey]
      simp [hkey, ih h.2]

/-- Inserting an entry adds no other. -/
theorem mem_entries_insert {e : String × α} (h : e ∈ (m.insert key value).entries) :
    e = (key, value) ∨ e ∈ m.entries := by
  obtain ⟨entries⟩ := m
  simp only [insert, alter] at h ⊢
  induction entries with
  | nil => exact .inl (List.mem_singleton.mp h)
  | cons first rest ih =>
    rw [alterEntries] at h
    split at h
    · next hkey =>
      rcases List.mem_cons.mp h with rfl | h
      · exact .inl (by rw [eq_of_beq hkey])
      · exact .inr (List.mem_cons_of_mem first h)
    · rcases List.mem_cons.mp h with rfl | h
      · exact .inr List.mem_cons_self
      · exact (ih h).imp_right (List.mem_cons_of_mem first)

/-- Of two values that a key is given one after the other, the last counts. -/
theorem insert_insert (m : OrderedMap α) (key : String) (first last : α) :
    (m.insert key first).insert key last = m.insert key last := by
  obtain ⟨entries⟩ := m
  simp only [insert, alter, OrderedMap.mk.injEq]
  induction entries with
  | nil => simp [alterEntries]
  | cons e rest ih =>
    rw [alterEntries, alterEntries]
    split
    · next hkey => rw [alterEntries, if_pos hkey]
    · next hkey => rw [alterEntries, if_neg hkey, ih]

/-- Giving a key a value changes no entries of other keys. -/
theorem filter_entries_insert_of_ne (hne : key ≠ k) :
    (m.insert key value).entries.filter (fun e => e.1 == k) = m.entries.filter fun e =>
      e.1 == k := by
  obtain ⟨entries⟩ := m
  simp only [insert, alter]
  induction entries with
  | nil => simp [alterEntries, hne]
  | cons first rest ih =>
    rw [alterEntries]
    split
    · next hkey =>
      have hfirst : first.1 ≠ k := by rwa [eq_of_beq hkey]
      simp [hfirst]
    · rw [List.filter_cons, ih, List.filter_cons]

/-- Giving a key a value changes its first entry, or is its first entry. -/
theorem filter_entries_insert_self :
    (m.insert key value).entries.filter (fun e => e.1 == key)
      = (key, value) :: (m.entries.filter fun e => e.1 == key).tail := by
  obtain ⟨entries⟩ := m
  simp only [insert, alter]
  induction entries with
  | nil => simp [alterEntries]
  | cons first rest ih =>
    rw [alterEntries]
    split
    · next hkey => simp [eq_of_beq hkey]
    · next hkey =>
      rw [List.filter_cons, if_neg hkey, ih, List.filter_cons, if_neg hkey]

end QueryLint.OrderedMap

namespace QueryLint.Distinct

/-- Texts are put into a list without repetition as keys are put into a map. -/
theorem insert_eq_addKey : insert = OrderedMap.addKey := by
  funext items item
  simp only [insert, OrderedMap.addKey, List.contains_iff_mem]

end QueryLint.Distinct
