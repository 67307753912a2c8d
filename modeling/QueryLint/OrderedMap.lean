/-!
# Maps that keep the order of insertion

A map from texts whose keys stand in the order in which they were first given a value. A key that
gets another value keeps its place. `find?_insert` says what an insertion changes, and `keys_insert`
that it puts a new key last.
-/

namespace QueryLint

/-- A map from texts that keeps the order of insertion. -/
structure OrderedMap (α : Type) where
  entries : List (String × α)
  deriving DecidableEq, Repr, Inhabited

namespace OrderedMap

variable {α : Type}

/-- The map without keys. -/
def empty : OrderedMap α := ⟨[]⟩

/-- The keys in their order. -/
def keys (m : OrderedMap α) : List String :=
  m.entries.map Prod.fst

/-- The value of a key. -/
def find? (m : OrderedMap α) (key : String) : Option α :=
  m.entries.lookup key

/-- Entries in which a key has the value that a function makes of its old one. -/
def alterEntries (key : String) (f : Option α → α) : List (String × α) → List (String × α)
  | [] => [(key, f none)]
  | (k, v) :: rest =>
    if k == key then (k, f (some v)) :: rest else (k, v) :: alterEntries key f rest

/-- The map in which a key has the value that a function makes of its old one. -/
def alter (m : OrderedMap α) (key : String) (f : Option α → α) : OrderedMap α :=
  ⟨alterEntries key f m.entries⟩

/-- The map in which a key has a value. -/
def insert (m : OrderedMap α) (key : String) (value : α) : OrderedMap α :=
  m.alter key fun _ => value

/-- The map without a key. -/
def erase (m : OrderedMap α) (key : String) : OrderedMap α :=
  ⟨m.entries.filter fun e => e.1 != key⟩

/-- The map of some entries, the later ones of which win. -/
def ofList (entries : List (String × α)) : OrderedMap α :=
  entries.foldl (fun m (key, value) => m.insert key value) empty

/-- A key is found altered exactly under its own name. -/
theorem find?_alter (m : OrderedMap α) (key k : String) (f : Option α → α) :
    (m.alter key f).find? k = if k == key then some (f (m.find? key)) else m.find? k := by
  obtain ⟨entries⟩ := m
  simp only [alter, find?]
  induction entries with
  | nil =>
    by_cases h : k = key <;> simp [alterEntries, List.lookup_cons, h]
    rw [beq_false_of_ne h]
  | cons e rest ih =>
    obtain ⟨k', v⟩ := e
    by_cases hk : k' = key
    · subst hk
      by_cases h : k = k' <;> simp [alterEntries, List.lookup_cons, h]
      rw [beq_false_of_ne h]
    · by_cases h : k = key
      · subst h
        have hne : (k == k') = false := beq_false_of_ne (Ne.symm hk)
        simp [alterEntries, List.lookup_cons, hk, hne] at ih ⊢
        exact ih
      · simp only [alterEntries, beq_iff_eq, hk, if_false, List.lookup_cons]
        cases hkk : k == k' <;> simp_all

/-- An inserted entry is found under its own key, and every other as before. -/
theorem find?_insert (m : OrderedMap α) (key k : String) (value : α) :
    (m.insert key value).find? k = if k == key then some value else m.find? k :=
  find?_alter m key k fun _ => value

/-- An erased key is not found, and every other as before. -/
theorem find?_erase (m : OrderedMap α) (key k : String) :
    (m.erase key).find? k = if k == key then none else m.find? k := by
  obtain ⟨entries⟩ := m
  simp only [erase, find?]
  induction entries with
  | nil => simp
  | cons e rest ih =>
    obtain ⟨k', v⟩ := e
    by_cases hk : k' = key
    · subst hk
      simp only [List.filter_cons, bne_self_eq_false, Bool.false_eq_true, if_false, ih]
      by_cases h : k = k'
      · simp [h]
      · simp [List.lookup_cons, beq_false_of_ne h]
    · have hne : (k' != key) = true := bne_iff_ne.2 hk
      simp only [List.filter_cons, hne, if_true, List.lookup_cons]
      cases hkk : k == k' with
      | true =>
        have : (k == key) = false := beq_false_of_ne (eq_of_beq hkk ▸ hk)
        simp [this]
      | false => exact ih

/-- Altering an entry keeps the order of the keys; a new key comes last. -/
theorem keys_alter (m : OrderedMap α) (key : String) (f : Option α → α) :
    (m.alter key f).keys = if key ∈ m.keys then m.keys else m.keys ++ [key] := by
  obtain ⟨entries⟩ := m
  simp only [alter, keys]
  induction entries with
  | nil => simp [alterEntries]
  | cons e rest ih =>
    obtain ⟨k', v⟩ := e
    by_cases hk : k' = key
    · simp [alterEntries, hk]
    · have hk' : ¬key = k' := fun h => hk h.symm
      simp only [alterEntries, beq_iff_eq, hk, if_false, List.map_cons, List.mem_cons, hk',
        false_or, ih]
      split <;> simp_all

/-- Inserting an entry keeps the order of the keys; a new key comes last. -/
theorem keys_insert (m : OrderedMap α) (key : String) (value : α) :
    (m.insert key value).keys = if key ∈ m.keys then m.keys else m.keys ++ [key] :=
  keys_alter m key fun _ => value

end OrderedMap

end QueryLint
