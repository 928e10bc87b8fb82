/-!
# Maps from names

A map whose keys are texts, kept as a list of entries in the order of their keys. The order is part
of the type, so `keys` is always strictly increasing and two maps with the same entries are equal.
`get?_insert` says all there is to know about insertion.
-/

namespace ContestJudge

/-- A map from texts to values, with its entries in strictly increasing order. -/
structure NameMap (α : Type _) where
  /-- The entries. -/
  entries : List (String × α)
  /-- Each key comes before all later ones. -/
  sorted : entries.Pairwise fun a b => a.1 < b.1

namespace NameMap

variable {α β : Type _}

theorem lt_of_not_lt_of_ne {a b : String} (h : ¬a < b) (hne : a ≠ b) : b < a := by
  rcases Decidable.em (b < a) with hba | hba
  · exact hba
  · exact absurd (String.le_antisymm (String.not_lt.1 hba) (String.not_lt.1 h)) hne

/-- The map without entries. -/
def empty : NameMap α := ⟨[], .nil⟩

instance : Inhabited (NameMap α) := ⟨empty⟩

instance [DecidableEq α] : DecidableEq (NameMap α) := fun a b =>
  decidable_of_iff (a.entries = b.entries)
    ⟨fun h => by cases a; cases b; cases h; rfl, fun h => h ▸ rfl⟩

/-- The value of a key. -/
def get? (m : NameMap α) (key : String) : Option α := m.entries.lookup key

/-- Whether a key has a value. -/
def contains (m : NameMap α) (key : String) : Bool := (m.get? key).isSome

/-- The keys, in increasing order. -/
def keys (m : NameMap α) : List String := m.entries.map (·.1)

/-- The entries, in increasing order of their keys. -/
def toList (m : NameMap α) : List (String × α) := m.entries

/-- How many entries there are. -/
def size (m : NameMap α) : Nat := m.entries.length

/-- Puts an entry at its place; an entry of the same key is replaced. -/
def insertEntry (key : String) (value : α) : List (String × α) → List (String × α)
  | [] => [(key, value)]
  | (k, v) :: rest =>
    if key = k then (key, value) :: rest
    else if key < k then (key, value) :: (k, v) :: rest
    else (k, v) :: insertEntry key value rest

theorem mem_insertEntry {key : String} {value : α} {e : String × α} {es : List (String × α)}
    (h : e ∈ insertEntry key value es) : e = (key, value) ∨ e ∈ es := by
  induction es with
  | nil => simpa [insertEntry] using h
  | cons first rest ih =>
    rw [insertEntry] at h
    split at h
    · simp only [List.mem_cons] at h ⊢
      exact h.imp_right .inr
    · split at h
      · simpa only [List.mem_cons] using h
      · simp only [List.mem_cons] at h ⊢
        rcases h with h | h
        · exact .inr (.inl h)
        · exact (ih h).imp_right .inr

theorem sorted_insertEntry (key : String) (value : α) {es : List (String × α)}
    (h : es.Pairwise fun a b => a.1 < b.1) :
    (insertEntry key value es).Pairwise fun a b => a.1 < b.1 := by
  induction es with
  | nil => simp [insertEntry]
  | cons first rest ih =>
    obtain ⟨hfirst, hrest⟩ := List.pairwise_cons.1 h
    rw [insertEntry]
    split
    · next hk => exact List.pairwise_cons.2 ⟨fun e he => hk ▸ hfirst e he, hrest⟩
    · next hne =>
      split
      · next hlt =>
        refine List.pairwise_cons.2 ⟨fun e he => ?_, h⟩
        rcases List.mem_cons.1 he with rfl | he
        · exact hlt
        · exact String.lt_trans hlt (hfirst e he)
      · next hlt =>
        refine List.pairwise_cons.2 ⟨fun e he => ?_, ih hrest⟩
        rcases mem_insertEntry he with rfl | he
        · exact lt_of_not_lt_of_ne hlt hne
        · exact hfirst e he

/-- Gives a key a value, in place of any it had. -/
def insert (m : NameMap α) (key : String) (value : α) : NameMap α :=
  ⟨insertEntry key value m.entries, sorted_insertEntry key value m.sorted⟩

/-- Gives a key a value unless it has one. -/
def insertIfNew (m : NameMap α) (key : String) (value : α) : NameMap α :=
  if m.contains key then m else m.insert key value

/-- Inserts entries one after the other, so that the last one of a key counts. -/
def insertMany (m : NameMap α) (entries : List (String × α)) : NameMap α :=
  entries.foldl (fun m e => m.insert e.1 e.2) m

/-- The map of a list of entries; the last one of a key counts. -/
def ofList (entries : List (String × α)) : NameMap α := empty.insertMany entries

/-- Applies a function to each value. -/
def map (f : α → β) (m : NameMap α) : NameMap β where
  entries := m.entries.map fun e => (e.1, f e.2)
  sorted := List.pairwise_map.2 m.sorted

theorem lookup_cons (key other : String) (value : α) (es : List (String × α)) :
    ((key, value) :: es).lookup other = if other = key then some value else es.lookup other := by
  by_cases h : other = key
  · subst h; simp
  · have hb : (other == key) = false := beq_false_of_ne h
    simp [List.lookup_cons, hb, h]

theorem lookup_insertEntry (key other : String) (value : α) (es : List (String × α)) :
    (insertEntry key value es).lookup other =
      if other = key then some value else es.lookup other := by
  induction es with
  | nil => rw [insertEntry, lookup_cons]
  | cons first rest ih =>
    rw [insertEntry, lookup_cons first.1]
    split
    · next hk => rw [lookup_cons, hk]; by_cases h : other = first.1 <;> simp [h]
    · next hne =>
      split
      · rw [lookup_cons, lookup_cons]
      · rw [lookup_cons, ih]
        by_cases h : other = first.1
        · subst h; simp [Ne.symm hne]
        · simp [h]

@[simp] theorem get?_empty (key : String) : (empty : NameMap α).get? key = none := rfl

theorem get?_insert (m : NameMap α) (key other : String) (value : α) :
    (m.insert key value).get? other = if other = key then some value else m.get? other :=
  lookup_insertEntry key other value m.entries

end NameMap

end ContestJudge
