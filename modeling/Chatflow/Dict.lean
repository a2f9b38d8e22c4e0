/-!
# Dictionaries

`Dict α` is a finite map from text keys to values, kept as its entries in strictly increasing
key order. The order is part of the type, so two dictionaries are equal exactly when they have
the same entries, and whatever prints a dictionary prints it in
key order.

The view is `find?`: `find?_insert` says what one insertion does to it, `find?_ofList` what
building from a list does.
-/

namespace Chatflow

/-- A finite map from text keys, stored in strictly increasing key order. -/
structure Dict (α : Type) where
  /-- The entries, by increasing key. -/
  entries : List (String × α)
  /-- No key occurs twice, and smaller keys come first. -/
  sorted : entries.Pairwise fun a b => a.1 < b.1

namespace Dict

variable {α β : Type}

theorem entries_injective {d e : Dict α} (h : d.entries = e.entries) : d = e := by
  cases d; cases e; cases h; rfl

instance [DecidableEq α] : DecidableEq (Dict α) := fun d e =>
  decidable_of_iff (d.entries = e.entries) ⟨entries_injective, fun h => h ▸ rfl⟩

/-- The dictionary without entries. -/
def empty : Dict α := ⟨[], .nil⟩

instance : EmptyCollection (Dict α) := ⟨empty⟩
instance : Inhabited (Dict α) := ⟨empty⟩

/-- Whether there is no entry. -/
def isEmpty (d : Dict α) : Bool := d.entries.isEmpty

/-- The number of entries. -/
def size (d : Dict α) : Nat := d.entries.length

/-- The keys, in increasing order. -/
def keys (d : Dict α) : List String := d.entries.map (·.1)

/-- The values, by increasing key. -/
def values (d : Dict α) : List α := d.entries.map (·.2)

/-- The first value that a list of entries gives for a key. -/
def findEntry (key : String) : List (String × α) → Option α
  | [] => none
  | e :: rest => if key = e.1 then some e.2 else findEntry key rest

/-- The value at a key. -/
def find? (d : Dict α) (key : String) : Option α := findEntry key d.entries

/-- Whether a key has a value. -/
def contains (d : Dict α) (key : String) : Bool := (d.find? key).isSome

/-! ### Insertion -/

/-- An entry put at its place in a list that is in key order, over an entry of the same key. -/
def insertEntry (key : String) (value : α) : List (String × α) → List (String × α)
  | [] => [(key, value)]
  | e :: rest =>
    if key < e.1 then (key, value) :: e :: rest
    else if key = e.1 then (key, value) :: rest
    else e :: insertEntry key value rest

theorem mem_insertEntry {key : String} {value : α} {x : String × α} :
    ∀ {l : List (String × α)}, x ∈ insertEntry key value l → x = (key, value) ∨ x ∈ l
  | [], h => by simpa [insertEntry] using h
  | e :: rest, h => by
    unfold insertEntry at h
    split at h
    · simpa using h
    · split at h
      · rcases List.mem_cons.1 h with h | h
        · exact .inl h
        · exact .inr (List.mem_cons_of_mem _ h)
      · rcases List.mem_cons.1 h with h | h
        · exact .inr (h ▸ List.mem_cons_self)
        · exact (mem_insertEntry h).imp_right (List.mem_cons_of_mem _)

theorem lt_of_not_lt_of_ne {a b : String} (h : ¬a < b) (hne : a ≠ b) : b < a :=
  Decidable.byContradiction fun hb =>
    hne (String.le_antisymm (String.not_lt.1 hb) (String.not_lt.1 h))

theorem sorted_insertEntry (key : String) (value : α) :
    ∀ {l : List (String × α)}, l.Pairwise (fun a b => a.1 < b.1) →
      (insertEntry key value l).Pairwise (fun a b => a.1 < b.1)
  | [], _ => by simp [insertEntry]
  | e :: rest, h => by
    obtain ⟨he, hr⟩ := List.pairwise_cons.1 h
    unfold insertEntry
    split
    · rename_i hk
      refine List.pairwise_cons.2 ⟨fun x hx => ?_, h⟩
      rcases List.mem_cons.1 hx with rfl | hx
      · exact hk
      · exact String.lt_trans hk (he x hx)
    · split
      · rename_i hk
        exact List.pairwise_cons.2 ⟨fun x hx => hk ▸ he x hx, hr⟩
      · rename_i hlt hne
        refine List.pairwise_cons.2 ⟨fun x hx => ?_, sorted_insertEntry key value hr⟩
        rcases mem_insertEntry hx with rfl | hx
        · exact lt_of_not_lt_of_ne hlt hne
        · exact he x hx

/-- The dictionary with a value put at a key, over the value there. -/
def insert (d : Dict α) (key : String) (value : α) : Dict α :=
  ⟨insertEntry key value d.entries, sorted_insertEntry key value d.sorted⟩

/-- The entries put in one after the other: the last value given for a key stays. -/
def insertAll (d : Dict α) (entries : List (String × α)) : Dict α :=
  entries.foldl (fun d e => d.insert e.1 e.2) d

/-- The dictionary of a list of entries: the last value given for a key stays. -/
def ofList (entries : List (String × α)) : Dict α := empty.insertAll entries

/-- One dictionary laid over another, whose values give way. -/
def overlay (d upper : Dict α) : Dict α := d.insertAll upper.entries

/-- The dictionary with every value changed. -/
def map (f : α → β) (d : Dict α) : Dict β :=
  ⟨d.entries.map fun e => (e.1, f e.2), by
    simpa [List.pairwise_map] using d.sorted⟩

/-- The dictionary without a key. -/
def erase (d : Dict α) (key : String) : Dict α :=
  ⟨d.entries.filter (·.1 ≠ key), d.sorted.filter _⟩

/-! ### What the operations do to the view -/

theorem findEntry_append (k : String) (l r : List (String × α)) :
    findEntry k (l ++ r) = (findEntry k l).or (findEntry k r) := by
  induction l with
  | nil => rfl
  | cons e l ih => by_cases h : k = e.1 <;> simp [findEntry, h, ih]

theorem findEntry_insertEntry (key : String) (value : α) (k : String)
    (l : List (String × α)) :
    findEntry k (insertEntry key value l) = if k = key then some value else findEntry k l := by
  induction l with
  | nil => rfl
  | cons e l ih =>
    unfold insertEntry
    split
    · rfl
    · split <;> grind [findEntry]

@[simp] theorem find?_empty (key : String) : (empty : Dict α).find? key = none := rfl

theorem find?_insert (d : Dict α) (key : String) (value : α) (k : String) :
    (d.insert key value).find? k = if k = key then some value else d.find? k :=
  findEntry_insertEntry key value k d.entries

@[simp] theorem find?_insert_self (d : Dict α) (key : String) (value : α) :
    (d.insert key value).find? key = some value := by simp [find?_insert]

theorem find?_insertAll (l : List (String × α)) (k : String) (d : Dict α) :
    (d.insertAll l).find? k = (findEntry k l.reverse).or (d.find? k) := by
  induction l generalizing d with
  | nil => rfl
  | cons e l ih =>
    have : d.insertAll (e :: l) = (d.insert e.1 e.2).insertAll l := rfl
    rw [this, ih, find?_insert, List.reverse_cons, findEntry_append]
    by_cases h : k = e.1 <;> cases findEntry k l.reverse <;> simp [findEntry, h]

theorem find?_ofList (l : List (String × α)) (k : String) :
    (ofList l).find? k = findEntry k l.reverse := by
  simp [ofList, find?_insertAll]

theorem find?_map (f : α → β) (d : Dict α) (k : String) :
    (d.map f).find? k = (d.find? k).map f := by
  obtain ⟨l, h⟩ := d
  simp only [find?, map]
  clear h
  induction l with
  | nil => rfl
  | cons e l ih => by_cases h : k = e.1 <;> simp [findEntry, h, ih]

end Dict

end Chatflow
