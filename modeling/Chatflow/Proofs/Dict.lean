import Chatflow.Dict
import Mathlib.Algebra.GroupWithZero.Nat
import Mathlib.Data.List.Sort

/-!
# The values of a dictionary

The values are what `find?` gives at some key (`Dict.mem_values`), and an insertion trades the
value at its key for the new one (`Dict.perm_values_insert`). That is stated with the old value on
the side of the new dictionary, so that no case for a missing key is needed. Numbers of values and
sums of them follow.

A dictionary is known by what is found in it (`Dict.ext_find?`).
-/

namespace Chatflow

namespace Dict

variable {α : Type}

/-! ### Entries -/

theorem findEntry_eq_none {k : String} {l : List (String × α)} (h : ∀ e ∈ l, k < e.1) :
    findEntry k l = none := by
  induction l with
  | nil => rfl
  | cons x l ih =>
    have hx : k ≠ x.1 := fun hk => String.lt_irrefl x.1 (hk ▸ h x List.mem_cons_self)
    rw [findEntry, if_neg hx]
    exact ih fun e he => h e (List.mem_cons_of_mem _ he)

theorem mem_of_findEntry {k : String} {v : α} {l : List (String × α)}
    (h : findEntry k l = some v) : (k, v) ∈ l := by
  induction l with
  | nil => cases h
  | cons x l ih =>
    rw [findEntry] at h
    split at h
    · rename_i hx
      obtain rfl := Option.some.inj h
      exact hx ▸ List.mem_cons_self
    · exact List.mem_cons_of_mem _ (ih h)

/-- What is not found is not there. -/
theorem not_mem_of_findEntry {k : String} {l : List (String × α)} (h : findEntry k l = none)
    (v : α) : (k, v) ∉ l := by
  induction l with
  | nil => exact List.not_mem_nil
  | cons x l ih =>
    rw [findEntry] at h
    split at h
    · cases h
    · rename_i hk
      rw [List.mem_cons, not_or]
      exact ⟨fun hx => hk (congrArg Prod.fst hx), ih h⟩

/-- Where no key occurs twice, what is there is found. -/
theorem findEntry_of_nodup {k : String} {v : α} {l : List (String × α)}
    (hl : (l.map (·.1)).Nodup) (h : (k, v) ∈ l) : findEntry k l = some v := by
  induction l with
  | nil => cases h
  | cons x l ih =>
    obtain ⟨hx, hl⟩ := List.nodup_cons.mp hl
    rcases List.mem_cons.1 h with rfl | h
    · exact if_pos rfl
    · have hk : k ≠ x.1 := fun hk => hx (List.mem_map.mpr ⟨_, h, hk⟩)
      rw [findEntry, if_neg hk]
      exact ih hl h

theorem nodup_map_fst {l : List (String × α)} (hl : l.Pairwise fun a b => a.1 < b.1) :
    (l.map (·.1)).Nodup := by
  refine List.pairwise_map.mpr (hl.imp fun {a b} hlt heq => ?_)
  exact String.lt_irrefl b.1 (heq ▸ hlt)

theorem findEntry_of_mem {k : String} {v : α} {l : List (String × α)}
    (hl : l.Pairwise fun a b => a.1 < b.1) (h : (k, v) ∈ l) : findEntry k l = some v :=
  findEntry_of_nodup (nodup_map_fst hl) h

/-- An insertion trades the value at its key for the new one. -/
theorem perm_insertEntry (k : String) (v : α) {l : List (String × α)}
    (hl : l.Pairwise fun a b => a.1 < b.1) :
    ((insertEntry k v l).map (·.2) ++ (findEntry k l).toList).Perm (v :: l.map (·.2)) := by
  induction l with
  | nil => exact .refl _
  | cons x l ih =>
    obtain ⟨hx, hl⟩ := List.pairwise_cons.1 hl
    by_cases hlt : k < x.1
    · -- the key comes before all others, so there is no old value
      have hnone : findEntry k (x :: l) = none := by
        refine findEntry_eq_none fun e he => ?_
        rcases List.mem_cons.1 he with rfl | he
        · exact hlt
        · exact String.lt_trans hlt (hx e he)
      rw [hnone, insertEntry, if_pos hlt, Option.toList_none, List.append_nil]
      exact .refl _
    · by_cases hk : k = x.1
      · rw [insertEntry, if_neg hlt, if_pos hk, findEntry, if_pos hk]
        exact (List.perm_append_singleton x.2 _).cons v
      · rw [insertEntry, if_neg hlt, if_neg hk, findEntry, if_neg hk]
        exact ((ih hl).cons x.2).trans (.swap v x.2 _)

/-! ### Missing keys -/

theorem findEntry_filter_ne (key k : String) (l : List (String × α)) :
    findEntry k (l.filter (·.1 ≠ key)) = if k = key then none else findEntry k l := by
  induction l with
  | nil => simp [findEntry]
  | cons x l ih =>
    by_cases hx : x.1 = key
    · rw [List.filter_cons_of_neg (by simp [hx]), ih, findEntry]
      split
      · rfl
      · rename_i hk
        rw [if_neg fun h => hk (h.trans hx)]
    · rw [List.filter_cons_of_pos (by simpa using hx), findEntry, findEntry, ih]
      by_cases hk : k = x.1
      · rw [if_pos hk, if_neg fun h => hx (hk.symm.trans h), if_pos hk]
      · rw [if_neg hk, if_neg hk]

theorem find?_erase (d : Dict α) (key k : String) :
    (d.erase key).find? k = if k = key then none else d.find? k :=
  findEntry_filter_ne key k d.entries

/-- A dictionary in which nothing is found is empty. -/
theorem isEmpty_of_find? {d : Dict α} (h : ∀ key, d.find? key = none) : d.isEmpty = true := by
  obtain ⟨l, hl⟩ := d
  cases l with
  | nil => rfl
  | cons x l => simpa [find?, findEntry] using h x.1

/-! ### Equality -/

/-- Two dictionaries in which the same is found are equal. -/
theorem ext_find? {d d' : Dict α} (h : ∀ k, d.find? k = d'.find? k) : d = d' := by
  have hmem : ∀ {d : Dict α} {e : String × α}, e ∈ d.entries ↔ d.find? e.1 = some e.2 :=
    ⟨findEntry_of_mem (Dict.sorted _), mem_of_findEntry⟩
  have hirrefl : Std.Irrefl fun a b : String × α => a.1 < b.1 := ⟨fun _ => String.lt_irrefl _⟩
  have hantisymm : Std.Antisymm fun a b : String × α => a.1 < b.1 :=
    ⟨fun _ _ hab hba => absurd hba (String.lt_asymm hab)⟩
  refine entries_injective (d.sorted.eq_of_mem_iff d'.sorted fun e => ?_)
  rw [hmem, hmem, h]

/-- Where no key occurs twice, an entry is found from either end. -/
theorem findEntry_reverse {k : String} {l : List (String × α)} (h : (l.map (·.1)).Nodup) :
    findEntry k l.reverse = findEntry k l := by
  induction l with
  | nil => rfl
  | cons x l ih =>
    obtain ⟨hx, hl⟩ := List.nodup_cons.mp h
    rw [List.reverse_cons, findEntry_append, ih hl]
    by_cases hk : k = x.1
    · have hnone : findEntry k l = none := by
        refine Option.eq_none_iff_forall_ne_some.mpr fun v hv => hx ?_
        exact List.mem_map.mpr ⟨_, mem_of_findEntry hv, hk⟩
      simp [findEntry, hk ▸ hnone, hk]
    · simp [findEntry, hk]

theorem nodup_keys (d : Dict α) : (d.entries.map (·.1)).Nodup := nodup_map_fst d.sorted

theorem ofList_entries (d : Dict α) : ofList d.entries = d :=
  ext_find? fun k => by rw [find?_ofList, findEntry_reverse d.nodup_keys, find?]

theorem find?_overlay (d upper : Dict α) (k : String) :
    (d.overlay upper).find? k = (upper.find? k).or (d.find? k) := by
  rw [overlay, find?_insertAll, findEntry_reverse upper.nodup_keys, find?, find?]

theorem insert_insert (d : Dict α) (k : String) (v v' : α) :
    (d.insert k v).insert k v' = d.insert k v' :=
  ext_find? fun k' => by
    rw [find?_insert, find?_insert, find?_insert]
    split <;> rfl

/-- Insertions at different keys do not meet. -/
theorem insert_comm (d : Dict α) {k k' : String} (h : k ≠ k') (v v' : α) :
    (d.insert k v).insert k' v' = (d.insert k' v').insert k v :=
  ext_find? fun key => by
    simp only [find?_insert]
    split
    · rename_i hkey
      rw [if_neg fun hk => h (hk.symm.trans hkey)]
    · rfl

/-- To lay over a dictionary one of some entries is to put them in. -/
theorem overlay_ofList (d : Dict α) (l : List (String × α)) :
    d.overlay (ofList l) = d.insertAll l :=
  ext_find? fun k => by rw [find?_overlay, find?_ofList, find?_insertAll]

theorem overlay_insert (d upper : Dict α) (k : String) (v : α) :
    d.overlay (upper.insert k v) = (d.overlay upper).insert k v :=
  ext_find? fun k' => by
    rw [find?_overlay, find?_insert, find?_insert, find?_overlay]
    split <;> rfl

/-- An insertion stands between the entries before its key and those after it. -/
theorem insertEntry_eq (k : String) (v : α) {l : List (String × α)}
    (hl : l.Pairwise fun a b => a.1 < b.1) :
    insertEntry k v l = l.filter (·.1 < k) ++ (k, v) :: l.filter (k < ·.1) := by
  induction l with
  | nil => rfl
  | cons x l ih =>
    obtain ⟨hx, hl⟩ := List.pairwise_cons.1 hl
    -- what comes after an entry that is not before the key comes after the key
    have hlater : ¬x.1 < k → l.filter (·.1 < k) = [] ∧ l.filter (k < ·.1) = l := by
      intro hlt
      have hafter : ∀ e ∈ l, k < e.1 := fun e he =>
        Std.lt_of_le_of_lt (String.not_lt.1 hlt) (hx e he)
      refine ⟨List.filter_eq_nil_iff.mpr fun e he => ?_, List.filter_eq_self.mpr fun e he => ?_⟩
      · exact fun h => String.lt_asymm (hafter e he) (of_decide_eq_true h)
      · exact decide_eq_true (hafter e he)
    rw [insertEntry]
    split
    · rename_i hlt
      have hnot := String.lt_asymm hlt
      obtain ⟨hbefore, hafter⟩ := hlater hnot
      rw [List.filter_cons_of_neg (by simpa using hnot),
        List.filter_cons_of_pos (by simpa using hlt), hbefore, hafter, List.nil_append]
    · split
      · rename_i hk
        obtain ⟨hbefore, hafter⟩ := hlater (hk ▸ String.lt_irrefl k)
        rw [List.filter_cons_of_neg (by simp [hk]), List.filter_cons_of_neg (by simp [hk]), hbefore,
          hafter, List.nil_append]
      · rename_i hnot hne
        have hlt := lt_of_not_lt_of_ne hnot hne
        rw [List.filter_cons_of_pos (by simpa using hlt),
          List.filter_cons_of_neg (by simpa using hnot), ih hl, List.cons_append]

theorem entries_insert (d : Dict α) (k : String) (v : α) : (d.insert k v).entries =
    d.entries.filter (·.1 < k) ++ (k, v) :: d.entries.filter (k < ·.1) :=
  insertEntry_eq k v d.sorted

/-! ### Values -/

/-- The values are what is found at some key. -/
theorem mem_values {d : Dict α} {v : α} : v ∈ d.values ↔ ∃ k, d.find? k = some v := by
  constructor
  · intro h
    obtain ⟨e, he, rfl⟩ := List.mem_map.1 h
    exact ⟨e.1, findEntry_of_mem d.sorted he⟩
  · rintro ⟨k, h⟩
    exact List.mem_map.2 ⟨(k, v), mem_of_findEntry h, rfl⟩

/-- An insertion trades the value at its key for the new one. -/
theorem perm_values_insert (d : Dict α) (k : String) (v : α) :
    ((d.insert k v).values ++ (d.find? k).toList).Perm (v :: d.values) :=
  perm_insertEntry k v d.sorted

theorem countP_values_insert (p : α → Bool) (d : Dict α) (k : String) (v : α) :
    (d.insert k v).values.countP p + (d.find? k).toList.countP p =
      d.values.countP p + [v].countP p := by
  have hcount := (d.perm_values_insert k v).countP_eq p
  rw [List.countP_append, List.countP_cons] at hcount
  rw [hcount, List.countP_singleton]

theorem sum_values_insert (d : Dict Nat) (k : String) (v : Nat) :
    (d.insert k v).values.sum + (d.find? k).getD 0 = d.values.sum + v := by
  have hold : (d.find? k).toList.sum = (d.find? k).getD 0 := by
    cases d.find? k <;> simp
  have hsum := (d.perm_values_insert k v).sum_nat
  rw [List.sum_append_nat, List.sum_cons, hold] at hsum
  rw [hsum, Nat.add_comm]

end Dict

end Chatflow
