import Mathlib.Data.List.AList

/-! Dictionaries with texts as keys: what Mathlib's association lists do not offer. -/

namespace Foundation

/-- A dictionary from texts. -/
abbrev Dict (ν : Type*) := AList fun _ : String => ν

namespace Dict

variable {ν μ : Type*}

def values (d : Dict ν) : List ν := d.entries.map Sigma.snd

/-- The entries that satisfy `p`. -/
def filter (p : String → ν → Bool) (d : Dict ν) : Dict ν where
  entries := d.entries.filter fun e => p e.1 e.2
  nodupKeys := d.nodupKeys.sublist List.filter_sublist

/-- The dictionary of some values under keys of their own; of two values under one key the
later counts. -/
def ofValues (key : ν → String) (xs : List ν) : Dict ν :=
  xs.foldl (fun d x => d.insert (key x) x) ∅

/-- Change every value, and no key. -/
def mapValues (f : String → ν → μ) (d : Dict ν) : Dict μ where
  entries := d.entries.map fun e => ⟨e.1, f e.1 e.2⟩
  nodupKeys := by
    have hkeys : (d.entries.map fun e => (⟨e.1, f e.1 e.2⟩ : Sigma fun _ : String => μ)).keys =
        d.entries.keys := by
      simp [List.keys, List.map_map, Function.comp_def]
    rw [List.NodupKeys, hkeys]
    exact d.nodupKeys

/-- Two dictionaries have the same keys. -/
def SameKeys (d : Dict ν) (d' : Dict μ) : Prop := d.keys ⊆ d'.keys ∧ d'.keys ⊆ d.keys

instance (d : Dict ν) (d' : Dict μ) : Decidable (d.SameKeys d') :=
  inferInstanceAs (Decidable (_ ∧ _))

theorem mem_entries_iff_lookup {d : Dict ν} {k : String} {v : ν} :
    ⟨k, v⟩ ∈ d.entries ↔ d.lookup k = some v :=
  AList.mem_lookup_iff.symm

theorem mem_keys_of_mem_entries {d : Dict ν} {e : Sigma fun _ : String => ν}
    (h : e ∈ d.entries) : e.1 ∈ d.keys :=
  List.mem_map_of_mem h

theorem exists_of_mem_keys {d : Dict ν} {k : String} (h : k ∈ d.keys) : ∃ v, d.lookup k = some v :=
  Option.isSome_iff_exists.mp (AList.lookup_isSome.mpr (AList.mem_keys.mpr h))

theorem lookup_foldl_insert {key : ν → String} {xs : List ν} {d : Dict ν} {k : String} {v : ν}
    (h : (xs.foldl (fun d x => d.insert (key x) x) d).lookup k = some v) :
    (v ∈ xs ∧ key v = k) ∨ d.lookup k = some v := by
  induction xs generalizing d with
  | nil => exact .inr h
  | cons x xs ih =>
      rcases ih h with ⟨hv, hk⟩ | hlookup
      · exact .inl ⟨List.mem_cons_of_mem x hv, hk⟩
      · by_cases hx : k = key x
        · subst hx
          rw [AList.lookup_insert] at hlookup
          obtain rfl := Option.some.inj hlookup
          exact .inl ⟨List.mem_cons_self, rfl⟩
        · rw [AList.lookup_insert_ne hx] at hlookup
          exact .inr hlookup

theorem lookup_ofValues {key : ν → String} {xs : List ν} {k : String} {v : ν}
    (h : (ofValues key xs).lookup k = some v) : v ∈ xs ∧ key v = k := by
  rcases lookup_foldl_insert h with hv | hnone
  · exact hv
  · rw [AList.lookup_empty] at hnone
    cases hnone

theorem lookup_filter {p : String → ν → Bool} {d : Dict ν} {k : String} {v : ν}
    (h : (d.filter p).lookup k = some v) : d.lookup k = some v ∧ p k v = true := by
  have hmem := mem_entries_iff_lookup.mpr h
  obtain ⟨hentry, hp⟩ := List.mem_filter.mp hmem
  exact ⟨mem_entries_iff_lookup.mp hentry, hp⟩

end Dict

end Foundation
