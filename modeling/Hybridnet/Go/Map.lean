import Mathlib.Data.List.Nodup

/-!
# Go maps

A Go map is the list of its entries, each key once, in the order `range` visits them: a
lookup finds the key's entry, and an assignment replaces the entry of its key in place or
adds a new entry last. Results about code that ranges over a map quantify over the list, and
so over every order in which `range` may visit the entries.
-/

namespace Hybridnet

namespace GoMap

variable {κ ν : Type} [BEq κ]

/-- `m[k]`, with `ok`. -/
def get? (m : List (κ × ν)) (k : κ) : Option ν := m.lookup k

/-- `m[k] = v`: the entry of `k` takes `v` in its place, or a new entry comes last. -/
def set (m : List (κ × ν)) (k : κ) (v : ν) : List (κ × ν) :=
  match m.lookup k with
  | some _ => m.map fun entry => if entry.1 == k then (k, v) else entry
  | none => m ++ [(k, v)]

/-- `delete(m, k)`. -/
def delete (m : List (κ × ν)) (k : κ) : List (κ × ν) := m.filter fun entry => !(entry.1 == k)

section Lemmas

variable {κ ν : Type} [DecidableEq κ] {m : List (κ × ν)} {k k' : κ} {v : ν}

theorem mem_set {entry : κ × ν} (mem : entry ∈ set m k v) : entry = (k, v) ∨ entry ∈ m := by
  unfold set at mem
  split at mem
  · obtain ⟨e, member, rfl⟩ := List.mem_map.1 mem
    split_ifs
    · exact .inl rfl
    · exact .inr member
  · rcases List.mem_append.1 mem with member | same
    · exact .inr member
    · exact .inl (List.mem_singleton.1 same)

theorem get?_cons {v' : ν} : get? ((k', v') :: m) k = if k = k' then some v' else get? m k := by
  simp only [get?, List.lookup_cons]
  split <;> simp_all

/-- What a key finds is an entry of the map. -/
theorem mem_of_get? : ∀ {m : List (κ × ν)}, get? m k = some v → (k, v) ∈ m
  | (k', v') :: m, found => by
    rw [get?_cons] at found
    split_ifs at found with same
    · cases found
      exact same ▸ List.mem_cons_self _ _
    · exact List.mem_cons_of_mem _ (mem_of_get? found)

/-- In a map with distinct keys, a key finds its entry. -/
theorem get?_of_mem : ∀ {m : List (κ × ν)}, (m.map Prod.fst).Nodup → (k, v) ∈ m →
    get? m k = some v
  | (k', v') :: m, nodup, mem => by
    rw [List.map_cons, List.nodup_cons] at nodup
    rw [get?_cons]
    rcases List.mem_cons.1 mem with same | mem
    · cases same
      exact if_pos rfl
    · rw [if_neg fun same : k = k' =>
        nodup.1 (same ▸ (List.mem_map_of_mem Prod.fst mem : k ∈ m.map Prod.fst))]
      exact get?_of_mem nodup.2 mem

theorem get?_replace : get? (m.map fun entry => if entry.1 == k then (k, v) else entry) k' =
    if k' = k then (get? m k').map fun _ => v else get? m k' := by
  induction m with
  | nil => split <;> rfl
  | cons entry m ih =>
    obtain ⟨k'', v''⟩ := entry
    simp only [beq_iff_eq] at ih ⊢
    by_cases same : k'' = k
    · subst same
      by_cases hit : k' = k''
      · subst hit; simp [get?_cons]
      · simp [get?_cons, hit, ih]
    · by_cases hit : k' = k''
      · subst hit; simp [get?_cons, same]
      · simp [get?_cons, same, hit, ih]

@[simp] theorem get?_set_self : get? (set m k v) k = some v := by
  unfold set
  split
  · next found => rw [get?_replace, if_pos rfl, show get? m k = _ from found]; rfl
  · next missing => simp [get?, List.lookup_append, missing]

theorem get?_set_of_ne (other : k' ≠ k) : get? (set m k v) k' = get? m k' := by
  unfold set
  split
  · rw [get?_replace, if_neg other]
  · have : [(k, v)].lookup k' = none := by rw [List.lookup_cons, beq_false_of_ne other]; rfl
    rw [get?, List.lookup_append, this, Option.or_none]
    rfl

theorem nodup_keys_set (nodup : (m.map Prod.fst).Nodup) : ((set m k v).map Prod.fst).Nodup := by
  unfold set
  split
  · rw [List.map_map]
    convert nodup using 2
    ext entry
    simp only [Function.comp_apply]
    split_ifs with same
    · exact (beq_iff_eq.1 same).symm
    · rfl
  · next missing =>
    rw [List.map_append, List.nodup_append]
    refine ⟨nodup, List.nodup_singleton _, ?_⟩
    simp only [get?, List.lookup_eq_none_iff] at missing
    simp only [List.map_cons, List.map_nil, List.disjoint_singleton]
    intro mem
    obtain ⟨e, member, same⟩ := List.mem_map.1 mem
    simpa [same] using missing e member

theorem set_of_get?_eq_none (missing : get? m k = none) : set m k v = m ++ [(k, v)] := by
  rw [set, show m.lookup k = none from missing]

/-- Assigning a key of a map with distinct keys a value that agrees with its old one under `f`
leaves the map's values under `f` as they were. -/
theorem map_set_of_get? {ρ : Type} (f : ν → ρ) {v' : ν} (nodup : (m.map Prod.fst).Nodup)
    (found : get? m k = some v) (same : f v' = f v) :
    (set m k v').map (fun entry => f entry.2) = m.map fun entry => f entry.2 := by
  rw [set, show m.lookup k = some v from found, List.map_map]
  refine List.map_congr_left fun entry member => ?_
  simp only [Function.comp_apply]
  split_ifs with hit
  · rw [beq_iff_eq] at hit
    have : get? m entry.1 = some entry.2 := get?_of_mem nodup member
    rw [hit, found, Option.some_inj] at this
    rw [← this, same]
  · rfl

theorem get?_append (l l' : List (κ × ν)) (k : κ) :
    get? (l ++ l') k = (get? l k).or (get? l' k) := by
  simp only [get?, List.lookup_append]

/-- Assigning the entries of `l` in turn: a key finds the last value `l` gives it, or what it
found before. -/
theorem get?_foldl_set (l : List (κ × ν)) (m : List (κ × ν)) (k : κ) :
    get? (l.foldl (fun res entry => set res entry.1 entry.2) m) k =
      (get? l.reverse k).or (get? m k) := by
  induction l generalizing m with
  | nil => rfl
  | cons entry l ih =>
      rw [List.foldl_cons, ih, List.reverse_cons, get?_append, Option.or_assoc]
      congr 1
      by_cases hit : k = entry.1
      · subst hit
        rw [get?_set_self, get?_cons, if_pos rfl]
        rfl
      · rw [get?_set_of_ne hit, get?_cons, if_neg hit]
        rfl

/-- In a map with distinct keys, the order of the entries does not change what a key finds. -/
theorem get?_reverse (nodup : (m.map Prod.fst).Nodup) (k : κ) : get? m.reverse k = get? m k := by
  have nodup' : (m.reverse.map Prod.fst).Nodup := by
    rw [List.map_reverse]
    exact List.nodup_reverse.2 nodup
  cases found : get? m k with
  | some v => exact get?_of_mem nodup' (List.mem_reverse.2 (mem_of_get? found))
  | none =>
      cases found' : get? m.reverse k with
      | none => rfl
      | some v =>
          rw [get?_of_mem nodup (List.mem_reverse.1 (mem_of_get? found'))] at found
          cases found

theorem nodup_keys_foldl_set (l : List (κ × ν)) (nodup : (m.map Prod.fst).Nodup) :
    ((l.foldl (fun res entry => set res entry.1 entry.2) m).map Prod.fst).Nodup := by
  induction l generalizing m with
  | nil => exact nodup
  | cons entry l ih => exact ih (nodup_keys_set nodup)

theorem mem_delete {entry : κ × ν} : entry ∈ delete m k ↔ entry ∈ m ∧ entry.1 ≠ k := by
  simp [delete]

@[simp] theorem get?_delete_self : get? (delete m k) k = none := by
  simp only [get?, delete, List.lookup_eq_none_iff, List.mem_filter]
  intro entry ⟨_, other⟩
  rw [Bool.not_eq_true', beq_eq_false_iff_ne] at other
  exact bne_iff_ne.2 (Ne.symm other)

theorem get?_delete_of_ne (other : k' ≠ k) : get? (delete m k) k' = get? m k' := by
  induction m with
  | nil => rfl
  | cons entry m ih =>
      obtain ⟨k'', v''⟩ := entry
      by_cases hit : k'' = k
      · subst hit
        rw [delete, List.filter_cons_of_neg (by simp), ← delete, ih, get?_cons, if_neg other]
      · rw [delete, List.filter_cons_of_pos (by simpa using hit), ← delete, get?_cons, get?_cons,
          ih]

theorem nodup_keys_delete (nodup : (m.map Prod.fst).Nodup) : ((delete m k).map Prod.fst).Nodup :=
  (List.filter_sublist _).map Prod.fst |>.nodup nodup

end Lemmas

end GoMap

end Hybridnet
