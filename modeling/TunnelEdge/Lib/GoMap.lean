import Mathlib.Data.List.AList
import Mathlib.Data.List.Induction
/-!
# Go maps

A Go `map[K]V` is Mathlib's association list without duplicate keys. `m[k]`
is `lookup`, `m[k] = v` is `insert` and `delete(m, k)` is `erase`. What is
missing there is the loop that deletes while it ranges over the map: `filter`.

The lookup lemmas are stated with an `if` on the key, so that `simp` runs a
sequence of updates down to the map it started from.
-/

namespace GoLib

/-- A Go `map[K]V`. -/
abbrev GoMap (K V : Type) := AList fun _ : K => V

namespace GoMap

variable {K V : Type} [DecidableEq K]

@[simp] theorem lookup_insert_ite (m : GoMap K V) (k k' : K) (v : V) :
    (m.insert k v).lookup k' = if k' = k then some v else m.lookup k' := by
  by_cases h : k' = k
  · subst h; simp
  · simp [AList.lookup_insert_ne h, h]

theorem map_lookup_insert {A : Type} (f : V → A) {m : GoMap K V} {k : K} {v v' : V} (h : m.lookup k = some v)
    (hf : f v' = f v) (key : K) : ((m.insert k v').lookup key).map f = (m.lookup key).map f := by
  rw [lookup_insert_ite]
  split
  · rename_i hk
    rw [hk, h, Option.map_some, Option.map_some, hf]
  · rfl

theorem lookup_of_replace {m : GoMap K V} {k k' : K} {v : V} (hk : m.lookup k ≠ none)
    (h : (m.insert k v).lookup k' ≠ none) : m.lookup k' ≠ none := by
  rw [lookup_insert_ite] at h
  split at h
  · rename_i he
    rwa [he]
  · exact h

@[simp] theorem lookup_erase_ite (m : GoMap K V) (k k' : K) :
    (m.erase k).lookup k' = if k' = k then none else m.lookup k' := by
  by_cases h : k' = k
  · subst h; simp
  · simp [AList.lookup_erase_ne h, h]

/-- `for k, v := range m { if !p(k, v) { delete(m, k) } }` -/
def filter (p : K → V → Bool) (m : GoMap K V) : GoMap K V :=
  ⟨m.entries.filter fun e => p e.1 e.2, m.nodupKeys.sublist List.filter_sublist⟩

theorem mem_entries_iff (m : GoMap K V) (k : K) (v : V) :
    (⟨k, v⟩ : Sigma fun _ : K => V) ∈ m.entries ↔ m.lookup k = some v := by
  rw [← Option.mem_def, AList.mem_lookup_iff]

@[simp] theorem lookup_filter (p : K → V → Bool) (m : GoMap K V) (k : K) :
    (filter p m).lookup k = (m.lookup k).filter (p k) := by
  ext v
  rw [← Option.mem_def, AList.mem_lookup_iff]
  simp only [filter, List.mem_filter, mem_entries_iff, Option.filter_eq_some_iff]

/-- `for _, x := range l { m[k(x)] = v(x) }`: the last item with a key has it. -/
theorem lookup_foldl_insert {A : Type} {k : A → K} (v : A → V) {l : List A} {key : K} (h : key ∈ l.map k)
    (m : GoMap K V) : ∃ pre x post, l = pre ++ x :: post ∧ k x = key ∧ (∀ y ∈ post, k y ≠ key) ∧
      (l.foldl (fun m x => m.insert (k x) (v x)) m).lookup key = some (v x) := by
  induction l using List.reverseRecOn with
  | nil => cases h
  | append_singleton l x ih =>
    simp only [List.foldl_append, List.foldl_cons, List.foldl_nil, lookup_insert_ite]
    by_cases hx : k x = key
    · exact ⟨l, x, [], rfl, hx, by simp, by rw [if_pos hx.symm]⟩
    · have hmem : key ∈ l.map k := by simpa [Ne.symm hx] using h
      obtain ⟨pre, y, post, rfl, hy, hpost, hl⟩ := ih hmem
      refine ⟨pre, y, post ++ [x], by simp, hy, ?_, by rw [if_neg (Ne.symm hx), hl]⟩
      rw [List.forall_mem_append]
      exact ⟨hpost, by simpa using hx⟩

/-- `for k, v := range m { m[k] = f(v) }` -/
def mapValues (f : V → V) (m : GoMap K V) : GoMap K V :=
  ⟨m.entries.map fun e => ⟨e.1, f e.2⟩, by
    have h := m.nodupKeys
    simpa [List.NodupKeys, List.keys, Function.comp_def] using h⟩

@[simp] theorem lookup_mapValues (f : V → V) (m : GoMap K V) (k : K) :
    (mapValues f m).lookup k = (m.lookup k).map f := by
  ext v
  rw [← Option.mem_def, AList.mem_lookup_iff]
  simp only [mapValues, List.mem_map, Option.map_eq_some_iff, ← mem_entries_iff]
  constructor
  · rintro ⟨⟨k', v'⟩, hm, he⟩
    cases he
    exact ⟨v', hm, rfl⟩
  · rintro ⟨v', hm, rfl⟩
    exact ⟨⟨k, v'⟩, hm, rfl⟩

/-- `len(m)` over the entries that satisfy `p`: the counting loops. -/
def count (p : K → V → Bool) (m : GoMap K V) : Nat := m.entries.countP fun e => p e.1 e.2

theorem count_erase_le (p : K → V → Bool) (m : GoMap K V) (k : K) : count p (m.erase k) ≤ count p m :=
  (List.kerase_sublist k m.entries).countP_le

theorem count_insert (p : K → V → Bool) (m : GoMap K V) (k : K) (v : V) :
    count p (m.insert k v) = count p (m.erase k) + if p k v then 1 else 0 :=
  List.countP_cons

theorem count_insert_le (p : K → V → Bool) (m : GoMap K V) (k : K) (v : V) :
    count p (m.insert k v) ≤ count p m + if p k v then 1 else 0 := by
  rw [count_insert]
  exact Nat.add_le_add_right (count_erase_le p m k) _

theorem count_erase (p : K → V → Bool) {m : GoMap K V} {k : K} {v : V} (h : m.lookup k = some v) :
    count p (m.erase k) + (if p k v then 1 else 0) = count p m := by
  have hm := (mem_entries_iff m k v).2 h
  obtain ⟨v', l₁, l₂, -, hl, hk⟩ := List.exists_of_kerase (List.mem_keys_of_mem hm)
  have hv : v' = v := by
    have hm' : (⟨k, v'⟩ : Sigma fun _ : K => V) ∈ m.entries := by simp [hl]
    exact Option.some.inj (((mem_entries_iff m k v').1 hm').symm.trans h)
  show (List.kerase k m.entries).countP _ + _ = m.entries.countP _
  rw [hk, hl, hv, List.countP_append, List.countP_append, List.countP_cons]
  exact Nat.add_assoc ..

theorem count_insert_of_lookup (p : K → V → Bool) {m : GoMap K V} {k : K} {v v' : V} (h : m.lookup k = some v)
    (hp : p k v' = p k v) : count p (m.insert k v') = count p m := by
  rw [count_insert, hp, count_erase p h]

theorem count_insert_of_none (p : K → V → Bool) {m : GoMap K V} {k : K} (h : m.lookup k = none) (v : V) :
    count p (m.insert k v) = count p m + if p k v then 1 else 0 := by
  have hk : (List.kerase k m.entries) = m.entries := List.kerase_of_notMem_keys (AList.lookup_eq_none.1 h)
  rw [count_insert]
  exact congrArg (fun es : List (Sigma fun _ : K => V) => es.countP (fun e => p e.1 e.2) + _) hk

/-- The values of the entries that satisfy `p`, in some order. -/
def values (p : K → V → Bool) (m : GoMap K V) : List V := (m.entries.filter fun e => p e.1 e.2).map (·.2)

theorem mem_values_iff (p : K → V → Bool) (m : GoMap K V) (v : V) :
    v ∈ values p m ↔ ∃ k, m.lookup k = some v ∧ p k v = true := by
  simp only [values, List.mem_map, List.mem_filter]
  constructor
  · rintro ⟨⟨k, v'⟩, ⟨hm, hp⟩, rfl⟩
    exact ⟨k, (mem_entries_iff m k v').1 hm, hp⟩
  · rintro ⟨k, hk, hp⟩
    exact ⟨⟨k, v⟩, ⟨(mem_entries_iff m k v).2 hk, hp⟩, rfl⟩

theorem values_eq_nil_iff (p : K → V → Bool) (m : GoMap K V) :
    values p m = [] ↔ ∀ k v, m.lookup k = some v → p k v = false := by
  rw [List.eq_nil_iff_forall_not_mem]
  simp only [mem_values_iff, not_exists, not_and, Bool.not_eq_true]
  exact forall_comm

theorem nodup_values (p : K → V → Bool) {m : GoMap K V}
    (h : ∀ k k' v, m.lookup k = some v → m.lookup k' = some v → k = k') : (values p m).Nodup := by
  refine List.Nodup.map_on ?_ (m.nodupKeys.nodup.filter _)
  rintro ⟨k, v⟩ he ⟨k', v'⟩ he' hv
  cases hv
  have hk := (mem_entries_iff m k v).1 (List.mem_filter.1 he).1
  have hk' := (mem_entries_iff m k' v).1 (List.mem_filter.1 he').1
  rw [h k k' v hk hk']

omit [DecidableEq K] in
theorem filter_values (p : K → V → Bool) (q : V → Bool) (m : GoMap K V) :
    (values p m).filter q = values (fun k v => q v && p k v) m := by
  simp only [values, List.filter_map, List.filter_filter, Function.comp_def]

theorem values_erase {p : K → V → Bool} {m : GoMap K V} {k : K} (h : ∀ v, m.lookup k = some v → p k v = false) :
    values p (m.erase k) = values p m := by
  have key : ∀ es : List (Sigma fun _ : K => V), (∀ e ∈ es, e.1 = k → p e.1 e.2 = false) →
      (es.kerase k).filter (fun e => p e.1 e.2) = es.filter fun e => p e.1 e.2 := by
    intro es
    induction es with
    | nil => intro _; rfl
    | cons e es ih =>
      intro hes
      by_cases hk : k = e.1
      · rw [List.kerase_cons_eq hk, List.filter_cons_of_neg]
        simp [hes e (List.mem_cons_self ..) hk.symm]
      · rw [List.kerase_cons_ne hk, List.filter_cons, List.filter_cons,
          ih fun e' he' => hes e' (List.mem_cons_of_mem e he')]
  refine congrArg (List.map (·.2)) (key m.entries fun e he hek => ?_)
  subst hek
  exact h e.2 ((mem_entries_iff m e.1 e.2).1 he)

end GoMap

end GoLib
