import Mathlib.Data.List.Nodup
/-!
# Tables with a serial key

A table whose rows get increasing ids and whose deletions only set a mark: the
row stays, no query sees it any more, and its id is not given out again. That
ids are unique is part of the type.

Two rules cover what a write leaves alone: `filter_create` for a new row and
`filter_change` for a row that is updated or deleted.
-/

namespace GoLib

variable {α κ : Type}

/-- A row: the columns that every table has, and `data`, its own. -/
structure Row (α : Type) where
  id : Nat
  createdAt : Int
  updatedAt : Int
  deletedAt : Option Int := none
  data : α
deriving DecidableEq, Repr

namespace Row

def live (r : Row α) : Bool := r.deletedAt.isNone

def rewrite (now : Int) (f : α → α) (r : Row α) : Row α := { r with updatedAt := now, data := f r.data }

def mark (now : Int) (r : Row α) : Row α := { r with deletedAt := some now }

@[simp] theorem rewrite_id (now : Int) (f : α → α) (r : Row α) : (r.rewrite now f).id = r.id := rfl

@[simp] theorem rewrite_data (now : Int) (f : α → α) (r : Row α) : (r.rewrite now f).data = f r.data := rfl

@[simp] theorem rewrite_live (now : Int) (f : α → α) (r : Row α) : (r.rewrite now f).live = r.live := rfl

@[simp] theorem mark_id (now : Int) (r : Row α) : (r.mark now).id = r.id := rfl

@[simp] theorem mark_data (now : Int) (r : Row α) : (r.mark now).data = r.data := rfl

@[simp] theorem mark_live (now : Int) (r : Row α) : (r.mark now).live = false := rfl

end Row

/-- The rows, oldest first. -/
structure SerialTable (α : Type) where
  rows : List (Row α) := []
  nextID : Nat := 1
  id_lt : ∀ r ∈ rows, r.id < nextID := by exact List.forall_mem_nil _
  nodup : (rows.map Row.id).Nodup := by exact List.nodup_nil

namespace SerialTable

/-- What queries see. -/
def live (t : SerialTable α) : List (Row α) := t.rows.filter Row.live

/-- `SELECT ... WHERE id = ?` -/
def first (t : SerialTable α) (id : Nat) : Option (Row α) := t.live.find? fun r => r.id = id

theorem nextID_notMem (t : SerialTable α) : t.nextID ∉ t.rows.map Row.id := by
  intro h
  obtain ⟨r, hr, he⟩ := List.mem_map.1 h
  exact absurd (t.id_lt r hr) (by rw [he]; exact Nat.lt_irrefl _)

def fresh (t : SerialTable α) (now : Int) (x : α) : Row α :=
  { id := t.nextID, createdAt := now, updatedAt := now, data := x }

def create (t : SerialTable α) (now : Int) (x : α) : SerialTable α where
  rows := t.rows ++ [t.fresh now x]
  nextID := t.nextID + 1
  id_lt r h := by
    rcases List.mem_append.1 h with h | h
    · exact Nat.lt_succ_of_lt (t.id_lt r h)
    · rw [List.mem_singleton.1 h]
      exact Nat.lt_succ_self _
  nodup := by
    rw [List.map_append, List.map_singleton, ← List.concat_eq_append]
    exact List.Nodup.concat t.nextID_notMem t.nodup

/-- Rewrite the row with this id, if a query sees it. -/
def change (t : SerialTable α) (id : Nat) (f : Row α → Row α) (hf : ∀ r, (f r).id = r.id) : SerialTable α where
  rows := t.rows.map fun r => if r.id = id ∧ r.live = true then f r else r
  nextID := t.nextID
  id_lt r h := by
    obtain ⟨r', hr', rfl⟩ := List.mem_map.1 h
    split
    · rw [hf]
      exact t.id_lt r' hr'
    · exact t.id_lt r' hr'
  nodup := by
    rw [List.map_map, List.map_congr_left (g := Row.id)]
    · exact t.nodup
    · intro r _
      simp only [Function.comp_apply]
      split
      · exact hf r
      · rfl

/-- `UPDATE ... WHERE id = ?`; no row is affected when `first` finds none. -/
def update (t : SerialTable α) (now : Int) (id : Nat) (f : α → α) : SerialTable α :=
  t.change id (Row.rewrite now f) (Row.rewrite_id now f)

/-- `UPDATE ... SET deleted_at = ? WHERE id = ?` -/
def delete (t : SerialTable α) (now : Int) (id : Nat) : SerialTable α := t.change id (Row.mark now) (Row.mark_id now)

/-- `UPDATE ... SET deleted_at = ?` for every row with `p`. -/
def deleteWhere (t : SerialTable α) (now : Int) (p : α → Bool) : SerialTable α where
  rows := t.rows.map fun r => if p r.data = true ∧ r.live = true then r.mark now else r
  nextID := t.nextID
  id_lt r h := by
    obtain ⟨r', hr', rfl⟩ := List.mem_map.1 h
    split
    · exact t.id_lt r' hr'
    · exact t.id_lt r' hr'
  nodup := by
    rw [List.map_map, List.map_congr_left (g := Row.id)]
    · exact t.nodup
    · intro r _
      simp only [Function.comp_apply]
      split <;> rfl

section Rules

variable {t : SerialTable α} {now : Int} {id : Nat} {x : α} {r : Row α} {p : Row α → Bool} {f : Row α → Row α}
  {hf : ∀ r, (f r).id = r.id}

theorem mem_live : r ∈ t.live ↔ r ∈ t.rows ∧ r.live = true := List.mem_filter

theorem eq_of_id {r' : Row α} (hr : r ∈ t.live) (hr' : r' ∈ t.live) (h : r.id = r'.id) : r = r' :=
  List.inj_on_of_nodup_map t.nodup (mem_live.1 hr).1 (mem_live.1 hr').1 h

theorem first_eq_some : t.first id = some r ↔ r ∈ t.live ∧ r.id = id := by
  constructor
  · intro h
    exact ⟨List.mem_of_find?_eq_some h, by simpa using List.find?_some h⟩
  · rintro ⟨hr, rfl⟩
    cases h : t.first r.id with
    | none =>
      have hne := List.find?_eq_none.1 h r hr
      simp at hne
    | some r' =>
      have hid : r'.id = r.id := by simpa using List.find?_some h
      rw [eq_of_id (List.mem_of_find?_eq_some h) hr hid]

theorem live_create : (t.create now x).live = t.live ++ [t.fresh now x] := List.filter_append ..

theorem mem_live_create : r ∈ (t.create now x).live ↔ r ∈ t.live ∨ r = t.fresh now x := by
  rw [live_create, List.mem_append, List.mem_singleton]

theorem mem_live_change :
    r ∈ (t.change id f hf).live ↔
      (r ∈ t.live ∧ r.id ≠ id) ∨ ∃ r₀ ∈ t.live, r₀.id = id ∧ (f r₀).live = true ∧ r = f r₀ := by
  simp only [mem_live, change, List.mem_map]
  constructor
  · rintro ⟨⟨r₀, hr₀, rfl⟩, hl⟩
    split at hl
    · rename_i h
      rw [if_pos h]
      exact .inr ⟨r₀, ⟨hr₀, h.2⟩, h.1, hl, rfl⟩
    · rename_i h
      rw [if_neg h]
      exact .inl ⟨⟨hr₀, hl⟩, fun he => h ⟨he, hl⟩⟩
  · rintro (⟨⟨hr, hl⟩, hne⟩ | ⟨r₀, ⟨hr₀, hl₀⟩, hid, hl, rfl⟩)
    · exact ⟨⟨r, hr, if_neg fun h => hne h.1⟩, hl⟩
    · exact ⟨⟨r₀, hr₀, if_pos ⟨hid, hl₀⟩⟩, hl⟩

theorem mem_live_update {f : α → α} :
    r ∈ (t.update now id f).live ↔ (r ∈ t.live ∧ r.id ≠ id) ∨ ∃ r₀ ∈ t.live, r₀.id = id ∧ r = r₀.rewrite now f := by
  unfold update
  rw [mem_live_change]
  refine or_congr_right (exists_congr fun r₀ => and_congr_right fun hr₀ => and_congr_right fun _ => ?_)
  rw [Row.rewrite_live, (mem_live.1 hr₀).2, eq_self, true_and]

theorem of_mem_update {f : α → α} (hr : r ∈ (t.update now id f).rows) :
    r ∈ t.rows ∨ ∃ r₀ ∈ t.rows, r₀.id = id ∧ r = r₀.rewrite now f := by
  obtain ⟨r₀, hr₀, rfl⟩ := List.mem_map.1 hr
  split
  · rename_i hc
    exact .inr ⟨r₀, hr₀, hc.1, rfl⟩
  · exact .inl hr₀

/-- The row with this id has this key, deleted or not. -/
def Has {κ : Type} (t : SerialTable α) (key : α → κ) (id : Nat) (k : κ) : Prop :=
  ∃ r ∈ t.rows, r.id = id ∧ key r.data = k

theorem Has.change {κ : Type} {key : α → κ} {id' : Nat} {k : κ} (h : t.Has key id' k)
    (hkey : ∀ r ∈ t.rows, r.id = id → key (f r).data = key r.data) : (t.change id f hf).Has key id' k := by
  obtain ⟨r, hr, hid, he⟩ := h
  refine ⟨_, List.mem_map.2 ⟨r, hr, rfl⟩, ?_⟩
  split
  · rename_i hc
    exact ⟨(hf r).trans hid, (hkey r hr hc.1).trans he⟩
  · exact ⟨hid, he⟩

theorem Has.eq {κ : Type} {key : α → κ} {k : κ} (h : t.Has key id k) (hr : r ∈ t.rows) (hid : r.id = id) :
    key r.data = k := by
  obtain ⟨r₀, hr₀, hid₀, he⟩ := h
  rw [List.inj_on_of_nodup_map t.nodup hr hr₀ (hid.trans hid₀.symm)]
  exact he

theorem mem_live_delete : r ∈ (t.delete now id).live ↔ r ∈ t.live ∧ r.id ≠ id := by
  simp [delete, mem_live_change]

theorem filter_create (h : p (t.fresh now x) = false) : (t.create now x).live.filter p = t.live.filter p := by
  rw [live_create, List.filter_append, List.filter_cons_of_neg (by simp [h]), List.filter_nil, List.append_nil]

theorem filter_change (hf : ∀ r, (f r).id = r.id)
    (h : ∀ r ∈ t.live, r.id = id → p r = false ∧ ((f r).live = true → p (f r) = false)) :
    (t.change id f hf).live.filter p = t.live.filter p := by
  simp only [live, change, List.filter_filter]
  have hrows : ∀ r ∈ t.rows, r.live = true → r.id = id → p r = false ∧ ((f r).live = true → p (f r) = false) :=
    fun r hr hl => h r (mem_live.2 ⟨hr, hl⟩)
  generalize t.rows = rows at hrows
  induction rows with
  | nil => rfl
  | cons r rows ih =>
    have ih := ih fun r' hr' => hrows r' (List.mem_cons_of_mem r hr')
    simp only [List.map_cons, List.filter_cons]
    by_cases hr : r.id = id ∧ r.live = true
    · -- the row itself is on neither side
      obtain ⟨hp, hp'⟩ := hrows r List.mem_cons_self hr.2 hr.1
      have hq : (p (f r) && (f r).live) = false := by
        cases hl : (f r).live
        · exact Bool.and_false _
        · rw [hp' hl]
          rfl
      rw [if_pos hr, hq, hp, Bool.false_and]
      exact ih
    · rw [if_neg hr, ih]

theorem map_change {k : Row α → κ} (h : ∀ r, k (f r) = k r) : (t.change id f hf).rows.map k = t.rows.map k := by
  simp only [change, List.map_map]
  refine List.map_congr_left fun r _ => ?_
  simp only [Function.comp_apply]
  split
  · exact h r
  · rfl

theorem map_update {k : Row α → κ} {f : α → α} (h : ∀ r, k (r.rewrite now f) = k r) :
    (t.update now id f).rows.map k = t.rows.map k :=
  map_change h

theorem map_delete {k : Row α → κ} (h : ∀ r, k (r.mark now) = k r) : (t.delete now id).rows.map k = t.rows.map k :=
  map_change h

theorem map_deleteWhere {p : α → Bool} {k : α → κ} :
    ((t.deleteWhere now p).rows.map fun r => k r.data) = t.rows.map fun r => k r.data := by
  simp only [deleteWhere, List.map_map]
  refine List.map_congr_left fun r _ => ?_
  simp only [Function.comp_apply]
  split <;> rfl

theorem nodup_create {k : Row α → κ} (hn : (t.rows.map k).Nodup) (h : k (t.fresh now x) ∉ t.rows.map k) :
    ((t.create now x).rows.map k).Nodup := by
  simp only [create, List.map_append, List.map_singleton]
  rw [← List.concat_eq_append]
  exact List.Nodup.concat h hn

theorem nodup_change {k : Row α → κ} (hn : (t.rows.map k).Nodup)
    (h : ∀ r ∈ t.live, r.id = id → ∀ r' ∈ t.rows, k r' = k (f r) → r'.id = id) :
    ((t.change id f hf).rows.map k).Nodup := by
  simp only [change, List.map_map]
  refine List.Nodup.map_on ?_ (List.Nodup.of_map _ t.nodup)
  intro r hr r' hr' he
  have hsame : r.id = r'.id → r = r' := fun hid => List.inj_on_of_nodup_map t.nodup hr hr' hid
  simp only [Function.comp_apply] at he
  by_cases hc : r.id = id ∧ r.live = true <;> by_cases hc' : r'.id = id ∧ r'.live = true
  · exact hsame (hc.1.trans hc'.1.symm)
  · rw [if_pos hc, if_neg hc'] at he
    exact hsame (hc.1.trans (h r (mem_live.2 ⟨hr, hc.2⟩) hc.1 r' hr' he.symm).symm)
  · rw [if_neg hc, if_pos hc'] at he
    exact hsame ((h r' (mem_live.2 ⟨hr', hc'.2⟩) hc'.1 r hr he).trans hc'.1.symm)
  · rw [if_neg hc, if_neg hc'] at he
    exact List.inj_on_of_nodup_map hn hr hr' he

end Rules

end SerialTable

end GoLib
