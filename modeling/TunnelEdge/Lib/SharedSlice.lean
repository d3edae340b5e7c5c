import Mathlib.Data.List.TakeDrop
/-!
# Filtering a slice in place

A slice is an array and how much of it is in use. `append` writes behind that, into the
same array while it has room. The idiom

    updated := s[:0]
    for _, e := range s { if p(e) { updated = append(updated, e) } }

makes use of this: the loop reads the array that it writes to. It reads ahead of its
writes, so what is left is the filtered list.
-/

namespace GoLib

variable {α : Type}

structure Slice (α : Type) where
  array : List α := []
  len : Nat := 0
  len_le : len ≤ array.length := by exact Nat.zero_le _

namespace Slice

def toList (s : Slice α) : List α := s.array.take s.len

/-- `append(s, x)`; a new array is as large as it needs to be. -/
def append (s : Slice α) (x : α) : Slice α :=
  if h : s.len < s.array.length then
    { array := s.array.set s.len x, len := s.len + 1, len_le := by rw [List.length_set]; exact h }
  else
    { array := s.toList ++ [x], len := s.len + 1
      len_le := by rw [List.length_append, toList, List.length_take_of_le s.len_le]; exact Nat.le_refl _ }

theorem take_set_succ {l : List α} {n : Nat} (h : n < l.length) (x : α) :
    (l.set n x).take (n + 1) = l.take n ++ [x] := by
  rw [List.take_add_one, List.take_set_of_le (Nat.le_refl n), List.getElem?_set_self h]
  rfl

@[simp] theorem toList_append (s : Slice α) (x : α) : (s.append x).toList = s.toList ++ [x] := by
  unfold append
  split
  · rename_i h
    exact take_set_succ h x
  · have hlen : s.toList.length = s.len := List.length_take_of_le s.len_le
    exact List.take_of_length_le (by simp [hlen])

/-- One round of the loop: the array and how much `updated` has of it. -/
def filterRound (p : α → Bool) (st : List α × Nat) (i : Nat) : List α × Nat :=
  match st.1[i]? with
  | none => st
  | some e => if p e then (st.1.set st.2 e, st.2 + 1) else st

def filterLoop (p : α → Bool) (array : List α) (n : Nat) : List α × Nat :=
  (List.range n).foldl (filterRound p) (array, 0)

/-- After `n` rounds: no more was written than was read, so `append` had room, and what
was not read yet is as it was. -/
structure Filtered (p : α → Bool) (array : List α) (n : Nat) (st : List α × Nat) : Prop where
  room : st.2 ≤ n
  length : st.1.length = array.length
  unread : st.1.drop n = array.drop n
  kept : st.1.take st.2 = (array.take n).filter p

theorem filterLoop_filtered (p : α → Bool) {array : List α} {n : Nat} (hn : n ≤ array.length) :
    Filtered p array n (filterLoop p array n) := by
  induction n with
  | zero => exact ⟨Nat.le_refl _, rfl, rfl, by simp [filterLoop]⟩
  | succ n ih =>
    obtain ⟨room, length, unread, kept⟩ := ih (by omega)
    unfold filterLoop at room length unread kept ⊢
    rw [List.range_succ, List.foldl_append, List.foldl_cons, List.foldl_nil]
    generalize (List.range n).foldl (filterRound p) (array, 0) = st at room length unread kept ⊢
    have hread : st.1[n]? = some array[n] := by
      rw [← List.head?_drop, unread, List.head?_drop, List.getElem?_eq_getElem]
    have hrest : st.1.drop (n + 1) = array.drop (n + 1) := by
      rw [← List.drop_drop, unread, List.drop_drop]
    have htake : (array.take (n + 1)).filter p = st.1.take st.2 ++ [array[n]].filter p := by
      rw [List.take_add_one, List.getElem?_eq_getElem hn, List.filter_append, kept]
      rfl
    unfold filterRound
    rw [hread]
    dsimp only
    split
    · rename_i hp
      refine ⟨by omega, by rw [List.length_set, length], ?_, ?_⟩
      · rw [List.drop_set_of_lt (by omega), hrest]
      · rw [take_set_succ (by omega), htake, List.filter_cons_of_pos hp, List.filter_nil]
    · rename_i hp
      refine ⟨by omega, length, hrest, ?_⟩
      rw [htake, List.filter_cons_of_neg hp, List.filter_nil, List.append_nil]

def filterInPlace (p : α → Bool) (s : Slice α) : Slice α where
  array := (filterLoop p s.array s.len).1
  len := (filterLoop p s.array s.len).2
  len_le := by
    have h := filterLoop_filtered p s.len_le
    rw [h.length]
    exact Nat.le_trans h.room s.len_le

@[simp] theorem toList_filterInPlace (p : α → Bool) (s : Slice α) :
    (s.filterInPlace p).toList = s.toList.filter p :=
  (filterLoop_filtered p s.len_le).kept

end Slice

end GoLib
