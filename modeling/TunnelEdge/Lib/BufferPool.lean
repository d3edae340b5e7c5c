import Mathlib.Data.List.Perm.Basic
import Mathlib.Data.List.Nodup
/-!
# A pool of buffers

`sync.Pool` with buffers in it: `Get` hands out one of the free buffers, or a
new one, and `Put` takes a buffer back. Nothing stops a program from using a
buffer it has put back; that it does not is a property of the program, stated
with `Owns`: `held` lists the buffers in use, each once, and none of them is
free. The rules say how the operations move buffers between the two lists, and
that filling one buffer leaves the contents of the others alone.
-/

namespace GoLib

/-- Buffers are numbered in the order of their allocation. -/
structure BufferPool where
  free : List Nat := []
  /-- The number of the next new buffer. -/
  next : Nat := 0
  data : Nat → List UInt8 := fun _ => []

namespace BufferPool

/-- `Get` takes a free buffer, or makes a new one. -/
def get (p : BufferPool) : Option Nat → Option (BufferPool × Nat)
  | some i => if i ∈ p.free then some ({ p with free := p.free.erase i }, i) else none
  | none => some ({ p with next := p.next + 1 }, p.next)

def put (p : BufferPool) (i : Nat) : BufferPool := { p with free := i :: p.free }

def fill (p : BufferPool) (i : Nat) (bytes : List UInt8) : BufferPool :=
  { p with data := Function.update p.data i (bytes ++ (p.data i).drop bytes.length) }

def front (p : BufferPool) (i n : Nat) : List UInt8 := (p.data i).take n

@[simp] theorem put_data (p : BufferPool) (i : Nat) : (p.put i).data = p.data := rfl

theorem get_data {p p' : BufferPool} {choice : Option Nat} {i : Nat} (h : p.get choice = some (p', i)) :
    p'.data = p.data := by
  cases choice with
  | none =>
    cases h
    rfl
  | some j =>
    simp only [get] at h
    split at h
    · cases h
      rfl
    · cases h

@[simp] theorem fill_front_self (p : BufferPool) (i : Nat) (bytes : List UInt8) :
    (p.fill i bytes).front i bytes.length = bytes := by
  simp [fill, front]

theorem fill_data_ne (p : BufferPool) {i j : Nat} (bytes : List UInt8) (h : j ≠ i) :
    (p.fill i bytes).data j = p.data j := by
  simp [fill, h]

/-- The buffers of `held` are in use, each by one user. -/
structure Owns (p : BufferPool) (held : List Nat) : Prop where
  nodup : (p.free ++ held).Nodup
  known : ∀ i ∈ p.free ++ held, i < p.next

variable {p p' : BufferPool} {held held' : List Nat} {i : Nat}

theorem Owns.perm (h : p.Owns held) (hp : held.Perm held') : p.Owns held' :=
  ⟨(hp.append_left p.free).nodup_iff.1 h.nodup, fun j hj => h.known j ((hp.append_left p.free).mem_iff.2 hj)⟩

theorem Owns.get (h : p.Owns held) {choice : Option Nat} (hg : p.get choice = some (p', i)) : p'.Owns (i :: held) := by
  cases choice with
  | none =>
    cases hg
    constructor
    · rw [List.nodup_middle, List.nodup_cons]
      exact ⟨fun hm => absurd (h.known _ hm) (Nat.lt_irrefl _), h.nodup⟩
    · intro j hj
      rcases List.mem_cons.1 (List.perm_middle.subset hj) with rfl | hj
      · exact Nat.lt_succ_self _
      · exact Nat.lt_succ_of_lt (h.known j hj)
  | some k =>
    simp only [BufferPool.get] at hg
    split at hg
    · rename_i hk
      cases hg
      -- the buffer moves from the free ones to those in use
      have hperm : (p.free.erase i ++ i :: held).Perm (p.free ++ held) :=
        List.perm_middle.trans ((List.perm_cons_erase hk).symm.append_right held)
      exact ⟨hperm.nodup_iff.2 h.nodup, fun j hj => h.known j (hperm.subset hj)⟩
    · cases hg

theorem Owns.put (h : p.Owns (i :: held)) : (p.put i).Owns held := by
  have hperm : (p.free ++ i :: held).Perm (i :: p.free ++ held) := List.perm_middle
  exact ⟨hperm.nodup_iff.1 h.nodup, fun j hj => h.known j (hperm.symm.subset hj)⟩

/-- A buffer that is not put back is garbage. -/
theorem Owns.forget (h : p.Owns (i :: held)) : p.Owns held := by
  have hsub : (p.free ++ held).Sublist (p.free ++ i :: held) := (List.sublist_cons_self i held).append_left p.free
  exact ⟨h.nodup.sublist hsub, fun j hj => h.known j (hsub.subset hj)⟩

theorem Owns.fill (h : p.Owns held) (i : Nat) (bytes : List UInt8) : (p.fill i bytes).Owns held := ⟨h.nodup, h.known⟩

theorem Owns.not_mem (h : p.Owns (i :: held)) : i ∉ held :=
  (List.nodup_cons.1 (List.nodup_append.1 h.nodup).2.1).1

/-- What another user does with the pool: it takes a buffer, fills one of those it has, or puts one back. -/
inductive OtherUse (p : BufferPool) (others : List Nat) : BufferPool → List Nat → Prop
  | get {choice : Option Nat} {p' : BufferPool} {i : Nat} (hg : p.get choice = some (p', i)) :
      OtherUse p others p' (i :: others)
  | fill {i : Nat} (bytes : List UInt8) (hi : i ∈ others) : OtherUse p others (p.fill i bytes) others
  | put {i : Nat} (hi : i ∈ others) : OtherUse p others (p.put i) (others.erase i)

variable {others others' : List Nat}

theorem OtherUse.owns (h : p.OtherUse others p' others') (ho : p.Owns (others ++ held)) :
    p'.Owns (others' ++ held) := by
  cases h with
  | get hg => exact ho.get hg
  | fill bytes hi => exact ho.fill _ bytes
  | put hi => exact (ho.perm ((List.perm_cons_erase hi).append_right held)).put

theorem OtherUse.data (h : p.OtherUse others p' others') (hi : i ∉ others) : p'.data i = p.data i := by
  cases h with
  | get hg => rw [get_data hg]
  | put hj => rfl
  | fill bytes hj =>
    -- only a buffer that the user has can be filled, and `i` is not one of those
    refine fill_data_ne p bytes ?_
    rintro rfl
    exact hi hj

end BufferPool

end GoLib
