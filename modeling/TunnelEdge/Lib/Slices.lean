import Mathlib.Algebra.GroupWithZero.Nat
import TunnelEdge.Lib.Wire
/-!
# Slices and their bounds

Reads and writes at computed positions of a `[]byte`, with the check that Go makes
at each of them. A position outside the slice is a fault, not an error that a
caller gets to see, so a function over these operations is safe if it never
ends in `outOfRange`.

An encoder that fills a buffer from the front is described by what it has written
so far, followed by zeros. Each write moves the border between the two. `Fills` says
this of a piece of an encoder that works with a cursor, with rules for putting the
pieces together.
-/

namespace GoLib

inductive Fault (ε : Type)
  /-- An index or a bound outside the slice: the run-time panic. -/
  | outOfRange
  /-- The error that it returns. -/
  | returned (err : ε)
deriving DecidableEq, Repr

abbrev Checked (ε : Type) := Except (Fault ε)

variable {ε : Type}

/-- `s[i]` -/
def index (s : Bytes) (i : Nat) : Checked ε UInt8 :=
  match s[i]? with
  | some b => .ok b
  | none => .error .outOfRange

/-- `s[lo:hi]` -/
def slice (s : Bytes) (lo hi : Nat) : Checked ε Bytes :=
  if lo ≤ hi ∧ hi ≤ s.length then .ok ((s.take hi).drop lo) else .error .outOfRange

/-- `make([]byte, n)` -/
def zeros (n : Nat) : Bytes := List.replicate n 0

/-- `s[i] = v` -/
def setIndex (s : Bytes) (i : Nat) (v : UInt8) : Checked ε Bytes :=
  if i < s.length then .ok (s.set i v) else .error .outOfRange

/-- `copy(s[off:], src)`, which writes as much as there is room for. -/
def copyAt (s : Bytes) (off : Nat) (src : Bytes) : Checked ε Bytes :=
  if off ≤ s.length then .ok (s.take off ++ (src.take (s.length - off) ++ s.drop (off + src.length)))
  else .error .outOfRange

/-- `binary.BigEndian.PutUint16(s[off:off+2], v)` -/
def putUint16At (s : Bytes) (off : Nat) (v : UInt16) : Checked ε Bytes :=
  if off + 2 ≤ s.length then .ok (s.take off ++ (putUint16 v ++ s.drop (off + 2))) else .error .outOfRange

/-! ## Reading -/

theorem index_append (pre : Bytes) {post : Bytes} {b : UInt8} {i : Nat} (hi : i = pre.length) :
    index (pre ++ b :: post) i = (.ok b : Checked ε UInt8) := by
  subst hi
  unfold index
  rw [List.getElem?_append_right (Nat.le_refl _), Nat.sub_self]
  rfl

theorem slice_append (pre : Bytes) {mid post : Bytes} {lo hi : Nat} (hlo : lo = pre.length)
    (hhi : hi = lo + mid.length) :
    slice (pre ++ (mid ++ post)) lo hi = (.ok mid : Checked ε Bytes) := by
  subst hhi hlo
  unfold slice
  rw [if_pos (by simp), ← List.append_assoc, ← List.length_append, List.take_left, List.drop_left]

/-- A walk along a slice: `pre` is behind, and there is a byte to read. -/
theorem index_walk {data pre s : Bytes} (i : Nat) (hd : data = pre ++ s) (hi : i = pre.length) (h : i < data.length) :
    ∃ b s', index data i = (.ok b : Checked ε UInt8) ∧ data = (pre ++ [b]) ++ s' := by
  subst hd
  match s with
  | [] =>
    rw [List.append_nil] at h
    omega
  | b :: s' => exact ⟨b, s', index_append pre hi, by simp⟩

theorem slice_walk {data pre s : Bytes} (lo n : Nat) (hd : data = pre ++ s) (hlo : lo = pre.length)
    (h : lo + n ≤ data.length) :
    ∃ v s', slice data lo (lo + n) = (.ok v : Checked ε Bytes) ∧ data = (pre ++ v) ++ s' ∧ v.length = n := by
  subst hd
  rw [List.length_append] at h
  obtain ⟨v, s', rfl, hv⟩ : ∃ v s', s = v ++ s' ∧ v.length = n :=
    ⟨s.take n, s.drop n, (List.take_append_drop n s).symm, List.length_take_of_le (by omega)⟩
  exact ⟨v, s', slice_append pre hlo (by rw [hv]), (List.append_assoc ..).symm, hv⟩

/-! ## Filling a buffer -/

@[simp] theorem length_zeros (n : Nat) : (zeros n).length = n := List.length_replicate

theorem zeros_add (m n : Nat) : zeros (m + n) = zeros m ++ zeros n := List.replicate_append_replicate.symm

theorem setIndex_fill {done : Bytes} {n i : Nat} {v : UInt8} (hi : i = done.length) :
    setIndex (done ++ zeros (1 + n)) i v = (.ok ((done ++ [v]) ++ zeros n) : Checked ε Bytes) := by
  subst hi
  have hlt : done.length < (done ++ zeros (1 + n)).length := by
    rw [List.length_append, length_zeros]
    omega
  unfold setIndex
  rw [if_pos hlt, List.set_append_right _ _ (Nat.le_refl _), Nat.sub_self, Nat.add_comm 1 n, List.append_assoc]
  rfl

theorem copyAt_fill {done src : Bytes} {n off : Nat} (hoff : off = done.length) :
    copyAt (done ++ zeros (src.length + n)) off src = (.ok ((done ++ src) ++ zeros n) : Checked ε Bytes) := by
  subst hoff
  have hroom : (done ++ zeros (src.length + n)).length - done.length = src.length + n := by simp
  have hrest : (done ++ zeros (src.length + n)).drop (done.length + src.length) = zeros n := by
    rw [zeros_add, ← List.append_assoc]
    exact List.drop_left' (by simp)
  unfold copyAt
  rw [if_pos (by simp), hroom, hrest, List.take_left, List.take_of_length_le (Nat.le_add_right _ _), List.append_assoc]

theorem putUint16At_fill {done : Bytes} {n off : Nat} {v : UInt16} (hoff : off = done.length) :
    putUint16At (done ++ zeros (2 + n)) off v = (.ok ((done ++ putUint16 v) ++ zeros n) : Checked ε Bytes) := by
  subst hoff
  have hrest : (done ++ zeros (2 + n)).drop (done.length + 2) = zeros n := by
    rw [zeros_add, ← List.append_assoc]
    exact List.drop_left' (by simp)
  unfold putUint16At
  rw [if_pos (by simp), hrest, List.take_left, List.append_assoc]

/-! ## A cursor over a buffer -/

/-- A buffer that is filled from the front. The next write goes to `off`; `writes`
lists the ranges written to so far, each as its offset and its length. -/
structure Cursor where
  buf : Bytes
  off : Nat := 0
  writes : List (Nat × Nat) := []

/-- A piece of an encoder. It moves the cursor on, and a fault leaves the cursor where it was. -/
abbrev Filler (ε : Type) := EStateM (Fault ε) Cursor

namespace Filler

/-- A write of `len` bytes at the cursor and `off += len`. It is listed whether or not it is in range. -/
def write (len : Nat) (op : Bytes → Nat → Checked ε Bytes) : Filler ε Unit := fun c =>
  match op c.buf c.off with
  | .ok buf => .ok () { buf, off := c.off + len, writes := c.writes ++ [(c.off, len)] }
  | .error e => .error e { c with writes := c.writes ++ [(c.off, len)] }

/-- `buf[off] = v; off++` -/
def byte (v : UInt8) : Filler ε Unit := write 1 fun buf off => setIndex buf off v

/-- `binary.BigEndian.PutUint16(buf[off:off+2], v); off += 2` -/
def uint16 (v : UInt16) : Filler ε Unit := write 2 fun buf off => putUint16At buf off v

/-- `copy(buf[off:], src); off += len(src)` -/
def bytes (src : Bytes) : Filler ε Unit := write src.length fun buf off => copyAt buf off src

/-- `return err` -/
def fail (e : ε) : Filler ε Unit := throw (.returned e)

/-- `buf[:off]`, what the encoder hands to its `Write`. -/
def filled : Filler ε Bytes := fun c =>
  match slice c.buf 0 c.off with
  | .ok b => .ok b c
  | .error e => .error e c

end Filler

/-- Every write so far is within the buffer. -/
def Cursor.Within (c : Cursor) : Prop := ∀ w ∈ c.writes, w.1 + w.2 ≤ c.buf.length

/-- `done` is written, and there is room for `room` bytes more. -/
structure Cursor.At (c : Cursor) (done : Bytes) (room : Nat) : Prop where
  buf : c.buf = done ++ zeros room
  off : c.off = done.length
  within : c.Within

/-- Given room for `size` bytes, `m` fills it with the bytes of `r`, or it stops with
the error of `r`. Either way no write leaves the buffer. -/
def Fills (m : Filler ε Unit) (size : Nat) (r : Except ε Bytes) : Prop :=
  ∀ (c : Cursor) (done : Bytes) (n : Nat), c.At done (size + n) →
    match r with
    | .ok bs => bs.length = size ∧ ∃ c', m c = .ok () c' ∧ c'.At (done ++ bs) n
    | .error e => ∃ c', m c = .error (.returned e) c' ∧ c'.Within ∧ c'.buf.length = c.buf.length

namespace Fills

variable {m m' : Filler ε Unit} {size size' : Nat} {r r' : Except ε Bytes}

theorem congr (h : Fills m size r) (hs : size = size') (hr : r = r') : Fills m size' r' := by
  subst hs hr
  exact h

theorem write {op : Bytes → Nat → Checked ε Bytes} {bs : Bytes} (hsize : bs.length = size)
    (h : ∀ (done : Bytes) (n : Nat), op (done ++ zeros (size + n)) done.length = .ok ((done ++ bs) ++ zeros n)) :
    Fills (Filler.write size op) size (.ok bs) := by
  intro c done n hc
  have hlen : ((done ++ bs) ++ zeros n).length = c.buf.length := by
    simp only [hc.buf, List.length_append, length_zeros]
    omega
  refine ⟨hsize, ⟨(done ++ bs) ++ zeros n, c.off + size, c.writes ++ [(c.off, size)]⟩, ?_, rfl, ?_, ?_⟩
  · unfold Filler.write
    rw [hc.buf, hc.off, h done n]
  · rw [hc.off, List.length_append, hsize]
  · -- the new range ends where the room begins
    intro w hw
    dsimp only at hw ⊢
    rw [hlen]
    rcases List.mem_append.1 hw with hw | hw
    · exact hc.within w hw
    · rw [List.mem_singleton.1 hw, ← hlen, hc.off]
      simp only [List.length_append, length_zeros]
      omega

theorem byte (v : UInt8) : Fills (ε := ε) (.byte v) 1 (.ok [v]) :=
  write rfl fun _ _ => setIndex_fill rfl

theorem uint16 (v : UInt16) : Fills (ε := ε) (.uint16 v) 2 (.ok (putUint16 v)) :=
  write rfl fun _ _ => putUint16At_fill rfl

theorem bytes (src : Bytes) : Fills (ε := ε) (.bytes src) src.length (.ok src) :=
  write rfl fun _ _ => copyAt_fill rfl

theorem fail (e : ε) (size : Nat) : Fills (.fail e) size (.error e) :=
  fun c _ _ hc => ⟨c, rfl, hc.within, rfl⟩

theorem nothing : Fills (ε := ε) (pure ()) 0 (.ok []) := by
  intro c done n hc
  rw [Nat.zero_add] at hc
  exact ⟨rfl, c, rfl, by rwa [List.append_nil]⟩

theorem seq (h : Fills m size r) (h' : Fills m' size' r') :
    Fills (do m; m') (size + size') (do let a ← r; let b ← r'; pure (a ++ b)) := by
  intro c done n hc
  rw [Nat.add_assoc] at hc
  have hm := h c done (size' + n) hc
  cases r with
  | error e =>
    obtain ⟨c₁, hrun, hwithin, hlen⟩ := hm
    refine ⟨c₁, ?_, hwithin, hlen⟩
    simp only [bind, EStateM.bind, hrun]
  | ok a =>
    obtain ⟨ha, c₁, hrun, hc₁⟩ := hm
    have hm' := h' c₁ (done ++ a) n hc₁
    cases r' with
    | error e =>
      obtain ⟨c₂, hrun', hwithin, hlen⟩ := hm'
      refine ⟨c₂, ?_, hwithin, ?_⟩
      · simp only [bind, EStateM.bind, hrun, hrun']
      · rw [hlen, hc₁.buf, hc.buf]
        simp only [List.length_append, length_zeros]
        omega
    | ok b =>
      obtain ⟨hb, c₂, hrun', hc₂⟩ := hm'
      refine ⟨?_, c₂, ?_, ?_⟩
      · rw [List.length_append, ha, hb]
      · simp only [bind, EStateM.bind, hrun, hrun']
      · rwa [List.append_assoc] at hc₂

theorem forM {α : Type} {f : α → Filler ε Unit} {size : α → Nat} {r : α → Except ε Bytes}
    (h : ∀ x, Fills (f x) (size x) (r x)) (l : List α) :
    Fills (l.forM f) (l.map size).sum (do let bs ← l.mapM r; pure bs.flatten) := by
  induction l with
  | nil => exact nothing
  | cons x l ih =>
    refine ((h x).seq ih).congr rfl ?_
    rw [List.mapM_cons]
    cases r x with
    | error e => rfl
    | ok a => cases l.mapM r <;> rfl

theorem forM_ok {α : Type} {f : α → Filler ε Unit} {size : α → Nat} {wire : α → Bytes}
    (h : ∀ x, Fills (f x) (size x) (.ok (wire x))) (l : List α) :
    Fills (l.forM f) (l.map size).sum (.ok (l.flatMap wire)) := by
  induction l with
  | nil => exact nothing
  | cons x l ih => exact (h x).seq ih

end Fills

end GoLib
