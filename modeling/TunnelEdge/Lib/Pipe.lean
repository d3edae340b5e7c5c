import Mathlib.Data.List.Infix
import TunnelEdge.Lib.Wire
/-!
# Reliable byte streams

One direction of a connection: what its writer has written arrives in order, and
the reader is told of the end only after it has got everything. A reader that has
been told of the end can rely on that, because a closed stream takes no more bytes.
-/

namespace GoLib

/-- One direction of a connection, with all that was written to it and read from it. -/
structure Pipe where
  written : Bytes
  read : Bytes
  /-- The writer has closed its end. -/
  shut : Bool
  /-- The reader has been told so. -/
  ended : Bool
  front : read <+: written
  whole : ended = true → shut = true ∧ read = written

namespace Pipe

theorem not_ended : false = true → false = true ∧ ([] : Bytes) = [] := by
  intro h
  cases h

def new : Pipe := ⟨[], [], false, false, List.prefix_rfl, not_ended⟩

def unread (p : Pipe) : Bytes := p.written.drop p.read.length

theorem whole_write (p : Pipe) {bytes : Bytes} (h : p.shut = true → bytes = []) (he : p.ended = true) :
    p.shut = true ∧ p.read = p.written ++ bytes := by
  obtain ⟨hs, hr⟩ := p.whole he
  exact ⟨hs, by rw [h hs, List.append_nil, hr]⟩

def write (p : Pipe) (bytes : Bytes) : Option Pipe :=
  if h : p.shut = true → bytes = [] then
    some { p with
      written := p.written ++ bytes
      front := p.front.trans (List.prefix_append ..)
      whole := p.whole_write h }
  else none

theorem whole_take (p : Pipe) {bytes : Bytes} {eof : Bool} (hf : p.read ++ bytes <+: p.written)
    (h : eof = true → p.shut = true ∧ p.read ++ bytes = p.written) (he : (eof || p.ended) = true) :
    p.shut = true ∧ p.read ++ bytes = p.written := by
  rcases Bool.or_eq_true_iff.1 he with he | he
  · exact h he
  · obtain ⟨hs, hr⟩ := p.whole he
    refine ⟨hs, hf.eq_of_length_le ?_⟩
    rw [← hr, List.length_append]
    exact Nat.le_add_right ..

/-- A `Read` that returns these bytes, and `io.EOF` with them or not. -/
def take (p : Pipe) (bytes : Bytes) (eof : Bool) : Option Pipe :=
  if h : p.read ++ bytes <+: p.written ∧ (eof = true → p.shut = true ∧ p.read ++ bytes = p.written) then
    some { p with
      read := p.read ++ bytes
      ended := eof || p.ended
      front := h.1
      whole := p.whole_take h.1 h.2 }
  else none

theorem whole_close (p : Pipe) (he : p.ended = true) : true = true ∧ p.read = p.written := ⟨rfl, (p.whole he).2⟩

def close (p : Pipe) : Pipe := { p with shut := true, whole := p.whole_close }

variable {p p' : Pipe} {bytes : Bytes} {eof : Bool}

theorem of_write (h : p.write bytes = some p') :
    p'.written = p.written ++ bytes ∧ p'.read = p.read ∧ p'.ended = p.ended := by
  simp only [write, Option.dite_none_right_eq_some, Option.some.injEq] at h
  obtain ⟨-, rfl⟩ := h
  exact ⟨rfl, rfl, rfl⟩

theorem of_take (h : p.take bytes eof = some p') :
    p'.written = p.written ∧ p'.read = p.read ++ bytes ∧ p'.ended = (eof || p.ended) := by
  simp only [take, Option.dite_none_right_eq_some, Option.some.injEq] at h
  obtain ⟨-, rfl⟩ := h
  exact ⟨rfl, rfl, rfl⟩

theorem read_append_unread (p : Pipe) : p.read ++ p.unread = p.written :=
  List.prefix_iff_eq_append.1 p.front

end Pipe

end GoLib
