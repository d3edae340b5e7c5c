import TunnelEdge.Lib.GoMap
/-!
# The stream manager

`Manager` (`internal/stream/manager.go`): the streams of a gateway by their id.
Every method holds the manager's lock throughout. Closing a stream closes the
raw one under it, which may fail; `Close` then returns the error before it
deletes the entry, while `CloseByTunnel` and `CloseAll` delete it all the same.
-/

namespace TunnelEdge.Streams

open GoLib

inductive State
  | stateOpen | stateClosed
deriving DecidableEq, Repr

structure Stream where
  tunnelID : String
  state : State := .stateOpen
deriving DecidableEq, Repr

structure Manager where
  streams : GoMap String Stream := ∅

namespace Manager

/-- `Open`, with the id that `generateStreamID` drew. -/
def openStream (m : Manager) (id tunnelID : String) : Manager :=
  { m with streams := m.streams.insert id { tunnelID } }

/-- `Close`; the raw stream of an open stream is closed, with an error if `rawFails`. -/
def close (m : Manager) (id : String) (rawFails : Bool) : Manager :=
  match m.streams.lookup id with
  | none => m
  | some s =>
    if s.state = .stateOpen && rawFails then { m with streams := m.streams.insert id { s with state := .stateClosed } }
    else { m with streams := m.streams.erase id }

def closeByTunnel (m : Manager) (tunnelID : String) : Manager :=
  { m with streams := GoMap.filter (fun _ s => s.tunnelID != tunnelID) m.streams }

def closeAll (_ : Manager) : Manager := {}

def countByTunnel (m : Manager) (tunnelID : String) : Nat := GoMap.count (fun _ s => s.tunnelID = tunnelID) m.streams

/-! ## How the operations change a count -/

section Count

variable (m : Manager) (id t t' : String)

theorem countByTunnel_openStream_le :
    (m.openStream id t).countByTunnel t' ≤ m.countByTunnel t' + if t = t' then 1 else 0 := by
  have h := GoMap.count_insert_le (fun _ s => decide (Stream.tunnelID s = t')) m.streams id { tunnelID := t }
  simpa [openStream, countByTunnel] using h

theorem countByTunnel_close_le (rawFails : Bool) : (m.close id rawFails).countByTunnel t ≤ m.countByTunnel t := by
  unfold close
  split
  · exact Nat.le_refl _
  · rename_i s hs
    split
    · exact Nat.le_of_eq (GoMap.count_insert_of_lookup _ hs rfl)
    · exact GoMap.count_erase_le _ _ _

theorem countByTunnel_closeByTunnel_le : (m.closeByTunnel t').countByTunnel t ≤ m.countByTunnel t :=
  List.Sublist.countP_le List.filter_sublist

end Count

end Manager

end TunnelEdge.Streams
