import TunnelEdge.Domain
import TunnelEdge.Lib.GoMap
import TunnelEdge.Transport.Formats
/-!
# Streams that reach the agent

Every stream that the gateway opens starts with a StreamLabel frame.
`Agent.handleStream` (`internal/agent/agent.go`) reads it and dials the address
that the `tunnelMap` of `NewAgent` has for the label.
-/

namespace TunnelEdge

open GoLib Transport

/-- `[]byte(s)` -/
def bytesOf (s : String) : Bytes := s.toByteArray.data.toList

/-- `string(b)`, where the bytes are text. -/
def textOf (b : Bytes) : Option String := String.fromUTF8? ⟨b.toArray⟩

@[simp] theorem textOf_bytesOf (s : String) : textOf (bytesOf s) = some s := by
  change String.fromUTF8? s.toByteArray = some s
  exact dif_pos s.isValidUTF8

@[simp] theorem length_bytesOf (s : String) : (bytesOf s).length = s.utf8ByteSize := rfl

/-- The map that `NewAgent` builds from the configured tunnels. -/
def tunnelMap (tunnels : List TunnelRoute) : GoMap String String :=
  tunnels.foldl (fun m t => m.insert t.label t.localAddr) ∅

inductive StreamError
  | label (e : FrameError)
  | unknownLabel (label : Bytes)
deriving DecidableEq, Repr

/-- `handleStream` up to its dial: the address, and what is left of the stream. -/
def handleStream (tunnels : List TunnelRoute) (s : Bytes) : Except StreamError (String × Bytes) :=
  match decodeStreamLabel s with
  | .error e => .error (.label e)
  | .ok (label, rest) =>
    match (textOf label).bind fun label => (tunnelMap tunnels).lookup label with
    | some localAddr => .ok (localAddr, rest)
    | none => .error (.unknownLabel label)

theorem streamLabel_of_valid {label : String} (h : (validateLabel label).toBool = true) :
    ∃ frame, encodeStreamLabel (bytesOf label) = .ok frame ∧
      ∀ rest, decodeStreamLabel (frame ++ rest) = .ok (bytesOf label, rest) := by
  have hlen : (bytesOf label).length ≤ maxLabelLen := by
    rw [length_bytesOf]
    unfold validateLabel at h
    split at h
    · cases h
    · split at h
      · cases h
      · exact Nat.le_of_not_lt ‹_›
  exact ⟨_, (encodeStreamLabel_encodes _ _).2 ⟨hlen, rfl⟩, decodeStreamLabel_reads.decode hlen⟩

/-- A stream that starts with a configured label is dialled to the last tunnel with that label. -/
theorem handleStream_last {tunnels : List TunnelRoute} {label : String} {s rest : Bytes}
    (hmem : label ∈ tunnels.map TunnelRoute.label) (h : decodeStreamLabel s = .ok (bytesOf label, rest)) :
    ∃ pre t post, tunnels = pre ++ t :: post ∧ t.label = label ∧ (∀ t' ∈ post, t'.label ≠ label) ∧
      handleStream tunnels s = .ok (t.localAddr, rest) := by
  obtain ⟨pre, t, post, ht, hlabel, hpost, hl⟩ := GoMap.lookup_foldl_insert TunnelRoute.localAddr hmem ∅
  refine ⟨pre, t, post, ht, hlabel, hpost, ?_⟩
  rw [← tunnelMap] at hl
  simp only [handleStream, h, textOf_bytesOf, Option.bind_some, hl]

end TunnelEdge
