import FrameLink.Bytes
import FrameLink.IoError

/-!
The inbound side of a stream, as the list of what its reads will give.
-/

namespace FrameLink

/-- What a read gives: bytes, none of them at an end of stream, or a failure. -/
inductive Inbound where
  | data (b : Bytes)
  | eof
  | failure (e : IoError)
  deriving DecidableEq

/-- An inbound stream; when its script is over it is at its end, or waits for more if it is live. -/
structure Source where
  script : List Inbound := []
  held : Bytes := []
  isLive : Bool := false
  deriving DecidableEq

/-- What one read comes back with, if it does. -/
inductive ReadResult where
  | bytes (b : Bytes)
  | failed (e : IoError)
  | blocked
  deriving DecidableEq

namespace Inbound

def weight : Inbound → Nat
  | .data b => b.length + 1
  | _ => 1

end Inbound

namespace Source

/-- What is queued, counted so that each read with effect makes it less. -/
def queued : List Inbound → Nat
  | [] => 0
  | item :: rest => item.weight + queued rest

/-- A bound on how often the source can still be read with effect. -/
def weight (s : Source) : Nat := s.held.length + queued s.script

/-- Hands out up to `n` bytes of a piece and holds the rest for the next reads. -/
def serve (n : Nat) (piece : Bytes) (s : Source) : ReadResult × Source :=
  (.bytes (piece.take n), { s with held := piece.drop n })

def read (n : Nat) (s : Source) : ReadResult × Source :=
  match s.held with
  | _ :: _ => serve n s.held s
  | [] =>
    match s.script with
    | .data b :: rest => serve n b { s with script := rest }
    | .eof :: rest => (.bytes [], { s with script := rest })
    | .failure e :: rest => (.failed e, { s with script := rest })
    | [] => (if s.isLive then .blocked else .bytes [], s)

theorem weight_read_bytes {n : Nat} {s s' : Source} {b : Bytes}
    (h : s.read n = (.bytes b, s')) (hb : b ≠ []) : s'.weight < s.weight := by
  obtain ⟨script, held, isLive⟩ := s
  unfold read at h
  split at h
  · rename_i x xs hs
    simp only [serve, Prod.mk.injEq, ReadResult.bytes.injEq] at h
    obtain ⟨rfl, rfl⟩ := h
    have := List.length_pos_iff.mpr hb
    simp only [List.length_take] at this
    simp only [weight, List.length_drop]
    omega
  · split at h
    · rename_i b' rest hs
      simp only at hs
      subst hs
      simp only [serve, Prod.mk.injEq, ReadResult.bytes.injEq] at h
      obtain ⟨rfl, rfl⟩ := h
      simp only [weight, List.length_drop, queued, Inbound.weight]
      omega
    · simp only [Prod.mk.injEq, ReadResult.bytes.injEq] at h
      exact absurd h.1.symm hb
    · simp at h
    · split at h <;> simp only [Prod.mk.injEq, ReadResult.bytes.injEq, reduceCtorEq,
        false_and] at h
      exact absurd h.1.symm hb

theorem weight_read_failed {n : Nat} {s s' : Source} {e : IoError}
    (h : s.read n = (.failed e, s')) : s'.weight < s.weight := by
  obtain ⟨script, held, isLive⟩ := s
  unfold read at h
  split at h
  · simp [serve] at h
  · split at h
    · simp [serve] at h
    · simp at h
    · rename_i hs
      simp only at hs
      subst hs
      simp only [Prod.mk.injEq] at h
      obtain ⟨-, rfl⟩ := h
      simp only [weight, queued, Inbound.weight]
      omega
    · split at h <;> simp at h

end Source

end FrameLink
