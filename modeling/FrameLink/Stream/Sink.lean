import FrameLink.Bytes
import FrameLink.IoError

/-!
The outbound side of a stream.

`ByteSink` is what a writer needs of one. Its laws say that a sink cannot be interrupted for ever,
which is why a writer that repeats interrupted calls comes to an end. `Sink` is the sink whose
answers are scripted.
-/

namespace FrameLink

class ByteSink (σ : Type) where
  /-- Offers bytes; the sink says how many it took. -/
  write : σ → Bytes → Except IoError Nat × σ
  flush : σ → Except IoError Unit × σ
  /-- A bound on how often the sink can still be interrupted. -/
  patience : σ → Nat
  patience_write_le (s : σ) (b : Bytes) : patience (write s b).2 ≤ patience s
  patience_write_lt (s : σ) (b : Bytes) (e : IoError) :
    (write s b).1 = .error e → e.kind = .interrupted → patience (write s b).2 < patience s
  patience_flush_lt (s : σ) (e : IoError) :
    (flush s).1 = .error e → e.kind = .interrupted → patience (flush s).2 < patience s

/-- A scripted sink: how many bytes each write takes, and how each flush comes out. -/
structure Sink where
  writes : List (Except IoError Nat) := []
  flushes : List (Except IoError Unit) := []
  isClosed : Bool := false
  pieces : List Bytes := []
  flushed : Nat := 0

namespace Sink

def closedError : IoError := ⟨.brokenPipe, "link closed"⟩

def take (s : Sink) (b : Bytes) : Sink := { s with pieces := s.pieces ++ [b] }

/-- A write follows the script; past its end every byte is taken, and a closed sink takes none. -/
def write (s : Sink) (b : Bytes) : Except IoError Nat × Sink :=
  if s.isClosed then (.error closedError, s) else
  match s.writes with
  | [] => (.ok b.length, s.take b)
  | .ok n :: rest => (.ok (min n b.length), { s with writes := rest }.take (b.take n))
  | .error e :: rest => (.error e, { s with writes := rest })

/-- A flush follows the script; past its end it succeeds. -/
def flush (s : Sink) : Except IoError Unit × Sink :=
  match s.flushes with
  | [] => (.ok (), { s with flushed := s.flushed + 1 })
  | .ok () :: rest => (.ok (), { s with flushes := rest, flushed := s.flushed + 1 })
  | .error e :: rest => (.error e, { s with flushes := rest })

def accepted (s : Sink) : Bytes := s.pieces.flatten

instance : ByteSink Sink where
  write := write
  flush := flush
  patience s := s.writes.length + s.flushes.length
  patience_write_le s b := by
    unfold write
    split
    · exact Nat.le_refl _
    · split <;> simp_all [take]
  patience_write_lt s b e := by
    intro h hi
    unfold write at h ⊢
    split at h
    · simp only [Except.error.injEq] at h
      subst h
      simp [closedError] at hi
    · rename_i hc
      simp only [hc, if_false, Bool.false_eq_true]
      split at h <;> simp_all
  patience_flush_lt s e := by
    intro h _
    unfold flush at h ⊢
    split at h <;> simp_all

end Sink

end FrameLink
