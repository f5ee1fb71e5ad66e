import FrameLink.Record.Basic

/-!
Records made of signed words: each field is a 16-bit number in two's complement, high byte first,
and the fields stand in the order of their names.
-/

namespace FrameLink

namespace Word

def signedBytes (w : Int16) : Bytes := bytes w.toUInt16

def ofSignedBytes (hi lo : UInt8) : Int16 := (ofBytes hi lo).toInt16

/-- The bytes of signed words, one after the other. -/
def signedRun (ws : List Int16) : Bytes := ws.flatMap signedBytes

/-- The signed words that bytes hold, two bytes each; none if a byte is left over. -/
def ofSignedRun? : Bytes → Option (List Int16)
  | [] => some []
  | hi :: lo :: rest => (ofSignedRun? rest).map (ofSignedBytes hi lo :: ·)
  | [_] => none

theorem length_signedRun (ws : List Int16) : (signedRun ws).length = 2 * ws.length := by
  induction ws with
  | nil => rfl
  | cons w ws ih =>
    simp only [signedRun, List.flatMap_cons, List.length_append, signedBytes, length_bytes,
      List.length_cons] at ih ⊢
    omega

theorem ofSignedBytes_signedBytes (w : Int16) :
    ofSignedBytes (UInt8.ofNat (w.toUInt16.toNat / 256)) (UInt8.ofNat (w.toUInt16.toNat % 256))
      = w := by
  rw [ofSignedBytes, ofBytes_bytes]
  simp

theorem ofSignedRun?_signedRun (ws : List Int16) : ofSignedRun? (signedRun ws) = some ws := by
  induction ws with
  | nil => rfl
  | cons w ws ih =>
    have hb : signedRun (w :: ws) = UInt8.ofNat (w.toUInt16.toNat / 256) ::
        UInt8.ofNat (w.toUInt16.toNat % 256) :: signedRun ws := rfl
    rw [hb, ofSignedRun?, ih, ofSignedBytes_signedBytes]
    rfl

theorem signedRun_of_ofSignedRun? {b : Bytes} {ws : List Int16} (h : ofSignedRun? b = some ws) :
    signedRun ws = b := by
  fun_induction ofSignedRun? b generalizing ws with
  | case1 => simp_all [signedRun]
  | case2 hi lo rest ih =>
    obtain ⟨v, hv, rfl⟩ := Option.map_eq_some_iff.mp h
    have hb : signedBytes (ofSignedBytes hi lo) = [hi, lo] := by
      simp [signedBytes, ofSignedBytes, bytes_ofBytes]
    have := ih hv
    simp only [signedRun, List.flatMap_cons, hb] at this ⊢
    simp [this]
  | case3 => simp at h

theorem ofSignedRun?_of_even {b : Bytes} {n : Nat} (h : b.length = 2 * n) :
    ∃ ws, ofSignedRun? b = some ws ∧ ws.length = n := by
  induction n generalizing b with
  | zero =>
    have : b = [] := List.length_eq_zero_iff.mp h
    subst this
    exact ⟨[], rfl, rfl⟩
  | succ n ih =>
    match b, h with
    | hi :: lo :: rest, h =>
      obtain ⟨ws, hw, hl⟩ := ih (b := rest) (by simp at h; omega)
      exact ⟨ofSignedBytes hi lo :: ws, by simp [ofSignedRun?, hw], by simp [hl]⟩

end Word

/-- A record type whose fields are signed words. -/
class WordRecord (α : Type) where
  /-- The names of the fields, in the order of the layout. -/
  names : List String
  short : 2 * names.length ≤ maxPayload
  words : α → List Int16
  ofWords? : List Int16 → Option α
  length_words (a : α) : (words a).length = names.length
  ofWords?_words (a : α) : ofWords? (words a) = some a
  words_of_ofWords? (ws : List Int16) (a : α) : ofWords? ws = some a → words a = ws
  isSome_ofWords? (ws : List Int16) : ws.length = names.length → (ofWords? ws).isSome

namespace WordRecord

variable {α : Type} [WordRecord α]

def zero : α :=
  (ofWords? (List.replicate (names α).length 0)).get (isSome_ofWords? _ (by simp))

instance : Record α where
  size := 2 * (names α).length
  size_le := short
  zero := zero
  bytes a := Word.signedRun (words a)
  ofBytes? b := (Word.ofSignedRun? b).bind ofWords?
  length_bytes a := by rw [Word.length_signedRun, length_words]
  ofBytes?_bytes a := by simp [Word.ofSignedRun?_signedRun, ofWords?_words]
  bytes_of_ofBytes? b a h := by
    obtain ⟨ws, hw, ha⟩ := Option.bind_eq_some_iff.mp h
    rw [words_of_ofWords? ws a ha, Word.signedRun_of_ofSignedRun? hw]
  isSome_ofBytes? b h := by
    obtain ⟨ws, hw, hl⟩ := Word.ofSignedRun?_of_even h
    simp [hw, isSome_ofWords? ws hl]

end WordRecord

end FrameLink
