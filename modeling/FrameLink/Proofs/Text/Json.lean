import Mathlib.Data.List.Forall2
import FrameLink.Record.Fields

/-!
What a JSON value says.

An object says what its members say, in whatever order they stand. Read as a structure it is asked for
each field by name; a number is read where a whole one in range stands, and nowhere else.
-/

namespace FrameLink

namespace Json

variable {α β : Type} {members others : List (String × Json)} {key : String} {j v : Json}

/-! ### Members by name -/

/-- Where no two names are the same, a name is looked up where its member stands. -/
lemma lookup_eq_some_iff_mem (h : (members.map Prod.fst).Nodup) :
    members.lookup key = some v ↔ (key, v) ∈ members := by
  rw [List.lookup_eq_some_iff]
  constructor
  · rintro ⟨front, back, rfl, -⟩
    simp
  · intro hmem
    obtain ⟨front, back, rfl⟩ := List.append_of_mem hmem
    refine ⟨front, back, rfl, ?_⟩
    intro p hp
    rw [List.map_append, List.nodup_append] at h
    have hne : p.1 ≠ key := h.2.2 p.1 (List.mem_map_of_mem hp) key (by simp)
    exact bne_iff_ne.mpr hne.symm

lemma lookup_eq_none_iff_notMem : members.lookup key = none ↔ key ∉ members.map Prod.fst := by
  rw [List.lookup_eq_none_iff, List.mem_map]
  constructor
  · rintro h ⟨p, hp, rfl⟩
    exact bne_iff_ne.mp (h p hp) rfl
  · intro h p hp
    exact bne_iff_ne.mpr fun hkey => h ⟨p, hp, hkey.symm⟩

/-! ### One after the other -/

/-- All readings succeed, each with its result. -/
lemma mapM_eq_some_iff {f : α → Option β} {xs : List α} {ys : List β} :
    xs.mapM f = some ys ↔ List.Forall₂ (fun x y => f x = some y) xs ys := by
  induction xs generalizing ys with
  | nil =>
    rw [List.mapM_nil, List.forall₂_nil_left_iff]
    exact Option.some_inj.trans eq_comm
  | cons x xs ih =>
    rw [List.mapM_cons, List.forall₂_cons_left_iff]
    simp only [Option.bind_eq_bind, Option.pure_def, Option.bind_eq_some_iff, Option.some.injEq, ih]
    constructor
    · rintro ⟨y, hy, zs, hzs, rfl⟩
      exact ⟨y, zs, hy, hzs, rfl⟩
    · rintro ⟨y, zs, hy, hzs, rfl⟩
      exact ⟨y, hy, zs, hzs, rfl⟩

lemma forall₂_eq_map_iff {g : α → β} {xs : List α} {ys : List β} :
    List.Forall₂ (fun x y => y = g x) xs ys ↔ ys = xs.map g := by
  constructor
  · intro h
    induction h with
    | nil => rfl
    | cons hy _ ih => rw [hy, ih, List.map_cons]
  · rintro rfl
    rw [List.forall₂_map_right_iff, List.forall₂_same]
    exact fun _ _ => rfl

/-- What is read as one thing only, and as nothing where that does not stand. -/
lemma mapM_eq_some_iff_map {f : α → Option β} {g : β → α} (h : ∀ x y, f x = some y ↔ x = g y)
    {xs : List α} {ys : List β} : xs.mapM f = some ys ↔ xs = ys.map g := by
  simp only [mapM_eq_some_iff, h, ← List.forall₂_map_right_iff (f := g), List.forall₂_eq_eq_eq]

lemma forall₂_and_iff {R S : α → β → Prop} {xs : List α} {ys : List β} :
    List.Forall₂ R xs ys ∧ List.Forall₂ S xs ys ↔
      List.Forall₂ (fun x y => R x y ∧ S x y) xs ys := by
  constructor
  · rintro ⟨hR, hS⟩
    induction hR with
    | nil => exact .nil
    | cons hxy _ ih =>
      cases hS with
      | cons hxy' hS => exact .cons ⟨hxy, hxy'⟩ (ih hS)
  · intro h
    exact ⟨h.imp fun _ _ => And.left, h.imp fun _ _ => And.right⟩

/-- For each one there is another just if there is a list of them. -/
lemma exists_forall₂_iff {R : α → β → Prop} {xs : List α} :
    (∃ ys, List.Forall₂ R xs ys) ↔ ∀ x ∈ xs, ∃ y, R x y := by
  induction xs with
  | nil => simp
  | cons x xs ih =>
    rw [List.forall_mem_cons, ← ih]
    constructor
    · rintro ⟨_, _ | ⟨h, hs⟩⟩
      exact ⟨⟨_, h⟩, _, hs⟩
    · rintro ⟨⟨y, h⟩, ys, hs⟩
      exact ⟨y :: ys, .cons h hs⟩

lemma fields?_obj {names : List String} {vs : List Json} :
    (obj members).fields? names = some vs ↔
      List.Forall₂ (fun name v => members.lookup name = some v) names vs :=
  mapM_eq_some_iff

/-! ### Numbers -/

lemma intIn?_eq_some_iff {low high n : Int} :
    j.intIn? low high = some n ↔ j = .int n ∧ low ≤ n ∧ n ≤ high := by
  cases j with
  | int k =>
    rw [intIn?, int.injEq]
    split
    case isTrue h =>
      rw [Option.some_inj]
      exact ⟨fun hk => ⟨hk, hk ▸ h⟩, And.left⟩
    case isFalse h =>
      refine iff_of_false nofun ?_
      rintro ⟨rfl, hrange⟩
      exact h hrange
  | _ => simp [intIn?]

lemma signedWord?_eq_some_iff {w : Int16} : j.signedWord? = some w ↔ j = Viewed.signedWord w := by
  rw [signedWord?, Option.map_eq_some_iff]
  constructor
  · rintro ⟨n, hn, rfl⟩
    obtain ⟨rfl, hlow, hhigh⟩ := intIn?_eq_some_iff.mp hn
    rw [Viewed.signedWord, Int16.toInt_ofInt_of_le hlow (by omega)]
  · rintro rfl
    refine ⟨w.toInt, intIn?_eq_some_iff.mpr ⟨rfl, w.le_toInt, ?_⟩, Int16.ofInt_toInt w⟩
    exact Int.le_of_lt_add_one w.toInt_lt

lemma byte?_eq_some_iff {b : UInt8} : j.byte? = some b ↔ j = Viewed.byte b := by
  rw [byte?, Option.map_eq_some_iff]
  constructor
  · rintro ⟨n, hn, rfl⟩
    obtain ⟨rfl, hlow, hhigh⟩ := intIn?_eq_some_iff.mp hn
    have hsmall : n.toNat < 256 := by omega
    rw [Viewed.byte, UInt8.toNat_ofNat_of_lt' hsmall, Int.toNat_of_nonneg hlow]
  · rintro rfl
    have hlt : b.toNat < 256 := b.toNat_lt
    refine ⟨b.toNat, intIn?_eq_some_iff.mpr ⟨rfl, by omega, by omega⟩, ?_⟩
    rw [Int.toNat_natCast, UInt8.ofNat_toNat]

/-! ### In whatever order -/

/-- The same value, but for the order in which the members of objects stand. -/
inductive Same : Json → Json → Prop where
  | null : Same .null .null
  | bool (b : Bool) : Same (.bool b) (.bool b)
  | int (n : Int) : Same (.int n) (.int n)
  | real (mantissa : Int) (decimals : Nat) : Same (.real mantissa decimals) (.real mantissa decimals)
  | str (s : String) : Same (.str s) (.str s)
  | arr {xs ys : List Json} (h : List.Forall₂ Same xs ys) : Same (.arr xs) (.arr ys)
  | obj {ms ns : List (String × Json)} (hnodup : (ms.map Prod.fst).Nodup)
    (hnames : (ms.map Prod.fst).Perm (ns.map Prod.fst))
    (h : ∀ key v w, (key, v) ∈ ms → (key, w) ∈ ns → Same v w) : Same (.obj ms) (.obj ns)

namespace Same

/-- Members with distinct names can be put in any order. -/
lemma of_perm (hnodup : (members.map Prod.fst).Nodup) (hself : ∀ p ∈ members, Same p.2 p.2)
    (h : members.Perm others) : Same (.obj members) (.obj others) := by
  refine .obj hnodup (h.map Prod.fst) ?_
  intro key v w hv hw
  have hlookup : some v = some w := by
    rw [← (lookup_eq_some_iff_mem hnodup).mpr hv]
    exact (lookup_eq_some_iff_mem hnodup).mpr (h.mem_iff.mpr hw)
  cases hlookup
  exact hself _ hv

/-- What is the same as an object is an object in which each name stands for the same. -/
lemma exists_obj (h : Same (.obj members) j) : ∃ others, j = .obj others ∧
    (∀ key v, members.lookup key = some v → ∃ w, others.lookup key = some w ∧ Same v w) ∧
    ∀ key, members.lookup key = none → others.lookup key = none := by
  cases h with
  | @obj _ others hnodup hnames h =>
    refine ⟨others, rfl, ?_, ?_⟩
    · intro key v hv
      have hmem : (key, v) ∈ members := (lookup_eq_some_iff_mem hnodup).mp hv
      have hkey : key ∈ others.map Prod.fst := hnames.mem_iff.mp (List.mem_map_of_mem hmem)
      obtain ⟨⟨_, w⟩, hw, rfl⟩ := List.mem_map.mp hkey
      exact ⟨w, (lookup_eq_some_iff_mem (hnames.nodup_iff.mp hnodup)).mpr hw, h _ v w hmem hw⟩
    · intro key hkey
      rw [lookup_eq_none_iff_notMem] at hkey ⊢
      rwa [← hnames.mem_iff]

lemma int_iff {n : Int} : Same (.int n) j ↔ j = .int n := by
  constructor
  · rintro ⟨⟩
    rfl
  · rintro rfl
    exact .int n

lemma str_iff {s : String} : Same (.str s) j ↔ j = .str s := by
  constructor
  · rintro ⟨⟩
    rfl
  · rintro rfl
    exact .str s

/-- Integers one after the other stay in their order. -/
lemma ints_iff {g : α → Int} {xs : List α} :
    Same (.arr (xs.map fun x => .int (g x))) j ↔ j = .arr (xs.map fun x => .int (g x)) := by
  constructor
  · intro h
    cases h with
    | arr h =>
      simp only [List.forall₂_map_left_iff, int_iff, forall₂_eq_map_iff] at h
      rw [h]
  · rintro rfl
    refine .arr (List.forall₂_same.mpr ?_)
    simp only [List.mem_map]
    rintro _ ⟨x, -, rfl⟩
    exact .int (g x)

end Same

end Json

end FrameLink
