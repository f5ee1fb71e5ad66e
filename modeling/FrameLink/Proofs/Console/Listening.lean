import Mathlib.Data.List.Basic
import FrameLink.Console.Listening

/-!
Which frames a listener shows, and when it has had enough.

A listener is undisturbed as long as nobody stops it and no silence lets it give up. What it shows
then is a front of the frames that it wants: all of them without a count, and with one as many as
the count says. The count is looked at behind a frame that was shown, never before one, so with a
count of nothing one frame is shown all the same.
-/

namespace FrameLink.Console

def Arrival.frame? : Arrival → Option Frame
  | .frame f => some f
  | .quiet _ _ _ | .stop => none

namespace Listening

variable {l : Listening} {peer : String} {f : Frame} {arrivals before after : List Arrival}
  {shown n : Nat}

/-- The frames among arrivals that pass the filter. -/
def wanted (l : Listening) (arrivals : List Arrival) : List Frame :=
  (arrivals.filterMap Arrival.frame?).filter l.wants

/-- What neither stops the listener nor lets it give up. -/
def Bears (l : Listening) (peer : String) : Arrival → Prop
  | .frame _ => True
  | .quiet idle connected attempts => l.giveUp? peer idle connected attempts = none
  | .stop => False

/-- So many frames are shown before the listener is done: with a count of nothing still one. -/
def enough (n : Nat) : Nat := max n 1

lemma wanted_append : l.wanted (before ++ after) = l.wanted before ++ l.wanted after := by
  simp [wanted]

lemma wanted_cons_of_wants (h : l.wants f = true) :
    l.wanted (.frame f :: arrivals) = f :: l.wanted arrivals := by
  simp [wanted, Arrival.frame?, h]

lemma wanted_cons_of_not_wants (h : l.wants f = false) :
    l.wanted (.frame f :: arrivals) = l.wanted arrivals := by
  simp [wanted, Arrival.frame?, h]

lemma wanted_cons_quiet {idle attempts : Nat} {connected : Bool} :
    l.wanted (.quiet idle connected attempts :: arrivals) = l.wanted arrivals := rfl

/-- With what it has shown before, the frames among the arrivals are not enough for the listener. -/
def Wants (l : Listening) (shown : Nat) (arrivals : List Arrival) : Prop :=
  ∀ n, l.count = some n → (l.wanted arrivals).length < enough (n - shown)

/-- What the listener bears and has not enough of is shown as far as it is wanted, and then it goes
on with what arrives behind. -/
lemma run_append (hb : ∀ a ∈ before, l.Bears peer a) (hw : l.Wants shown before)
    (after : List Arrival) :
    l.run peer shown (before ++ after) =
      (l.wanted before ++ (l.run peer (shown + (l.wanted before).length) after).1,
        (l.run peer (shown + (l.wanted before).length) after).2) := by
  induction before generalizing shown with
  | nil => rfl
  | cons a before ih =>
    obtain ⟨ha, hrest⟩ := List.forall_mem_cons.mp hb
    cases a with
    | frame f =>
      rcases Bool.eq_false_or_eq_true (l.wants f) with hf | hf
      · have hmore : l.isEnough (shown + 1) = false := by
          rw [isEnough, Option.any_eq_false]
          intro n hn
          have hlt := hw n hn
          rw [wanted_cons_of_wants hf, List.length_cons] at hlt
          simp only [enough] at hlt
          simp
          omega
        have hw' : l.Wants (shown + 1) before := by
          intro n hn
          have hlt := hw n hn
          rw [wanted_cons_of_wants hf, List.length_cons] at hlt
          simp only [enough] at hlt ⊢
          omega
        simp [run, hf, hmore, ih hrest hw', wanted_cons_of_wants hf, Nat.add_right_comm,
          ← Nat.add_assoc]
      · have hw' : l.Wants shown before := by
          intro n hn
          rw [← wanted_cons_of_not_wants hf]
          exact hw n hn
        simp [run, hf, ih hrest hw', wanted_cons_of_not_wants hf]
    | quiet idle connected attempts =>
      simp only [List.cons_append, run, show l.giveUp? peer idle connected attempts = none from ha,
        wanted_cons_quiet]
      exact ih hrest hw
    | stop => exact ha.elim

/-- The frame that makes it enough is shown, and ends it, whatever arrives behind. -/
lemma run_append_last (hb : ∀ a ∈ before, l.Bears peer a) (hcount : l.count = some n)
    (hlen : (l.wanted before).length + 1 = enough (n - shown)) (hf : l.wants f = true)
    (after : List Arrival) :
    l.run peer shown (before ++ .frame f :: after) = (l.wanted before ++ [f], .done) := by
  have hw : l.Wants shown before := by
    intro m hm
    obtain rfl : n = m := Option.some.inj (hcount.symm.trans hm)
    omega
  have henough : l.isEnough (shown + (l.wanted before).length + 1) = true := by
    simp only [enough] at hlen
    simp only [isEnough, hcount, Option.any_some, decide_eq_true_eq]
    omega
  rw [run_append hb hw]
  simp [run, hf, henough]

/-- Where the wanted frame of some number is, and that it comes behind those before it. -/
lemma exists_split (h : n < (l.wanted arrivals).length) : ∃ before f after,
    arrivals = before ++ .frame f :: after ∧ l.wants f = true ∧ (l.wanted before).length = n := by
  induction arrivals generalizing n with
  | nil => exact absurd h (Nat.not_lt_zero n)
  | cons a arrivals ih =>
    have hskip (ha : l.wanted [a] = []) : ∃ before f after,
        a :: arrivals = before ++ .frame f :: after ∧ l.wants f = true ∧
          (l.wanted before).length = n := by
      rw [← List.singleton_append, wanted_append, ha, List.nil_append] at h
      obtain ⟨before, f, after, rfl, hf, hn⟩ := ih h
      refine ⟨a :: before, f, after, rfl, hf, ?_⟩
      rw [← List.singleton_append, wanted_append, ha, List.nil_append, hn]
    cases a with
    | quiet _ _ _ | stop => exact hskip rfl
    | frame f =>
      rcases Bool.eq_false_or_eq_true (l.wants f) with hf | hf
      · rcases n with _ | n
        · exact ⟨[], f, arrivals, rfl, hf, rfl⟩
        · rw [wanted_cons_of_wants hf, List.length_cons] at h
          obtain ⟨before, g, after, rfl, hg, hn⟩ := ih (Nat.lt_of_succ_lt_succ h)
          refine ⟨.frame f :: before, g, after, rfl, hg, ?_⟩
          rw [wanted_cons_of_wants hf, List.length_cons, hn]
      · exact hskip (wanted_cons_of_not_wants hf)

/-- Undisturbed, a listener shows the wanted frames up to the one that makes it enough. -/
lemma run_of_count (hb : ∀ a ∈ arrivals, l.Bears peer a) (hcount : l.count = some n) :
    l.run peer shown arrivals = ((l.wanted arrivals).take (enough (n - shown)),
      if enough (n - shown) ≤ (l.wanted arrivals).length then .done else .goesOn) := by
  by_cases hle : enough (n - shown) ≤ (l.wanted arrivals).length
  · have hpos : 0 < enough (n - shown) := Nat.le_max_right _ _
    obtain ⟨before, f, after, rfl, hf, hlen⟩ :=
      exists_split (n := enough (n - shown) - 1) (Nat.lt_of_lt_of_le (by omega) hle)
    have hlast : (l.wanted before).length + 1 = enough (n - shown) := by omega
    have hsplit : l.wanted (before ++ .frame f :: after) =
        l.wanted before ++ [f] ++ l.wanted after := by
      rw [wanted_append, wanted_cons_of_wants hf, List.append_assoc, List.singleton_append]
    rw [if_pos hle, run_append_last (fun a ha => hb a (List.mem_append_left _ ha)) hcount hlast hf,
      hsplit, List.take_left' (by simp [hlast])]
  · have hw : l.Wants shown arrivals := by
      intro m hm
      obtain rfl : n = m := Option.some.inj (hcount.symm.trans hm)
      omega
    have hrun := run_append hb hw []
    rw [List.append_nil] at hrun
    rw [if_neg hle, List.take_of_length_le (by omega)]
    simp [hrun, run]

/-- **A listener shows the first of the frames that it wants.** As long as nothing disturbs it:
without a count it shows all of them and goes on. With a count of one or more it shows exactly so
many, the first ones in their order, and is done exactly if there were so many; with a count of
nothing it shows the first one all the same. As soon as the last of them is there it is done,
whatever arrives behind. -/
theorem shows_first_wanted (l : Listening) (peer : String) (arrivals : List Arrival)
    (hb : ∀ a ∈ arrivals, l.Bears peer a) :
    (l.count = none → l.run peer 0 arrivals = (l.wanted arrivals, .goesOn)) ∧
    (∀ n, l.count = some n → 0 < n →
      l.run peer 0 arrivals = ((l.wanted arrivals).take n,
        if n ≤ (l.wanted arrivals).length then .done else .goesOn)) ∧
    (l.count = some 0 →
      l.run peer 0 arrivals = ((l.wanted arrivals).take 1,
        if 1 ≤ (l.wanted arrivals).length then .done else .goesOn)) ∧
    ∀ n f, l.count = some n → l.wants f = true → (l.wanted arrivals).length + 1 = enough n →
      ∀ later,
        l.run peer 0 (arrivals ++ .frame f :: later) = (l.wanted arrivals ++ [f], .done) := by
  refine ⟨?all, ?some, ?nothing, ?last⟩
  case all =>
    intro hcount
    have hw : l.Wants 0 arrivals := by
      intro n hn
      rw [hcount] at hn
      cases hn
    have hrun := run_append hb hw []
    rw [List.append_nil] at hrun
    simp [hrun, run]
  case some =>
    intro n hcount hn
    have hone : enough (n - 0) = n := Nat.max_eq_left hn
    rw [run_of_count hb hcount, hone]
  case nothing =>
    intro hcount
    exact run_of_count hb hcount
  case last =>
    intro n f hcount hf hlen later
    have hlast : (l.wanted arrivals).length + 1 = enough (n - 0) := hlen
    exact run_append_last hb hcount hlast hf later

/-- A request to shut down is wanted twice; what is not wanted and a short silence are between. -/
theorem shows_first_wanted_shut_down :
    let l : Listening := { count := some 2, kinds := some [Kind.shutDown], maxReconnects := some 0 }
    let shutDown := Frame.empty Kind.shutDown
    let arrivals : List Arrival :=
      [.frame shutDown, .frame (Frame.empty Kind.storeTrim), .quiet 100 true 0]
    (∀ a ∈ arrivals, l.Bears "peer" a) ∧ l.run "peer" 0 arrivals = ([shutDown], .goesOn) ∧
      l.run "peer" 0 (arrivals ++ .frame shutDown :: [.frame shutDown, .stop]) =
        ([shutDown, shutDown], .done) := by
  intro l shutDown arrivals
  have hb : ∀ a ∈ arrivals, l.Bears "peer" a := by
    simp only [arrivals, List.forall_mem_cons]
    exact ⟨trivial, trivial, rfl, by simp⟩
  obtain ⟨-, hsome, -, hlast⟩ := shows_first_wanted l "peer" arrivals hb
  exact ⟨hb, hsome 2 rfl (by decide), hlast 2 shutDown rfl rfl rfl _⟩

/-- With a count of nothing a frame is shown, not none. -/
theorem one_shown_of_count_zero : ¬ ∀ (l : Listening) (peer : String) (arrivals : List Arrival),
    (∀ a ∈ arrivals, l.Bears peer a) → ∀ n, l.count = some n →
      (l.run peer 0 arrivals).1 = (l.wanted arrivals).take n := by
  intro h
  have hnone := h { count := some 0 } "peer" [.frame (Frame.empty Kind.shutDown)] (by simp [Bears])
    0 rfl
  exact absurd hnone (by decide)

end Listening

end FrameLink.Console
