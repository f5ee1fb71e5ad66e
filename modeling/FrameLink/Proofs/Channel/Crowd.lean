import FrameLink.Proofs.Channel.Forgotten

/-!
All receive threads of a channel at once.

A channel has one receive thread after another, and a thread that is started may find an earlier one not
yet gone. Nothing but the mark behind the link lock stands between the two: that it is enough, and when a
link is forgotten all the same, is what is shown here.
-/

namespace FrameLink

namespace Traffic

variable {t u : Traffic}

/-- What a thread that is not the last one sees. -/
def seenBy (t : Traffic) (x : Worker) : Traffic :=
  { t with duty := x.duty, channel := { t.channel with receiver := x.receiver } }

/-- A section of the receive thread, or of a call that a handler or a relay makes on it. -/
inductive Works (v : Traffic) : Traffic → Prop where
  | begins {call : Call} {next : Next} {c : Channel} (here : v.point .thread = some .free)
      (begins : v.Begins call next c) : Works v (v.after .thread next { v.toShared with channel := c })
  | acts {p : Point} {next : Next} {s : Shared} (here : v.point .thread = some p)
      (acts : v.Acts .thread p next s) : Works v (v.after .thread next s)
  | turns {d' : Duty} {c : Channel} (turns : v.Turns v.duty d' c) : Works v (v.turned d' c)

/-- A thread that is gone, or that was never started, has nothing to do. -/
lemma not_works_spent : ¬ (t.seenBy {}).Works u := fun h => by
  cases h with
  | begins here | acts here => exact absurd here (by simp [seenBy, point, Duty.point?])
  | turns turns => exact turns.there (fun _ => rfl) rfl

end Traffic

/-- A channel with all its receive threads. The one that was started last is where the traffic has it, and
each one before that is where it has got to. -/
structure Crowd where
  traffic : Traffic
  earlier : List Worker := []

namespace Crowd

def workers (x : Crowd) : List Worker := x.earlier ++ [x.traffic.worker]

/-- One step of anyone. A thread that is started leaves the ones before it where they are, and they go on
as they would have. They do not even wait for each other's locks, so that more can happen than does. -/
inductive Step : Crowd → Crowd → Prop where
  | goes {t u earlier} (step : t.Step (fun _ => True) u) (same : u.threads = t.threads) :
      Step ⟨t, earlier⟩ ⟨u, earlier⟩
  | starts {t u earlier} (step : t.Step (fun _ => True) u) (more : u.threads ≠ t.threads) :
      Step ⟨t, earlier⟩ ⟨{ u with duty := .idle }, earlier ++ [⟨u.duty, t.channel.receiver⟩]⟩
  | lags {t u : Traffic} {x before behind} (works : (t.seenBy x).Works u)
      (same : u.threads = t.threads) :
      Step ⟨t, before ++ x :: behind⟩ ⟨u.seenBy t.worker, before ++ u.worker :: behind⟩
  | lagsStarting {t u : Traffic} {x before behind} (works : (t.seenBy x).Works u)
      (more : u.threads ≠ t.threads) : Step ⟨t, before ++ x :: behind⟩
        ⟨{ u with duty := .idle }, before ++ ⟨u.duty, x.receiver⟩ :: behind ++ [t.worker]⟩

/-- All threads but the last one are gone. -/
structure Ordered (x : Crowd) : Prop where
  manned : x.traffic.Manned
  gone : ∀ w ∈ x.earlier, w = {}

variable {x y : Crowd} {t u : Traffic}

lemma Ordered.step (h : x.Ordered) (hs : x.Step y) :
    y.Ordered ∧ x.traffic.Step (fun _ => True) y.traffic := by
  cases hs with
  | goes step => exact ⟨⟨h.manned.step step, h.gone⟩, step⟩
  | @starts t u earlier step more =>
    obtain ⟨hended, hidle⟩ := h.manned.starts_idle step more
    have hsame : { u with duty := .idle } = u := by rw [← hidle]
    rw [hsame]
    refine ⟨⟨h.manned.step step, List.forall_mem_append.mpr ⟨h.gone, ?_⟩⟩, step⟩
    rw [hidle, show t.channel.receiver = .ended from hended]
    exact List.forall_mem_singleton.mpr rfl
  | @lags t u w _ _ works | @lagsStarting t u w _ _ works =>
    obtain rfl := h.gone w (by simp)
    exact absurd works Traffic.not_works_spent

/-- What the traffic can do, the crowd can. -/
lemma Ordered.exists_step (h : x.Ordered) (hs : x.traffic.Step (fun _ => True) u) :
    ∃ later, x.Step ⟨u, later⟩ := by
  obtain ⟨t, earlier⟩ := x
  by_cases hmore : u.threads = t.threads
  · exact ⟨earlier, .goes hs hmore⟩
  · obtain ⟨-, hidle⟩ := h.manned.starts_idle hs hmore
    have hstep : Step ⟨t, earlier⟩ ⟨{ u with duty := .idle }, _⟩ := .starts hs hmore
    have hsame : { u with duty := .idle } = u := by rw [← hidle]
    rw [hsame] at hstep
    exact ⟨_, hstep⟩

/-- The threads at work are counted by whether the last one is. -/
lemma Ordered.countP_isOn (h : x.Ordered) :
    x.workers.countP Worker.isOn = x.traffic.worker.isOn.toNat := by
  have hgone : x.earlier.countP Worker.isOn = 0 :=
    List.countP_eq_zero.mpr fun w hw => by simp [h.gone w hw, Worker.isOn]
  rw [workers, List.countP_append, hgone, Nat.zero_add]
  cases hon : x.traffic.worker.isOn <;> simp [hon]

/-! ### Runs -/

/-- A run of so many steps; what follows behind them does not matter. -/
def Path (p : Nat → Crowd) (k : Nat) : Prop := ∀ i < k, (p i).Step (p (i + 1))

variable {p : Nat → Crowd} {k : Nat}

lemma Path.ordered (h : Path p k) (h0 : (p 0).Ordered) : ∀ m ≤ k, (p m).Ordered := by
  intro m hm
  induction m with
  | zero => exact h0
  | succ m ih => exact ((ih (by omega)).step (h m hm)).1

/-- What is left of a run when only the last thread is looked at is a run. -/
lemma Path.traffic (h : Path p k) (h0 : (p 0).Ordered) : Traffic.Path (fun m => (p m).traffic) k :=
  fun m hm => ((h.ordered h0 m (Nat.le_of_lt hm)).step (h m hm)).2

lemma ordered_start (config : ChannelConfig) (name : String)
    (connects : List (Except TransportError Unit)) (writes : List (Except IoError Nat))
    (flushes : List (Except IoError Unit)) (spawns : List (Except IoError Unit))
    (leaves : Source → Source) :
    Ordered ⟨Traffic.start config name connects writes flushes spawns leaves, []⟩ :=
  ⟨Traffic.manned_start .., by simp⟩

/-- What the traffic can do in a run, the crowd can. -/
lemma exists_path {q : Nat → Traffic} (h0 : Ordered ⟨q 0, []⟩) (path : Traffic.Path q k) :
    ∃ earlier : Nat → List Worker, earlier 0 = [] ∧ Path (fun m => ⟨q m, earlier m⟩) k := by
  induction k with
  | zero => exact ⟨fun _ => [], rfl, fun i hi => absurd hi (Nat.not_lt_zero i)⟩
  | succ k ih =>
    obtain ⟨earlier, hnone, hpath⟩ := ih fun i hi => path i (Nat.lt_succ_of_lt hi)
    have hordered : Ordered ⟨q k, earlier k⟩ := hpath.ordered (hnone ▸ h0) k (Nat.le_refl k)
    obtain ⟨later, hstep⟩ := hordered.exists_step (path k (Nat.lt_succ_self k))
    refine ⟨fun m => if m ≤ k then earlier m else later, by simpa using hnone, fun i hi => ?_⟩
    rcases Nat.lt_or_eq_of_le (Nat.le_of_lt_succ hi) with hlt | rfl
    · simpa [Nat.le_of_lt hlt, Nat.succ_le_of_lt hlt] using hpath i hlt
    · simpa [Nat.not_succ_le_self] using hstep

/-- **At most one thread receives, and a link is forgotten only over a crossing.** Take any run of any
number of parties that connect, disconnect, terminate and send, with all receive threads that are
started. Whatever the transport does, at every point of it at most one thread has been started and has
not taken back the mark that it is there; the mark is up exactly when there is one; and a link waits
only while the mark is up. Of every connect that has come back well by then, the link that it has opened
was given to a thread that the connect has started, or waits, or was taken up by the thread that there
was; unless it was closed later on by a connect, by a disconnect or by the unwinding of the thread, or a
call that terminates or whose write has failed has set the halt since the connect had cleared it, or
such a call has set the halt before that and has closed the link after the connect came back. -/
theorem one_receiver (config : ChannelConfig) (name : String)
    (connects : List (Except TransportError Unit)) (writes : List (Except IoError Nat))
    (flushes : List (Except IoError Unit)) (spawns : List (Except IoError Unit))
    (leaves : Source → Source) (p : Nat → Crowd) (k : Nat)
    (begin : p 0 = ⟨Traffic.start config name connects writes flushes spawns leaves, []⟩)
    (path : Path p k) :
    (p k).workers.countP Worker.isOn ≤ 1 ∧
      ((p k).traffic.channel.receiving = true ↔ (p k).workers.countP Worker.isOn = 1) ∧
      ((p k).traffic.channel.pending ≠ none → (p k).traffic.channel.receiving = true) ∧
      ∀ who j, j < k →
        (p (j + 1)).traffic.made who = (p j).traffic.made who ++ [(.connect, .done)] →
        ∃ n i, i < j ∧ Traffic.Connected (fun m => (p m).traffic) who n i j ∧
          ((p k).traffic.channel.pending = some n ∨
            Traffic.Settled (fun m => (p m).traffic) who n i j k ∨
            Traffic.Crossed (fun m => (p m).traffic) n i j k) := by
  have h0 : (p 0).Ordered := begin ▸ ordered_start ..
  have hordered := path.ordered h0
  have htraffic := path.traffic h0
  have hmanned := (hordered k (Nat.le_refl k)).manned
  refine ⟨?_, ?_, hmanned.pending, fun who j hjk made => ?_⟩
  · rw [(hordered k (Nat.le_refl k)).countP_isOn]
    exact Bool.toNat_le _
  · rw [(hordered k (Nat.le_refl k)).countP_isOn, hmanned.on]
    cases (p k).traffic.worker.isOn <;> simp
  · have hfree : (p 0).traffic.Everyone fun _ q => q = .free :=
      begin ▸ Traffic.start_free _ _ _ _ _ _ _
    have hranged : (p 0).traffic.Ranged := begin ▸ (Traffic.inked_start ..).ranged
    exact htraffic.connected (fun m hm => (hordered m hm).manned) (htraffic.ranged hranged) hfree hjk
      made

/-- The run in which a send that has set the halt closes the link of a later connect. -/
lemma exists_forgets : ∃ (p : Nat → Crowd) (i j k : Nat),
    p 0 = ⟨Traffic.start {} "far" [] [.error ⟨.brokenPipe, "broken pipe"⟩] [] [], []⟩ ∧ Path p k ∧
      Traffic.Forgets (fun m => (p m).traffic) (.caller 2) i j k := by
  obtain ⟨q, i, j, k, h0, hpath, hforgets⟩ :=
    Traffic.exists_forgets ⟨.brokenPipe, "broken pipe"⟩ (by decide)
  obtain ⟨earlier, hnone, hcrowd⟩ := exists_path (h0 ▸ ordered_start ..) hpath
  exact ⟨_, i, j, k, by rw [h0, hnone], hcrowd, hforgets⟩

/-- A link that is forgotten was closed over a crossing. -/
theorem one_receiver_crossed : ∃ (p : Nat → Crowd) (i j k : Nat),
    p 0 = ⟨Traffic.start {} "far" [] [.error ⟨.brokenPipe, "broken pipe"⟩] [] [], []⟩ ∧ Path p k ∧
      (p k).workers.countP Worker.isOn ≤ 1 ∧ (p k).traffic.channel.pending = none ∧
      ∃ n, Traffic.Connected (fun m => (p m).traffic) (.caller 2) n i j ∧
        Traffic.Crossed (fun m => (p m).traffic) n i j k := by
  obtain ⟨p, i, j, k, h0, hpath, hforgets⟩ := exists_forgets
  obtain ⟨hcount, -, -, hconnects⟩ := one_receiver {} "far" [] _ [] [] _ p k h0 hpath
  obtain ⟨n, m, hmj, hconnected, hlink⟩ := hconnects (.caller 2) j hforgets.late hforgets.made
  obtain rfl := hforgets.eq hmj hconnected.toDials
  refine ⟨p, m, j, k, h0, hpath, hcount, hforgets.gone, n, hconnected, ?_⟩
  rcases hlink with hwaits | hsettled | hcrossed
  · exact absurd (hforgets.gone.symm.trans hwaits) (by simp)
  · exact absurd hsettled hforgets.not_settled
  · exact hcrossed

/-- Over a crossing the link of a connect that has come back well is lost: it was not given to a thread,
it does not wait, it was not taken up, no connect, disconnect or unwinding has closed it, and the halt
was not set since the connect had cleared it. -/
theorem link_forgotten :
    ¬ ∀ (config : ChannelConfig) (name : String) (connects : List (Except TransportError Unit))
      (writes : List (Except IoError Nat)) (flushes spawns : List (Except IoError Unit))
      (leaves : Source → Source) (p : Nat → Crowd) (k : Nat),
      p 0 = ⟨Traffic.start config name connects writes flushes spawns leaves, []⟩ → Path p k →
      (p k).traffic.LinkFree → ∀ who j, j < k →
        (p (j + 1)).traffic.made who = (p j).traffic.made who ++ [(.connect, .done)] →
        ∃ n i, i < j ∧ Traffic.Connected (fun m => (p m).traffic) who n i j ∧
          ((p k).traffic.channel.pending = some n ∨
            Traffic.Settled (fun m => (p m).traffic) who n i j k) := by
  intro hkeeps
  obtain ⟨p, i, j, k, h0, hpath, hforgets⟩ := exists_forgets
  obtain ⟨n, m, hmj, hconnected, hlink⟩ := hkeeps {} "far" [] _ [] [] _ p k h0 hpath hforgets.free
    (.caller 2) j hforgets.late hforgets.made
  obtain rfl := hforgets.eq hmj hconnected.toDials
  rcases hlink with hwaits | hsettled
  · exact absurd (hforgets.gone.symm.trans hwaits) (by simp)
  · exact hforgets.not_settled hsettled

end Crowd

end FrameLink
