import FrameLink.Proofs.Channel.Counters
import FrameLink.Proofs.Channel.Scanned

/-!
What becomes of the frames that come in.

A frame is routed once, by the registry as it stands at that point, and ends in one of seven ways: six
of them have a counter, and the seventh, a relay that panics, ends the thread. A run is accompanied by
the list of its charges, one for each frame that is done with; no section of a run touches the counters
in any other way.
-/

namespace FrameLink

/-- What becomes of a frame that has come in. -/
inductive Fate where
  /-- Its handler returns. -/
  | returned
  | panicked
  /-- Its handler takes records, and the frame does not decode as one. -/
  | undecoded
  | relayed
  | refused
  /-- The relay panics over it. -/
  | unwound
  | dropped
  deriving DecidableEq

/-- What can become of a frame on a route; a handler runs only on what it can decode. -/
inductive Route.Leads (f : Frame) : Route → Fate → Prop where
  | undecoded {h : Handler} {e} (answer : h.answer f = .error e) : Leads f (.handler h) .undecoded
  | returned {h : Handler} {script} (answer : h.answer f = .ok script) :
      Leads f (.handler h) .returned
  | panicked {h : Handler} {script} (answer : h.answer f = .ok script) :
      Leads f (.handler h) .panicked
  | relayed (r : Relay) : Leads f (.relay r) .relayed
  | refused (r : Relay) : Leads f (.relay r) .refused
  | unwound (r : Relay) : Leads f (.relay r) .unwound
  | dropped : Leads f .drop .dropped

/-- The counters that the frames which come in are charged to. -/
structure Receipts where
  received : Nat
  dispatched : Nat
  decodeFailures : Nat
  handlerPanics : Nat
  relayed : Nat
  relayFailures : Nat
  dropped : Nat

namespace Receipts

def charge (r : Receipts) : Fate → Receipts
  | .returned => { r with dispatched := r.dispatched + 1 }
  | .panicked => { r with handlerPanics := r.handlerPanics + 1 }
  | .undecoded => { r with decodeFailures := r.decodeFailures + 1 }
  | .relayed => { r with relayed := r.relayed + 1 }
  | .refused => { r with relayFailures := r.relayFailures + 1 }
  | .unwound => r
  | .dropped => { r with dropped := r.dropped + 1 }

/-- What the counters ought to be after so many frames, of which some are done with. -/
def of (received : Nat) (fates : List Fate) : Receipts where
  received := received
  dispatched := fates.count .returned
  decodeFailures := fates.count .undecoded
  handlerPanics := fates.count .panicked
  relayed := fates.count .relayed
  relayFailures := fates.count .refused
  dropped := fates.count .dropped

lemma of_concat (n : Nat) (fates : List Fate) (x : Fate) :
    of n (fates ++ [x]) = (of n fates).charge x := by
  cases x <;> simp [of, charge, List.count_append]

end Receipts

def Counters.receipts (k : Counters) : Receipts where
  received := k.framesReceived
  dispatched := k.dispatched
  decodeFailures := k.decodeFailures
  handlerPanics := k.handlerPanics
  relayed := k.relayed
  relayFailures := k.relayFailures
  dropped := k.dropped

/-! ### The counters of the sections -/

namespace Channel

def receipts (c : Channel) : Receipts := c.counters.receipts

variable {c c' : Channel}

/-- Who counts nothing but frames that are sent charges no frame that has come in. -/
lemma Sends.receipts (h : c.Sends c') : c'.receipts = c.receipts := by
  rw [Channel.receipts, h]
  rfl

end Channel

/-! ### One step -/

/-- The thread has a frame in hand. -/
def Stage.bears : Stage → Bool
  | .passing _ | .handling | .relaying _ => true
  | _ => false

/-- The relay has panicked over a frame of the link. -/
def Reading.isUnwound (x : Reading) : Bool :=
  match x.ending with
  | some (.abandoned _) => true
  | _ => false

namespace Session

variable {s t : Session} {c : Channel} {f : Frame}

/-- The frames that are done with. -/
def settled (s : Session) : List Frame :=
  if s.stage.bears then s.delivered.dropLast else s.delivered

/-- How often a relay has panicked. -/
def unwound (s : Session) : Nat := s.readings.countP (·.isUnwound)

/-- The frame in hand is routed by the registry as it stands. -/
def routing (s : Session) (f : Frame) : Session :=
  { s with channel := (s.channel.passOn f).2, stage := (s.channel.passOn f).1 }

/-- What a step does about the frame in hand. -/
inductive Handles (s t : Session) : Prop where
  | nothing (stage : t.stage = s.stage ∨ s.stage.bears = false ∧ t.stage.bears = false)
      (delivered : t.delivered = s.delivered) (receipts : t.channel.receipts = s.channel.receipts)
      (unwound : t.unwound = s.unwound)
  | takes (f : Frame) (before : s.stage.bears = false) (after : t.stage = .passing f)
      (delivered : t.delivered = s.delivered ++ [f])
      (receipts : t.channel.receipts =
        { s.channel.receipts with received := s.channel.receipts.received + 1 })
      (unwound : t.unwound = s.unwound)
  | routes (f : Frame) (before : s.stage = .passing f) (after : t = s.routing f)
  | settles (fate : Fate)
      (before : s.stage = .handling ∧ (fate = .returned ∨ fate = .panicked) ∨
        ∃ f, s.stage = .relaying f ∧ (fate = .relayed ∨ fate = .refused ∨ fate = .unwound))
      (after : t.stage.bears = false) (delivered : t.delivered = s.delivered)
      (receipts : t.channel.receipts = s.channel.receipts.charge fate)
      (unwound : t.unwound = s.unwound + [fate].count .unwound)

lemma routing_cases (s : Session) (f : Frame) :
    (∃ h script, s.channel.registry.route f.kind = .handler h ∧ h.answer f = .ok script ∧
      s.routing f = { s with stage := .handling }) ∨
    (∃ r, s.channel.registry.route f.kind = .relay r ∧
      s.routing f = { s with stage := .relaying f }) ∨
    ∃ fate c, (s.channel.registry.route f.kind).Leads f fate ∧ fate ≠ .unwound ∧
      c.receipts = s.channel.receipts.charge fate ∧
      s.routing f = { s with channel := c, stage := .idle } := by
  unfold routing Channel.passOn
  cases s.channel.registry.route f.kind with
  | handler h =>
    cases ha : h.answer f with
    | ok script => exact Or.inl ⟨h, script, rfl, ha, by simp only [ha]⟩
    | error e =>
      let c := s.channel.count fun k => { k with decodeFailures := k.decodeFailures + 1 }
      exact Or.inr (Or.inr ⟨.undecoded, c, .undecoded ha, by simp, rfl, by simp only [ha]; rfl⟩)
  | relay r => exact Or.inr (Or.inl ⟨r, rfl, rfl⟩)
  | drop => exact Or.inr (Or.inr ⟨.dropped, _, .dropped, by simp, rfl, rfl⟩)

end Session

/-- The account of one frame. -/
structure Charge where
  frame : Frame
  /-- The point of the run at which the frame was routed. -/
  point : Nat
  fate : Fate

/-- The charge is that of the frame which came in after so many others: what becomes of it is what the
registry leads to that the channel has when it is routed. -/
structure Charge.Made (x : Charge) (p : Nat → Session) (i : Nat) : Prop where
  noted : (p x.point).stage = .passing x.frame
  place : (p x.point).delivered.length = i + 1
  routed : p (x.point + 1) = (p x.point).routing x.frame
  leads : ((p x.point).channel.registry.route x.frame.kind).Leads x.frame x.fate

namespace Session

/-- The frames that are done with are charged, each to one counter. -/
structure Charged (s : Session) (charges : List Charge) : Prop where
  frames : charges.map (·.frame) = s.settled
  receipts : s.channel.counters.receipts = .of s.delivered.length (charges.map (·.fate))
  unwound : s.unwound = (charges.map (·.fate)).count .unwound

/-- The frame in hand at a point of a run was routed at an earlier one. -/
structure RoutedAt (p : Nat → Session) (k j : Nat) (f : Frame) : Prop where
  lt : j < k
  noted : (p j).stage = .passing f
  delivered : (p j).delivered = (p k).delivered
  last : (p k).delivered.getLast? = some f
  routed : p (j + 1) = (p j).routing f

/-- What can be said of the frame in hand, by where the thread is. -/
def InHand (p : Nat → Session) (k : Nat) : Prop :=
  match (p k).stage with
  | .passing f => (p k).delivered.getLast? = some f
  | .handling => ∃ j f h script, RoutedAt p k j f ∧
      (p j).channel.registry.route f.kind = .handler h ∧ h.answer f = .ok script
  | .relaying f => ∃ j r, RoutedAt p k j f ∧ (p j).channel.registry.route f.kind = .relay r
  | _ => True

/-- The books of a run up to one of its points. -/
structure Books (p : Nat → Session) (k : Nat) (charges : List Charge) : Prop where
  made : ∀ (i : Nat) (x : Charge), charges[i]? = some x → x.point < k ∧ x.Made p i
  inHand : InHand p k
  charged : (p k).Charged charges

variable {s : Session} {f : Frame} {p : Nat → Session} {k j : Nat} {charges : List Charge} {fate : Fate}

lemma Charged.length (h : s.Charged charges) : charges.length = s.settled.length := by
  rw [← h.frames, List.length_map]

lemma RoutedAt.succ (h : RoutedAt p k j f) (hd : (p (k + 1)).delivered = (p k).delivered) :
    RoutedAt p (k + 1) j f where
  lt := Nat.lt_succ_of_lt h.lt
  noted := h.noted
  delivered := h.delivered.trans hd.symm
  last := hd ▸ h.last
  routed := h.routed

lemma InHand.succ (h : InHand p k) (hst : (p (k + 1)).stage = (p k).stage)
    (hd : (p (k + 1)).delivered = (p k).delivered) : InHand p (k + 1) := by
  unfold InHand at h ⊢
  rw [hst]
  split at h
  · exact hd ▸ h
  · obtain ⟨j, f, h', script, hr, hrest⟩ := h
    exact ⟨j, f, h', script, hr.succ hd, hrest⟩
  · obtain ⟨j, r, hr, hroute⟩ := h
    exact ⟨j, r, hr.succ hd, hroute⟩
  · trivial

lemma InHand.of_not_bears (h : (p k).stage.bears = false) : InHand p k := by
  unfold InHand
  cases hst : (p k).stage with
  | passing f | handling | relaying f => simp [hst, Stage.bears] at h
  | idle | failed | lost | attempting n | leaving => trivial

/-- Where nothing becomes of a frame, the books stay as they are. -/
lemma Books.keep (h : Books p k charges) (hin : InHand p (k + 1))
    (hset : (p (k + 1)).settled = (p k).settled)
    (hr : (p (k + 1)).channel.receipts =
      { (p k).channel.receipts with received := (p (k + 1)).delivered.length })
    (hu : (p (k + 1)).unwound = (p k).unwound) : Books p (k + 1) charges where
  made i x hx := ⟨Nat.lt_succ_of_lt (h.made i x hx).1, (h.made i x hx).2⟩
  inHand := hin
  charged := by
    have hreceipts : (p k).channel.receipts = _ := h.charged.receipts
    refine ⟨h.charged.frames.trans hset.symm, ?_, hu.trans h.charged.unwound⟩
    exact hr.trans (by rw [hreceipts]; rfl)

/-- A frame that is done with is charged. -/
lemma Books.settle (h : Books p k charges) (hj : j ≤ k) (hnoted : (p j).stage = .passing f)
    (hdelivered : (p j).delivered = (p k).delivered) (hlast : (p k).delivered.getLast? = some f)
    (hrouted : p (j + 1) = (p j).routing f)
    (hleads : ((p j).channel.registry.route f.kind).Leads f fate)
    (hbefore : (p k).stage.bears = true) (hafter : (p (k + 1)).stage.bears = false)
    (hd : (p (k + 1)).delivered = (p k).delivered)
    (hr : (p (k + 1)).channel.receipts = (p k).channel.receipts.charge fate)
    (hu : (p (k + 1)).unwound = (p k).unwound + [fate].count .unwound) :
    Books p (k + 1) (charges ++ [⟨f, j, fate⟩]) where
  made i x hx := by
    rw [List.getElem?_append] at hx
    split at hx
    · exact ⟨Nat.lt_succ_of_lt (h.made i x hx).1, (h.made i x hx).2⟩
    · next hi =>
      obtain ⟨hi', rfl⟩ : i = charges.length ∧ (⟨f, j, fate⟩ : Charge) = x := by
        obtain ⟨hlt, hx⟩ := List.getElem?_eq_some_iff.mp hx
        simp only [List.length_singleton] at hlt
        exact ⟨by omega, by simpa using hx⟩
      refine ⟨Nat.lt_succ_of_le hj, hnoted, ?_, hrouted, hleads⟩
      have hlength := h.charged.length
      have hpos := List.length_pos_of_mem (List.mem_of_getLast? hlast)
      simp only [settled, hbefore, if_true, List.length_dropLast] at hlength
      rw [hdelivered, hi', hlength]
      omega
  inHand := .of_not_bears hafter
  charged := by
    have hframes := h.charged.frames
    have hreceipts : (p k).channel.receipts = _ := h.charged.receipts
    simp only [settled, hbefore, if_true] at hframes
    refine ⟨?_, ?_, ?_⟩
    · simp only [List.map_append, List.map_singleton, hframes, settled, hafter, hd]
      exact List.dropLast_append_getLast? f hlast
    · rw [List.map_append, hd]
      exact hr.trans (by rw [hreceipts]; exact (Receipts.of_concat _ _ _).symm)
    · rw [hu, h.charged.unwound, List.map_append, List.count_append]
      rfl

lemma Books.received (h : Books p k charges) :
    (p k).channel.receipts.received = (p k).delivered.length :=
  congrArg Receipts.received h.charged.receipts

/-- The frame in hand is passed on, and stays in hand. -/
lemma Books.hold {stage : Stage} (h : Books p k charges) (hbefore : (p k).stage.bears = true)
    (hafter : stage.bears = true) (hto : p (k + 1) = { p k with stage })
    (hin : InHand p (k + 1)) : Books p (k + 1) charges := by
  refine h.keep hin ?_ ?_ (by rw [hto]; rfl)
  · simp only [hto, settled, hbefore, hafter]
  · rw [hto, ← h.received]

/-- The frame in hand is routed, and charged at once if it goes to no handler and no relay. -/
lemma Books.routes (h : Books p k charges) (hnoted : (p k).stage = .passing f)
    (hrouted : p (k + 1) = (p k).routing f) : ∃ more, Books p (k + 1) (charges ++ more) := by
  have hlast : (p k).delivered.getLast? = some f := by simpa only [InHand, hnoted] using h.inHand
  have hbears : (p k).stage.bears = true := by rw [hnoted]; rfl
  have hdelivered : (p (k + 1)).delivered = (p k).delivered := by rw [hrouted]; rfl
  have hat : RoutedAt p (k + 1) k f :=
    ⟨Nat.lt_succ_self k, hnoted, hdelivered.symm, hdelivered ▸ hlast, hrouted⟩
  have hcases := routing_cases (p k) f
  rw [← hrouted] at hcases
  rcases hcases with ⟨h', script, hroute, hanswer, hto⟩ | ⟨r, hroute, hto⟩ |
    ⟨fate, c, hleads, hne, hc, hto⟩
  · refine ⟨[], ?_⟩
    rw [List.append_nil]
    refine h.hold hbears rfl hto ?_
    have hst : (p (k + 1)).stage = .handling := by rw [hto]
    simp only [InHand, hst]
    exact ⟨k, f, h', script, hat, hroute, hanswer⟩
  · refine ⟨[], ?_⟩
    rw [List.append_nil]
    refine h.hold hbears rfl hto ?_
    have hst : (p (k + 1)).stage = .relaying f := by rw [hto]
    simp only [InHand, hst]
    exact ⟨k, r, hat, hroute⟩
  · refine ⟨_, h.settle (Nat.le_refl k) hnoted rfl hlast hrouted hleads hbears (by rw [hto]; rfl)
      hdelivered (by rw [hto]; exact hc) ?_⟩
    rw [hto, List.count_singleton, if_neg (by simpa using hne)]
    rfl

/-- **One step charges at most one frame**, and what was charged before stays as it is. -/
lemma Books.step (h : Books p k charges) (hh : Handles (p k) (p (k + 1))) :
    ∃ more, Books p (k + 1) (charges ++ more) := by
  have hin := h.inHand
  cases hh with
  | nothing stage delivered receipts unwound =>
    refine ⟨[], ?_⟩
    rw [List.append_nil]
    have hr : (p (k + 1)).channel.receipts =
        { (p k).channel.receipts with received := (p (k + 1)).delivered.length } := by
      rw [receipts, delivered, ← h.received]
    rcases stage with hst | ⟨hbefore, hafter⟩
    · exact h.keep (hin.succ hst delivered) (by simp only [settled, hst, delivered]) hr unwound
    · exact h.keep (.of_not_bears hafter) (by simp only [settled, hbefore, hafter, delivered]) hr
        unwound
  | takes f before after delivered receipts unwound =>
    refine ⟨[], ?_⟩
    rw [List.append_nil]
    refine h.keep ?_ ?_ ?_ unwound
    · simp only [InHand, after, delivered, List.getLast?_concat]
    · have hafter : (p (k + 1)).stage.bears = true := by rw [after]; rfl
      simp [settled, before, hafter, delivered]
    · rw [receipts, h.received, delivered, List.length_append]
      rfl
  | routes f before after => exact h.routes before after
  | settles fate before after delivered receipts unwound =>
    rcases before with ⟨hst, hfate⟩ | ⟨f, hst, hfate⟩
    · simp only [InHand, hst] at hin
      obtain ⟨j, f, h', script, hr, hroute, hanswer⟩ := hin
      refine ⟨_, h.settle (Nat.le_of_lt hr.lt) hr.noted hr.delivered hr.last hr.routed ?_
        (by rw [hst]; rfl) after delivered receipts unwound⟩
      rw [hroute]
      rcases hfate with rfl | rfl
      · exact .returned hanswer
      · exact .panicked hanswer
    · simp only [InHand, hst] at hin
      obtain ⟨j, r, hr, hroute⟩ := hin
      refine ⟨_, h.settle (Nat.le_of_lt hr.lt) hr.noted hr.delivered hr.last hr.routed ?_
        (by rw [hst]; rfl) after delivered receipts unwound⟩
      rw [hroute]
      rcases hfate with rfl | rfl | rfl
      · exact .relayed r
      · exact .refused r
      · exact .unwound r

/-! ### Runs -/

end Session

end FrameLink
