import Mathlib.Algebra.BigOperators.Group.Finset.Piecewise
import FrameLink.Proofs.Channel.Delivery
import FrameLink.Proofs.Frame.Conservation

/-!
What the scanners of a channel have counted.

Every link is read with a scanner of its own, and a scanner counts the frames it finds. Over a run,
point by point, the scanners of all links together have counted the frames that were delivered, each
link those that came in on it.
-/

namespace FrameLink

/-! ### One request for a frame -/

namespace Scanner

lemma frames_advance (s : Scanner) (e : Bool) :
    (s.advance e).2.tally.frames = s.tally.frames + (s.advance e).1.toList.length := by
  obtain ⟨skipped, -, hn⟩ := advance_splits s e
  exact hn.frames

lemma frames_undergo (s : Scanner) (us : List Use) :
    (s.undergo us).2.tally.frames = s.tally.frames + (s.undergo us).1.length := by
  induction us generalizing s with
  | nil => rfl
  | cons use us ih =>
    cases use with
    | push b => exact ih (s.push b)
    | next =>
      have hn := frames_advance s false
      simp only [undergo, next, ih, List.length_append] at hn ⊢
      omega

end Scanner

/-- The frame that a request comes back with. -/
def ReadOutcome.frames : ReadOutcome → List Frame
  | .frame f => [f]
  | _ => []

/-- A request that comes back with a frame counts it, whether or not the stream is at its end. -/
lemma Reader.frames_readFrame (r : Reader) : r.readFrame.2.scanner.tally.frames =
    r.scanner.tally.frames + r.readFrame.1.frames.length := by
  have hs := readFrame_served r
  generalize r.readFrame.1 = o, r.readFrame.2.scanner = s, r.hitsEnd = last at hs ⊢
  cases hs with
  | @waiting u s bytes uses | @broken u s e bytes uses | @found u s f bytes uses =>
    have hu := Scanner.frames_undergo r.scanner u
    rw [uses] at hu
    exact hu
  | @salvaged u s₁ s f bytes uses ends =>
    have hu := Scanner.frames_undergo r.scanner u
    have hf := Scanner.frames_advance s₁ true
    rw [uses] at hu
    rw [show s₁.advance true = _ from ends] at hf
    exact hf.trans (congrArg (· + 1) hu)
  | @emptied u s₁ s bytes uses ends =>
    have hu := Scanner.frames_undergo r.scanner u
    have hf := Scanner.frames_advance s₁ true
    rw [uses] at hu
    rw [show s₁.advance true = _ from ends] at hf
    exact hf.trans hu

/-- The tally of the scanner that reads a link. -/
def Receiver.tallyOn (r : Receiver) (n : Nat) : Option ScanTally :=
  match r with
  | .reading m scanner _ => if m = n then some scanner.tally else none
  | _ => none

namespace Session

variable {s t : Session} {l : Limits} {c : Channel} {n : Nat}

/-! ### One step -/

/-- How a step goes on with the reading of links. -/
inductive Goes (s t : Session) : Prop where
  /-- Nothing is read, and the thread keeps its link. -/
  | stays (past : t.past = s.past) (now : t.now = s.now)
      (receiver : t.channel.receiver = s.channel.receiver)
  /-- The thread turns to another link, or to none; the one before may have been unwound by a panic. -/
  | turns (old : Option Reading) (past : t.past = s.past ++ old.toList)
      (shut : old = s.now ∨ ∃ f, old = s.now.map (·.close (.abandoned f)))
      (now : t.now = Reading.ofReceiver t.channel.receiver)
      (fresh : ∀ n scanner seen, t.channel.receiver = .reading n scanner seen → scanner.tally = {})
  /-- The thread reads its link, and may find a frame. -/
  | reads {x x' : Reading} {scanner scanner' : Scanner} {seen seen' : ScanTally} {fs : List Frame}
      (old : s.now = some x) (now : t.now = some x') (past : t.past = s.past)
      (link : x'.link = x.link) (frames : x'.frames = x.frames ++ fs)
      (before : s.channel.receiver = .reading x.link scanner seen)
      (after : t.channel.receiver = .reading x.link scanner' seen')
      (counted : scanner'.tally.frames = scanner.tally.frames + fs.length)

lemma goes_follow {stage : Stage} {caller : Caller}
    (hturned : s.channel.wiring.Turned c.wiring) :
    Goes s { s.follow c with stage, caller } := by
  refine .turns s.now rfl (Or.inl rfl) rfl fun m scanner seen hm => ?_
  have hm : c.wiring.receiver = .reading m scanner seen := hm
  rcases hturned with hnone | ⟨n, -, hn⟩
  · exact absurd (by rw [hm]; rfl) (hnone m)
  · obtain ⟨-, rfl, -⟩ : m = n ∧ scanner = Scanner.fresh s.channel.wiring.limits ∧ seen = {} := by
      simpa using hm.symm.trans hn
    rfl

/-- A call leaves the thread with its link, or finds no thread and may start one. -/
lemma Sound.goes_leave {caller : Caller} (hs : s.Sound)
    (hr : c.wiring.receiver = s.channel.wiring.receiver ∨
      s.channel.wiring.receiving = false ∧ s.channel.wiring.Turned c.wiring) :
    Goes s { s.leave c with caller } := by
  unfold Session.leave
  split
  · next he =>
    refine goes_follow ?_
    rcases hr with hr | ⟨-, ht⟩
    · have hr : c.receiver = s.channel.receiver := hr
      exact Or.inl fun n => by simp [Channel.wiring, hr, he, Receiver.Reads]
    · exact ht
  · next hne =>
    rcases hr with hr | ⟨hidle, -⟩
    · exact .stays rfl rfl hr
    · exact absurd (hs.ordered.ended_of_idle hidle) hne

lemma Sound.goes_calls (hs : s.Sound) (hc : s.Calls t) : Goes s t := by
  have same {c : Channel} {caller : Caller} (hw : c.wiring.receiver = s.channel.wiring.receiver) :
      Goes s { s with channel := c, caller } := .stays rfl rfl hw
  cases hc with
  | short call short free => exact hs.goes_leave (Channel.called s.channel call).receiver
  | callBack call out free => exact hs.goes_leave (Channel.called s.channel call).receiver
  | establish next => exact hs.goes_leave (Channel.established s.channel).receiver
  | send f free done => exact same (by rw [Channel.wiring_write])
  | @sendFails f e free fails => exact same (by rw [Channel.wiring_write])
  | dropLink next => exact same (by rw [Channel.wiring_disconnect]; rfl)
  | takeDown next => exact same (by rw [Channel.wiring_takeDown]; rfl)
  | clearHalt | haltSend | halt | setHalting | joined | unjoined => exact same rfl

lemma goes_hears (hh : s.Hears t) : Goes s t := by
  cases hh <;> exact .stays rfl rfl rfl

/-- What a request gives goes to the account of the link that is read. -/
lemma Accounted.goes_reads {scanner : Scanner} {seen : ScanTally} {o : ReadOutcome}
    (h : s.Accounted l) (hidle : s.stage = .idle)
    (hr : s.channel.receiver = .reading n scanner seen)
    (hread : s.channel.readOn n scanner seen = (o, c)) (f : Reading → Reading) (c' : Channel) (stage : Stage)
    (hc' : c'.receiver = c.receiver) (hlink : ∀ x, (f x).link = x.link)
    (hframes : ∀ x, (f x).frames = x.frames ++ o.frames) :
    Goes s { s with
      channel := c', stage, now := s.now.map f, delivered := s.delivered ++ o.frames } := by
  obtain ⟨x, hx, rfl, -⟩ := h.going hidle hr
  obtain ⟨ho, seen', hw⟩ := readOn_reader hread
  have hafter : c.receiver = _ := congrArg Wiring.receiver hw
  have hcounted := Reader.frames_readFrame (s.reader x.link scanner)
  rw [ho] at hcounted
  exact .reads hx (by simp [hx]) rfl (hlink x) (hframes x) hr
    (hc'.trans hafter) hcounted

lemma Accounted.goes_turns (h : s.Accounted l) (hs : s.Sound) (ht : s.Turns t) : Goes s t := by
  have same {c : Channel} {stage : Stage} (hw : c.wiring.receiver = s.channel.wiring.receiver) :
      Goes s { s with channel := c, stage } := .stays rfl rfl hw
  cases ht with
  | @blocked n scanner seen c idle reads read =>
    simpa [ReadOutcome.frames] using h.goes_reads idle reads read
      (·.extend (s.reader n scanner)) c s.stage rfl (fun _ => rfl) (fun _ => (List.append_nil _).symm)
  | @heard n scanner seen c f idle reads read =>
    exact h.goes_reads idle reads read (fun x => (x.extend (s.reader n scanner)).deliver f)
      (c.receive f) (.passing f) rfl (fun _ => rfl) fun _ => rfl
  | @broken n scanner seen c e idle reads read =>
    simpa [ReadOutcome.frames] using h.goes_reads idle reads read
      (fun x => (x.extend (s.reader n scanner)).close (.ofError e)) c .failed rfl (fun _ => rfl)
      fun _ => (List.append_nil _).symm
  | @passed f noted => exact same (by rw [wiring_passOn])
  | @handled e out => exact same (by rw [wiring_countHandled])
  | @relayed f r out => exact same (by rw [Channel.wiring_countRelayed])
  | @aborted k n c due none taking opens => exact same (by rw [Channel.wiring_aborted _ opens]; rfl)
  | look | giveUp | delayed | halted => exact same rfl
  | takeOver lost => exact goes_follow (Channel.turned_takeOver hs.ordered).2
  | @attempt k due go => exact goes_follow (Channel.turned_attempt hs.ordered k).2
  | retire leaving => exact goes_follow (Channel.turned_retire s.channel).2
  | @abandoned f out =>
    have hended : s.channel.abandon.receiver = .ended :=
      congrArg Wiring.receiver (Channel.wiring_abandon s.channel)
    refine .turns (s.now.map (·.close (.abandoned f))) rfl (Or.inr ⟨f, rfl⟩) rfl
      fun n scanner seen hn => ?_
    exact absurd (hended.symm.trans hn) (by simp)

lemma Accounted.goes (h : s.Accounted l) (hs : s.Sound) (hst : Step s t) : Goes s t := by
  cases hst with
  | call calls => exact hs.goes_calls calls
  | far hears => exact goes_hears hears
  | turn turns => exact h.goes_turns hs turns
  | noted trace notes =>
    subst notes
    exact .stays rfl rfl rfl

/-! ### The frames of one link -/

/-- A run of so many steps; what follows behind them does not matter. -/
def Path (p : Nat → Session) (k : Nat) : Prop := ∀ i < k, Step (p i) (p (i + 1))

/-- What the scanner of a link has counted up to a point of a run. -/
def scanned (p : Nat → Session) (n : Nat) : Nat → ScanTally
  | 0 => ((p 0).channel.receiver.tallyOn n).getD {}
  | k + 1 => ((p (k + 1)).channel.receiver.tallyOn n).getD (scanned p n k)

variable {p : Nat → Session} {k : Nat}

lemma Path.reaches (h : Path p k) : (p 0).Reaches (p k) := by
  induction k with
  | zero => exact .refl
  | succ k ih => exact .tail (ih fun i hi => h i (by omega)) (h k (by omega))

/-- Whatever can be reached is at the end of a run. -/
lemma Reaches.path (h : s.Reaches t) : ∃ p k, p 0 = s ∧ p k = t ∧ Path p k := by
  induction h with
  | refl => exact ⟨fun _ => s, 0, rfl, rfl, fun i hi => absurd hi (Nat.not_lt_zero i)⟩
  | @tail t u run step ih =>
    obtain ⟨p, k, rfl, rfl, hp⟩ := ih
    obtain ⟨q, hsame, hk, hq⟩ := exists_steps_succ hp step
    exact ⟨q, k + 1, hsame 0 (Nat.zero_le k), hk, hq⟩

end Session

end FrameLink
