import FrameLink.Proofs.Channel.Counters
import FrameLink.Proofs.Channel.Rest
import FrameLink.Proofs.Channel.Scanned

/-!
What the scanners have refused and discarded, and what the counters of a channel show of it.

The thread brings the counters up to its scanner each time a request comes back, so what they show may
lag behind while a request waits for bytes: by what that one scanner has counted since. Nothing else is
missing, whatever links came before, since a scanner only counts on and each link has one of its own.
-/

namespace FrameLink

/-- What is counted of bytes that make no frame. -/
inductive Fault where
  | mismatch
  /-- A bad marker, kind or length. -/
  | framing
  | discarded
  deriving DecidableEq

def ScanTally.fault (t : ScanTally) : Fault → Nat
  | .mismatch => t.checksumMismatches
  | .framing => t.invalidMarkers + t.invalidKinds + t.invalidLengths
  | .discarded => t.discarded

def Counters.fault (k : Counters) : Fault → Nat
  | .mismatch => k.checksumMismatches
  | .framing => k.framingErrors
  | .discarded => k.discardedBytes

/-! ### One request for a frame -/

/-- The second tally has counted on from the first. -/
def ScanTally.LeadsTo (t u : ScanTally) : Prop := ∀ x, t.fault x ≤ u.fault x

namespace ScanTally.LeadsTo

variable {t u v : ScanTally}

lemma refl (t : ScanTally) : t.LeadsTo t := fun _ => Nat.le_refl _

lemma trans (h : t.LeadsTo u) (h' : u.LeadsTo v) : t.LeadsTo v := fun x => Nat.le_trans (h x) (h' x)

lemma discard (t : ScanTally) : t.LeadsTo t.discard := by
  intro x
  cases x <;> simp [fault, ScanTally.discard]

lemma refuse (t : ScanTally) (cause : Rejection) : t.LeadsTo (t.refuse cause) := by
  intro x
  cases cause <;> cases x <;> simp [fault, ScanTally.refuse]

lemma found (t : ScanTally) : t.LeadsTo t.found := by
  intro x
  cases x <;> simp [fault, ScanTally.found]

/-- A scan counts on. -/
lemma scan (l : Limits) (e : Bool) (b : Bytes) (t : ScanTally) : t.LeadsTo (Scanner.scan l e b t).2.2 := by
  fun_induction Scanner.scan l e b t with
  | case1 t => exact refl t
  | case2 b rest t hb ih => exact (discard t).trans ih
  | case3 b rest t hb f rest' hd => exact found t
  | case4 b rest t hb cause hd ih => exact ((refuse t cause).trans (discard _)).trans ih
  | case5 b rest t hb hd he ih => exact (discard t).trans ih
  | case6 b rest t hb hd he => exact refl t

lemma advance (s : Scanner) (e : Bool) : s.tally.LeadsTo (s.advance e).2.tally :=
  scan s.limits e s.buffer s.tally

lemma undergo (s : Scanner) (us : List Scanner.Use) : s.tally.LeadsTo (s.undergo us).2.tally := by
  induction us generalizing s with
  | nil => exact refl s.tally
  | cons use us ih =>
    cases use with
    | push b => exact ih (s.push b)
    | next => exact (advance s false).trans (ih s.next.2)

/-- Whether or not a request comes back, the scanner has counted on. -/
lemma readFrame (r : Reader) : r.scanner.tally.LeadsTo r.readFrame.2.scanner.tally := by
  have hs := Reader.readFrame_served r
  generalize r.readFrame.1 = o, r.readFrame.2.scanner = s, r.hitsEnd = last at hs ⊢
  cases hs with
  | @waiting u s bytes uses | @broken u s e bytes uses | @found u s f bytes uses =>
    have hu := undergo r.scanner u
    rwa [uses] at hu
  | @salvaged u s₁ s f bytes uses ends | @emptied u s₁ s bytes uses ends =>
    have hu := undergo r.scanner u
    have hf := advance s₁ true
    rw [uses] at hu
    rw [show s₁.advance true = _ from ends] at hf
    exact hu.trans hf

end ScanTally.LeadsTo

/-! ### What is counted -/

namespace Channel

variable {c : Channel}

lemma fault_absorb (seen tally : ScanTally) (x : Fault) :
    (c.absorb seen tally).counters.fault x = c.counters.fault x + (tally.fault x - seen.fault x) := by
  cases x <;> rfl

lemma Sends.fault {c' : Channel} (h : c.Sends c') : c'.counters.fault = c.counters.fault := by
  rw [h]
  funext x
  cases x <;> rfl

lemma fault_receive (f : Frame) : (c.receive f).counters.fault = c.counters.fault := by
  funext x
  cases x <;> rfl

lemma fault_passOn (f : Frame) : (c.passOn f).2.counters.fault = c.counters.fault := by
  funext x
  unfold passOn
  split
  · split <;> cases x <;> rfl
  · rfl
  · cases x <;> rfl

lemma fault_countHandled (e : Ending) : (c.countHandled e).counters.fault = c.counters.fault := by
  funext x
  cases e <;> cases x <;> rfl

lemma fault_countRelayed (r : Except ChannelError Unit) :
    (c.countRelayed r).counters.fault = c.counters.fault := by
  funext x
  cases r <;> cases x <;> rfl

lemma fault_countAttempt : c.countAttempt.counters.fault = c.counters.fault := by
  funext x
  cases x <;> rfl

end Channel

/-- What the counters do not show yet of the link that is read. -/
def Receiver.due (r : Receiver) (x : Fault) : Nat :=
  match r with
  | .reading _ scanner seen => scanner.tally.fault x - seen.fault x
  | _ => 0

namespace Session

variable {s t : Session} {l : Limits} {c : Channel} {n : Nat}

/-! ### One step -/

/-- The counters show all that the scanner has counted by the time the thread is there. -/
def IsLevel (s : Session) : Prop := s.stage ≠ .idle ∨ ∀ n, ¬ s.channel.receiver.Reads n

/-- What a step counts. -/
inductive Tells (s t : Session) : Prop where
  /-- Nothing, and the thread keeps its link. -/
  | stays (faults : t.channel.counters.fault = s.channel.counters.fault)
      (receiver : t.channel.receiver = s.channel.receiver) (stage : t.stage = s.stage ∨ s.IsLevel)
  /-- Nothing, and the thread turns to a link that was not read before, or to none. -/
  | turns (faults : t.channel.counters.fault = s.channel.counters.fault) (level : s.IsLevel)
      (fresh : ∀ n scanner seen, t.channel.receiver = .reading n scanner seen →
        scanner.tally = {} ∧ seen = {} ∧ ∀ x ∈ s.readings, x.link ≠ n)
  /-- What the thread reads; it is shown unless the thread is left waiting. -/
  | reads {n : Nat} {scanner scanner' : Scanner} {seen seen' : ScanTally} (idle : s.stage = .idle)
      (before : s.channel.receiver = .reading n scanner seen)
      (after : t.channel.receiver = .reading n scanner' seen')
      (onward : scanner.tally.LeadsTo scanner'.tally)
      (shown : t.stage = .idle ∧ seen' = seen ∧
          t.channel.counters.fault = s.channel.counters.fault ∨
        seen' = scanner'.tally ∧ ∀ x, t.channel.counters.fault x =
          s.channel.counters.fault x + (scanner'.tally.fault x - seen.fault x))

lemma Ledger.tells_follow {stage : Stage} {caller : Caller} (h : s.Ledger l)
    (hturned : s.channel.wiring.Turned c.wiring)
    (faults : c.counters.fault = s.channel.counters.fault) (level : s.IsLevel) :
    Tells s { s.follow c with stage, caller } := by
  refine .turns faults level fun n scanner seen hn => ?_
  have hn : c.wiring.receiver = .reading n scanner seen := hn
  have hof : Reading.ofReceiver c.receiver = some { link := n } := congrArg Reading.ofReceiver hn
  have hlt : ∀ x ∈ s.readings, x.link ≠ n := fun x hx =>
    Nat.ne_of_lt (h.lt_of_turned hturned hx hof)
  rcases hturned with hnone | ⟨m, -, hm⟩
  · exact absurd (by rw [hn]; rfl) (hnone n)
  · obtain ⟨-, rfl, rfl⟩ : n = m ∧ scanner = Scanner.fresh s.channel.wiring.limits ∧ seen = {} := by
      simpa using hn.symm.trans hm
    exact ⟨rfl, rfl, hlt⟩

/-- A call leaves the thread with its link, or finds no thread and may start one. -/
lemma Accounted.tells_leave {caller : Caller} (h : s.Accounted l) (hs : s.Sound)
    (hr : c.wiring.receiver = s.channel.wiring.receiver ∨
      s.channel.wiring.receiving = false ∧ s.channel.wiring.Turned c.wiring)
    (faults : c.counters.fault = s.channel.counters.fault) :
    Tells s { s.leave c with caller } := by
  unfold Session.leave
  split
  · next he =>
    have hnot : ∀ n, ¬ s.channel.receiver.Reads n := by simp [he, Receiver.Reads]
    refine h.ledger.tells_follow ?_ faults (Or.inr hnot)
    rcases hr with hr | ⟨-, ht⟩
    · have hr : c.receiver = s.channel.receiver := hr
      exact Or.inl fun n => by simp [Channel.wiring, hr, he, Receiver.Reads]
    · exact ht
  · next hne =>
    rcases hr with hr | ⟨hidle, -⟩
    · exact .stays faults hr (Or.inl rfl)
    · exact absurd (hs.ordered.ended_of_idle hidle) hne

lemma Accounted.tells_calls (h : s.Accounted l) (hs : s.Sound) (hc : s.Calls t) : Tells s t := by
  have same {c : Channel} {caller : Caller} (hw : c.wiring.receiver = s.channel.wiring.receiver)
      (hf : c.counters.fault = s.channel.counters.fault) :
      Tells s { s with channel := c, caller } := .stays hf hw (Or.inl rfl)
  cases hc with
  | short call short free =>
    exact h.tells_leave hs (Channel.called s.channel call).receiver (Channel.sends_perform call).fault
  | callBack call out free =>
    exact h.tells_leave hs (Channel.called s.channel call).receiver (Channel.sends_perform call).fault
  | establish next =>
    exact h.tells_leave hs (Channel.established s.channel).receiver
      (congrArg Counters.fault (Channel.counters_establish s.channel))
  | send f free done => exact same (by rw [Channel.wiring_write]) (Channel.sends_write f).fault
  | @sendFails f e free fails =>
    exact same (by rw [Channel.wiring_write]) (Channel.sends_write f).fault
  | dropLink next =>
    exact same (by rw [Channel.wiring_disconnect]; rfl) (congrArg _ (Channel.counters_disconnect _))
  | takeDown next =>
    exact same (by rw [Channel.wiring_takeDown]; rfl) (congrArg _ (Channel.counters_takeDown _))
  | clearHalt | haltSend | halt | setHalting | joined | unjoined => exact same rfl rfl

lemma tells_hears (hh : s.Hears t) : Tells s t := by
  cases hh <;> exact .stays rfl rfl (Or.inl rfl)

/-- A request that is made of a link. -/
lemma tells_reads {scanner : Scanner} {seen : ScanTally} {o : ReadOutcome} (idle : s.stage = .idle)
    (reads : s.channel.receiver = .reading n scanner seen)
    (read : s.channel.readOn n scanner seen = (o, c)) (hc : t.channel.receiver = c.receiver)
    (hf : t.channel.counters.fault = c.counters.fault) (hstage : o = .blocked → t.stage = .idle) :
    Tells s t := by
  have onward := ScanTally.LeadsTo.readFrame (s.reader n scanner)
  rcases Channel.readOn_cases read with ⟨ho, hafter, hsame⟩ | ⟨ho, hafter, habsorb⟩
  · exact .reads idle reads (hc.trans hafter) onward
      (Or.inl ⟨hstage ho, rfl, hf.trans (congrArg Counters.fault hsame)⟩)
  · refine .reads idle reads (hc.trans hafter) onward (Or.inr ⟨rfl, fun x => ?_⟩)
    rw [hf, habsorb]
    exact Channel.fault_absorb seen _ x

lemma Accounted.tells_turns (h : s.Accounted l) (hs : s.Sound) (ht : s.Turns t) : Tells s t := by
  have same {c : Channel} {stage : Stage} (hw : c.wiring.receiver = s.channel.wiring.receiver)
      (hf : c.counters.fault = s.channel.counters.fault) (level : s.IsLevel) :
      Tells s { s with channel := c, stage } := .stays hf hw (Or.inr level)
  have busy {stage : Stage} (hst : s.stage = stage) (hne : stage ≠ .idle) : s.IsLevel :=
    Or.inl (hst ▸ hne)
  have off {k : Nat} (waits : s.channel.receiver = .waiting k) : s.IsLevel :=
    Or.inr fun n => by simp [waits, Receiver.Reads]
  cases ht with
  | blocked idle reads read => exact tells_reads idle reads read rfl rfl fun _ => idle
  | heard idle reads read => exact tells_reads idle reads read rfl (Channel.fault_receive _) (by simp)
  | broken idle reads read => exact tells_reads idle reads read rfl rfl (by simp)
  | @passed f noted =>
    exact same (by rw [wiring_passOn]) (Channel.fault_passOn f) (busy noted (by simp))
  | @handled e out =>
    exact same (by rw [wiring_countHandled]) (Channel.fault_countHandled e) (busy out (by simp))
  | @relayed f r out =>
    exact same (by rw [Channel.wiring_countRelayed]) (Channel.fault_countRelayed r) (busy out (by simp))
  | @aborted k n c due none taking opens =>
    refine same (by rw [Channel.wiring_aborted _ opens]; rfl) ?_ (busy due (by simp))
    rw [Channel.counters_closeLink, Channel.counters_of_opens _ opens]
    rfl
  | look failed => exact same rfl rfl (busy failed (by simp))
  | halted due none halted => exact same rfl rfl (busy due (by simp))
  | giveUp idle waits spent => exact same rfl rfl (off waits)
  | delayed idle waits left free => exact same rfl Channel.fault_countAttempt (off waits)
  | takeOver lost =>
    exact h.ledger.tells_follow (Channel.turned_takeOver hs.ordered).2
      (congrArg _ (Channel.counters_takeOver _)) (busy lost (by simp))
  | @attempt k due go =>
    exact h.ledger.tells_follow (Channel.turned_attempt hs.ordered k).2
      (congrArg _ (Channel.counters_attempt _ k)) (busy due (by simp))
  | retire leaving =>
    exact h.ledger.tells_follow (Channel.turned_retire s.channel).2
      (congrArg _ (Channel.counters_retire _)) (busy leaving (by simp))
  | @abandoned f out =>
    have hended : s.channel.abandon.receiver = .ended :=
      congrArg Wiring.receiver (Channel.wiring_abandon s.channel)
    refine .turns (congrArg _ (Channel.counters_abandon _)) (busy out (by simp)) fun n scanner seen hn => ?_
    exact absurd (hended.symm.trans hn) (by simp)

lemma Accounted.tells (h : s.Accounted l) (hs : s.Sound) (hst : Step s t) : Tells s t := by
  cases hst with
  | call calls => exact h.tells_calls hs calls
  | far hears => exact tells_hears hears
  | turn turns => exact h.tells_turns hs turns
  | noted trace notes =>
    subst notes
    exact .stays rfl rfl (Or.inl rfl)

/-- A link that was read stays in the account. -/
lemma Goes.mem_links (hg : Goes s t) {x : Reading} (hx : x ∈ s.readings) :
    ∃ y ∈ t.readings, y.link = x.link := by
  cases hg with
  | stays past now receiver => exact ⟨x, by simpa [readings, past, now] using hx, rfl⟩
  | turns old past shut now fresh =>
    rcases List.mem_append.mp hx with hpast | hnow
    · exact ⟨x, by simp [readings, past, hpast], rfl⟩
    · have hnow : s.now = some x := by simpa using hnow
      rcases shut with rfl | ⟨f, rfl⟩
      · exact ⟨x, by simp [readings, past, hnow], rfl⟩
      · exact ⟨x.close (.abandoned f), by simp [readings, past, hnow], rfl⟩
  | @reads y y' scanner scanner' seen seen' fs old now past link frames before after counted =>
    rcases List.mem_append.mp hx with hpast | hnow
    · exact ⟨x, by simp [readings, past, hpast], rfl⟩
    · obtain rfl : x = y := by simpa [old] using hnow
      exact ⟨y', by simp [readings, now], link⟩

lemma Accounted.mem_of_reading (h : s.Accounted l) {scanner : Scanner} {seen : ScanTally}
    (hr : s.channel.receiver = .reading n scanner seen) : ∃ x ∈ s.readings, x.link = n := by
  obtain ⟨x, hx, hn, -⟩ := h.present.of_reading hr
  exact ⟨x, mem_readings_of_now hx, hn⟩

/-! ### Runs, point by point -/

variable {p : Nat → Session} {k m most : Nat}

lemma scanned_of_tallyOn {tally : ScanTally} (h : (p k).channel.receiver.tallyOn m = some tally) :
    scanned p m k = tally := by
  cases k <;> simp [scanned, h]

lemma scanned_of_reading {scanner : Scanner} {seen : ScanTally}
    (h : (p k).channel.receiver = .reading m scanner seen) : scanned p m k = scanner.tally :=
  scanned_of_tallyOn (by simp [h, Receiver.tallyOn])

lemma scanned_succ_of_ne {scanner : Scanner} {seen : ScanTally} (hm : m ≠ n)
    (h : (p (k + 1)).channel.receiver = .reading n scanner seen) :
    scanned p m (k + 1) = scanned p m k := by
  simp [scanned, h, Receiver.tallyOn, Ne.symm hm]

/-- What a thread with its link, or with a new one, has counted is what there was before. -/
lemma scanned_succ (h : ∀ n scanner seen, (p (k + 1)).channel.receiver = .reading n scanner seen →
    scanned p n k = scanner.tally) (m : Nat) : scanned p m (k + 1) = scanned p m k := by
  cases hr : (p (k + 1)).channel.receiver with
  | ended | waiting k => simp [scanned, hr, Receiver.tallyOn]
  | reading n scanner seen =>
    by_cases hm : m = n
    · subst hm
      rw [scanned_of_reading hr, h m scanner seen hr]
    · exact scanned_succ_of_ne hm hr

/-- Two sums that differ in one link. -/
lemma sum_add_of_ne {f g : Nat → Nat} (hn : n < most) (h : ∀ m, m ≠ n → f m = g m) :
    ∑ m ∈ Finset.range most, f m + g n = ∑ m ∈ Finset.range most, g m + f n := by
  have hmem := Finset.mem_range.mpr hn
  have hrest : ∑ m ∈ (Finset.range most).erase n, f m = ∑ m ∈ (Finset.range most).erase n, g m :=
    Finset.sum_congr rfl fun m hm => h m (Finset.ne_of_mem_erase hm)
  rw [← Finset.add_sum_erase _ f hmem, ← Finset.add_sum_erase _ g hmem, hrest]
  omega

/-- The counters and what is due to them, against what the scanners have counted. -/
structure Tallied (p : Nat → Session) (k : Nat) : Prop where
  behind : ∀ n scanner seen, (p k).channel.receiver = .reading n scanner seen →
    seen.LeadsTo scanner.tally ∧ ((p k).stage ≠ .idle → seen = scanner.tally)
  unread : ∀ m, (∀ x ∈ (p k).readings, x.link ≠ m) → scanned p m k = {}
  /-- The sum is over any links that are all those read. -/
  sum : ∀ most, (∀ x ∈ (p k).readings, x.link < most) → ∀ x,
    (p k).channel.counters.fault x + (p k).channel.receiver.due x =
      ∑ m ∈ Finset.range most, (scanned p m k).fault x

/-- On a level nothing is due. -/
lemma Tallied.due_eq_zero (h : Tallied p k) (hlevel : (p k).IsLevel) (x : Fault) :
    (p k).channel.receiver.due x = 0 := by
  cases hr : (p k).channel.receiver with
  | ended | waiting j => rfl
  | reading n scanner seen =>
    have hstage : (p k).stage ≠ .idle := hlevel.resolve_right fun hnot => hnot n (by rw [hr]; rfl)
    rw [(h.behind n scanner seen hr).2 hstage]
    exact Nat.sub_self _

lemma Tallied.unread_succ {l : Limits} (h : Tallied p k) (hacc : (p (k + 1)).Accounted l)
    (hg : Goes (p k) (p (k + 1))) (hm : ∀ x ∈ (p (k + 1)).readings, x.link ≠ m) :
    scanned p m (k + 1) = {} := by
  have hbefore : scanned p m k = {} := h.unread m fun x hx hlink => by
    obtain ⟨y, hy, hyx⟩ := hg.mem_links hx
    exact hm y hy (hyx.trans hlink)
  cases hr : (p (k + 1)).channel.receiver with
  | ended | waiting j => simpa [scanned, hr, Receiver.tallyOn] using hbefore
  | reading n scanner seen =>
    obtain ⟨x, hx, hn⟩ := hacc.mem_of_reading hr
    rwa [scanned_succ_of_ne (fun hmn => hm x hx (hn.trans hmn.symm)) hr]

/-- **One step keeps the tallies.** -/
lemma Tallied.step {l : Limits} (h : Tallied p k) (hacc : (p (k + 1)).Accounted l)
    (hg : Goes (p k) (p (k + 1))) (ht : Tells (p k) (p (k + 1))) : Tallied p (k + 1) := by
  have hunread (m : Nat) := h.unread_succ (m := m) hacc hg
  have hcover {most : Nat} (hmost : ∀ x ∈ (p (k + 1)).readings, x.link < most) :
      ∀ x ∈ (p k).readings, x.link < most := fun x hx => by
    obtain ⟨y, hy, hyx⟩ := hg.mem_links hx
    exact hyx ▸ hmost y hy
  cases ht with
  | stays faults receiver stage =>
    have hscanned := scanned_succ (p := p) (k := k) fun n scanner seen hr =>
      scanned_of_reading (receiver ▸ hr)
    refine ⟨fun n scanner seen hr => ?_, hunread, fun most hmost x => ?_⟩
    · rw [receiver] at hr
      obtain ⟨hle, hlevel⟩ := h.behind n scanner seen hr
      refine ⟨hle, fun hst => ?_⟩
      rcases stage with hsame | hbusy
      · exact hlevel (hsame ▸ hst)
      · exact hlevel (hbusy.resolve_right fun hnot => hnot n (by rw [hr]; rfl))
    · simp only [hscanned, faults, receiver, h.sum most (hcover hmost) x]
  | turns faults level fresh =>
    have hscanned := scanned_succ (p := p) (k := k) fun n scanner seen hr => by
      obtain ⟨htally, -, hnew⟩ := fresh n scanner seen hr
      rw [htally, h.unread n hnew]
    have hbehind : ∀ n scanner seen, (p (k + 1)).channel.receiver = .reading n scanner seen →
        seen = scanner.tally := fun n scanner seen hr => by
      obtain ⟨htally, hseen, -⟩ := fresh n scanner seen hr
      rw [htally, hseen]
    refine ⟨fun n scanner seen hr => ?_, hunread, fun most hmost x => ?_⟩
    · rw [hbehind n scanner seen hr]
      exact ⟨.refl _, fun _ => rfl⟩
    · have hdue : (p (k + 1)).channel.receiver.due x = 0 := by
        cases hr : (p (k + 1)).channel.receiver with
        | ended | waiting j => rfl
        | reading n scanner seen =>
          rw [hbehind n scanner seen hr]
          exact Nat.sub_self _
      simp only [hscanned, faults, hdue, ← h.sum most (hcover hmost) x, h.due_eq_zero level]
  | @reads n scanner scanner' seen seen' idle before after onward shown =>
    have hle := (h.behind n scanner seen before).1
    refine ⟨fun m scanner₁ seen₁ hr => ?_, hunread, fun most hmost x => ?_⟩
    · obtain ⟨-, rfl, rfl⟩ : n = m ∧ scanner' = scanner₁ ∧ seen' = seen₁ := by
        simpa using after.symm.trans hr
      rcases shown with ⟨hidle, rfl, -⟩ | ⟨rfl, -⟩
      · exact ⟨hle.trans onward, fun hst => absurd hidle hst⟩
      · exact ⟨.refl _, fun _ => rfl⟩
    · obtain ⟨y, hy, rfl⟩ := hacc.mem_of_reading after
      -- only the link that is read has its scanner count on
      have hdiff := sum_add_of_ne (f := fun m => (scanned p m (k + 1)).fault x)
        (g := fun m => (scanned p m k).fault x) (hmost y hy) fun m hm => by
          rw [scanned_succ_of_ne hm after]
      rw [scanned_of_reading after, scanned_of_reading before, ← h.sum most (hcover hmost) x] at hdiff
      have hseen := hle x
      have honward := onward x
      rw [before] at hdiff
      rw [after]
      simp only [Receiver.due] at hdiff ⊢
      rcases shown with ⟨-, rfl, faults⟩ | ⟨rfl, faults⟩
      · rw [faults]
        omega
      · rw [faults x]
        omega

/-- **What holds of the tallies at the beginning holds along a run.** -/
lemma Path.tallied {l : Limits} (h0 : (p 0).Accounted l) (hs : (p 0).Sound) (hstart : Tallied p 0)
    (h : Path p k) : Tallied p k := by
  induction k with
  | zero => exact hstart
  | succ k ih =>
    have hk : Path p k := fun i hi => h i (by omega)
    have hacc := h0.reaches hs hk.reaches
    have hsound := hs.reaches hk.reaches
    have hstep := h k (Nat.lt_succ_self k)
    exact (ih hk).step (h0.reaches hs h.reaches) (hacc.goes hsound hstep) (hacc.tells hsound hstep)

lemma tallied_start {config : ChannelConfig} {name : String}
    {connects : List (Except TransportError Unit)} {writes : List (Except IoError Nat)}
    {flushes : List (Except IoError Unit)} {spawns : List (Except IoError Unit)}
    (h : p 0 = start config name connects writes flushes spawns) : Tallied p 0 := by
  have hended : (p 0).channel.receiver = .ended := by rw [h]; rfl
  have hzero (m : Nat) : scanned p m 0 = {} := by simp [scanned, hended, Receiver.tallyOn]
  refine ⟨by simp [hended], fun m _ => hzero m, fun most _ x => ?_⟩
  have hfault : ({} : ScanTally).fault x = 0 := by cases x <;> rfl
  simp only [hzero, hfault, hended, Finset.sum_const_zero]
  rw [h]
  cases x <;> rfl

/-- **The counters add up over the links.** At every point of a run, whatever the calls, the handlers,
the relays and the far end do in it, what the counters show and what is due to them of the link that is
read is what the scanners of all links have counted. Nothing is due wherever the thread is not about to
read or reading: as soon as a request has come back, during a delay, and once the thread has ended. What
the counters show of the link is never more than its scanner has counted, nor than it will have counted
when the request comes back. -/
theorem tallied_over_links (config : ChannelConfig) (name : String)
    (connects : List (Except TransportError Unit)) (writes : List (Except IoError Nat))
    (flushes : List (Except IoError Unit)) (spawns : List (Except IoError Unit)) (p : Nat → Session)
    (n : Nat) (hstart : p 0 = start config name connects writes flushes spawns) (hrun : Path p n) :
    ∀ k ≤ n, ∀ x : Fault,
      let c := (p k).channel
      let counted := ∑ m ∈ Finset.range c.transport.links.length, (scanned p m k).fault x
      c.counters.fault x + c.receiver.due x = counted ∧
      ((p k).IsLevel → c.counters.fault x = counted) ∧
      ∀ m scanner seen, c.receiver = .reading m scanner seen →
        seen.fault x ≤ scanner.tally.fault x ∧
        scanner.tally.fault x ≤ ((p k).reader m scanner).readFrame.2.scanner.tally.fault x := by
  have hsound := sound_start config name connects writes flushes spawns
  have haccounted := accounted_start config name connects writes flushes spawns
  rw [← hstart] at hsound haccounted
  intro k hk x c counted
  have hpath : Path p k := fun i hi => hrun i (by omega)
  have htallied := hpath.tallied haccounted hsound (tallied_start hstart)
  have hlength : (p k).channel.wiring.sources.length = c.transport.links.length := List.length_map _
  have hsum := htallied.sum c.transport.links.length
    (hlength ▸ (haccounted.reaches hsound hpath.reaches).ledger.links_lt) x
  refine ⟨hsum, fun hlevel => ?_, fun m scanner seen hr => ?_⟩
  · rwa [htallied.due_eq_zero hlevel, Nat.add_zero] at hsum
  · exact ⟨(htallied.behind m scanner seen hr).1 x,
      ScanTally.LeadsTo.readFrame ((p k).reader m scanner) x⟩

/-! ### One byte that makes no frame -/

/-- The scanner of a link on which a byte was discarded. -/
def junked : Scanner := { Scanner.fresh {} with tally := { discarded := 1 } }

lemma readFrame_junk :
    Reader.readFrame ⟨Scanner.fresh {}, { script := [.data [0]], isLive := true }⟩ =
      (.blocked, ⟨junked, { isLive := true }⟩) := by
  rw [(Reader.readFrame_bytes (b := [0]) rfl rfl (by simp)).1]
  exact (Reader.readFrame_blocked (s := junked) (by decide) rfl).1

lemma readFrame_junked :
    Reader.readFrame ⟨junked, { isLive := true }⟩ = (.blocked, ⟨junked, { isLive := true }⟩) :=
  (Reader.readFrame_blocked rfl rfl).1

lemma readFrame_ended :
    Reader.readFrame ⟨junked, {}⟩ = (.failed .connectionClosed, ⟨junked, {}⟩) := by
  rw [(Reader.readFrame_atEnd (s := junked) rfl rfl).1]
  rfl

/-- A byte comes in that makes no frame, and the thread is left waiting for more. -/
lemma reaches_junk : ∃ s, (start {} "far" [] [] [] []).Reaches s ∧ s.AtRest ∧
    s.channel.receiver = .reading 0 junked {} ∧ s.channel.counters = {} ∧
    s.channel.transport.links = [{}] ∧ s.channel.transport.current = some 0 := by
  let s := start {} "far" [] [] [] []
  let s₁ : Session := { s with channel := s.channel.setHalted false, caller := .connecting }
  let s₂ : Session := { s₁.leave s₁.channel.establish.2 with caller := .free }
  let s₃ := s₂.feed [0]
  have hrun : s.Reaches s₃ :=
    .tail (.tail (.tail .refl (.call (.clearHalt rfl))) (.call (.establish rfl))) (.far (.feed [0]))
  have hread : s₃.channel.readOn 0 (Scanner.fresh {}) {} = _ :=
    Channel.readOn_of_blocked readFrame_junk
  refine ⟨_, hrun.tail (.turn (.blocked rfl rfl hread)), ⟨rfl, rfl, ?_⟩, rfl, rfl, rfl, rfl⟩
  exact resting_of_blocked rfl (congrArg Prod.fst (Channel.readOn_of_blocked readFrame_junked))

/-- At rest the counters may lag: they do not show a byte that the scanner has discarded while the thread
waits for the next. -/
theorem not_tallied_at_rest :
    ¬ ∀ (config : ChannelConfig) (name : String) (connects : List (Except TransportError Unit))
        (writes : List (Except IoError Nat)) (flushes : List (Except IoError Unit))
        (spawns : List (Except IoError Unit)) (p : Nat → Session) (n : Nat),
      p 0 = start config name connects writes flushes spawns → Path p n → (p n).AtRest →
      ∀ x : Fault, (p n).channel.counters.fault x =
        ∑ m ∈ Finset.range (p n).channel.transport.links.length, (scanned p m n).fault x := by
  intro hclaim
  obtain ⟨s, hreach, hrest, hreceiver, hcounters, hlinks, -⟩ := reaches_junk
  obtain ⟨p, n, hstart, rfl, hpath⟩ := hreach.path
  have hsame := hclaim {} "far" [] [] [] [] p n hstart hpath hrest .discarded
  rw [hcounters, hlinks, List.length_singleton, Finset.sum_range_one, scanned_of_reading hreceiver] at hsame
  exact absurd hsame (by decide)

/-- Once the link is at its end the request comes back, and the counters show the byte. -/
theorem tallied_over_links_one_byte :
    ∃ (p : Nat → Session) (n : Nat), p 0 = start {} "far" [] [] [] [] ∧ Path p n ∧
      (p n).channel.counters.discardedBytes = 1 ∧
      ∑ m ∈ Finset.range (p n).channel.transport.links.length, (scanned p m n).discarded = 1 := by
  obtain ⟨s, hreach, ⟨-, hidle, -⟩, hreceiver, hcounters, hlinks, hcurrent⟩ := reaches_junk
  let s₁ : Session := { s with
    channel := { s.channel with transport := s.channel.transport.endInput } }
  have hinbound : (s₁.channel.transport.link 0).inbound = {} := by
    simp [s₁, Transport.endInput, hcurrent, Transport.onLink, Transport.link, hlinks]
  have hread : s₁.channel.readOn 0 junked {} = _ :=
    Channel.readOn_of_failed (by rw [hinbound, readFrame_ended])
  have hlast := (hreach.tail (.far .endInput)).tail (.turn (.broken hidle hreceiver hread))
  obtain ⟨p, n, hstart, hend, hpath⟩ := hlast.path
  have hcounted : (p n).channel.counters.discardedBytes = 1 := by
    rw [hend]
    change s.channel.counters.discardedBytes + 1 = 1
    rw [hcounters]
  have hsum := (tallied_over_links {} "far" [] [] [] [] p n hstart hpath n (Nat.le_refl n) .discarded).2.1
    (Or.inl (by rw [hend]; simp))
  exact ⟨p, n, hstart, hpath, hcounted, hsum.symm.trans hcounted⟩

end Session

end FrameLink
