import FrameLink.Proofs.Channel.Calm

/-!
Who receives on a channel that is used by many at once.

The link that is open, the one that waits and the mark that a thread is there are kept behind the link
lock. A thread is started only while the mark is down, and takes the mark down before it goes: so there is
never more than one that is at work, although nothing but the mark keeps a call from starting another.
-/

namespace FrameLink

/-! ### Behind the link lock -/

/-- What the calls and the receive thread share behind the link lock. -/
structure Berth where
  current : Option Nat
  pending : Option Nat
  receiving : Bool

def Wiring.berth (w : Wiring) : Berth := ⟨w.current, w.pending, w.receiving⟩

namespace Channel

def berth (c : Channel) : Berth := c.wiring.berth

variable {c c' : Channel} {n : Nat}

lemma berth_closeLink (c : Channel) : c.closeLink.berth = { c.berth with current := none } :=
  congrArg Wiring.berth (wiring_closeLink c)

lemma receiver_closeLink (c : Channel) : c.closeLink.receiver = c.receiver :=
  congrArg Wiring.receiver (wiring_closeLink c)

lemma receiver_openLink {r : Except TransportError Nat} (h : c.openLink = (r, c')) :
    c'.receiver = c.receiver := by
  rcases openLink_wiring c with ⟨t, ht, hw⟩ | ⟨e, t, ht, hw⟩
  all_goals
    obtain ⟨-, rfl⟩ := Prod.mk.inj (ht.symm.trans h)
    exact congrArg Wiring.receiver hw

/-- A link that is opened has a new number. -/
lemma berth_openLink_ok (h : c.openLink = (.ok n, c')) :
    c'.berth = { c.berth with current := some n } ∧ c.transport.links.length = n := by
  rcases openLink_wiring c with ⟨t, ht, hw⟩ | ⟨e, t, ht, -⟩
  · obtain ⟨hn, rfl⟩ := Prod.mk.inj (ht.symm.trans h)
    obtain rfl : c.wiring.sources.length = n := Except.ok.inj hn
    exact ⟨(congrArg Wiring.berth hw :), (List.length_map _).symm⟩
  · simp [ht] at h

lemma berth_openLink_error {e : TransportError} (h : c.openLink = (.error e, c')) :
    c'.berth = { c.berth with current := none } := by
  rcases openLink_wiring c with ⟨t, ht, -⟩ | ⟨e, t, ht, hw⟩
  · simp [ht] at h
  · obtain ⟨-, rfl⟩ := Prod.mk.inj (ht.symm.trans h)
    exact congrArg Wiring.berth hw

lemma nextSpawn_eq {r : Except IoError Unit} (h : c.nextSpawn = (r, c')) :
    ∃ spawns, c' = { c with spawns } := by
  unfold nextSpawn at h
  split at h
  all_goals
    obtain ⟨-, rfl⟩ := Prod.mk.inj h
    exact ⟨_, rfl⟩

lemma berth_readOn {scanner : Scanner} {seen : ScanTally} {o : ReadOutcome}
    (h : c.readOn n scanner seen = (o, c')) : c'.berth = c.berth ∧ c'.receiver ≠ .ended := by
  obtain ⟨-, seen', hw⟩ := wiring_readOn c n scanner seen
  rw [h] at hw
  have hreceiver := congrArg Wiring.receiver hw
  exact ⟨(congrArg Wiring.berth hw :), fun he => absurd (hreceiver.symm.trans he) (by simp)⟩

lemma berth_passOn (c : Channel) (f : Frame) :
    (c.passOn f).2.berth = c.berth ∧ (c.passOn f).2.receiver = c.receiver := by
  unfold passOn
  repeat' split
  all_goals exact ⟨rfl, rfl⟩

lemma berth_vacate (c : Channel) : c.vacate.berth = c.berth ∧ c.vacate.receiver = .ended := by
  unfold vacate
  dsimp only
  split <;> exact ⟨rfl, rfl⟩

lemma Hears.berth (h : c.Hears c') : c'.berth = c.berth ∧ c'.receiver = c.receiver := by
  have hdeliver (item : Inbound) : (c.transport.deliver item).current = c.transport.current := by
    unfold Transport.deliver
    split <;> rfl
  have hkeeps {t : Transport} (ht : t.current = c.transport.current) :
      { c with transport := t }.berth = c.berth ∧ { c with transport := t }.receiver = c.receiver :=
    ⟨congrArg (Berth.mk · c.pending c.receiving) ht, rfl⟩
  cases h with
  | feed b =>
    refine hkeeps ?_
    unfold Transport.feed
    split
    · rfl
    · exact hdeliver _
  | failRead e => exact hkeeps (hdeliver _)
  | endInput =>
    refine hkeeps ?_
    unfold Transport.endInput
    split <;> rfl

end Channel

/-! ### Points of the work -/

/-- The party has opened a link, and has not handed it on yet. -/
def Point.Brings : Point → Nat → Prop
  | .connect (.opened n), m | .connect (.installed n), m | .connect (.unread n), m => n = m
  | _, _ => False

/-- The party is about to start a receive thread. -/
def Point.Starts : Point → Prop
  | .connect (.unread _) => True
  | _ => False

/-- The next section closes the link that is open: it connects, or disconnects, on its own or because it
terminates or a write has failed. -/
def Point.Cuts : Point → Prop
  | .connect .announced | .disconnect .begun | .terminate .announced
  | .send _ (.closing _ .begun) => True
  | _ => False

lemma Point.Brings.isConnect {p : Point} {n : Nat} (h : p.Brings n) : p.IsConnect := by
  cases p <;> trivial

lemma Point.Starts.isConnect {p : Point} (h : p.Starts) : p.IsConnect := by
  cases p <;> trivial

lemma Point.Brings.hasLink {p : Point} {n : Nat} (h : p.Brings n) : p.HasLink := by
  cases p with
  | connect stage => cases stage <;> first | exact h.elim | trivial
  | _ => exact h.elim

lemma Point.Starts.hasLink {p : Point} (h : p.Starts) : p.HasLink := by
  cases p with
  | connect stage => cases stage <;> first | exact h.elim | trivial
  | _ => exact h.elim

/-- The thread is looking for a link of its own, and has seen that none waits for it. -/
def Duty.Seeks : Duty → Prop
  | .checking _ => True
  | d => d.Opens

/-- The thread has taken down the mark that it is there, and only has to let go of the lock. -/
def Duty.isPast : Duty → Bool
  | .retired | .unwinding .closed | .unwinding .silenced => true
  | _ => false

lemma Duty.Seeks.hasLink {d : Duty} (h : d.Seeks) : d.HasLink := by
  cases d <;> first | exact h.elim | trivial

@[simp] lemma Duty.seeks_put (p : Point) (d : Duty) : (d.put p).Seeks ↔ d.Seeks := by
  cases d <;> rfl

@[simp] lemma Duty.isPast_put (p : Point) (d : Duty) : (d.put p).isPast = d.isPast := by
  cases d <;> rfl

lemma Duty.hasLink_of_isPast {d : Duty} (h : d.isPast = true) : d.HasLink := by
  cases d with
  | retired => trivial
  | unwinding stage => cases stage <;> trivial
  | _ => simp [isPast] at h

/-- A receive thread: where it is in its work, and what it reads or waits for. -/
structure Worker where
  duty : Duty := .idle
  receiver : Receiver := .ended

/-- The thread was started, and has not taken back the mark that it is there. -/
def Worker.isOn (w : Worker) : Bool := !w.duty.isPast && decide (w.receiver ≠ .ended)

section
variable {d d' : Duty} {r r' : Receiver}

lemma Worker.isOn_of_there (past : d.isPast = false) (there : r ≠ .ended) :
    (Worker.mk d r).isOn = true := by
  simp [isOn, past, there]

lemma Worker.not_isOn_of_past (past : d.isPast = true) : (Worker.mk d r).isOn = false := by
  simp [isOn, past]

@[simp] lemma Worker.not_isOn_ended : (Worker.mk d .ended).isOn = false := by simp [isOn]

lemma Worker.isOn_congr (past : d.isPast = d'.isPast) (same : r = r') :
    (Worker.mk d r).isOn = (Worker.mk d' r').isOn := by
  rw [isOn, isOn, past, same]

end

namespace Traffic

/-- The receive thread that was started last, if one was. -/
def worker (t : Traffic) : Worker := ⟨t.duty, t.channel.receiver⟩

variable {t u : Traffic} {who w : Party} {p : Point} {next : Next} {s : Shared} {d d' : Duty}
  {c : Channel} {n : Nat} {may : Call → Prop}

/-! ### What a section does behind the lock -/

/-- What a section of a call does behind the link lock. -/
inductive Serves (t : Traffic) (p : Point) (next : Next) (s : Shared) : Prop where
  | aside (berth : s.channel.berth = t.channel.berth)
      (receiver : s.channel.receiver = t.channel.receiver) (threads : s.threads = t.threads)
      (brings : ∀ n, next.point.Brings n → p.Brings n)
      (starts : next.point.Starts → t.channel.receiving = false)
  | opens {n : Nat} (here : p = .connect .announced) (there : next = .on (.connect (.opened n)))
      (berth : s.channel.berth = { t.channel.berth with current := some n })
      (new : t.channel.transport.links.length = n)
      (receiver : s.channel.receiver = t.channel.receiver) (threads : s.threads = t.threads)
  /-- The link is closed, and what waits may be dropped. -/
  | closes (here : p.Cuts ∨ p.Starts) (free : p.HasLink ∨ t.LinkFree)
      (brings : ∀ n, ¬ next.point.Brings n) (starts : ¬ next.point.Starts)
      (berth : ∃ pending, (pending = none ∨ pending = t.channel.pending) ∧
        s.channel.berth = ⟨none, pending, t.channel.receiving⟩)
      (receiver : s.channel.receiver = t.channel.receiver) (threads : s.threads = t.threads)
  | hands {n : Nat} (here : p = .connect (.installed n)) (there : next = .back .connect .done)
      (runs : t.channel.receiving = true)
      (berth : s.channel.berth = { t.channel.berth with pending := some n })
      (receiver : s.channel.receiver = t.channel.receiver) (threads : s.threads = t.threads)
  | spawns {n : Nat} (here : p = .connect (.unread n)) (there : next = .on (.connect .started))
      (berth : s.channel.berth = { t.channel.berth with receiving := true })
      (receiver : s.channel.receiver = (t.channel.listen n).receiver)
      (threads : s.threads = t.threads + 1)

lemma Closes.serves {stage : Closing} {q : Option Closing} (h : t.Closes stage q c)
    (here : stage = .begun → p.Cuts) (away : ¬ next.point.IsConnect) :
    t.Serves p next { t.toShared with channel := c } := by
  cases h with
  | close free =>
    exact .closes (.inl (here rfl)) (.inr free) (fun _ hn => away hn.isConnect)
      (fun hn => away hn.isConnect) ⟨none, .inl rfl, Channel.berth_closeLink _⟩
      (Channel.receiver_closeLink _) rfl
  | silence | shown =>
    exact .aside rfl rfl rfl (fun _ hn => absurd hn.isConnect away)
      fun hn => absurd hn.isConnect away

lemma Acts.serves (h : t.Acts who p next s) : t.Serves p next s := by
  have haway (hp : ¬ p.IsConnect) : ¬ next.point.IsConnect := fun hn => hp (h.isConnect hn)
  have haside {c : Channel} (hp : ¬ p.IsConnect) (hc : c.berth = t.channel.berth)
      (hr : c.receiver = t.channel.receiver) : t.Serves p next { t.toShared with channel := c } :=
    .aside hc hr rfl (fun _ hn => absurd hn.isConnect (haway hp))
      fun hn => absurd hn.isConnect (haway hp)
  have hflush {n r c} (flushes : t.channel.flushTo n = (r, c)) :
      c.berth = t.channel.berth ∧ c.receiver = t.channel.receiver := by
    obtain ⟨-, rfl⟩ := Prod.mk.inj flushes
    exact ⟨rfl, rfl⟩
  cases h with
  | disconnect closes | disconnected closes => exact closes.serves (fun hb => hb ▸ trivial) (haway id)
  | terminate acts =>
    cases acts with
    | close free =>
      exact .closes (.inl trivial) (.inr free) (fun _ => id) id
        ⟨none, .inl rfl, Channel.berth_closeLink _⟩ (Channel.receiver_closeLink _) rfl
    | _ => exact haside id rfl rfl
  | send sends =>
    cases sends with
    | flush flushes | flushInVain flushes => exact haside id (hflush flushes).1 (hflush flushes).2
    | close closes | finish closes => exact closes.serves (fun hb => hb ▸ trivial) (haway id)
    | _ => exact haside id rfl rfl
  | connect connects =>
    cases connects with
    | clear | lock | announce | fail | hold | silence | abandon =>
      exact .aside rfl rfl rfl (fun _ => False.elim) False.elim
    | install => exact .aside rfl rfl rfl (fun _ => id) False.elim
    | keep idle => exact .aside rfl rfl rfl (fun _ => id) fun _ => idle
    | dial opens =>
      obtain ⟨hberth, hnew⟩ := Channel.berth_openLink_ok opens
      exact .opens rfl rfl hberth hnew (Channel.receiver_openLink opens) rfl
    | dialInVain refuses =>
      exact .closes (.inl trivial) (.inl trivial) (fun _ => id) id
        ⟨_, .inr rfl, Channel.berth_openLink_error refuses⟩ (Channel.receiver_openLink refuses) rfl
    | handOver runs => exact .hands rfl rfl runs rfl rfl rfl
    | spawn spawns =>
      obtain ⟨rest, rfl⟩ := Channel.nextSpawn_eq spawns
      exact .spawns rfl rfl rfl rfl rfl
    | spawnInVain spawns =>
      obtain ⟨rest, rfl⟩ := Channel.nextSpawn_eq spawns
      exact .closes (.inr trivial) (.inl trivial) (fun _ => id) id
        ⟨_, .inr rfl, Channel.berth_closeLink _⟩ (Channel.receiver_closeLink _) rfl

lemma Begins.berth {call : Call} (h : t.Begins call next c) :
    c.berth = t.channel.berth ∧ c.receiver = t.channel.receiver := by
  cases h with
  | brief call brief => cases call <;> first | exact brief.elim | exact ⟨rfl, rfl⟩
  | _ => exact ⟨rfl, rfl⟩

lemma Begins.serves {call : Call} (h : t.Begins call next c) :
    t.Serves .free next { t.toShared with channel := c } := by
  obtain ⟨hberth, hr⟩ := h.berth
  cases h <;> exact .aside hberth hr rfl (fun _ => False.elim) False.elim

/-- What is behind the lock is changed by whoever has the lock. -/
lemma Serves.held (h : t.Serves p next s) :
    s.channel.berth = t.channel.berth ∨ p.HasLink ∨ t.LinkFree := by
  cases h with
  | aside berth => exact .inl berth
  | closes here free => exact .inr free
  | opens here | hands here | spawns here => exact .inr (.inl (here ▸ trivial))

/-- Only a call that starts a thread puts the mark up. -/
lemma Serves.mark (h : t.Serves p next s) :
    s.channel.receiving = t.channel.receiving ∧ s.channel.receiver = t.channel.receiver ∨
      p.Starts ∧ s.channel.receiving = true ∧ s.channel.receiver ≠ .ended := by
  cases h with
  | aside berth receiver | opens here there berth new receiver | hands here there runs berth receiver =>
    exact .inl ⟨congrArg Berth.receiving berth, receiver⟩
  | closes here free brings starts berth receiver =>
    obtain ⟨pending, -, hberth⟩ := berth
    exact .inl ⟨congrArg Berth.receiving hberth, receiver⟩
  | spawns here there berth receiver =>
    exact .inr ⟨here ▸ trivial, congrArg Berth.receiving berth, by simp [receiver, Channel.listen]⟩

/-- A link is left to wait only for a thread that is there. -/
lemma Serves.pending (h : t.Serves p next s) (hp : s.channel.pending ≠ none) :
    t.channel.pending ≠ none ∨ t.channel.receiving = true := by
  have hkeeps {b : Berth} (hberth : s.channel.berth = b) (hb : b.pending = t.channel.pending) :
      t.channel.pending ≠ none := hb ▸ (congrArg Berth.pending hberth).symm.trans_ne hp
  cases h with
  | aside berth | opens here there berth | spawns here there berth => exact .inl (hkeeps berth rfl)
  | hands here there runs => exact .inr runs
  | closes here free brings starts berth =>
    obtain ⟨pending, rfl | rfl, hberth⟩ := berth
    · exact absurd (congrArg Berth.pending hberth) hp
    · exact .inl (hkeeps hberth rfl)

lemma Serves.starts (h : t.Serves p next s) (hn : next.point.Starts) :
    s.channel.receiving = false := by
  cases h with
  | aside berth receiver threads brings starts =>
    exact (congrArg Berth.receiving berth).trans (starts hn)
  | closes here free brings starts => exact absurd hn starts
  | opens here there | hands here there | spawns here there =>
    subst there
    exact hn.elim

lemma Serves.brings (h : t.Serves p next s) (hn : next.point.Brings n) :
    s.channel.berth = t.channel.berth ∧ p.Brings n ∨ s.channel.transport.current = some n := by
  cases h with
  | aside berth receiver threads brings => exact .inl ⟨berth, brings n hn⟩
  | closes here free brings => exact absurd hn (brings n)
  | opens here there berth =>
    subst there
    obtain rfl := hn
    exact .inr (congrArg Berth.current berth)
  | hands here there | spawns here there =>
    subst there
    exact hn.elim

/-- What a section of the receive thread does behind the link lock. -/
inductive Shifts (t : Traffic) (d d' : Duty) (c : Channel) : Prop where
  | aside (berth : c.berth = t.channel.berth)
      (on : (Worker.mk d' c.receiver).isOn = (Worker.mk d t.channel.receiver).isOn)
      (seeks : d'.Seeks → d.Seeks ∨ t.channel.pending = none)
  /-- The link that waits is taken up. -/
  | takes {n : Nat} (free : d.HasLink ∨ t.LinkFree) (there : d' = .idle)
      (waits : t.channel.pending = some n) (channel : c = t.channel.dropPending.listen n)
      (on : (Worker.mk d t.channel.receiver).isOn = true)
  /-- While no link waits, one is opened or closed. -/
  | seeks (free : d.HasLink ∨ t.LinkFree) (none : t.channel.pending = none)
      (berth : ∃ current, c.berth = { t.channel.berth with current })
      (on : (Worker.mk d' c.receiver).isOn = (Worker.mk d t.channel.receiver).isOn)
  | retires (here : d = .retiring) (there : d' = .retired)
      (done : t.channel.halted = true ∨ t.channel.pending = none)
      (berth : c.berth = ⟨t.channel.transport.current, none, false⟩)
  | unwinds (free : t.LinkFree) (here : d = .unwinding .begun) (there : d' = .unwinding .closed)
      (berth : c.berth = ⟨none, none, false⟩)

/-- Only a thread that is there works. -/
lemma Turns.there (h : t.Turns d d' c) (ended : t.channel.receiver = .ended → d = .idle) :
    t.channel.receiver ≠ .ended := fun hr => by
  obtain rfl := ended hr
  cases h with
  | blocked reads | broken reads | heard reads => exact absurd (reads.symm.trans hr) (by simp)
  | giveUp waits | delayed waits => exact absurd (waits.symm.trans hr) (by simp)

lemma Turns.shifts (h : t.Turns d d' c) (ended : t.channel.receiver = .ended → d = .idle)
    (seeks : d.Seeks → t.channel.pending = none) : t.Shifts d d' c := by
  have hthere := h.there ended
  have hon (hd : d.isPast = false) : (Worker.mk d t.channel.receiver).isOn = true :=
    Worker.isOn_of_there hd hthere
  -- The thread stays on, or what it reads or waits for stays the same.
  have hstays {d' : Duty} {r : Receiver} (hr : r ≠ .ended) (hd : d.isPast = false)
      (hd' : d'.isPast = false) : (Worker.mk d' r).isOn = (Worker.mk d t.channel.receiver).isOn :=
    (Worker.isOn_of_there hd' hr).trans (hon hd).symm
  have hsame {d d' : Duty} {r : Receiver} (hr : r = t.channel.receiver) (hd : d'.isPast = d.isPast) :
      (Worker.mk d' r).isOn = (Worker.mk d t.channel.receiver).isOn := Worker.isOn_congr hd hr
  cases h with
  | blocked reads read | broken reads read | heard reads read =>
    obtain ⟨hberth, hr⟩ := Channel.berth_readOn read
    exact .aside hberth (hstays hr rfl rfl) False.elim
  | takeUp free waits | takeUpLate free waits =>
    exact .takes (.inr free) rfl waits rfl (hon rfl)
  | stay clear waits =>
    exact .takes (.inl trivial) rfl waits rfl (hon rfl)
  | close free none =>
    exact .seeks (.inr free) none ⟨_, Channel.berth_closeLink _⟩
      (hsame (Channel.receiver_closeLink _) rfl)
  | abort =>
    exact .seeks (.inl trivial) (seeks trivial) ⟨_, Channel.berth_closeLink _⟩
      (hsame (Channel.receiver_closeLink _) rfl)
  | dial opens =>
    exact .seeks (.inl trivial) (seeks trivial) ⟨_, (Channel.berth_openLink_ok opens).1⟩
      (hsame (Channel.receiver_openLink opens) rfl)
  | dialInVain refuses =>
    exact .seeks (.inl trivial) (seeks trivial) ⟨_, Channel.berth_openLink_error refuses⟩
      (hsame (Channel.receiver_openLink refuses) rfl)
  | retire done => exact .retires rfl rfl done rfl
  | unwind free => exact .unwinds free rfl rfl (Channel.berth_closeLink _)
  | lock free none => exact .aside rfl (hsame rfl rfl) fun _ => .inr none
  | announce | keep | install => exact .aside rfl (hsame rfl rfl) fun _ => .inl trivial
  | look =>
    split
    all_goals exact .aside rfl (hsame rfl rfl) False.elim
  | check =>
    split
    · exact .aside rfl (hsame rfl rfl) False.elim
    · exact .aside rfl (hsame rfl rfl) fun _ => .inl trivial
  | @passed f =>
    obtain ⟨hberth, hr⟩ := Channel.berth_passOn t.channel f
    rcases Duty.ofStage_cases (t.channel.passOn f).1 with h | h | ⟨_, h⟩
    all_goals
      rw [h]
      exact .aside hberth (hsame hr rfl) False.elim
  | handled e =>
    obtain ⟨hberth, hr⟩ : (t.channel.countHandled e).berth = t.channel.berth ∧
        (t.channel.countHandled e).receiver = t.channel.receiver := by
      cases e <;> exact ⟨rfl, rfl⟩
    exact .aside hberth (hsame hr rfl) False.elim
  | relayed r =>
    have hw := Channel.wiring_countRelayed t.channel r
    exact .aside (congrArg Wiring.berth hw :) (hsame (congrArg Wiring.receiver hw :) rfl) False.elim
  | panicked | giveUp | delayed | silence | leave | unwindWriter =>
    exact .aside rfl (hsame rfl rfl) False.elim
  | shown | wait | reconnect =>
    exact .aside rfl (hstays (by simp [Channel.listen]) rfl rfl) False.elim
  | vacate =>
    obtain ⟨hberth, hr⟩ := Channel.berth_vacate t.channel
    have hgone : (Worker.mk .idle t.channel.vacate.receiver).isOn = false := by simp [hr]
    exact .aside hberth (hgone.trans (Worker.not_isOn_of_past rfl).symm) False.elim
  | unwound =>
    exact .aside rfl (Worker.not_isOn_ended.trans (Worker.not_isOn_of_past rfl).symm) False.elim

/-- A thread that is gone has nothing left to do. -/
lemma Turns.ended (h : t.Turns d d' c) (ended : t.channel.receiver = .ended → d = .idle)
    (hc : c.receiver = .ended) : d' = .idle := by
  have hsame (hr : c.receiver = t.channel.receiver) : d' = .idle :=
    absurd (hr.symm.trans hc) (h.there ended)
  cases h with
  | broken reads read | heard reads read => exact absurd hc (Channel.berth_readOn read).2
  | passed => exact hsame (Channel.berth_passOn _ _).2
  | close | abort | unwind => exact hsame (Channel.receiver_closeLink _)
  | dial opens | dialInVain opens => exact hsame (Channel.receiver_openLink opens)
  | _ => first | rfl | exact hsame rfl

lemma Shifts.held (h : t.Shifts d d' c) : c.berth = t.channel.berth ∨ d.HasLink ∨ t.LinkFree := by
  cases h with
  | aside berth => exact .inl berth
  | takes free | seeks free => exact .inr free
  | retires here => exact .inr (.inl (here ▸ trivial))
  | unwinds free => exact .inr (.inr free)

/-- The thread takes the mark down when it goes, and not before. -/
lemma Shifts.mark (h : t.Shifts d d' c)
    (on : t.channel.receiving = (Worker.mk d t.channel.receiver).isOn) :
    c.receiving = (Worker.mk d' c.receiver).isOn := by
  cases h with
  | aside berth same => exact (congrArg Berth.receiving berth).trans (on.trans same.symm)
  | takes free there waits channel was =>
    subst there channel
    exact on.trans was
  | seeks free none berth same =>
    obtain ⟨current, hberth⟩ := berth
    exact (congrArg Berth.receiving hberth).trans (on.trans same.symm)
  | retires here there done berth | unwinds free here there berth =>
    subst there
    exact congrArg Berth.receiving berth

/-- The thread leaves nothing to wait once it has changed anything. -/
lemma Shifts.waits (h : t.Shifts d d' c) :
    c.berth = t.channel.berth ∧ (d'.Seeks → d.Seeks ∨ t.channel.pending = none) ∨
      c.pending = none := by
  cases h with
  | aside berth on seeks => exact .inl ⟨berth, seeks⟩
  | takes free there waits channel => exact .inr (congrArg Channel.pending channel)
  | seeks free none berth =>
    obtain ⟨current, hberth⟩ := berth
    exact .inr ((congrArg Berth.pending hberth).trans none)
  | retires here there done berth | unwinds free here there berth =>
    exact .inr (congrArg Berth.pending berth)

/-! ### The mark -/

/-- The mark behind the link lock is up as long as there is a thread at work. -/
structure Manned (t : Traffic) : Prop where
  sole : t.Sole Point.HasLink
  apart : t.duty.HasLink → t.Everyone fun _ p => ¬ p.HasLink
  on : t.channel.receiving = t.worker.isOn
  ended : t.channel.receiver = .ended → t.duty = .idle
  /-- A link waits only for a thread that is there. -/
  pending : t.channel.pending ≠ none → t.channel.receiving = true
  starts : t.Everyone fun _ p => p.Starts → t.channel.receiving = false
  brings : t.Everyone fun _ p => ∀ n, p.Brings n → t.channel.transport.current = some n
  seeks : t.duty.Seeks → t.channel.pending = none

@[simp] lemma isPast_after : (t.after who next s).duty.isPast = t.duty.isPast := by
  cases who with
  | caller i => rfl
  | thread => exact Duty.isPast_put _ _

lemma seeks_after : (t.after who next s).duty.Seeks ↔ t.duty.Seeks := by
  cases who with
  | caller i => rfl
  | thread => exact Duty.seeks_put _ _

lemma idle_after (h : t.duty = .idle) : (t.after who next s).duty = .idle := by
  cases who with
  | caller i => exact h
  | thread =>
    change t.duty.put next.point = .idle
    rw [h]
    rfl

/-- Something comes to hold of every party. -/
lemma Everyone.becomes {P Q : Party → Point → Prop} (h : t.Everyone P)
    (others : ∀ w q, w ≠ who → t.point w = some q → P w q → Q w q) (hnext : Q who next.point) :
    (t.after who next s).Everyone Q := by
  intro w q hq
  by_cases hw : w = who
  · subst hw
    rw [point_after_self, Option.map_eq_some_iff] at hq
    obtain ⟨_, -, rfl⟩ := hq
    exact hnext
  · rw [point_after_other hw] at hq
    exact others w q hw hq (h w q hq)

lemma Manned.after (h : t.Manned) (here : t.point who = some p) (serves : t.Serves p next s)
    (hlink : next.point.HasLink → p.HasLink ∨ t.LinkFree) : (t.after who next s).Manned := by
  -- Whoever else has the lock finds everything as it was.
  have hothers {w : Party} {q : Point} (hw : w ≠ who) (hq : t.point w = some q)
      (hheld : q.HasLink) : s.channel.berth = t.channel.berth := by
    rcases serves.held with hsame | hp | free
    · exact hsame
    · exact absurd (h.sole w who q p hq here hheld hp) hw
    · exact absurd hheld (free.1 w q hq)
  have hthread (hd : t.duty.HasLink) : s.channel.berth = t.channel.berth := by
    rcases serves.held with hsame | hp | free
    · exact hsame
    · exact absurd hp (h.apart hd who p here)
    · exact absurd hd free.2
  have hworker : (t.after who next s).worker.isOn = (Worker.mk t.duty s.channel.receiver).isOn :=
    Worker.isOn_congr isPast_after rfl
  exact {
    sole := h.sole.after here fun hn => (hlink hn).imp_right And.left
    apart := fun hd => (h.apart (hasLink_after.mp hd)).after fun hn =>
      (hlink hn).elim (h.apart (hasLink_after.mp hd) who p here) fun free =>
        free.2 (hasLink_after.mp hd)
    on := by
      rw [hworker]
      rcases serves.mark with ⟨hreceiving, hr⟩ | ⟨hp, hreceiving, hr⟩
      · rw [hr]
        exact hreceiving.trans h.on
      · have hpast : t.duty.isPast = false := Bool.eq_false_iff.mpr fun hpast =>
          h.apart (Duty.hasLink_of_isPast hpast) who p here hp.hasLink
        exact hreceiving.trans (Worker.isOn_of_there hpast hr).symm
    ended := fun hr => by
      rcases serves.mark with ⟨-, hsame⟩ | ⟨-, -, hne⟩
      · exact idle_after (h.ended (hsame.symm.trans hr))
      · exact absurd hr hne
    pending := fun hp => by
      have hbefore : t.channel.receiving = true := (serves.pending hp).elim h.pending id
      rcases serves.mark with ⟨hsame, -⟩ | ⟨-, hup, -⟩
      · exact hsame.trans hbefore
      · exact hup
    starts := h.starts.becomes
      (fun w q hw hq hnone hn =>
        (congrArg Berth.receiving (hothers hw hq hn.hasLink)).trans (hnone hn))
      serves.starts
    brings := h.brings.becomes
      (fun w q hw hq hcurrent n hn =>
        (congrArg Berth.current (hothers hw hq hn.hasLink)).trans (hcurrent n hn))
      fun n hn => (serves.brings hn).elim
        (fun hsame => (congrArg Berth.current hsame.1).trans (h.brings who p here n hsame.2)) id
    seeks := fun hd => by
      have hbefore := seeks_after.mp hd
      exact (congrArg Berth.pending (hthread hbefore.hasLink)).trans (h.seeks hbefore) }

/-- Where a party is after the thread has turned. -/
lemma point_turned {q : Point} (turns : t.Turns t.duty d' c)
    (hq : (t.turned d' c).point w = some q) : q = .free ∨ t.point w = some q := by
  cases w with
  | caller i => exact .inr hq
  | thread => exact .inl (turns.to_free hq)

lemma Manned.turned (h : t.Manned) (here : t.duty = d) (turns : t.Turns d d' c) :
    (t.turned d' c).Manned := by
  subst here
  have hshifts := turns.shifts h.ended h.seeks
  have hothers {w : Party} {q : Point} (hq : t.point w = some q) (hheld : q.HasLink) :
      c.berth = t.channel.berth := by
    rcases hshifts.held with hsame | hd | free
    · exact hsame
    · exact absurd hheld (h.apart hd w q hq)
    · exact absurd hheld (free.1 w q hq)
  exact {
    sole := h.sole.turned fun q hq => turns.to_free hq ▸ id
    apart := fun hd => by
      have hnone : t.Everyone fun _ p => ¬ p.HasLink := (turns.hasLink hd).elim h.apart And.left
      exact hnone.turned fun q hq => turns.to_free hq ▸ id
    on := hshifts.mark h.on
    ended := turns.ended h.ended
    pending := fun hp => by
      have hberth : c.berth = t.channel.berth := (hshifts.waits.resolve_right hp).1
      have hbefore := (congrArg Berth.pending hberth).symm.trans_ne hp
      exact (congrArg Berth.receiving hberth).trans (h.pending hbefore)
    starts := fun w q hq hn => by
      rcases point_turned turns hq with rfl | hbefore
      · exact hn.elim
      · exact (congrArg Berth.receiving (hothers hbefore hn.hasLink)).trans (h.starts w q hbefore hn)
    brings := fun w q hq n hn => by
      rcases point_turned turns hq with rfl | hbefore
      · exact hn.elim
      · exact (congrArg Berth.current (hothers hbefore hn.hasLink)).trans (h.brings w q hbefore n hn)
    seeks := fun hd => by
      rcases hshifts.waits with ⟨hberth, hseeks⟩ | hnone
      · exact (congrArg Berth.pending hberth).trans ((hseeks hd).elim h.seeks id)
      · exact hnone }

lemma Manned.step (h : t.Manned) (hs : t.Step may u) : u.Manned := by
  cases hs with
  | begins allowed here begins =>
    exact h.after here begins.serves fun hn => absurd hn begins.hasLink
  | acts here acts => exact h.after here acts.serves acts.hasLink
  | turns here turns => exact h.turned here turns
  | hears hears =>
    obtain ⟨hberth, hr⟩ := hears.berth
    have hcurrent := congrArg Berth.current hberth
    have hpending := congrArg Berth.pending hberth
    have hreceiving := congrArg Berth.receiving hberth
    exact {
      sole := h.sole
      apart := h.apart
      on := hreceiving.trans (h.on.trans (by rw [worker, worker, hr]))
      ended := fun he => h.ended (hr.symm.trans he)
      pending := fun hp => hreceiving.trans (h.pending (hpending.symm.trans_ne hp))
      starts := fun w q hq hn => hreceiving.trans (h.starts w q hq hn)
      brings := fun w q hq n hn => hcurrent.trans (h.brings w q hq n hn)
      seeks := fun hd => hpending.trans (h.seeks hd) }

lemma manned_start (config : ChannelConfig) (name : String)
    (connects : List (Except TransportError Unit)) (writes : List (Except IoError Nat))
    (flushes : List (Except IoError Unit)) (spawns : List (Except IoError Unit))
    (leaves : Source → Source) :
    (start config name connects writes flushes spawns leaves).Manned := by
  have hfree := start_free config name connects writes flushes spawns leaves
  exact {
    sole := fun w w' q q' hq hq' hheld => by
      rw [hfree w q hq] at hheld
      exact hheld.elim
    apart := False.elim
    on := rfl
    ended := fun _ => rfl
    pending := fun hp => absurd rfl hp
    starts := fun w q hq hn => by
      rw [hfree w q hq] at hn
      exact hn.elim
    brings := fun w q hq n hn => by
      rw [hfree w q hq] at hn
      exact hn.elim
    seeks := False.elim }

/-- Whoever is about to start a thread has found none that is there. -/
lemma Manned.vacant (h : t.Manned) (here : t.point who = some p) (hp : p.Starts) :
    t.channel.receiver = .ended := by
  have hpast : t.duty.isPast = false := Bool.eq_false_iff.mpr fun hpast =>
    h.apart (Duty.hasLink_of_isPast hpast) who p here hp.hasLink
  have hoff : t.worker.isOn = false := h.on.symm.trans (h.starts who p here hp)
  by_contra hr
  exact absurd ((Worker.isOn_of_there hpast hr).symm.trans hoff) (by simp)

/-- No thread is started while one is there. -/
lemma Manned.starts_idle (h : t.Manned) (hs : t.Step may u) (hmore : u.threads ≠ t.threads) :
    t.channel.receiver = .ended ∧ u.duty = .idle := by
  have hafter {who : Party} {p : Point} {next : Next} {s : Shared} (here : t.point who = some p)
      (serves : t.Serves p next s) (hmore : s.threads ≠ t.threads) :
      t.channel.receiver = .ended ∧ (t.after who next s).duty = .idle := by
    cases serves with
    | aside berth receiver threads | opens here there berth new receiver threads
    | closes here free brings starts berth receiver threads
    | hands here there runs berth receiver threads => exact absurd threads hmore
    | spawns hp =>
      have hvacant := h.vacant here (hp ▸ trivial)
      exact ⟨hvacant, idle_after (h.ended hvacant)⟩
  cases hs with
  | begins allowed here begins => exact hafter here begins.serves hmore
  | acts here acts => exact hafter here acts.serves hmore
  | turns | hears => exact absurd rfl hmore

end Traffic

end FrameLink
