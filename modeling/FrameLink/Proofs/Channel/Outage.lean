import FrameLink.Proofs.Channel.Spares

/-!
What an outage costs.

The receive thread is left alone from the read that fails until it rests. How the transport's next
attempts to connect come out decides how many of them there are: the thread stops at the first that
comes out well, and otherwise when the budget of the outage is spent. What earlier outages have cost
makes no difference, since the thread counts from nothing each time.
-/

namespace FrameLink

namespace Transport

/-- How an attempt to connect is going to come out, by the number of attempts before it. -/
def outcome (t : Transport) (k : Nat) : Except TransportError Unit := t.connects.getD k (.ok ())

variable {t : Transport} {e : TransportError}

lemma disconnect_of_none (h : t.current = none) : t.disconnect = t := by
  simp only [disconnect, h]

lemma name_disconnect (t : Transport) : t.disconnect.name = t.name := by
  unfold disconnect
  split <;> rfl

lemma connects_disconnect (t : Transport) : t.disconnect.connects = t.connects := by
  unfold disconnect
  split <;> rfl

lemma nextConnect_eq (t : Transport) :
    t.nextConnect = (t.outcome 0, { t with connects := t.connects.drop 1 }) := by
  obtain ⟨name, connects, writes, flushes, links, current⟩ := t
  cases connects <;> rfl

lemma outcome_drop (t : Transport) (k : Nat) :
    { t with connects := t.connects.drop k }.outcome 0 = t.outcome k := by
  simp [outcome, List.getD_eq_getElem?_getD]

lemma connect_of_error (h : t.current = none) (he : t.outcome 0 = .error e) :
    t.connect = (.error e, { t with connects := t.connects.drop 1 }) := by
  simp only [connect, disconnect_of_none h, nextConnect_eq, he]

lemma connect_of_ok (h : t.current = none) (ho : t.outcome 0 = .ok ()) :
    t.connect = (.ok t.links.length,
      { t with connects := t.connects.drop 1, links := t.links ++ [{}], current := some t.links.length }) := by
  simp only [connect, disconnect_of_none h, nextConnect_eq, ho]

/-- How the next attempts come out: one of them well, and the ones before it not, or none of so many. -/
lemma exists_first (t : Transport) (m : Nat) :
    (∀ i < m, ∃ e, t.outcome i = .error e) ∨
      ∃ k < m, (∀ i < k, ∃ e, t.outcome i = .error e) ∧ t.outcome k = .ok () := by
  induction m with
  | zero => exact Or.inl fun i hi => absurd hi (Nat.not_lt_zero i)
  | succ m ih =>
    rcases ih with hall | ⟨k, hk, hfirst⟩
    · cases hm : t.outcome m with
      | ok u => exact Or.inr ⟨m, Nat.lt_succ_self m, hall, hm⟩
      | error e =>
        refine Or.inl fun i hi => ?_
        rcases Nat.lt_succ_iff_lt_or_eq.mp hi with hlt | rfl
        · exact hall i hlt
        · exact ⟨e, hm⟩
    · exact Or.inr ⟨k, Nat.lt_succ_of_lt hk, hfirst⟩

end Transport

namespace Channel

variable {c c' d : Channel} {k n : Nat} {l : List Event}

/-! ### One attempt -/

lemma openLink_of_error {e : TransportError} (h : c.transport.current = none)
    (he : c.transport.outcome 0 = .error e) :
    c.openLink = (.error e, { c with
      transport := { c.transport with connects := c.transport.connects.drop 1 }
      trace := c.trace ++ [.refused c.transport.name] }) := by
  simp only [openLink, noteClosing, h, Transport.connect_of_error h he, note]

lemma openLink_of_ok (h : c.transport.current = none) (ho : c.transport.outcome 0 = .ok ()) :
    c.openLink = (.ok c.transport.links.length, { c with
      transport := { c.transport with
        connects := c.transport.connects.drop 1, links := c.transport.links ++ [{}]
        current := some c.transport.links.length }
      trace := c.trace ++ [.connected c.transport.name c.transport.links.length] }) := by
  simp only [openLink, noteClosing, h, Transport.connect_of_ok h ho, note]

lemma attempt_of_error {e : TransportError} (hp : c.pending = none) (h : c.transport.current = none)
    (he : c.transport.outcome 0 = .error e) :
    c.attempt k = { c with
      transport := { c.transport with connects := c.transport.connects.drop 1 }
      state := .disconnected
      receiver := .waiting (k + 1)
      trace := c.trace ++ [.refused c.transport.name] } := by
  have hopen := openLink_of_error (c := c.setState .connecting) h he
  simp only [attempt, hp, hopen]
  simp only [setState, hp]

lemma attempt_of_ok (hp : c.pending = none) (h : c.transport.current = none)
    (ho : c.transport.outcome 0 = .ok ()) :
    c.attempt k = { c with
      transport := { c.transport with
        connects := c.transport.connects.drop 1, links := c.transport.links ++ [{}]
        current := some c.transport.links.length }
      writer := some c.transport.links.length
      state := .connected
      receiver := .reading c.transport.links.length (Scanner.fresh c.config.limits) {}
      trace := c.trace ++ [.connected c.transport.name c.transport.links.length] } := by
  have hopen := openLink_of_ok (c := c.setState .connecting) h ho
  simp only [attempt, hp, hopen]
  simp only [setState, install, listen, Scanner.fresh, hp]

/-! ### The thread by itself -/

/-- So many turns of the receive thread, none of which brings a frame or finds nothing to do. -/
inductive Moves (c : Channel) : Nat → Channel → Prop where
  | refl : Moves c 0 c
  | tail {k : Nat} {d d' : Channel} (run : Moves c k d) (turn : d.turn = (.moved, d')) : Moves c (k + 1) d'

/-- The thread finds its link lost: the read fails, no other link waits for it, and it is not to stop. -/
structure Lost (c : Channel) : Prop where
  fails : ∃ n scanner seen e, c.receiver = .reading n scanner seen ∧ (c.readOn n scanner seen).1 = .failed e
  running : c.receiving = true
  unawaited : c.pending = none
  wanted : c.halted = false

/-- The channel is up on a link that nothing has passed over, with a reader and a writer of its own. -/
structure Fresh (c : Channel) (n : Nat) : Prop where
  state : c.state = .connected
  current : c.transport.current = some n
  link : c.transport.link n = {}
  writer : c.writer = some n
  receiver : c.receiver = .reading n (Scanner.fresh c.config.limits) {}
  running : c.receiving = true
  unawaited : c.pending = none
  wanted : c.halted = false

/-- The channel is down, and the thread is about to begin with its attempts. -/
structure Seeking (c : Channel) : Prop where
  waits : c.receiver = .waiting 0
  unawaited : c.pending = none
  wanted : c.halted = false
  closed : c.transport.current = none
  writer : c.writer = none
  state : c.state = .disconnected

/-- The channel after refused attempts, and nothing else. -/
def refused (c : Channel) (k : Nat) : Channel :=
  { c with
    transport := { c.transport with connects := c.transport.connects.drop k }
    counters := { c.counters with reconnectAttempts := c.counters.reconnectAttempts + k }
    receiver := .waiting k
    trace := c.trace ++ List.replicate k (.refused c.transport.name) }

/-- The channel on a new link, after refused attempts and one that came out well. -/
def reopened (c : Channel) (k : Nat) : Channel :=
  let fresh := c.transport.links.length
  { c with
    transport := { c.transport with
      connects := c.transport.connects.drop (k + 1), links := c.transport.links ++ [{}]
      current := some fresh }
    writer := some fresh
    state := .connected
    counters := { c.counters with reconnectAttempts := c.counters.reconnectAttempts + (k + 1) }
    receiver := .reading fresh (Scanner.fresh c.config.limits) {}
    trace := c.trace ++ List.replicate k (.refused c.transport.name) ++ [.connected c.transport.name fresh] }

/-- The channel without a thread, after refused attempts. -/
def givenUp (c : Channel) (k : Nat) : Channel :=
  { c.refused k with receiving := false, receiver := .ended }

namespace Seeking

lemma refused_zero (h : c.Seeking) : c.refused 0 = c := by
  obtain ⟨hwaits, -, -, -, -, -⟩ := h
  obtain ⟨config, transport, pending, receiving, writer, state, halted, registry, last, joinable,
    counters, receiver, spawns, trace⟩ := c
  simp only at hwaits
  simp [refused, hwaits]

/-- A turn behind refused attempts is the next attempt, if one is left. -/
lemma turn_eq (h : c.Seeking) (left : c.config.isExhausted k = false) :
    (c.refused k).turn = (.moved, (c.refused k).countAttempt.attempt k) := by
  simp only [turn, retry, refused, left, h.wanted, Bool.or_self, Bool.false_eq_true, if_false]

lemma turn_refused (h : c.Seeking) (left : c.config.isExhausted k = false)
    (he : ∃ e, c.transport.outcome k = .error e) :
    (c.refused k).turn = (.moved, c.refused (k + 1)) := by
  obtain ⟨e, he⟩ := he
  have hattempt := attempt_of_error (c := (c.refused k).countAttempt) (k := k) h.unawaited h.closed
    ((Transport.outcome_drop c.transport k).trans he)
  rw [h.turn_eq left, hattempt]
  simp [refused, countAttempt, count, h.state, List.replicate_succ', Nat.add_assoc]

/-- The next attempt comes out well. -/
lemma turn_reopened (h : c.Seeking) (left : c.config.isExhausted k = false)
    (ho : c.transport.outcome k = .ok ()) : (c.refused k).turn = (.moved, c.reopened k) := by
  have hattempt := attempt_of_ok (c := (c.refused k).countAttempt) (k := k) h.unawaited h.closed
    ((Transport.outcome_drop c.transport k).trans ho)
  rw [h.turn_eq left, hattempt]
  simp [refused, reopened, countAttempt, count, Nat.add_assoc]

/-- No attempt is left. -/
lemma turn_givenUp (h : c.Seeking) (spent : c.config.isExhausted k = true) :
    (c.refused k).turn = (.moved, c.givenUp k) := by
  simp [turn, retry, refused, spent, retire, h.wanted, h.unawaited, dropPending, givenUp, h.state, setState]

/-- As long as attempts are left, and are refused, there is one in each turn. -/
lemma moves (h : d.Seeking) (first : c.Moves 1 d)
    (refused : ∀ i < k, ∃ e, d.transport.outcome i = .error e)
    (left : ∀ i < k, d.config.isExhausted i = false) : c.Moves (k + 1) (d.refused k) := by
  induction k with
  | zero => rwa [h.refused_zero]
  | succ k ih =>
    have hk := Nat.lt_succ_self k
    have hmoves := ih (fun i hi => refused i (Nat.lt_succ_of_lt hi)) fun i hi => left i (Nat.lt_succ_of_lt hi)
    exact hmoves.tail (h.turn_refused (left k hk) (refused k hk))

end Seeking

/-! ### The loss of a link -/

/-- A read that fails on the open link is a loss: the thread reads the latest link, and a halt would have
closed it. -/
theorem lost_of_open {s : Session} (h : s.Sound) (plain : ¬ s.caller.IsTaking) {scanner : Scanner}
    {seen : ScanTally} {e : FrameError} (hreads : s.channel.receiver = .reading n scanner seen)
    (hopen : s.channel.transport.current = some n)
    (hfails : (s.channel.readOn n scanner seen).1 = .failed e) : s.channel.Lost := by
  have hn : s.channel.wiring.receiver.Reads n := by
    change s.channel.receiver.Reads n
    rw [hreads]
    rfl
  have hheld := h.held plain
  have hrunning : s.channel.wiring.receiving = true := h.ordered.receiving_iff.mpr fun hended => by
    rw [hended] at hn
    exact hn
  refine ⟨⟨n, scanner, seen, e, hreads, hfails⟩, hrunning, ?_, ?_⟩
  · rcases hheld.reader_of_current n hopen with hpending | ⟨hnone, -⟩
    · exact absurd (h.ordered.reads_lt_pending n n hn hpending) (Nat.lt_irrefl n)
    · exact hnone
  · by_contra hhalted
    have hnone := hheld.current_of_halted (Bool.not_eq_false _ ▸ hhalted)
    simp [wiring, hopen] at hnone

/-- A read that fails behind a `disconnect` is a loss. -/
theorem lost_of_disconnect {scanner : Scanner} {seen : ScanTally} {e : FrameError}
    (hreads : c.receiver = .reading n scanner seen) (running : c.receiving = true)
    (wanted : c.halted = false) (hfails : (c.disconnect.readOn n scanner seen).1 = .failed e) :
    c.disconnect.Lost := by
  have hw := wiring_disconnect c
  exact ⟨⟨n, scanner, seen, e, (congrArg Wiring.receiver hw).trans hreads, hfails⟩,
    (congrArg Wiring.receiving hw).trans running, congrArg Wiring.pending hw,
    (congrArg Wiring.halted hw).trans wanted⟩

/-- What the loss of a link leaves as it was; it is noted that the link is closed. -/
structure Leaves (c d : Channel) (closing : List Event) : Prop where
  config : d.config = c.config
  name : d.transport.name = c.transport.name
  connects : d.transport.connects = c.transport.connects
  links : d.transport.links.length = c.transport.links.length
  receiving : d.receiving = c.receiving
  spawns : d.spawns = c.spawns
  attempts : d.counters.reconnectAttempts = c.counters.reconnectAttempts
  trace : d.trace = c.trace ++ closing

lemma turn_of_failed {scanner : Scanner} {seen : ScanTally} {e : FrameError}
    (hreads : c.receiver = .reading n scanner seen) (hfails : (c.readOn n scanner seen).1 = .failed e) :
    c.turn = (.moved, (c.readOn n scanner seen).2.recover) := by
  cases hread : c.readOn n scanner seen with
  | mk outcome d =>
    obtain rfl : outcome = .failed e := by rw [← hfails, hread]
    simp only [turn, hreads, hread]

/-- A read has no part in what an outage costs. -/
lemma leaves_readOn (c : Channel) (n : Nat) (scanner : Scanner) (seen : ScanTally) :
    c.Leaves (c.readOn n scanner seen).2 [] ∧
      (c.readOn n scanner seen).2.transport.current = c.transport.current ∧
      (c.readOn n scanner seen).2.pending = c.pending ∧
      (c.readOn n scanner seen).2.halted = c.halted := by
  unfold readOn
  dsimp only
  split
  all_goals
    refine ⟨⟨rfl, rfl, rfl, ?_, rfl, rfl, rfl, (List.append_nil _).symm⟩, rfl, rfl, rfl⟩
    exact List.length_modify _ _ _

/-- The channel goes down with its link, and the thread begins with its attempts. -/
lemma seeking_recover (hpending : c.pending = none) (hhalted : c.halted = false) :
    c.recover.Seeking ∧ c.Leaves c.recover c.closing := by
  have hrecover : c.recover =
      { c.closeLink.dropWriter.setState .disconnected with receiver := .waiting 0 } := by
    simp only [recover, takeOver, hhalted, hpending, Bool.false_eq_true, if_false]
  rw [closeLink_eq] at hrecover
  rw [hrecover]
  refine ⟨⟨rfl, hpending, hhalted, Transport.current_disconnect _, rfl, rfl⟩,
    ⟨rfl, Transport.name_disconnect _, Transport.connects_disconnect _, Transport.length_disconnect _,
      rfl, rfl, rfl, rfl⟩⟩

/-- In the turn in which the read fails the thread comes to look for another link. -/
lemma Lost.turn (h : c.Lost) : ∃ d, c.turn = (.moved, d) ∧ d.Seeking ∧ c.Leaves d c.closing := by
  obtain ⟨⟨n, scanner, seen, e, hreads, hfails⟩, -, hpending, hhalted⟩ := h
  obtain ⟨hread, hcurrent, hpending', hhalted'⟩ := leaves_readOn c n scanner seen
  obtain ⟨hseeking, hleft⟩ := seeking_recover (hpending'.trans hpending) (hhalted'.trans hhalted)
  have hclosing : (c.readOn n scanner seen).2.closing = c.closing := by
    rw [closing, closing, hcurrent, hread.name]
  rw [hclosing] at hleft
  exact ⟨_, turn_of_failed hreads hfails, hseeking, hleft.config.trans hread.config,
    hleft.name.trans hread.name, hleft.connects.trans hread.connects, hleft.links.trans hread.links,
    hleft.receiving.trans hread.receiving, hleft.spawns.trans hread.spawns, hleft.attempts.trans hread.attempts,
    by rw [hleft.trace, hread.trace, List.append_nil]⟩

/-! ### Rest -/

/-- On a link that nothing has passed over the thread waits for bytes. -/
lemma Fresh.rests (h : c.Fresh n) : c.turn.1 = .resting := by
  refine Session.resting_of_blocked h.receiver ?_
  have hsource : c.wiring.source n = { isLive := true } := by rw [source_wiring, h.link]
  rw [(wiring_readOn c n _ _).1, hsource, (Reader.readFrame_blocked rfl rfl).1]

lemma fresh_reopened (h : c.Seeking) (running : c.receiving = true) (k : Nat) :
    (c.reopened k).Fresh c.transport.links.length where
  state := rfl
  current := rfl
  link := by simp [reopened, Transport.link]
  writer := rfl
  receiver := rfl
  running := running
  unawaited := h.unawaited
  wanted := h.wanted

lemma establish_of_ok (hopen : (c.setState .connecting).openLink = (.ok n, d)) (idle : d.receiving = false) :
    c.establish = ((d.install n).setState .connected).start n := by
  simp only [establish, hopen]
  exact if_neg (by simp [setState, install, idle])

lemma fresh_start (state : c.state = .connected) (current : c.transport.current = some n)
    (link : c.transport.link n = {}) (writer : c.writer = some n) (unawaited : c.pending = none)
    (wanted : c.halted = false) (spawns : c.spawns.headD (.ok ()) = .ok ()) :
    (c.start n).1 = .ok () ∧ (c.start n).2.Fresh n := by
  unfold start
  split
  · exact ⟨rfl, state, current, link, writer, rfl, rfl, unawaited, wanted⟩
  · exact ⟨rfl, state, current, link, writer, rfl, rfl, unawaited, wanted⟩
  · next e rest h => simp [h] at spawns

/-- A `connect` that comes out well where there is no thread starts one on the new link. -/
lemma fresh_connect (idle : c.receiving = false) (unawaited : c.pending = none)
    (closed : c.transport.current = none) (opens : c.transport.outcome 0 = .ok ())
    (spawns : c.spawns.headD (.ok ()) = .ok ()) :
    c.connect.1 = .ok () ∧ c.connect.2.Fresh c.transport.links.length := by
  have hopen := openLink_of_ok (c := (c.setHalted false).setState .connecting) closed opens
  rw [connect, establish_of_ok hopen idle]
  exact fresh_start rfl rfl (by simp [setState, setHalted, install, Transport.link]) rfl unawaited rfl spawns

/-! ### Outages -/

/-- What is behind an outage with so many refused attempts and a last one that came out well. -/
structure Regained (c : Channel) (k : Nat) (c' : Channel) : Prop where
  fresh : c'.Fresh c.transport.links.length
  trace : c'.trace = c.trace ++ c.closing ++ List.replicate k (.refused c.transport.name) ++
    [.connected c.transport.name c.transport.links.length]
  connects : c'.transport.connects = c.transport.connects.drop (k + 1)
  attempts : c'.counters.reconnectAttempts = c.counters.reconnectAttempts + (k + 1)

/-- What is behind an outage with so many refused attempts and no other. -/
structure GivenUp (c : Channel) (k : Nat) (c' : Channel) : Prop where
  state : c'.state = .disconnected
  ended : c'.receiver = .ended
  idle : c'.receiving = false
  closed : c'.transport.current = none
  writer : c'.writer = none
  unawaited : c'.pending = none
  links : c'.transport.links.length = c.transport.links.length
  spawns : c'.spawns = c.spawns
  trace : c'.trace = c.trace ++ c.closing ++ List.replicate k (.refused c.transport.name)
  connects : c'.transport.connects = c.transport.connects.drop k
  attempts : c'.counters.reconnectAttempts = c.counters.reconnectAttempts + k

lemma Leaves.outcome (h : c.Leaves d l) (k : Nat) : d.transport.outcome k = c.transport.outcome k := by
  rw [Transport.outcome, h.connects, Transport.outcome]

/-- The turns of an outage, as long as attempts are left and are refused. -/
lemma Lost.moves (h : c.Lost) (refused : ∀ i < k, ∃ e, c.transport.outcome i = .error e)
    (left : ∀ i < k, c.config.isExhausted i = false) :
    ∃ d, d.Seeking ∧ c.Leaves d c.closing ∧ c.Moves (k + 1) (d.refused k) := by
  obtain ⟨d, hturn, hd, hleft⟩ := h.turn
  refine ⟨d, hd, hleft, hd.moves (.tail .refl hturn) (fun i hi => ?_) fun i hi => ?_⟩
  · rw [hleft.outcome]
    exact refused i hi
  · rw [hleft.config]
    exact left i hi

lemma left_of_budget {config : ChannelConfig} (h : ∀ m, config.maxAttempts = some m → k < m) :
    config.isExhausted k = false := by
  unfold ChannelConfig.isExhausted
  split
  · next m hm => simpa using h m hm
  · rfl

/-- An attempt comes out well before the budget is spent. -/
lemma Lost.regains (h : c.Lost) (refused : ∀ i < k, ∃ e, c.transport.outcome i = .error e)
    (opens : c.transport.outcome k = .ok ()) (budget : ∀ m, c.config.maxAttempts = some m → k < m) :
    ∃ c', c.Moves (k + 2) c' ∧ c'.turn.1 = .resting ∧ c.Regained k c' := by
  have hleft (i : Nat) (hi : i ≤ k) : c.config.isExhausted i = false :=
    left_of_budget fun m hm => Nat.lt_of_le_of_lt hi (budget m hm)
  obtain ⟨d, hd, hleaves, hmoves⟩ := h.moves refused fun i hi => hleft i (Nat.le_of_lt hi)
  have hlast := hd.turn_reopened (hleaves.config ▸ hleft k (Nat.le_refl k))
    ((hleaves.outcome k).trans opens)
  have hfresh := fresh_reopened hd (hleaves.receiving.trans h.running) k
  refine ⟨d.reopened k, hmoves.tail hlast, hfresh.rests, hleaves.links ▸ hfresh, ?_, ?_, ?_⟩
  · rw [← hleaves.trace, ← hleaves.name, ← hleaves.links]
    rfl
  · rw [← hleaves.connects]
    rfl
  · rw [← hleaves.attempts]
    rfl

/-- The budget is spent, and no attempt has come out well. -/
lemma Lost.gives_up (h : c.Lost) (budget : c.config.maxAttempts = some k)
    (refused : ∀ i < k, ∃ e, c.transport.outcome i = .error e) :
    ∃ c', c.Moves (k + 2) c' ∧ c'.turn.1 = .resting ∧ c.GivenUp k c' := by
  have hleft (i : Nat) (hi : i < k) : c.config.isExhausted i = false :=
    left_of_budget fun m hm => Option.some.inj (budget.symm.trans hm) ▸ hi
  have hspent : c.config.isExhausted k = true := by simp [ChannelConfig.isExhausted, budget]
  obtain ⟨d, hd, hleaves, hmoves⟩ := h.moves refused hleft
  have hlast := hd.turn_givenUp (hleaves.config ▸ hspent)
  refine ⟨d.givenUp k, hmoves.tail hlast, rfl, hd.state, rfl, rfl, hd.closed, hd.writer, hd.unawaited,
    hleaves.links, hleaves.spawns, ?_, ?_, ?_⟩
  · rw [← hleaves.trace, ← hleaves.name]
    rfl
  · rw [← hleaves.connects]
    rfl
  · rw [← hleaves.attempts]
    rfl

/-- **Each outage has a budget of its own.** The read of a link fails, and the thread is left alone until
it rests. If the first attempt that comes out well is the one behind `k` others, and the budget allows for
it, there are `k + 1` attempts, and the channel is up on a new link. If none that the budget allows for
comes out well, there are just these, and the channel is down without a thread; a later `connect` starts
one. With a budget the thread comes to rest in any case. What was before the outage makes no difference. -/
theorem budget_anew_each_outage (c : Channel) (lost : c.Lost) :
    (∀ k, (∀ i < k, ∃ e, c.transport.outcome i = .error e) → c.transport.outcome k = .ok () →
      (∀ m, c.config.maxAttempts = some m → k < m) →
      ∃ c', c.Moves (k + 2) c' ∧ c'.turn.1 = .resting ∧ c.Regained k c') ∧
    (∀ m, c.config.maxAttempts = some m → (∀ i < m, ∃ e, c.transport.outcome i = .error e) →
      ∃ c', c.Moves (m + 2) c' ∧ c'.turn.1 = .resting ∧ c.GivenUp m c' ∧
        (c'.transport.outcome 0 = .ok () → c'.spawns.headD (.ok ()) = .ok () →
          c'.connect.1 = .ok () ∧ c'.connect.2.Fresh c.transport.links.length)) ∧
    ∀ m, c.config.maxAttempts = some m → ∃ k ≤ m, ∃ c', c.Moves (k + 2) c' ∧ c'.turn.1 = .resting := by
  refine ⟨fun k refused opens budget => lost.regains refused opens budget, fun m budget refused => ?_,
    fun m budget => ?_⟩
  · obtain ⟨c', hmoves, hrests, hc'⟩ := lost.gives_up budget refused
    refine ⟨c', hmoves, hrests, hc', fun opens spawns => ?_⟩
    rw [← hc'.links]
    exact fresh_connect hc'.idle hc'.unawaited hc'.closed opens spawns
  · rcases Transport.exists_first c.transport m with refused | ⟨k, hk, refused, opens⟩
    · obtain ⟨c', hmoves, hrests, -⟩ := lost.gives_up budget refused
      exact ⟨m, Nat.le_refl m, c', hmoves, hrests⟩
    · have hbudget (m' : Nat) (hm' : c.config.maxAttempts = some m') : k < m' :=
        Option.some.inj (budget.symm.trans hm') ▸ hk
      obtain ⟨c', hmoves, hrests, -⟩ := lost.regains refused opens hbudget
      exact ⟨k, Nat.le_of_lt hk, c', hmoves, hrests⟩

/-- A link is given up by `disconnect`, with a budget of two attempts: the second comes out well, or none
does, and then the channel is connected anew. -/
theorem budget_anew_each_outage_after_disconnect :
    let config : ChannelConfig := { maxAttempts := some 2 }
    let down (after : List (Except TransportError Unit)) : Channel :=
      (Session.start config "far" (.ok () :: after) [] [] []).channel.connect.2.disconnect
    let c := down [.error .closed, .ok ()]
    let d := down [.error .closed, .error .closed, .ok ()]
    c.Lost ∧ d.Lost ∧
    (∃ c', c.Moves 3 c' ∧ c'.turn.1 = .resting ∧ c.Regained 1 c') ∧
    (∃ d', d.Moves 4 d' ∧ d'.turn.1 = .resting ∧ d.GivenUp 2 d' ∧ d'.connect.2.Fresh 1) := by
  intro config down c d
  have hlost (after : List (Except TransportError Unit)) : (down after).Lost := by
    refine lost_of_disconnect (n := 0) (e := .connectionClosed) rfl rfl rfl ?_
    rw [(wiring_readOn _ _ _ _).1, Reader.readFrame_eq_atEnd rfl]
    rfl
  obtain ⟨hregains, -⟩ := budget_anew_each_outage c (hlost _)
  obtain ⟨-, hgives_up, -⟩ := budget_anew_each_outage d (hlost _)
  have hc : ∀ i < 1, ∃ e, c.transport.outcome i = .error e := fun i hi => by
    obtain rfl : i = 0 := Nat.lt_one_iff.mp hi
    exact ⟨.closed, rfl⟩
  have hd : ∀ i < 2, ∃ e, d.transport.outcome i = .error e := fun i hi => by
    have hi : i = 0 ∨ i = 1 := by omega
    rcases hi with rfl | rfl <;> exact ⟨.closed, rfl⟩
  obtain ⟨d', hmoves, hrests, hd', hlater⟩ := hgives_up 2 rfl hd
  have hopens : d'.transport.outcome 0 = .ok () := by
    rw [Transport.outcome, hd'.connects]
    rfl
  exact ⟨hlost _, hlost _, hregains 1 hc rfl fun m hm => Option.some.inj hm ▸ Nat.one_lt_two,
    d', hmoves, hrests, hd', (hlater hopens (by rw [hd'.spawns]; rfl)).2⟩

end Channel

end FrameLink
