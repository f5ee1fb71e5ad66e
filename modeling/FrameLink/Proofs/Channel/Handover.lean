import Mathlib.Data.Nat.Init
import FrameLink.Proofs.Channel.Manned
import FrameLink.Proofs.Channel.Torn

/-!
What becomes of the link that a connect comes back with.

Either the connect has started a receive thread on the link, or the link waits for the thread that there
is. A link that waits is the open one, and stays so until the thread takes it up, or someone closes it, or
the thread goes because the channel is halted. Whoever halts the channel sets the halt first and closes
the link later, and a connect can come between the two: it clears the halt, and its link is closed all the
same.
-/

namespace FrameLink

/-- The next section sets the halt: the party terminates, or its write has failed. -/
def Point.Stops : Point → Prop
  | .terminate .begun | .send _ (.failed _) => True
  | _ => False

/-- The party has set the halt, and has yet to close the link. -/
def Point.Halts : Point → Prop
  | .terminate .halted | .terminate .announced | .send _ (.closing _ .begun) => True
  | _ => False

/-- The next section closes the link that is open, for a connect or a disconnect. -/
def Point.Drops : Point → Prop
  | .connect .announced | .disconnect .begun => True
  | _ => False

lemma Point.Cuts.drops_or_halts {p : Point} (h : p.Cuts) : p.Drops ∨ p.Halts := by
  cases p with
  | connect stage | disconnect stage => cases stage <;> first | exact .inl trivial | exact h.elim
  | terminate stage => cases stage <;> first | exact .inr trivial | exact h.elim
  | send f stage =>
    cases stage with
    | closing e stage => cases stage <;> first | exact .inr trivial | exact h.elim
    | _ => exact h.elim
  | free => exact h.elim

lemma Sending.not_halts_afterWrite (f : Frame) (n : Nat) (rest : Bytes) (r : Except IoError Nat) :
    ¬ (Point.send f (.afterWrite n rest r)).Halts := by
  unfold afterWrite
  repeat' split
  all_goals exact id

lemma Sending.not_halts_afterFlush (f : Frame) (n : Nat) (e : IoError) :
    ¬ (Point.send f (.afterFlush n e)).Halts := by
  unfold afterFlush
  split <;> exact id

namespace Traffic

/-! ### What can happen to a link -/

/-- A call starts a receive thread on the link that it has opened. -/
structure Spawns (t : Traffic) (who : Party) (n : Nat) (u : Traffic) : Prop where
  here : t.point who = some (.connect (.unread n))
  there : u.point who = some (.connect .started)
  off : t.worker.isOn = false
  reads : u.channel.receiver = (t.channel.listen n).receiver
  threads : u.threads = t.threads + 1

/-- The receive thread takes up the link that waits for it. -/
structure TakesUp (t : Traffic) (n : Nat) (u : Traffic) : Prop where
  on : t.worker.isOn = true
  waits : t.channel.pending = some n
  channel : u.channel = t.channel.dropPending.listen n

/-- The link is closed: by a party that connects or disconnects, or because the thread is unwound. -/
structure Shuts (t : Traffic) (n : Nat) (u : Traffic) : Prop where
  before : t.channel.transport.current = some n
  after : u.channel.transport.current ≠ some n
  cause : (∃ who p, t.point who = some p ∧ p.Drops ∧ t.Moves who u) ∨
    t.duty = .unwinding .begun ∧ u.duty = .unwinding .closed

/-- A party sets the halt: it terminates, or its write has failed. -/
structure Stops (t : Traffic) (who : Party) (u : Traffic) : Prop where
  here : ∃ p, t.point who = some p ∧ p.Stops
  moves : t.Moves who u
  halted : u.channel.halted = true

/-- A party that has set the halt closes the link. -/
structure Fells (t : Traffic) (who : Party) (n : Nat) (u : Traffic) : Prop where
  here : ∃ p, t.point who = some p ∧ p.Halts
  moves : t.Moves who u
  before : t.channel.transport.current = some n
  after : u.channel.transport.current ≠ some n

variable {t u : Traffic} {who w : Party} {point : Point} {next : Next} {s : Shared} {d d' : Duty}
  {c : Channel} {may : Call → Prop} {p : Nat → Traffic} {n i j k m : Nat} {stage : Connecting}

/-! ### The halt -/

@[simp] lemma halted_closeLink (c : Channel) : c.closeLink.halted = c.halted :=
  congrArg Wiring.halted (Channel.wiring_closeLink c)

lemma halted_of_openLink {c c' : Channel} {r : Except TransportError Nat}
    (h : c.openLink = (r, c')) : c'.halted = c.halted := by
  rw [← Channel.halted_openLink c, h]

/-- Only a party that terminates, or whose write has failed, sets the halt. -/
lemma Acts.stops (h : t.Acts who point next s) (hs : s.channel.halted = true) :
    t.channel.halted = true ∨ point.Stops := by
  have hcloses {stage next c} (closes : t.Closes stage next c) (hc : c.halted = true) :
      t.channel.halted = true := by
    cases closes with
    | close => simpa [Channel.dropPending] using hc
    | silence | shown => exact hc
  cases h with
  | connect connects =>
    cases connects with
    | clear => exact absurd hs (by simp [Channel.setHalted])
    | dial opens | dialInVain opens => exact .inl ((halted_of_openLink opens).symm.trans hs)
    | spawn spawns =>
      obtain ⟨rest, rfl⟩ := Channel.nextSpawn_eq spawns
      exact .inl hs
    | spawnInVain spawns =>
      obtain ⟨rest, rfl⟩ := Channel.nextSpawn_eq spawns
      exact .inl (by simpa using hs)
    | _ => exact .inl hs
  | disconnect closes | disconnected closes => exact .inl (hcloses closes hs)
  | terminate acts =>
    cases acts with
    | halt => exact .inr trivial
    | close => exact .inl (by simpa [Channel.dropPending] using hs)
    | _ => exact .inl hs
  | send sends =>
    cases sends with
    | halt => exact .inr trivial
    | close closes | finish closes => exact .inl (hcloses closes hs)
    | flush flushes | flushInVain flushes =>
      obtain ⟨-, rfl⟩ := Prod.mk.inj flushes
      exact .inl hs
    | _ => exact .inl hs

/-- The thread leaves the halt as it is. -/
lemma Turns.halted_eq (h : t.Turns d d' c) : c.halted = t.channel.halted := by
  have hread {m scanner seen o c} (read : t.channel.readOn m scanner seen = (o, c)) :
      c.halted = t.channel.halted := by
    obtain ⟨-, seen', hw⟩ := Channel.wiring_readOn t.channel m scanner seen
    rw [read] at hw
    exact congrArg Wiring.halted hw
  cases h with
  | blocked _ read | broken _ read => exact hread read
  | heard _ read =>
    have hsame := hread read
    exact hsame
  | passed => exact congrArg Wiring.halted (Session.wiring_passOn t.channel _)
  | handled e => cases e <;> rfl
  | relayed r => cases r <;> rfl
  | close | abort | unwind => exact halted_closeLink _
  | dial opens | dialInVain opens => exact halted_of_openLink opens
  | vacate =>
    unfold Channel.vacate
    dsimp only
    split <;> rfl
  | _ => rfl

lemma Begins.halted_eq {call : Call} (h : t.Begins call next c) : c.halted = t.channel.halted := by
  cases h with
  | brief call brief => cases call <;> first | exact brief.elim | rfl
  | _ => rfl

lemma Step.stops (hs : t.Step may u) (hbefore : t.channel.halted = false)
    (hu : u.channel.halted = true) : ∃ who, t.Stops who u := by
  cases hs with
  | begins allowed here begins => exact absurd (begins.halted_eq.symm.trans hu) (by simp [hbefore])
  | acts here acts =>
    have hstops := (acts.stops hu).resolve_left (by simp [hbefore])
    exact ⟨_, ⟨_, here, hstops⟩, .acts here acts, hu⟩
  | turns here turns => exact absurd (turns.halted_eq.symm.trans hu) (by simp [hbefore])
  | hears hears => cases hears <;> exact absurd (hbefore.symm.trans hu) (by simp)

/-- A halt that is found was set after it had been clear. -/
lemma Path.exists_stops (h : Path p k) (hi : i ≤ k) (clear : (p i).channel.halted = false)
    (halted : (p k).channel.halted = true) :
    ∃ m who, i ≤ m ∧ m < k ∧ (p m).Stops who (p (m + 1)) := by
  induction k, hi using Nat.le_induction with
  | base => exact absurd (clear.symm.trans halted) (by simp)
  | succ k hik ih =>
    cases hk : (p k).channel.halted with
    | false =>
      obtain ⟨who, hstops⟩ := (h k (Nat.lt_succ_self k)).stops hk halted
      exact ⟨k, who, hik, Nat.lt_succ_self k, hstops⟩
    | true =>
      obtain ⟨m, who, him, hmk, hstops⟩ := ih (fun m hm => h m (Nat.lt_succ_of_lt hm)) hk
      exact ⟨m, who, him, Nat.lt_succ_of_lt hmk, hstops⟩

/-- A party that has set the halt in one step, and up to another has not closed the link yet. -/
structure Halting (p : Nat → Traffic) (who : Party) (h m : Nat) : Prop where
  stops : (p h).Stops who (p (h + 1))
  within : ∀ l, h < l → l ≤ m → ∃ q, (p l).point who = some q ∧ q.Halts

lemma Halting.succ {h : Nat} (hh : Halting p who h m) {q : Point}
    (here : (p (m + 1)).point who = some q) (halts : q.Halts) : Halting p who h (m + 1) where
  stops := hh.stops
  within l hl hm := by
    rcases Nat.lt_or_eq_of_le hm with hlt | rfl
    · exact hh.within l hl (Nat.le_of_lt_succ hlt)
    · exact ⟨q, here, halts⟩

lemma Begins.not_halts {call : Call} (h : t.Begins call next c) : ¬ next.point.Halts := by
  cases h <;> exact id

/-- Whoever has the halt set has set it in the section before, or had it set before that. -/
lemma Acts.halts (h : t.Acts who point next s) (hn : next.point.Halts) :
    point.Halts ∨ point.Stops ∧ s.channel.halted = true := by
  cases h with
  | connect connects => cases connects <;> exact hn.elim
  | disconnect | disconnected => exact hn.elim
  | terminate acts =>
    cases acts with
    | halt => exact .inr ⟨trivial, rfl⟩
    | announce => exact .inl trivial
    | _ => exact hn.elim
  | send sends =>
    cases sends with
    | halt => exact .inr ⟨trivial, rfl⟩
    | write => exact absurd hn (Sending.not_halts_afterWrite _ _ _ _)
    | flushInVain => exact absurd hn (Sending.not_halts_afterFlush _ _ _)
    | close closes => cases closes <;> exact hn.elim
    | _ => exact hn.elim

/-- Whoever has the halt set has set it in a step of the run, and gone on in that call since. -/
lemma Path.halting (h : Path p k) (free : (p 0).Everyone fun _ q => q = .free)
    (here : (p k).point who = some point) (halts : point.Halts) :
    ∃ m, m < k ∧ Halting p who m k := by
  induction k generalizing point with
  | zero =>
    obtain rfl := free who _ here
    exact halts.elim
  | succ k ih =>
    have hpath : Path p k := fun m hm => h m (Nat.lt_succ_of_lt hm)
    have hrests {q : Point} (hq : (p k).point who = some q) (hhalts : q.Halts) :
        ∃ m, m < k + 1 ∧ Halting p who m (k + 1) := by
      obtain ⟨m, hmk, hhalting⟩ := ih hpath hq hhalts
      exact ⟨m, Nat.lt_succ_of_lt hmk, hhalting.succ here halts⟩
    have hs : (p k).Step (fun _ => True) (p (k + 1)) := h k (Nat.lt_succ_self k)
    generalize hu : p (k + 1) = u at hs
    have hthere : u.point who = some point := hu ▸ here
    cases hs with
    | @begins w call next c allowed hw begins =>
      by_cases hwho : who = w
      · subst hwho
        obtain rfl := Option.some.inj ((point_after hw).symm.trans hthere)
        exact absurd halts begins.not_halts
      · exact hrests ((point_after_other hwho).symm.trans hthere) halts
    | @acts w q next s hw acts =>
      by_cases hwho : who = w
      · subst hwho
        obtain rfl := Option.some.inj ((point_after hw).symm.trans hthere)
        rcases acts.halts halts with hhalts | ⟨hstops, hhalted⟩
        · exact hrests hw hhalts
        · have hsets : (p k).Stops who (p (k + 1)) :=
            ⟨⟨q, hw, hstops⟩, hu ▸ .acts hw acts, hu ▸ hhalted⟩
          refine ⟨k, Nat.lt_succ_self k, hsets, fun l hl hm => ?_⟩
          obtain rfl : l = k + 1 := by omega
          exact ⟨_, here, halts⟩
      · exact hrests ((point_after_other hwho).symm.trans hthere) halts
    | turns hd turns =>
      subst hd
      rcases point_turned turns hthere with rfl | hsame
      · exact halts.elim
      · exact hrests hsame halts
    | hears => exact hrests hthere halts

/-! ### A link that waits -/

/-- The link waits for the thread, and is the open one. -/
def Waits (t : Traffic) (n : Nat) : Prop :=
  t.channel.pending = some n ∧ t.channel.transport.current = some n

lemma Waits.berth (h : t.Waits n) (hu : u.channel.berth = t.channel.berth) : u.Waits n :=
  ⟨(congrArg Berth.pending hu).trans h.1, (congrArg Berth.current hu).trans h.2⟩

/-- While a link waits, the thread is there. -/
lemma Waits.on (h : t.Waits n) (hm : t.Manned) : t.channel.receiving = true := hm.pending (by simp [h.1])

lemma Waits.acts (h : t.Waits n) (hm : t.Manned) (hr : t.Ranged) (here : t.point who = some point)
    (acts : t.Acts who point next s) :
    (t.after who next s).Waits n ∨ t.Shuts n (t.after who next s) ∨
      t.Fells who n (t.after who next s) := by
  have hmoves : t.Moves who (t.after who next s) := .acts here acts
  have hcuts (cuts : point.Cuts) (hne : s.channel.transport.current ≠ some n) :
      t.Shuts n (t.after who next s) ∨ t.Fells who n (t.after who next s) := by
    rcases cuts.drops_or_halts with hdrops | hhalts
    · exact .inl ⟨h.2, hne, .inl ⟨who, point, here, hdrops, hmoves⟩⟩
    · exact .inr ⟨⟨point, here, hhalts⟩, hmoves, h.2, hne⟩
  have hstarts (hp : point.Starts) : False :=
    absurd ((h.on hm).symm.trans (hm.starts who point here hp)) (by simp)
  cases acts.serves with
  | aside berth => exact .inl (h.berth berth)
  | opens hp there berth new =>
    refine .inr (hcuts (hp ▸ trivial) fun hn => ?_)
    obtain rfl := Option.some.inj ((congrArg Berth.current berth).symm.trans hn)
    exact absurd (hr.current _ h.2) (by omega)
  | closes hp free brings starts berth =>
    obtain ⟨pending, -, hberth⟩ := berth
    have hnone : s.channel.transport.current = none := congrArg Berth.current hberth
    exact .inr (hcuts (hp.resolve_right hstarts) (by simp [hnone]))
  | @hands m hp there runs berth =>
    obtain rfl : m = n := Option.some.inj ((hm.brings who point here m (hp ▸ rfl)).symm.trans h.2)
    exact .inl ⟨congrArg Berth.pending berth, (congrArg Berth.current berth).trans h.2⟩
  | spawns hp => exact (hstarts (hp ▸ trivial)).elim

lemma Waits.turns (h : t.Waits n) (hm : t.Manned) (turns : t.Turns t.duty d' c) :
    (t.turned d' c).Waits n ∨ t.TakesUp n (t.turned d' c) ∨ t.Shuts n (t.turned d' c) ∨
      t.channel.halted = true := by
  cases turns.shifts hm.ended hm.seeks with
  | aside berth => exact .inl (h.berth berth)
  | @takes m free there waits channel on =>
    obtain rfl : m = n := Option.some.inj (waits.symm.trans h.1)
    exact .inr (.inl ⟨on, waits, channel⟩)
  | seeks free none => exact absurd (h.1.symm.trans none) (by simp)
  | retires here there done =>
    exact .inr (.inr (.inr (done.resolve_right (by simp [h.1]))))
  | unwinds free here there berth =>
    have hnone : c.transport.current = none := congrArg Berth.current berth
    exact .inr (.inr (.inl ⟨h.2, fun hn => absurd (hnone.symm.trans hn) (by simp), .inr ⟨here, there⟩⟩))

/-- A link that waits goes on waiting, is taken up or closed, or the channel is halted. -/
lemma Waits.step (h : t.Waits n) (hm : t.Manned) (hr : t.Ranged) (hs : t.Step may u) :
    u.Waits n ∨ t.TakesUp n u ∨ t.Shuts n u ∨ (∃ who, t.Fells who n u) ∨
      t.channel.halted = true := by
  cases hs with
  | begins allowed here begins => exact .inl (h.berth begins.berth.1)
  | acts here acts =>
    rcases h.acts hm hr here acts with hwaits | hshuts | hfells
    · exact .inl hwaits
    · exact .inr (.inr (.inl hshuts))
    · exact .inr (.inr (.inr (.inl ⟨_, hfells⟩)))
  | turns here turns =>
    subst here
    exact (h.turns hm turns).imp_right (.imp_right (.imp_right .inr))
  | hears hears => exact .inl (h.berth hears.berth.1)

/-! ### A connect from its beginning -/

/-- A party is in a connect that has cleared the halt in a step. -/
structure Dials (p : Nat → Traffic) (who : Party) (i k : Nat) : Prop where
  begun : (p i).point who = some (.connect .begun)
  clear : (p (i + 1)).channel.halted = false
  within : ∀ m, i < m → m ≤ k → ∃ stage, stage ≠ .begun ∧ (p m).point who = some (.connect stage)

/-- In a connect, a party opens a link. -/
def Opens (p : Nat → Traffic) (who : Party) (n i k : Nat) : Prop :=
  ∃ m, i < m ∧ m < k ∧ (p m).point who = some (.connect .announced) ∧
    (p (m + 1)).point who = some (.connect (.opened n))

/-- In a connect, a party starts a receive thread on the link that it has opened. -/
def Gives (p : Nat → Traffic) (who : Party) (n i k : Nat) : Prop :=
  ∃ m, i < m ∧ m < k ∧ (p m).Spawns who n (p (m + 1))

/-- How far a party has come in a connect. -/
structure Dialling (p : Nat → Traffic) (who : Party) (stage : Connecting) (i k : Nat) : Prop
    extends Dials p who i k where
  opens : ∀ n, (Point.connect stage).Brings n → Opens p who n i k
  gives : stage = .started → ∃ n, Opens p who n i k ∧ Gives p who n i k

lemma Opens.succ (h : Opens p who n i k) : Opens p who n i (k + 1) := by
  obtain ⟨m, him, hmk, hopens⟩ := h
  exact ⟨m, him, Nat.lt_succ_of_lt hmk, hopens⟩

lemma Gives.succ (h : Gives p who n i k) : Gives p who n i (k + 1) := by
  obtain ⟨m, him, hmk, hspawns⟩ := h
  exact ⟨m, him, Nat.lt_succ_of_lt hmk, hspawns⟩

lemma Dials.succ (h : Dials p who i k) (hstage : stage ≠ .begun)
    (here : (p (k + 1)).point who = some (.connect stage)) : Dials p who i (k + 1) where
  begun := h.begun
  clear := h.clear
  within m him hm := by
    rcases Nat.lt_or_eq_of_le hm with hlt | rfl
    · exact h.within m him (Nat.le_of_lt_succ hlt)
    · exact ⟨stage, hstage, here⟩

/-- A step of someone else. -/
lemma Dialling.rests (h : Dialling p who stage i k) (hstage : stage ≠ .begun)
    (here : (p (k + 1)).point who = some (.connect stage)) : Dialling p who stage i (k + 1) where
  toDials := h.toDials.succ hstage here
  opens n hn := (h.opens n hn).succ
  gives hs := (h.gives hs).imp fun _ hn => ⟨hn.1.succ, hn.2.succ⟩

/-- Only a section of a connect leads into one. -/
lemma Acts.connects (h : t.Acts who point next s) (hn : next.point = .connect stage) :
    ∃ stage', point = .connect stage' ∧ t.Connects stage' next s := by
  have hp : point.IsConnect := h.isConnect (by rw [hn]; trivial)
  cases h with
  | connect connects => exact ⟨_, rfl, connects⟩
  | _ => exact hp.elim

/-- A section of the connect itself. -/
lemma Dialling.acts {stage' : Connecting} (h : Dialling p who stage i k) (hm : (p k).Manned)
    (hik : i < k) (here : (p k).point who = some (.connect stage)) (hstage : stage ≠ .begun)
    (connects : (p k).Connects stage next s) (hu : p (k + 1) = (p k).after who next s)
    (hnext : next.point = .connect stage') : Dialling p who stage' i (k + 1) := by
  have hthere : (p (k + 1)).point who = some (.connect stage') := by
    rw [hu, point_after here, hnext]
  have hplain (hbegun : stage' ≠ .begun) (hbrings : ∀ n, ¬ (Point.connect stage').Brings n)
      (hstarted : stage' ≠ .started) : Dialling p who stage' i (k + 1) :=
    ⟨h.toDials.succ hbegun hthere, fun n hn => absurd hn (hbrings n), fun hs => absurd hs hstarted⟩
  -- The link that a party has opened stays the one it hands on.
  have hkeeps {n : Nat} (hbegun : stage' ≠ .begun) (hopens : Opens p who n i (k + 1))
      (hbrings : ∀ m, (Point.connect stage').Brings m → n = m) (hstarted : stage' ≠ .started) :
      Dialling p who stage' i (k + 1) :=
    ⟨h.toDials.succ hbegun hthere, fun m hn => hbrings m hn ▸ hopens, fun hs => absurd hs hstarted⟩
  cases connects with
  | clear => exact absurd rfl hstage
  | lock | announce | dialInVain | spawnInVain | silence =>
    obtain rfl := Point.connect.inj hnext
    exact hplain (by simp) (fun _ => id) (by simp)
  | @dial n =>
    obtain rfl := Point.connect.inj hnext
    exact hkeeps (by simp) ⟨k, hik, Nat.lt_succ_self k, here, hthere⟩ (fun _ => id) (by simp)
  | @install n =>
    obtain rfl := Point.connect.inj hnext
    exact hkeeps (by simp) (h.opens n rfl).succ (fun _ => id) (by simp)
  | @keep n =>
    obtain rfl := Point.connect.inj hnext
    exact hkeeps (by simp) (h.opens n rfl).succ (fun _ => id) (by simp)
  | @spawn n c spawns =>
    obtain rfl := Point.connect.inj hnext
    obtain ⟨rest, rfl⟩ := Channel.nextSpawn_eq spawns
    have hoff : (p k).worker.isOn = false := hm.on.symm.trans (hm.starts who _ here trivial)
    have hspawns : (p k).Spawns who n (p (k + 1)) :=
      ⟨here, hthere, hoff, by rw [hu]; rfl, by rw [hu]; rfl⟩
    exact ⟨h.toDials.succ (by simp) hthere, fun _ => False.elim,
      fun _ => ⟨n, (h.opens n rfl).succ, k, hik, Nat.lt_succ_self k, hspawns⟩⟩
  | fail | handOver | hold | abandon => exact absurd hnext (by simp [Next.point])

/-- Whoever is in a connect, past its first section, has cleared the halt in a step of the run. -/
lemma Path.dialling (h : Path p k) (hm : ∀ m ≤ k, (p m).Manned)
    (free : (p 0).Everyone fun _ q => q = .free) (hstage : stage ≠ .begun)
    (here : (p k).point who = some (.connect stage)) : ∃ i, i < k ∧ Dialling p who stage i k := by
  induction k generalizing stage with
  | zero => exact absurd (free who _ here) (by simp)
  | succ k ih =>
    have hpath : Path p k := fun m hm => h m (Nat.lt_succ_of_lt hm)
    have hbefore : ∀ m ≤ k, (p m).Manned := fun m hmk => hm m (Nat.le_succ_of_le hmk)
    have hrests (hk : (p k).point who = some (.connect stage)) :
        ∃ i, i < k + 1 ∧ Dialling p who stage i (k + 1) := by
      obtain ⟨i, hik, hdialling⟩ := ih hpath hbefore hstage hk
      exact ⟨i, Nat.lt_succ_of_lt hik, hdialling.rests hstage here⟩
    generalize hu : p (k + 1) = u at here
    have hs : (p k).Step (fun _ => True) u := hu ▸ h k (Nat.lt_succ_self k)
    cases hs with
    | @begins w call next c allowed hw begins =>
      by_cases hwho : who = w
      · subst hwho
        rw [point_after hw, Option.some.injEq] at here
        cases begins <;> simp [Next.point] at here
        exact absurd here.symm hstage
      · exact hrests ((point_after_other hwho).symm.trans here)
    | @acts w q next s hw acts =>
      by_cases hwho : who = w
      · subst hwho
        have hthere : (p (k + 1)).point who = some (.connect stage) := hu ▸ here
        rw [point_after hw, Option.some.injEq] at here
        obtain ⟨stage', rfl, connects⟩ := acts.connects here
        by_cases hbegun : stage' = .begun
        · subst hbegun
          cases connects
          obtain rfl := Point.connect.inj here
          have hdials : Dials p who k (k + 1) := {
            begun := hw
            clear := by rw [hu]; rfl
            within := fun m hkm hmk => by
              obtain rfl : m = k + 1 := by omega
              exact ⟨_, hstage, hthere⟩ }
          exact ⟨k, Nat.lt_succ_self k, hdials, fun _ => False.elim, fun hs => absurd hs (by simp)⟩
        · obtain ⟨i, hik, hdialling⟩ := ih hpath hbefore hbegun hw
          exact ⟨i, Nat.lt_succ_of_lt hik,
            hdialling.acts (hbefore k (Nat.le_refl k)) hik hw hbegun connects hu here⟩
      · exact hrests ((point_after_other hwho).symm.trans here)
    | turns hd turns =>
      subst hd
      exact hrests ((point_turned turns here).resolve_left (by simp))
    | hears => exact hrests here

/-! ### What becomes of the link -/

/-- A connect comes back well once a thread is there for the link, or the link waits for one. -/
lemma Step.connected (hs : t.Step may u) (hm : t.Manned)
    (made : u.made who = t.made who ++ [(.connect, .done)]) :
    u.point who = some .free ∧ (t.point who = some (.connect .started) ∨
      ∃ n, t.point who = some (.connect (.installed n)) ∧ u.Waits n) := by
  have hsame (h : u.made who = t.made who) : False := by simp [h] at made
  cases hs with
  | @begins w call next c allowed here begins =>
    by_cases hwho : who = w
    · subst hwho
      rw [made_after_self, List.append_cancel_left_eq] at made
      cases begins with
      | brief call brief =>
        obtain ⟨rfl, -⟩ : call = .connect ∧ _ := by simpa [Next.made] using made
        exact brief.elim
      | _ => exact absurd made (by simp [Next.made])
    · exact (hsame (made_after_other hwho)).elim
  | @acts w q next s here acts =>
    by_cases hwho : who = w
    · subst hwho
      rw [made_after_self, List.append_cancel_left_eq] at made
      cases acts with
      | connect connects =>
        cases connects with
        | @handOver n =>
          exact ⟨point_after here, .inr ⟨n, here, rfl, hm.brings who _ here n rfl⟩⟩
        | hold => exact ⟨point_after here, .inl here⟩
        | _ => exact absurd made (by simp [Next.made])
      | disconnect | disconnected => exact absurd made (by simp [Next.made])
      | terminate acts => cases acts <;> exact absurd made (by simp [Next.made])
      | send sends => cases sends <;> exact absurd made (by simp [Next.made])
    · exact (hsame (made_after_other hwho)).elim
  | turns | hears => exact (hsame rfl).elim

/-- What has become of the link that a party has opened in a connect, by a point of the run: the connect
has cleared the halt in one step, and come back in another. -/
inductive Settled (p : Nat → Traffic) (who : Party) (n i j k : Nat) : Prop where
  | given (gives : Gives p who n i j)
  | taken {m : Nat} (since : j < m) (before : m < k) (takes : (p m).TakesUp n (p (m + 1)))
  | closed {m : Nat} (since : j < m) (before : m < k) (shuts : (p m).Shuts n (p (m + 1)))
  | halted {m : Nat} {w : Party} (since : i < m) (before : m < k) (stops : (p m).Stops w (p (m + 1)))

lemma Settled.succ (h : Settled p who n i j k) : Settled p who n i j (k + 1) := by
  cases h with
  | given gives => exact .given gives
  | taken since before takes => exact .taken since (Nat.lt_succ_of_lt before) takes
  | closed since before shuts => exact .closed since (Nat.lt_succ_of_lt before) shuts
  | halted since before stops => exact .halted since (Nat.lt_succ_of_lt before) stops

/-- The link that a connect has come back with is closed by a party that had set the halt before the
connect cleared it, in a call that the party was in all the while. -/
def Crossed (p : Nat → Traffic) (n i j k : Nat) : Prop :=
  ∃ who h m, h < i ∧ j < m ∧ m < k ∧ Halting p who h m ∧ (p m).Fells who n (p (m + 1))

lemma Crossed.succ (h : Crossed p n i j k) : Crossed p n i j (k + 1) := by
  obtain ⟨who, l, m, hli, hjm, hmk, hcrossed⟩ := h
  exact ⟨who, l, m, hli, hjm, Nat.lt_succ_of_lt hmk, hcrossed⟩

/-- A party is in a connect of a link that has cleared the halt in one step, and comes back in another. -/
structure Connected (p : Nat → Traffic) (who : Party) (n i j : Nat) : Prop
    extends Dials p who i j where
  opens : Opens p who n i j
  back : (p (j + 1)).point who = some .free

lemma Path.ranged (h : Path p k) (h0 : (p 0).Ranged) : ∀ m ≤ k, (p m).Ranged := by
  intro m hm
  induction m with
  | zero => exact h0
  | succ m ih => exact (ih (by omega)).step (h m hm)

/-- Whoever closes a link after it has set the halt has set it since a connect cleared it, or before. -/
lemma Path.felled (h : Path p k) (free : (p 0).Everyone fun _ q => q = .free) (hij : i < j) (hjm : j < m)
    (hmk : m < k) (clear : (p (i + 1)).channel.halted = false) (fells : (p m).Fells w n (p (m + 1))) :
    Settled p who n i j k ∨ Crossed p n i j k := by
  obtain ⟨q, hq, hhalts⟩ := fells.here
  obtain ⟨l, hlm, hhalting⟩ := Path.halting (fun l hl => h l (Nat.lt_trans hl hmk)) free hq hhalts
  rcases Nat.lt_trichotomy l i with hli | rfl | hil
  · exact .inr ⟨w, l, m, hli, hjm, hmk, hhalting, fells⟩
  · exact absurd (clear.symm.trans hhalting.stops.halted) (by simp)
  · exact .inl (.halted hil (Nat.lt_trans hlm hmk) hhalting.stops)

/-- Once a link waits, it goes on waiting or something becomes of it. -/
lemma Path.waits_or_settled (h : Path p k) (hm : ∀ m ≤ k, (p m).Manned) (hr : ∀ m ≤ k, (p m).Ranged)
    (free : (p 0).Everyone fun _ q => q = .free) (hij : i < j) (hjk : j < k)
    (clear : (p (i + 1)).channel.halted = false) (waits : (p (j + 1)).Waits n) :
    (p k).Waits n ∨ Settled p who n i j k ∨ Crossed p n i j k := by
  induction k, hjk using Nat.le_induction with
  | base => exact .inl waits
  | succ k hjk ih =>
    have hpath : Path p k := fun m hm => h m (Nat.lt_succ_of_lt hm)
    rcases ih hpath (fun m hmk => hm m (Nat.le_succ_of_le hmk))
      fun m hmk => hr m (Nat.le_succ_of_le hmk) with hwaits | hsettled | hcrossed
    · rcases hwaits.step (hm k (Nat.le_succ k)) (hr k (Nat.le_succ k)) (h k (Nat.lt_succ_self k)) with
        hwaits | htakes | hshuts | ⟨w, hfells⟩ | hhalted
      · exact .inl hwaits
      · exact .inr (.inl (.taken hjk (Nat.lt_succ_self k) htakes))
      · exact .inr (.inl (.closed hjk (Nat.lt_succ_self k) hshuts))
      · exact .inr (h.felled free hij hjk (Nat.lt_succ_self k) clear hfells)
      · -- the halt that the thread has found was set after the connect had cleared it
        obtain ⟨m, w, him, hmk, hstops⟩ := hpath.exists_stops (by omega) clear hhalted
        exact .inr (.inl (.halted him (Nat.lt_succ_of_lt hmk) hstops))
    · exact .inr (.inl hsettled.succ)
    · exact .inr (.inr hcrossed.succ)

/-- Whoever comes back well from a connect has opened a link in it, and the link was given to a new thread
or waits, or something has become of it. -/
lemma Path.connected (h : Path p k) (hm : ∀ m ≤ k, (p m).Manned) (hr : ∀ m ≤ k, (p m).Ranged)
    (free : (p 0).Everyone fun _ q => q = .free) (hjk : j < k)
    (made : (p (j + 1)).made who = (p j).made who ++ [(.connect, .done)]) :
    ∃ n i, i < j ∧ Connected p who n i j ∧
      ((p k).channel.pending = some n ∨ Settled p who n i j k ∨ Crossed p n i j k) := by
  have hpath : Path p j := fun m hmj => h m (Nat.lt_trans hmj hjk)
  have hmj : ∀ m ≤ j, (p m).Manned := fun m hmj => hm m (by omega)
  obtain ⟨hback, hstarted | ⟨n, hinstalled, hwaits⟩⟩ :=
    (h j hjk).connected (hm j (Nat.le_of_lt hjk)) made
  · obtain ⟨i, hij, hdialling⟩ := hpath.dialling hmj free (by simp) hstarted
    obtain ⟨n, hopens, hgives⟩ := hdialling.gives rfl
    exact ⟨n, i, hij, ⟨hdialling.toDials, hopens, hback⟩, .inr (.inl (.given hgives))⟩
  · obtain ⟨i, hij, hdialling⟩ := hpath.dialling hmj free (by simp) hinstalled
    refine ⟨n, i, hij, ⟨hdialling.toDials, hdialling.opens n rfl, hback⟩, ?_⟩
    exact (h.waits_or_settled hm hr free hij hjk hdialling.clear hwaits).imp_left And.left

end Traffic

end FrameLink
