import FrameLink.Proofs.Channel.Inflow

/-!
A relay cannot harm the channel that it takes frames from.

How a relay has fared leaves its mark in two counters only, and no section of anyone's work looks at
them. So whatever a channel does while its relay fails, now and then or always, it can do as well while
its relay takes every frame.
-/

namespace FrameLink

namespace Channel

/-- The channel with other counts of the frames that were relayed and that were not. -/
def tolled (c : Channel) (x y : Nat) : Channel :=
  { c with counters := { c.counters with relayed := x, relayFailures := y } }

variable {c c' : Channel} {x y n : Nat}

lemma tolled_noteClosing (c : Channel) (x y : Nat) :
    (c.tolled x y).noteClosing = c.noteClosing.tolled x y := by
  unfold noteClosing tolled
  dsimp only
  split <;> rfl

lemma tolled_closeLink (c : Channel) (x y : Nat) :
    (c.tolled x y).closeLink = c.closeLink.tolled x y := by
  unfold closeLink
  rw [tolled_noteClosing]
  rfl

lemma tolled_openLink {r : Except TransportError Nat} (h : c.openLink = (r, c')) (x y : Nat) :
    (c.tolled x y).openLink = (r, c'.tolled x y) := by
  unfold openLink at h ⊢
  rw [tolled_noteClosing]
  dsimp only at h ⊢
  generalize c.noteClosing = k at h ⊢
  have hsame : (k.tolled x y).transport = k.transport := rfl
  rw [hsame]
  generalize k.transport.connect = dialled at h ⊢
  obtain ⟨outcome, t⟩ := dialled
  cases outcome
  all_goals
    obtain ⟨rfl, rfl⟩ := Prod.mk.inj h
    rfl

lemma tolled_nextSpawn {r : Except IoError Unit} (h : c.nextSpawn = (r, c')) (x y : Nat) :
    (c.tolled x y).nextSpawn = (r, c'.tolled x y) := by
  unfold nextSpawn at h ⊢
  have hsame : (c.tolled x y).spawns = c.spawns := rfl
  rw [hsame]
  generalize c.spawns = outcomes at h ⊢
  cases outcomes
  all_goals
    obtain ⟨rfl, rfl⟩ := Prod.mk.inj h
    rfl

lemma tolled_readOn {scanner : Scanner} {seen : ScanTally} {o : ReadOutcome}
    (h : c.readOn n scanner seen = (o, c')) (x y : Nat) :
    (c.tolled x y).readOn n scanner seen = (o, c'.tolled x y) := by
  unfold readOn at h ⊢
  have hsame : (c.tolled x y).transport = c.transport := rfl
  rw [hsame]
  dsimp only at h ⊢
  generalize (Reader.readFrame ⟨scanner, (c.transport.link n).inbound⟩) = read at h ⊢
  obtain ⟨outcome, r⟩ := read
  cases outcome
  all_goals
    obtain ⟨rfl, rfl⟩ := Prod.mk.inj h
    rfl

lemma tolled_passOn (c : Channel) (f : Frame) (x y : Nat) :
    (c.tolled x y).passOn f = ((c.passOn f).1, (c.passOn f).2.tolled x y) := by
  unfold passOn
  have hsame : (c.tolled x y).registry = c.registry := rfl
  rw [hsame]
  cases c.registry.route f.kind with
  | handler h =>
    dsimp only
    cases h.answer f <;> rfl
  | relay | drop => rfl

lemma tolled_vacate (c : Channel) (x y : Nat) : (c.tolled x y).vacate = c.vacate.tolled x y := by
  unfold vacate
  dsimp only
  change (if c.state = .halting then _ else _) = _
  split <;> rfl

lemma tolled_perform {call : Call} (brief : call.IsBrief) (c : Channel) (x y : Nat) :
    (c.tolled x y).perform call = ((c.perform call).1, (c.perform call).2.tolled x y) := by
  cases call with
  | connect | terminate | disconnect | send => exact brief.elim
  | _ => rfl

lemma Hears.tolled (h : c.Hears c') (x y : Nat) : (c.tolled x y).Hears (c'.tolled x y) := by
  cases h with
  | feed b => exact .feed b
  | endInput => exact .endInput
  | failRead e => exact .failRead e

end Channel

/-! ### Sections -/

def Shared.tolled (s : Shared) (x y : Nat) : Shared := { s with channel := s.channel.tolled x y }

namespace Traffic

def tolled (t : Traffic) (x y : Nat) : Traffic := { t with channel := t.channel.tolled x y }

variable {t : Traffic} {who : Party} {p : Point} {next : Next} {s : Shared} {d d' : Duty}
  {c : Channel} {call : Call} {f : Frame}

lemma tolled_after (t : Traffic) (who : Party) (next : Next) (s : Shared) (x y : Nat) :
    (t.after who next s).tolled x y = (t.tolled x y).after who next (s.tolled x y) := by
  cases who <;> rfl

lemma Begins.tolled (h : t.Begins call next c) (x y : Nat) :
    (t.tolled x y).Begins call next (c.tolled x y) := by
  cases h with
  | brief call brief =>
    have hsame := Channel.tolled_perform brief t.channel x y
    have hbegins := Begins.brief (t := t.tolled x y) call brief
    change (t.tolled x y).Begins call (.back call ((t.channel.tolled x y).perform call).1)
      ((t.channel.tolled x y).perform call).2 at hbegins
    rwa [hsame] at hbegins
  | connect => exact .connect
  | disconnect => exact .disconnect
  | terminate => exact .terminate
  | send f => exact .send f

lemma Closes.tolled {stage : Closing} {next : Option Closing} (h : t.Closes stage next c)
    (x y : Nat) : (t.tolled x y).Closes stage next (c.tolled x y) := by
  cases h with
  | close free =>
    rw [← Channel.tolled_closeLink]
    exact .close free
  | silence free => exact .silence free
  | shown => exact .shown

lemma Connects.tolled {stage : Connecting} (h : t.Connects stage next s) (x y : Nat) :
    (t.tolled x y).Connects stage next (s.tolled x y) := by
  cases h with
  | clear => exact .clear
  | lock free => exact .lock free
  | announce => exact .announce
  | dial opens => exact .dial (Channel.tolled_openLink opens x y)
  | dialInVain opens => exact .dialInVain (Channel.tolled_openLink opens x y)
  | fail => exact .fail
  | install free => exact .install free
  | handOver runs => exact .handOver runs
  | keep idle => exact .keep idle
  | spawn spawns =>
    exact Connects.spawn (t := t.tolled x y) (Channel.tolled_nextSpawn spawns x y)
  | @spawnInVain n e c spawns =>
    have hspawns := Channel.tolled_nextSpawn spawns x y
    have h := Connects.spawnInVain (t := t.tolled x y) (n := n) hspawns
    rwa [Channel.tolled_closeLink] at h
  | hold => exact .hold
  | silence free => exact .silence free
  | abandon => exact .abandon

lemma Terminates.tolled {stage : Terminating} (h : t.Terminates who stage next c) (x y : Nat) :
    (t.tolled x y).Terminates who stage next (c.tolled x y) := by
  cases h with
  | halt => exact .halt
  | announce => exact .announce
  | close free =>
    rw [← Channel.tolled_closeLink]
    exact .close free
  | silence free => exact .silence free
  | join other joinable => exact .join other joinable
  | skip none => exact .skip none
  | joined ended => exact .joined ended
  | finish => exact .finish

lemma Sends.tolled {stage : Sending} (h : t.Sends f stage next c) (x y : Nat) :
    (t.tolled x y).Sends f stage next (c.tolled x y) := by
  cases h with
  | lock free => exact .lock free
  | deny none => exact .deny none
  | refuse writer refuses => exact .refuse writer refuses
  | accept writer accepts => exact .accept writer accepts
  | write more => exact .write more
  | written => exact .written
  | flush flushes =>
    obtain ⟨hdone, rfl⟩ := Prod.mk.inj flushes
    exact Sends.flush (t := t.tolled x y) (Prod.ext hdone rfl)
  | flushInVain flushes =>
    obtain ⟨hfails, rfl⟩ := Prod.mk.inj flushes
    exact Sends.flushInVain (t := t.tolled x y) (Prod.ext hfails rfl)
  | halt => exact .halt
  | close closes => exact .close (closes.tolled x y)
  | finish closes => exact .finish (closes.tolled x y)

lemma Acts.tolled (h : t.Acts who p next s) (x y : Nat) :
    (t.tolled x y).Acts who p next (s.tolled x y) := by
  cases h with
  | connect acts => exact .connect (acts.tolled x y)
  | disconnect closes => exact .disconnect (closes.tolled x y)
  | disconnected closes => exact .disconnected (closes.tolled x y)
  | terminate acts => exact .terminate (acts.tolled x y)
  | send acts => exact .send (acts.tolled x y)

/-- All turns of the thread, but those that come back from a relay. -/
lemma Turns.tolled (h : t.Turns d d' c) (hd : d.inHand = none) (x y : Nat) :
    (t.tolled x y).Turns d d' (c.tolled x y) := by
  cases h with
  | blocked reads read => exact .blocked reads (Channel.tolled_readOn read x y)
  | heard reads read =>
    exact Turns.heard (t := t.tolled x y) reads (Channel.tolled_readOn read x y)
  | broken reads read => exact .broken reads (Channel.tolled_readOn read x y)
  | @passed f =>
    have h := Turns.passed (t := t.tolled x y) (f := f)
    change (t.tolled x y).Turns (.passing f) (.ofStage ((t.channel.tolled x y).passOn f).1)
      ((t.channel.tolled x y).passOn f).2 at h
    rwa [Channel.tolled_passOn] at h
  | relayed | panicked => simp [Duty.inHand] at hd
  | handled e =>
    have h := Turns.handled (t := t.tolled x y) e
    cases e <;> exact h
  | look => exact .look
  | takeUp free waits => exact .takeUp free waits
  | close free none =>
    rw [← Channel.tolled_closeLink]
    exact .close free none
  | silence free => exact .silence free
  | shown => exact .shown
  | giveUp waits spent => exact .giveUp waits spent
  | delayed waits left clear => exact .delayed waits left clear
  | takeUpLate free waits => exact .takeUpLate free waits
  | lock free none => exact .lock free none
  | check => exact .check
  | announce => exact .announce
  | dial opens => exact .dial (Channel.tolled_openLink opens x y)
  | dialInVain refuses => exact .dialInVain (Channel.tolled_openLink refuses x y)
  | wait => exact .wait
  | abort halted =>
    rw [← Channel.tolled_closeLink]
    exact .abort halted
  | keep clear => exact .keep clear
  | install free => exact .install free
  | reconnect => exact .reconnect
  | leave free => exact .leave free
  | stay clear waits => exact .stay clear waits
  | retire done => exact .retire done
  | vacate =>
    rw [← Channel.tolled_vacate]
    exact .vacate
  | unwind free =>
    rw [← Channel.tolled_closeLink]
    exact .unwind free
  | unwindWriter free => exact .unwindWriter free
  | unwound => exact .unwound

end Traffic

/-! ### A relay that takes everything -/

/-- One step of anyone on a channel whose relay takes each frame, with what its thread reads and what
becomes of it. -/
inductive Served : Traffic × Log → Traffic × Log → Prop where
  | begins {t log who call next c} (own : who = .thread → t.duty.inHand = none)
      (here : t.point who = some .free) (begins : t.Begins call next c) :
      Served (t, log) (t.after who next { t.toShared with channel := c }, log)
  | acts {t log who p next s} (own : who = .thread → t.duty.inHand = none)
      (here : t.point who = some p) (acts : t.Acts who p next s) :
      Served (t, log) (t.after who next s, log)
  | hears {t : Traffic} {log c} (hears : t.channel.Hears c) :
      Served (t, log) ({ t with channel := c }, log)
  | turns {t d d' c} {log : Log} (own : d.inHand = none) (here : t.duty = d)
      (turns : t.Turns d d' c) : Served (t, log) (t.turned d' c, log.turn t d')
  | taken {t f log} (here : t.duty = .relaying f .free) :
      Served (t, log) (t.turned .idle (t.channel.countRelayed (.ok ())), log)

namespace Net

variable {a b : Nat} {n m n₀ : Net}

/-- The first channel, as if its relay had taken each frame that it has given it. -/
def served (a : Nat) (n : Net) : Traffic × Log := ((n.traffic a).tolled n.hops.length 0, n.log)

lemma served_put (n : Net) (a : Nat) (t : Traffic) :
    (n.put a t).served a = (t.tolled n.hops.length 0, n.log) := by
  rw [served, traffic_put_self]
  rfl

lemma Step.served (hs : n.Step a b m) (hab : a ≠ b) :
    m.served a = n.served a ∨ Served (n.served a) (m.served a) := by
  have hother {i : Nat} {t : Traffic} (hi : i ≠ a) : (n.put i t).served a = n.served a := by
    rw [Net.served, traffic_put_other hi.symm]
    rfl
  cases hs with
  | @begins i who call next c own relays here begins =>
    by_cases hi : i = a
    · subst hi
      refine .inr ?_
      rw [served_put, Traffic.tolled_after]
      exact .begins (not_bound_thread own) here (begins.tolled _ _)
    · exact .inl (hother hi)
  | @acts i who p next s own here acts =>
    by_cases hi : i = a
    · subst hi
      refine .inr ?_
      rw [served_put, Traffic.tolled_after]
      exact .acts (not_bound_thread own) here (acts.tolled _ _)
    · exact .inl (hother hi)
  | @hears i c hears =>
    by_cases hi : i = a
    · subst hi
      refine .inr ?_
      rw [served_put]
      exact .hears (hears.tolled _ _)
    · exact .inl (hother hi)
  | @turns i d d' c own here turns =>
    by_cases hi : i = a
    · subst hi
      refine .inr ?_
      simp only [Net.served, put, Function.update_self, if_pos]
      exact .turns (own rfl) here (turns.tolled (own rfl) _ _)
    · refine .inl ?_
      simp only [Net.served, put, Function.update_of_ne (Ne.symm hi), if_neg hi]
  | hands => exact .inl (hother hab.symm)
  | works => exact .inl (hother hab.symm)
  | @returns h f call r out here free reply =>
    refine .inr ?_
    have hcounts : ((n.traffic a).channel.countRelayed r).tolled (n.hops.length + 1) 0 =
        ((n.traffic a).channel.tolled n.hops.length 0).countRelayed (.ok ()) := by
      cases r <;> rfl
    simp only [Net.served, put, Function.update_self, List.length_append]
    change Served _ ((n.traffic a).turned .idle
      (((n.traffic a).channel.countRelayed r).tolled (n.hops.length + 1) 0), n.log)
    rw [hcounts]
    exact .taken here

/-- **The first channel goes its own way.** All that happens on it, with what its thread reads and
finds and where the frames go, can happen as well while each frame is taken. -/
theorem Runs.served (run : n₀.Runs a b n) (hab : a ≠ b) :
    Relation.ReflTransGen Served (n₀.served a) (n.served a) := by
  induction run with
  | refl => exact .refl
  | tail _ hs ih =>
    rcases hs.served hab with hsame | hstep
    · rwa [hsame]
    · exact ih.tail hstep

end Net

end FrameLink
