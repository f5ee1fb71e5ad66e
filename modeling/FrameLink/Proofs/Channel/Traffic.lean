import Mathlib.Logic.Function.Basic
import Mathlib.Logic.Relation
import FrameLink.Proofs.Channel.Session

/-!
A channel that is used by many at once.

Any number of callers and the receive thread work on one channel, and each is somewhere in the middle
of its work; a handler or a relay makes calls on the receive thread. A step is what one of them does from
taking one lock to taking the next, or one call on the stream below, in any order. There is no more to
a lock than the points of the work at which it is held: it is free while no one is at such a point.
-/

namespace FrameLink

/-- Who works on a channel: a caller from outside, or the receive thread in a handler or a relay. -/
inductive Party where
  | caller (i : Nat)
  | thread
  deriving DecidableEq

/-! ### Points of a call -/

inductive Connecting where
  /-- About to clear the halt. -/
  | begun
  /-- About to take the link lock. -/
  | cleared
  | locked
  /-- The state shows that the channel is connecting; about to call the transport. -/
  | announced
  | refused (e : TransportError)
  | opened (n : Nat)
  /-- The link is the one that frames are written to; about to show that the channel is up. -/
  | installed (n : Nat)
  /-- There is no receive thread to take the link; about to start one. -/
  | unread (n : Nat)
  /-- The thread runs; about to keep hold of it. -/
  | started
  /-- No thread is to be had, and the link is closed again; about to drop the writer. -/
  | unstarted (e : IoError)
  | silenced (e : IoError)

/-- Taking the link down for good, which `disconnect`, a failed write and a panic do alike. -/
inductive Closing where
  /-- About to take the link lock and close the link. -/
  | begun
  /-- About to drop the writer. -/
  | closed
  /-- About to show that the channel is down. -/
  | silenced

inductive Terminating where
  /-- About to set the halt. -/
  | begun
  /-- About to show that the channel is halting. -/
  | halted
  /-- About to take the link lock and close the link. -/
  | announced
  /-- About to drop the writer. -/
  | closed
  /-- About to see whether there is a receive thread to join. -/
  | down
  /-- Waits until a thread, by its number, has ended. -/
  | joining (thread : Nat)
  | ending

inductive Sending where
  /-- About to take the writer lock. -/
  | begun
  | locked
  /-- About to offer the bytes that are left to a link. -/
  | writing (n : Nat) (rest : Bytes)
  | flushing (n : Nat)
  /-- The write has failed, and the writer lock is free again; about to set the halt. -/
  | failed (e : FrameError)
  | closing (e : FrameError) (stage : Closing)

/-- Where a party is in its calls. -/
inductive Point where
  | free
  | connect (stage : Connecting)
  | disconnect (stage : Closing)
  | terminate (stage : Terminating)
  | send (f : Frame) (stage : Sending)

/-- Where the receive thread is between two of its sections. -/
inductive Duty where
  /-- About to read, or in its delay, or not there. -/
  | idle
  /-- A read has failed; about to look at the halt. -/
  | failed
  /-- About to take the link lock, and the waiting link or else none. -/
  | lost
  | closed
  | silenced
  /-- The delay is over, and the attempt after so many others is counted; about to take the link lock. -/
  | attempting (attempts : Nat)
  /-- About to look at the halt. -/
  | checking (attempts : Nat)
  | cleared (attempts : Nat)
  /-- About to call the transport. -/
  | announced (attempts : Nat)
  | refused (attempts : Nat)
  /-- A link is open; about to look at the halt again. -/
  | opened (n : Nat)
  | kept (n : Nat)
  | installed (n : Nat)
  /-- About to take the link lock for the last time. -/
  | leaving
  | retiring
  | retired
  /-- A frame has come in and was noted. -/
  | passing (f : Frame)
  | handling (p : Point)
  | relaying (f : Frame) (p : Point)
  /-- The relay has panicked. -/
  | unwinding (stage : Closing)

/-! ### Locks -/

def Closing.HasLink : Closing → Prop
  | .begun => False
  | _ => True

/-- The party is at a point where it holds the link lock. -/
def Point.HasLink : Point → Prop
  | .connect .begun | .connect .cleared => False
  | .connect _ | .terminate .closed => True
  | .disconnect stage | .send _ (.closing _ stage) => stage.HasLink
  | _ => False

/-- The party is at a point where it holds the writer lock. -/
def Point.HasWriter : Point → Prop
  | .send _ .locked | .send _ (.writing _ _) | .send _ (.flushing _) => True
  | _ => False

/-- The thread holds the link lock for itself, not for a call that a handler makes. -/
def Duty.HasLink : Duty → Prop
  | .closed | .silenced | .checking _ | .cleared _ | .announced _ | .refused _ | .opened _ | .kept _
  | .installed _ | .retiring | .retired => True
  | .unwinding stage => stage.HasLink
  | _ => False

/-- Where the call is that a handler or a relay makes; none while the thread is in neither. -/
def Duty.point? : Duty → Option Point
  | .handling p | .relaying _ p => some p
  | _ => none

def Duty.put (p : Point) : Duty → Duty
  | .handling _ => .handling p
  | .relaying f _ => .relaying f p
  | d => d

/-- Where the thread goes on when a frame is passed on. -/
def Duty.ofStage : Stage → Duty
  | .handling => .handling .free
  | .relaying f => .relaying f .free
  | _ => .idle

lemma Duty.ofStage_cases (s : Stage) :
    ofStage s = .idle ∨ ofStage s = .handling .free ∨ ∃ f, ofStage s = .relaying f .free := by
  cases s with
  | handling => exact .inr (.inl rfl)
  | relaying f => exact .inr (.inr ⟨f, rfl⟩)
  | _ => exact .inl rfl

/-- What everyone works on. -/
structure Shared where
  channel : Channel
  /-- How many receive threads were started. -/
  threads : Nat := 0
  /-- The number of the thread that can be joined, if one can be. -/
  held : Nat := 0

/-- A channel, and where everyone is in the work on it. -/
structure Traffic extends Shared where
  duty : Duty := .idle
  callers : Nat → Point := fun _ => .free
  /-- The calls that a party has made, and what they came back with. -/
  made : Party → List (Call × Reply) := fun _ => []

/-- How a section of a call ends: the call goes on at a point, or it returns. -/
inductive Next where
  | on (p : Point)
  | back (call : Call) (r : Reply)

def Next.point : Next → Point
  | .on p => p
  | .back _ _ => .free

def Next.made : Next → List (Call × Reply)
  | .on _ => []
  | .back call r => [(call, r)]

namespace Traffic

/-- Where a party is; none for the receive thread while it is not in a handler or a relay. -/
def point (t : Traffic) : Party → Option Point
  | .caller i => some (t.callers i)
  | .thread => t.duty.point?

def put (t : Traffic) (p : Point) : Party → Traffic
  | .caller i => { t with callers := Function.update t.callers i p }
  | .thread => { t with duty := t.duty.put p }

/-- A party is through with a section, which leaves something to all. -/
def after (t : Traffic) (who : Party) (next : Next) (s : Shared) : Traffic :=
  { t.put next.point who with
    toShared := s
    made := Function.update t.made who (t.made who ++ next.made) }

/-- The receive thread is through with a section. -/
def turned (t : Traffic) (d : Duty) (c : Channel) : Traffic := { t with duty := d, channel := c }

/-- Something holds of every party that is in a call or could be. -/
def Everyone (t : Traffic) (P : Party → Point → Prop) : Prop :=
  ∀ who p, t.point who = some p → P who p

/-- At most one party is at such a point. -/
def Sole (t : Traffic) (P : Point → Prop) : Prop :=
  ∀ w w' p p', t.point w = some p → t.point w' = some p' → P p → P p' → w = w'

def LinkFree (t : Traffic) : Prop := (t.Everyone fun _ p => ¬ p.HasLink) ∧ ¬ t.duty.HasLink

def WriterFree (t : Traffic) : Prop := t.Everyone fun _ p => ¬ p.HasWriter

/-- The thread of a number has ended. -/
def HasEnded (t : Traffic) (thread : Nat) : Prop :=
  thread < t.threads ∨ t.duty = .idle ∧ t.channel.receiver = .ended

section Parties

variable {t : Traffic} {who w : Party} {next : Next} {s : Shared} {d : Duty} {c : Channel}
  {P : Party → Point → Prop}

@[simp] lemma hasLink_put (p : Point) (d : Duty) : (d.put p).HasLink ↔ d.HasLink := by
  cases d <;> rfl

@[simp] lemma hasLink_after : (t.after who next s).duty.HasLink ↔ t.duty.HasLink := by
  cases who with
  | caller i => rfl
  | thread => exact hasLink_put _ _

@[simp] lemma toShared_after : (t.after who next s).toShared = s := rfl

@[simp] lemma made_after_self : (t.after who next s).made who = t.made who ++ next.made := by
  simp [after]

lemma made_after_other (h : w ≠ who) : (t.after who next s).made w = t.made w := by
  simp [after, h]

lemma point_after_other (h : w ≠ who) : (t.after who next s).point w = t.point w := by
  cases who with
  | caller i =>
    cases w with
    | caller j =>
      have hij : j ≠ i := fun hji => h (hji ▸ rfl)
      simp [point, after, put, Function.update_of_ne hij]
    | thread => rfl
  | thread =>
    cases w with
    | caller j => rfl
    | thread => exact absurd rfl h

lemma point_after_self :
    (t.after who next s).point who = (t.point who).map fun _ => next.point := by
  cases who with
  | caller i => simp [point, after, put]
  | thread =>
    change (t.duty.put next.point).point? = t.duty.point?.map _
    cases t.duty <;> rfl

lemma Everyone.after (h : t.Everyone P) (hp : P who next.point) :
    (t.after who next s).Everyone P := by
  intro w p hw
  by_cases heq : w = who
  · subst heq
    rw [point_after_self, Option.map_eq_some_iff] at hw
    obtain ⟨_, -, rfl⟩ := hw
    exact hp
  · exact h w p ((point_after_other heq).symm.trans hw)

lemma Everyone.turned (h : t.Everyone P) (hp : ∀ p, d.point? = some p → P .thread p) :
    (t.turned d c).Everyone P := by
  intro w p hw
  cases w with
  | caller i => exact h (.caller i) p hw
  | thread => exact hp p hw

lemma Sole.after {P : Point → Prop} (h : t.Sole P) {p : Point} (here : t.point who = some p)
    (hp : P next.point → P p ∨ t.Everyone fun _ q => ¬ P q) : (t.after who next s).Sole P := by
  -- A party that is there already is the one that gets there.
  have hother (w : Party) (q : Point) (hw : w ≠ who) (hq : (t.after who next s).point w = some q)
      (hPq : P q) (hnext : P next.point) : False := by
    rw [point_after_other hw] at hq
    rcases hp hnext with hPp | hnone
    · exact hw (h w who q p hq here hPq hPp)
    · exact hnone w q hq hPq
  have hself (q : Point) (hq : (t.after who next s).point who = some q) : q = next.point := by
    rw [point_after_self, here] at hq
    exact (Option.some.inj hq).symm
  intro w w' q q' hq hq' hPq hPq'
  by_cases hw : w = who <;> by_cases hw' : w' = who
  · rw [hw, hw']
  · rw [hw] at hq
    exact (hother w' q' hw' hq' hPq' (hself q hq ▸ hPq)).elim
  · rw [hw'] at hq'
    exact (hother w q hw hq hPq (hself q' hq' ▸ hPq')).elim
  · rw [point_after_other hw] at hq
    rw [point_after_other hw'] at hq'
    exact h w w' q q' hq hq' hPq hPq'

lemma Sole.turned {P : Point → Prop} (h : t.Sole P) (hp : ∀ p, d.point? = some p → ¬ P p) :
    (t.turned d c).Sole P := by
  intro w w' q q' hq hq' hPq hPq'
  cases w with
  | thread => exact absurd hPq (hp q hq)
  | caller i =>
    cases w' with
    | thread => exact absurd hPq' (hp q' hq')
    | caller j => exact h (.caller i) (.caller j) q q' hq hq' hPq hPq'

end Parties

end Traffic

/-! ### Sections that are shorter than those of one thread alone -/

namespace Channel

/-- How starting a receive thread comes out. -/
def nextSpawn (c : Channel) : Except IoError Unit × Channel :=
  match c.spawns with
  | [] => (.ok (), c)
  | outcome :: rest => (outcome, { c with spawns := rest })

lemma nextSpawn_nil {c : Channel} (h : c.spawns = []) : c.nextSpawn = (.ok (), c) := by
  simp only [nextSpawn, h]

lemma nextSpawn_cons {c : Channel} {outcome : Except IoError Unit} {rest : List (Except IoError Unit)}
    (h : c.spawns = outcome :: rest) : c.nextSpawn = (outcome, { c with spawns := rest }) := by
  simp only [nextSpawn, h]

/-- One call to write on a link. -/
def writeTo (c : Channel) (n : Nat) (b : Bytes) : Except IoError Nat × Channel :=
  (((c.transport.sink n).write b).1, c.noteWritten n ((c.transport.sink n).write b).2)

/-- One call to flush a link. -/
def flushTo (c : Channel) (n : Nat) : Except IoError Unit × Channel :=
  ((c.transport.sink n).flush.1, c.noteWritten n (c.transport.sink n).flush.2)

/-- The thread is gone, and the state shows it unless a call is halting the channel. -/
def vacate (c : Channel) : Channel :=
  let c := { c with receiver := .ended }
  if c.state = .halting then c else c.setState .disconnected

/-- What the far end does, or befalls the open link. -/
inductive Hears (c : Channel) : Channel → Prop where
  | feed (b : Bytes) : Hears c { c with transport := c.transport.feed b }
  | endInput : Hears c { c with transport := c.transport.endInput }
  | failRead (e : IoError) : Hears c { c with transport := c.transport.failRead e }

end Channel

namespace Sending

/-- Where the write goes on after the link has answered. -/
def afterWrite (n : Nat) (rest : Bytes) : Except IoError Nat → Sending
  | .ok 0 => .failed .connectionClosed
  | .ok (k + 1) => .writing n (rest.drop (k + 1))
  | .error e => if e.kind = .interrupted then .writing n rest else .failed (.io e)

def afterFlush (n : Nat) (e : IoError) : Sending :=
  if e.kind = .interrupted then .flushing n else .failed (.io e)

/-- No one who writes holds the link lock. -/
lemma not_hasLink_afterWrite (f : Frame) (n : Nat) (rest : Bytes) (r : Except IoError Nat) :
    ¬ (Point.send f (.afterWrite n rest r)).HasLink := by
  unfold afterWrite
  repeat' split
  all_goals exact id

lemma not_hasLink_afterFlush (f : Frame) (n : Nat) (e : IoError) :
    ¬ (Point.send f (.afterFlush n e)).HasLink := by
  unfold afterFlush
  split <;> exact id

end Sending

/-- The calls that take one lock, and change nothing about the link. -/
def Call.IsBrief : Call → Prop
  | .last | .register _ _ | .unregister _ | .relay _ => True
  | _ => False

namespace Traffic

variable (t : Traffic) (who : Party)

/-! ### Sections of a call -/

inductive Begins : Call → Next → Channel → Prop where
  | connect : Begins .connect (.on (.connect .begun)) t.channel
  | disconnect : Begins .disconnect (.on (.disconnect .begun)) t.channel
  | terminate : Begins .terminate (.on (.terminate .begun)) t.channel
  | send (f : Frame) : Begins (.send f) (.on (.send f .begun)) t.channel
  | brief (call : Call) (brief : call.IsBrief) :
      Begins call (.back call (t.channel.perform call).1) (t.channel.perform call).2

inductive Connects : Connecting → Next → Shared → Prop where
  | clear : Connects .begun (.on (.connect .cleared))
      { t.toShared with channel := t.channel.setHalted false }
  | lock (free : t.LinkFree) : Connects .cleared (.on (.connect .locked)) t.toShared
  | announce : Connects .locked (.on (.connect .announced))
      { t.toShared with channel := t.channel.setState .connecting }
  | dial {n c} (opens : t.channel.openLink = (.ok n, c)) :
      Connects .announced (.on (.connect (.opened n))) { t.toShared with channel := c }
  | dialInVain {e c} (refuses : t.channel.openLink = (.error e, c)) :
      Connects .announced (.on (.connect (.refused e))) { t.toShared with channel := c }
  | fail {e} : Connects (.refused e) (.back .connect (.failed (.transport e)))
      { t.toShared with channel := t.channel.setState .disconnected }
  | install {n} (free : t.WriterFree) : Connects (.opened n) (.on (.connect (.installed n)))
      { t.toShared with channel := t.channel.install n }
  | handOver {n} (runs : t.channel.receiving = true) : Connects (.installed n) (.back .connect .done)
      { t.toShared with channel := { t.channel.setState .connected with pending := some n } }
  | keep {n} (idle : t.channel.receiving = false) :
      Connects (.installed n) (.on (.connect (.unread n)))
        { t.toShared with channel := t.channel.setState .connected }
  | spawn {n c} (spawns : t.channel.nextSpawn = (.ok (), c)) :
      Connects (.unread n) (.on (.connect .started))
        { t.toShared with channel := { c.listen n with receiving := true }, threads := t.threads + 1 }
  | spawnInVain {n e c} (spawns : t.channel.nextSpawn = (.error e, c)) :
      Connects (.unread n) (.on (.connect (.unstarted e))) { t.toShared with channel := c.closeLink }
  | hold : Connects .started (.back .connect .done)
      { t.toShared with channel := { t.channel with joinable := true }, held := t.threads }
  | silence {e} (free : t.WriterFree) :
      Connects (.unstarted e) (.on (.connect (.silenced e)))
        { t.toShared with channel := t.channel.dropWriter }
  | abandon {e} : Connects (.silenced e) (.back .connect (.failed (.spawn e)))
      { t.toShared with channel := t.channel.setState .disconnected }

/-- One section of taking the link down; no point follows the last one. -/
inductive Closes : Closing → Option Closing → Channel → Prop where
  | close (free : t.LinkFree) : Closes .begun (some .closed) t.channel.dropPending.closeLink
  | silence (free : t.WriterFree) : Closes .closed (some .silenced) t.channel.dropWriter
  | shown : Closes .silenced none (t.channel.setState .disconnected)

inductive Terminates : Terminating → Next → Channel → Prop where
  | halt : Terminates .begun (.on (.terminate .halted)) (t.channel.setHalted true)
  | announce :
      Terminates .halted (.on (.terminate .announced)) (t.channel.setState .halting)
  | close (free : t.LinkFree) :
      Terminates .announced (.on (.terminate .closed)) t.channel.dropPending.closeLink
  | silence (free : t.WriterFree) :
      Terminates .closed (.on (.terminate .down)) t.channel.dropWriter
  | join (other : who ≠ .thread) (joinable : t.channel.joinable = true) : Terminates .down
      (.on (.terminate (.joining t.held))) { t.channel with joinable := false }
  /-- There is no thread to join, or it is the one that makes the call. -/
  | skip (none : who = .thread ∨ t.channel.joinable = false) :
      Terminates .down (.on (.terminate .ending)) { t.channel with joinable := false }
  | joined {thread} (ended : t.HasEnded thread) :
      Terminates (.joining thread) (.on (.terminate .ending)) t.channel
  | finish : Terminates .ending (.back .terminate .done) (t.channel.setState .disconnected)

inductive Sends (f : Frame) : Sending → Next → Channel → Prop where
  | lock (free : t.WriterFree) : Sends f .begun (.on (.send f .locked)) t.channel
  | deny (none : t.channel.writer = none) : Sends f .locked (.back (.send f)
      (.failed (if t.channel.halted then .halted else .notConnected))) t.channel
  | refuse {n e} (writer : t.channel.writer = some n)
      (refuses : t.channel.config.limits.refusal? f = some e) :
      Sends f .locked (.back (.send f) (.failed (.frame e))) t.channel
  | accept {n} (writer : t.channel.writer = some n)
      (accepts : t.channel.config.limits.refusal? f = none) :
      Sends f .locked (.on (.send f (.writing n f.wire))) t.channel
  | write {n rest} (more : rest ≠ []) : Sends f (.writing n rest)
      (.on (.send f (.afterWrite n rest (t.channel.writeTo n rest).1)))
      (t.channel.writeTo n rest).2
  | written {n} : Sends f (.writing n []) (.on (.send f (.flushing n))) t.channel
  | flush {n c} (flushes : t.channel.flushTo n = (.ok (), c)) : Sends f (.flushing n)
      (.back (.send f) .done) (c.count fun k => { k with framesSent := k.framesSent + 1 })
  | flushInVain {n e c} (flushes : t.channel.flushTo n = (.error e, c)) :
      Sends f (.flushing n) (.on (.send f (.afterFlush n e))) c
  | halt {e} :
      Sends f (.failed e) (.on (.send f (.closing e .begun))) (t.channel.setHalted true)
  | close {e stage next c} (closes : t.Closes stage (some next) c) :
      Sends f (.closing e stage) (.on (.send f (.closing e next))) c
  | finish {e stage c} (closes : t.Closes stage none c) :
      Sends f (.closing e stage) (.back (.send f) (.failed (.sendFailed e))) c

inductive Acts : Point → Next → Shared → Prop where
  | connect {stage next s} (acts : t.Connects stage next s) : Acts (.connect stage) next s
  | disconnect {stage next c} (closes : t.Closes stage (some next) c) :
      Acts (.disconnect stage) (.on (.disconnect next)) { t.toShared with channel := c }
  | disconnected {stage c} (closes : t.Closes stage none c) :
      Acts (.disconnect stage) (.back .disconnect .done) { t.toShared with channel := c }
  | terminate {stage next c} (acts : t.Terminates who stage next c) :
      Acts (.terminate stage) next { t.toShared with channel := c }
  | send {f stage next c} (acts : t.Sends f stage next c) :
      Acts (.send f stage) next { t.toShared with channel := c }

/-! ### Sections of the receive thread -/

/-- From where to where the thread gets with a section, and the channel that this leaves. -/
inductive Turns : Duty → Duty → Channel → Prop where
  /-- The thread is left waiting for bytes. -/
  | blocked {n scanner seen c} (reads : t.channel.receiver = .reading n scanner seen)
      (read : t.channel.readOn n scanner seen = (.blocked, c)) : Turns .idle .idle c
  | heard {n scanner seen c f} (reads : t.channel.receiver = .reading n scanner seen)
      (read : t.channel.readOn n scanner seen = (.frame f, c)) :
      Turns .idle (.passing f) (c.receive f)
  | broken {n scanner seen c e} (reads : t.channel.receiver = .reading n scanner seen)
      (read : t.channel.readOn n scanner seen = (.failed e, c)) : Turns .idle .failed c
  | passed {f} :
      Turns (.passing f) (.ofStage (t.channel.passOn f).1) (t.channel.passOn f).2
  | handled (e : Ending) : Turns (.handling .free) .idle (t.channel.countHandled e)
  | relayed {f} (r : Except ChannelError Unit) :
      Turns (.relaying f .free) .idle (t.channel.countRelayed r)
  | panicked {f} : Turns (.relaying f .free) (.unwinding .begun) t.channel
  | look : Turns .failed (if t.channel.halted then .leaving else .lost) t.channel
  | takeUp {n} (free : t.LinkFree) (waits : t.channel.pending = some n) :
      Turns .lost .idle (t.channel.dropPending.listen n)
  | close (free : t.LinkFree) (none : t.channel.pending = none) :
      Turns .lost .closed t.channel.closeLink
  | silence (free : t.WriterFree) : Turns .closed .silenced t.channel.dropWriter
  | shown : Turns .silenced .idle { t.channel.setState .disconnected with receiver := .waiting 0 }
  /-- The delay is cut short by a halt, or no attempt is left to wait for. -/
  | giveUp {k} (waits : t.channel.receiver = .waiting k)
      (spent : t.channel.config.isExhausted k = true ∨ t.channel.halted = true) :
      Turns .idle .leaving t.channel
  | delayed {k} (waits : t.channel.receiver = .waiting k)
      (left : t.channel.config.isExhausted k = false) (clear : t.channel.halted = false) :
      Turns .idle (.attempting k) t.channel.countAttempt
  | takeUpLate {k n} (free : t.LinkFree) (waits : t.channel.pending = some n) :
      Turns (.attempting k) .idle (t.channel.dropPending.listen n)
  | lock {k} (free : t.LinkFree) (none : t.channel.pending = none) :
      Turns (.attempting k) (.checking k) t.channel
  | check {k} : Turns (.checking k) (if t.channel.halted then .leaving else .cleared k) t.channel
  | announce {k} : Turns (.cleared k) (.announced k) (t.channel.setState .connecting)
  | dial {k n c} (opens : t.channel.openLink = (.ok n, c)) : Turns (.announced k) (.opened n) c
  | dialInVain {k e c} (refuses : t.channel.openLink = (.error e, c)) :
      Turns (.announced k) (.refused k) c
  | wait {k} : Turns (.refused k) .idle
      { t.channel.setState .disconnected with receiver := .waiting (k + 1) }
  /-- The halt was set while the link was opened, and the thread closes it again. -/
  | abort {n} (halted : t.channel.halted = true) : Turns (.opened n) .leaving t.channel.closeLink
  | keep {n} (clear : t.channel.halted = false) : Turns (.opened n) (.kept n) t.channel
  | install {n} (free : t.WriterFree) : Turns (.kept n) (.installed n) (t.channel.install n)
  | reconnect {n} : Turns (.installed n) .idle ((t.channel.setState .connected).listen n)
  | leave (free : t.LinkFree) : Turns .leaving .retiring t.channel
  | stay {n} (clear : t.channel.halted = false) (waits : t.channel.pending = some n) :
      Turns .retiring .idle (t.channel.dropPending.listen n)
  | retire (done : t.channel.halted = true ∨ t.channel.pending = none) :
      Turns .retiring .retired { t.channel.dropPending with receiving := false }
  | vacate : Turns .retired .idle t.channel.vacate
  | unwind (free : t.LinkFree) : Turns (.unwinding .begun) (.unwinding .closed)
      { t.channel.dropPending with receiving := false }.closeLink
  | unwindWriter (free : t.WriterFree) :
      Turns (.unwinding .closed) (.unwinding .silenced) t.channel.dropWriter
  | unwound : Turns (.unwinding .silenced) .idle
      { t.channel.setState .disconnected with receiver := .ended }

/-! ### Runs -/

/-- One step of anyone, in which only some calls may begin. -/
inductive Step (may : Call → Prop) : Traffic → Prop where
  | begins {who call next c} (allowed : may call) (here : t.point who = some .free)
      (begins : t.Begins call next c) : Step may (t.after who next { t.toShared with channel := c })
  | acts {who p next s} (here : t.point who = some p) (acts : t.Acts who p next s) :
      Step may (t.after who next s)
  | turns {d d' c} (here : t.duty = d) (turns : t.Turns d d' c) : Step may (t.turned d' c)
  | hears {c} (hears : t.channel.Hears c) : Step may { t with channel := c }

/-- Any number of steps, in which only some calls begin. -/
def Runs (may : Call → Prop) : Traffic → Traffic → Prop :=
  Relation.ReflTransGen fun t u => t.Step may u

end Traffic

/-- Whatever is reached is at the end of a run, point by point. -/
lemma exists_steps {α : Type} {step : α → α → Prop} {t u : α} (run : Relation.ReflTransGen step t u) :
    ∃ (p : Nat → α) (k : Nat), p 0 = t ∧ p k = u ∧ ∀ i < k, step (p i) (p (i + 1)) := by
  induction run with
  | refl => exact ⟨fun _ => t, 0, rfl, rfl, fun i hi => absurd hi (Nat.not_lt_zero i)⟩
  | tail _ hs ih =>
    obtain ⟨p, k, rfl, rfl, hp⟩ := ih
    obtain ⟨q, hsame, hk, hq⟩ := exists_steps_succ hp hs
    exact ⟨q, k + 1, hsame 0 (Nat.zero_le k), hk, hq⟩

/-- A run goes on, and something holds from there on. -/
lemma exists_steps_while {α : Type} {step : α → α → Prop} {Q : α → Prop} {p : Nat → α} {k : Nat} {u : α}
    (steps : ∀ i < k, step (p i) (p (i + 1)))
    (run : Relation.ReflTransGen (fun x y => step x y ∧ Q y) (p k) u) :
    ∃ (q : Nat → α) (l : Nat), k ≤ l ∧ (∀ i ≤ k, q i = p i) ∧ q l = u ∧
      (∀ i < l, step (q i) (q (i + 1))) ∧ ∀ i, k < i → i ≤ l → Q (q i) := by
  induction run with
  | refl => exact ⟨p, k, Nat.le_refl k, fun _ _ => rfl, rfl, steps, fun i hi hik => by omega⟩
  | tail _ hs ih =>
    obtain ⟨q, l, hkl, hsame, rfl, hq, hholds⟩ := ih
    obtain ⟨q', hsame', hl, hq'⟩ := exists_steps_succ hq hs.1
    refine ⟨q', l + 1, by omega, fun i hi => (hsame' i (by omega)).trans (hsame i hi), hl, hq',
      fun i hki hil => ?_⟩
    rcases Nat.lt_or_eq_of_le hil with hlt | rfl
    · rw [hsame' i (by omega)]
      exact hholds i hki (by omega)
    · exact hl ▸ hs.2

/-! ### Where a step leads -/

def Point.IsConnect : Point → Prop
  | .connect _ => True
  | _ => False

def Point.IsTerminate : Point → Prop
  | .terminate _ => True
  | _ => False

namespace Traffic

variable {t u : Traffic} {who : Party} {p : Point} {next : Next} {s : Shared} {d d' : Duty}
  {c : Channel}

lemma Acts.isConnect (h : t.Acts who p next s) (hn : next.point.IsConnect) : p.IsConnect := by
  cases h with
  | connect => trivial
  | disconnect | disconnected => exact hn
  | terminate acts => cases acts <;> exact hn
  | send sends => cases sends <;> exact hn

lemma Acts.isTerminate (h : t.Acts who p next s) (hn : next.point.IsTerminate) : p.IsTerminate := by
  cases h with
  | connect acts => cases acts <;> exact hn
  | disconnect | disconnected => exact hn
  | terminate => trivial
  | send sends => cases sends <;> exact hn

lemma Begins.isConnect {call : Call} (h : t.Begins call next c) (hn : next.point.IsConnect) :
    call = .connect := by
  cases h <;> first | rfl | exact hn.elim

lemma Begins.isTerminate {call : Call} (h : t.Begins call next c) (hn : next.point.IsTerminate) :
    call = .terminate := by
  cases h <;> first | rfl | exact hn.elim

/-- No call begins with a lock in hand. -/
lemma Begins.hasLink {call : Call} (h : t.Begins call next c) : ¬ next.point.HasLink := by
  cases h <;> exact id

lemma Begins.hasWriter {call : Call} (h : t.Begins call next c) : ¬ next.point.HasWriter := by
  cases h <;> exact id

lemma Acts.hasLink (h : t.Acts who p next s) (hn : next.point.HasLink) : p.HasLink ∨ t.LinkFree := by
  cases h with
  | connect acts => cases acts <;> first | exact .inl trivial | exact .inr ‹_› | exact hn.elim
  | disconnect closes => cases closes <;> first | exact .inl trivial | exact .inr ‹_›
  | disconnected => exact hn.elim
  | terminate acts => cases acts <;> first | exact .inr ‹_› | exact hn.elim
  | send sends =>
    cases sends with
    | close closes => cases closes <;> first | exact .inl trivial | exact .inr ‹_›
    | write => exact absurd hn (Sending.not_hasLink_afterWrite _ _ _ _)
    | flushInVain => exact absurd hn (Sending.not_hasLink_afterFlush _ _ _)
    | _ => exact hn.elim

lemma Acts.hasWriter (h : t.Acts who p next s) (hn : next.point.HasWriter) :
    p.HasWriter ∨ t.WriterFree := by
  cases h with
  | connect acts => cases acts <;> exact hn.elim
  | disconnect | disconnected => exact hn.elim
  | terminate acts => cases acts <;> exact hn.elim
  | send sends =>
    cases sends with
    | lock free => exact .inr free
    | accept | write | written | flushInVain => exact .inl trivial
    | _ => exact hn.elim

/-- The thread turns only while no call is in progress on it. -/
lemma Turns.from_free (h : t.Turns d d' c) {q : Point} (hq : d.point? = some q) : q = .free := by
  cases h <;> first | exact (Option.some.inj hq).symm | exact absurd hq (by simp [Duty.point?])

lemma Turns.to_free (h : t.Turns d d' c) {q : Point} (hq : d'.point? = some q) : q = .free := by
  cases h with
  | passed =>
    rcases Duty.ofStage_cases (t.channel.passOn _).1 with h | h | ⟨_, h⟩
    all_goals
      rw [h] at hq
      simp_all [Duty.point?]
  | look | check => split at hq <;> exact absurd hq (by simp [Duty.point?])
  | _ => exact absurd hq (by simp [Duty.point?])

lemma Turns.hasLink (h : t.Turns d d' c) (hn : d'.HasLink) : d.HasLink ∨ t.LinkFree := by
  cases h with
  | passed =>
    rcases Duty.ofStage_cases (t.channel.passOn _).1 with h | h | ⟨_, h⟩
    all_goals
      rw [h] at hn
      exact hn.elim
  | close free | lock free | leave free | unwind free => exact .inr free
  | look => split at hn <;> exact hn.elim
  | _ => first | exact .inl trivial | exact hn.elim

/-- What a party has made of calls is only added to. -/
lemma Step.made {may : Call → Prop} (hs : t.Step may u) (w : Party) :
    ∃ rest, u.made w = t.made w ++ rest := by
  have hafter (who : Party) (next : Next) (s : Shared) :
      ∃ rest, (t.after who next s).made w = t.made w ++ rest := by
    by_cases hw : w = who
    · exact ⟨next.made, hw ▸ made_after_self⟩
    · exact ⟨[], (made_after_other hw).trans (List.append_nil _).symm⟩
  cases hs with
  | begins | acts => exact hafter _ _ _
  | turns | hears => exact ⟨[], (List.append_nil _).symm⟩

end Traffic

end FrameLink
