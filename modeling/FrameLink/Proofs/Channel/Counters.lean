import Mathlib.Tactic.Lemma
import FrameLink.Channel.Receive

/-!
What the sections of a channel count.

Most sections count nothing. A call counts the frames that it sends and nothing else, and reading on
counts only what the scanner has met since it was last asked.
-/

namespace FrameLink.Channel

variable (c : Channel)

@[simp] lemma counters_noteClosing : c.noteClosing.counters = c.counters := by
  unfold noteClosing
  split <;> rfl

@[simp] lemma counters_closeLink : c.closeLink.counters = c.counters := counters_noteClosing c

@[simp] lemma counters_openLink : c.openLink.2.counters = c.counters := by
  unfold openLink
  dsimp only
  split <;> exact counters_noteClosing c

lemma counters_of_opens {r : Except TransportError Nat} {c' : Channel} (h : c.openLink = (r, c')) :
    c'.counters = c.counters := by
  rw [← counters_openLink c, h]

@[simp] lemma counters_start (n : Nat) : (c.start n).2.counters = c.counters := by
  unfold start
  split
  · rfl
  · rfl
  · exact counters_closeLink _

@[simp] lemma counters_establish : c.establish.2.counters = c.counters := by
  unfold establish
  split
  · next e c' h =>
    have hopen : c'.counters = c.counters := counters_of_opens (c.setState .connecting) h
    exact hopen
  · next n c' h =>
    have hopen : c'.counters = c.counters := counters_of_opens (c.setState .connecting) h
    dsimp only
    split
    · exact hopen
    · rw [counters_start]
      exact hopen

@[simp] lemma counters_takeDown : c.takeDown.counters = c.counters := counters_closeLink c.dropPending

@[simp] lemma counters_disconnect : c.disconnect.counters = c.counters := counters_takeDown c

@[simp] lemma counters_retire : c.retire.counters = c.counters := by
  unfold retire
  split
  · rfl
  · dsimp only
    split <;> rfl

@[simp] lemma counters_takeOver : c.takeOver.counters = c.counters := by
  unfold takeOver
  split
  · rfl
  · exact counters_closeLink c

@[simp] lemma counters_attempt (k : Nat) : (c.attempt k).counters = c.counters := by
  unfold attempt
  split
  · rfl
  · split
    · next n c' h =>
      have hopen : c'.counters = c.counters := counters_of_opens (c.setState .connecting) h
      exact hopen
    · next e c' h =>
      have hopen : c'.counters = c.counters := counters_of_opens (c.setState .connecting) h
      exact hopen

@[simp] lemma counters_abandon : c.abandon.counters = c.counters :=
  counters_closeLink { c.dropPending with receiving := false, receiver := .ended }

/-- The counters agree but for the frames that were sent. -/
def Sends (c c' : Channel) : Prop :=
  c'.counters = { c.counters with framesSent := c'.counters.framesSent }

variable {c}

lemma Sends.of_eq {c' : Channel} (h : c'.counters = c.counters) : c.Sends c' := by
  rw [Sends, h]

lemma sends_write (f : Frame) : c.Sends (c.write f).2 := by
  unfold write
  split
  · rfl
  · split
    · rfl
    · dsimp only
      split <;> rfl

lemma sends_send (f : Frame) : c.Sends (c.send f).2 := by
  have hw := sends_write (c := c) f
  unfold send
  split
  · next e c' h =>
    rw [h] at hw
    rwa [Sends, failSend, counters_disconnect]
  · exact hw

/-- A call counts nothing but the frames that it sends. -/
lemma sends_perform (call : Call) : c.Sends (c.perform call).2 := by
  cases call with
  | connect => exact .of_eq (counters_establish (c.setHalted false))
  | disconnect => exact .of_eq (counters_disconnect c)
  | terminate => exact .of_eq (counters_takeDown ((c.setHalted true).setState .halting))
  | send f => exact sends_send f
  | last | register kind h | unregister kind | relay r => exact .of_eq rfl

/-- Reading on counts what the scanner has met since it was last asked, unless the thread is left
waiting. -/
lemma readOn_cases {n : Nat} {scanner : Scanner} {seen : ScanTally} {o : ReadOutcome} {c' : Channel}
    (h : c.readOn n scanner seen = (o, c')) :
    let r := (Reader.readFrame ⟨scanner, (c.transport.link n).inbound⟩).2
    o = .blocked ∧ c'.receiver = .reading n r.scanner seen ∧ c'.counters = c.counters ∨
      o ≠ .blocked ∧ c'.receiver = .reading n r.scanner r.scanner.tally ∧
        c'.counters = (c.absorb seen r.scanner.tally).counters := by
  unfold readOn at h
  dsimp only at h
  split at h
  · next hb =>
    obtain ⟨rfl, rfl⟩ := Prod.mk.inj h
    exact .inl ⟨hb, rfl, rfl⟩
  · next hb =>
    obtain ⟨rfl, rfl⟩ := Prod.mk.inj h
    exact .inr ⟨hb, rfl, rfl⟩

/-- A request that is left waiting. -/
lemma readOn_of_blocked {n : Nat} {scanner : Scanner} {seen : ScanTally} {r : Reader}
    (h : Reader.readFrame ⟨scanner, (c.transport.link n).inbound⟩ = (.blocked, r)) :
    c.readOn n scanner seen = (.blocked, { c with
      transport := c.transport.onLink n fun l => { l with inbound := r.source }
      receiver := .reading n r.scanner seen }) := by
  unfold readOn
  simp only [h]

/-- A request that fails. -/
lemma readOn_of_failed {n : Nat} {scanner : Scanner} {seen : ScanTally} {e : FrameError} {r : Reader}
    (h : Reader.readFrame ⟨scanner, (c.transport.link n).inbound⟩ = (.failed e, r)) :
    c.readOn n scanner seen = (.failed e,
      { { c with transport := c.transport.onLink n fun l => { l with inbound := r.source } }.absorb
          seen r.scanner.tally with
        receiver := .reading n r.scanner r.scanner.tally }) := by
  unfold readOn
  simp only [h]

end FrameLink.Channel
