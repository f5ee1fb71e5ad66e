import FrameLink.Proofs.Channel.Counters
import FrameLink.Proofs.Channel.Inflow
import FrameLink.Proofs.Channel.Outage

/-!
Attempts and outages, as they can be observed.

An outage begins when a link is closed, and every attempt to connect until the next link is closed
belongs to it. While no one but the receive thread closes or opens links, the counter of attempts is the
sum over all outages, and the number that the thread itself goes by is that of the last one. An attempt
is counted before it is made.
-/

namespace FrameLink

/-! ### Outages, as they can be observed -/

/-- So many attempts more in the outage that goes on, if there is one. -/
def retried (n : Nat) : List Nat → List Nat
  | [] => []
  | k :: ks => (k + n) :: ks

lemma head?_retried (n : Nat) (ks : List Nat) : (retried n ks).head? = ks.head?.map (· + n) := by
  cases ks <;> rfl

@[simp] lemma retried_zero (ks : List Nat) : retried 0 ks = ks := by
  cases ks <;> rfl

/-- The attempts to connect in each outage, the last one first: an outage begins when a link is closed. -/
def Event.mark (ks : List Nat) : Event → List Nat
  | .closed _ _ => 0 :: ks
  | .connected _ _ | .refused _ => retried 1 ks
  | _ => ks

namespace Channel

variable {c c' : Channel} {k n : Nat} {d d' : Duty}

/-- The attempts to connect in each outage so far, the last one first. -/
def outages (c : Channel) : List Nat := c.trace.foldl Event.mark []

/-- Nothing is seen of links, and no attempt is counted. -/
structure Unseen (c c' : Channel) : Prop where
  config : c'.config = c.config
  trace : c'.trace = c.trace
  current : c'.transport.current = c.transport.current
  length : c'.transport.links.length = c.transport.links.length
  pending : c'.pending = c.pending
  halted : c'.halted = c.halted
  attempts : c'.counters.reconnectAttempts = c.counters.reconnectAttempts

lemma Unseen.outages (h : c.Unseen c') : c'.outages = c.outages := by
  rw [Channel.outages, h.trace, Channel.outages]

lemma unseen_readOn (c : Channel) (n : Nat) (scanner : Scanner) (seen : ScanTally) :
    c.Unseen (c.readOn n scanner seen).2 := by
  unfold readOn
  dsimp only
  split <;> exact ⟨rfl, rfl, rfl, List.length_modify _ _ _, rfl, rfl, rfl⟩

lemma unseen_passOn (c : Channel) (f : Frame) : c.Unseen (c.passOn f).2 := by
  unfold passOn
  repeat' split
  all_goals exact ⟨rfl, rfl, rfl, rfl, rfl, rfl, rfl⟩

lemma Hears.unseen (h : c.Hears c') : c.Unseen c' := by
  have hdeliver (item : Inbound) : c.Unseen { c with transport := c.transport.deliver item } := by
    unfold Transport.deliver
    split
    · exact ⟨rfl, rfl, rfl, List.length_modify _ _ _, rfl, rfl, rfl⟩
    · exact ⟨rfl, rfl, rfl, rfl, rfl, rfl, rfl⟩
  cases h with
  | feed b =>
    unfold Transport.feed
    split
    · exact ⟨rfl, rfl, rfl, rfl, rfl, rfl, rfl⟩
    · exact hdeliver _
  | failRead e => exact hdeliver _
  | endInput =>
    unfold Transport.endInput
    split
    · exact ⟨rfl, rfl, rfl, List.length_modify _ _ _, rfl, rfl, rfl⟩
    · exact ⟨rfl, rfl, rfl, rfl, rfl, rfl, rfl⟩

/-- Closing the link that is open begins an outage. -/
lemma outages_closeLink (h : c.transport.current = some n) :
    c.closeLink.outages = 0 :: c.outages := by
  rw [outages, closeLink_eq]
  simp [closing, h, outages, Event.mark]

/-- An attempt to open a link where none is open. -/
structure Tried (c c' : Channel) : Prop where
  config : c'.config = c.config
  outages : c'.outages = retried 1 c.outages
  length : c'.transport.links.length =
    c.transport.links.length + c'.transport.current.toList.length
  pending : c'.pending = c.pending
  halted : c'.halted = c.halted
  receiver : c'.receiver = c.receiver
  receiving : c'.receiving = c.receiving
  counters : c'.counters = c.counters

lemma Tried.ne_nil (h : c.Tried c') (hone : c.outages ≠ []) : c'.outages ≠ [] := by
  rw [h.outages]
  cases hks : c.outages with
  | nil => exact absurd hks hone
  | cons k ks => exact List.cons_ne_nil _ _

lemma tried_of_ok (h : c.transport.current = none) (ho : c.openLink = (.ok n, c')) :
    c.Tried c' ∧ ∃ m, c'.transport.current = some m := by
  cases hout : c.transport.outcome 0 with
  | error e =>
    rw [openLink_of_error h hout] at ho
    cases ho
  | ok =>
    rw [openLink_of_ok h hout] at ho
    cases ho
    exact ⟨⟨rfl, by simp [outages, Event.mark], by simp, rfl, rfl, rfl, rfl, rfl⟩, _, rfl⟩

lemma tried_of_error {e : TransportError} (h : c.transport.current = none)
    (ho : c.openLink = (.error e, c')) : c.Tried c' ∧ c'.transport.current = none := by
  cases hout : c.transport.outcome 0 with
  | ok =>
    rw [openLink_of_ok h hout] at ho
    cases ho
  | error e =>
    rw [openLink_of_error h hout] at ho
    cases ho
    exact ⟨⟨rfl, by simp [outages, Event.mark], by simp [h], rfl, rfl, rfl, rfl, rfl⟩, h⟩

end Channel

/-! ### The books of a channel -/

/-- Attempts that are counted and were not made yet. -/
def Duty.underway : Duty → Nat
  | .attempting _ | .checking _ | .cleared _ | .announced _ => 1
  | _ => 0

namespace Channel

variable {c c' : Channel} {k n : Nat} {d d' : Duty}

/-- No link waits and nothing is halted; every attempt that is counted belongs to an outage, none of
which costs more than its budget, and each link that was opened is open or lost. -/
structure Kept (c : Channel) (d : Duty) : Prop where
  pending : c.pending = none
  clear : c.halted = false
  attempts : c.counters.reconnectAttempts = c.outages.sum + d.underway
  budget (m : Nat) : c.config.maxAttempts = some m → ∀ k ∈ retried d.underway c.outages, k ≤ m
  lost : c.outages.length + c.transport.current.toList.length = c.transport.links.length

lemma Kept.unseen (h : c.Kept d) (hu : c.Unseen c') (hd : d'.underway = d.underway) :
    c'.Kept d' where
  pending := hu.pending.trans h.pending
  clear := hu.halted.trans h.clear
  attempts := by rw [hu.attempts, hu.outages, hd, h.attempts]
  budget m hm := by
    rw [hu.outages, hd]
    exact h.budget m (hu.config ▸ hm)
  lost := by rw [hu.outages, hu.current, hu.length, h.lost]

lemma Kept.closed (h : c.Kept d) (hc : c.transport.current = some n) (hd : d.underway = 0)
    (hd' : d'.underway = 0) : c.closeLink.Kept d' where
  pending := (congrArg Wiring.pending (wiring_closeLink c)).trans h.pending
  clear := (congrArg Wiring.halted (wiring_closeLink c)).trans h.clear
  attempts := by
    rw [counters_closeLink, outages_closeLink hc, hd', h.attempts, hd, List.sum_cons, Nat.zero_add]
  budget m hm := by
    have hconfig : c.closeLink.config = c.config := by rw [closeLink_eq]
    have hbudget := h.budget m (hconfig ▸ hm)
    rw [hd, retried_zero] at hbudget
    rw [hd', retried_zero, outages_closeLink hc]
    exact List.forall_mem_cons.mpr ⟨Nat.zero_le m, hbudget⟩
  lost := by
    have hlost := h.lost
    simp only [hc, Option.toList_some, List.length_singleton] at hlost
    have hlength : c.closeLink.transport.links.length = c.transport.links.length := by
      rw [closeLink_eq]
      exact Transport.length_disconnect _
    rw [outages_closeLink hc, current_closeLink, hlength, ← hlost]
    rfl

/-- The attempt that was counted is made. -/
lemma Kept.tried (h : c.Kept d) (ht : c.Tried c') (hc : c.transport.current = none)
    (hone : c.outages ≠ []) (hd : d.underway = 1) (hd' : d'.underway = 0) : c'.Kept d' where
  pending := ht.pending.trans h.pending
  clear := ht.halted.trans h.clear
  attempts := by
    obtain ⟨k, ks, hks⟩ := List.exists_cons_of_ne_nil hone
    have hattempts := h.attempts
    rw [hd, hks] at hattempts
    rw [ht.counters, ht.outages, hd', hks, hattempts, retried]
    simp only [List.sum_cons]
    omega
  budget m hm := by
    rw [ht.outages, hd', retried_zero, ← hd]
    exact h.budget m (ht.config ▸ hm)
  lost := by
    obtain ⟨k, ks, hks⟩ := List.exists_cons_of_ne_nil hone
    have hlost := h.lost
    rw [hc, hks] at hlost
    rw [ht.length, ht.outages, hks, ← hlost, retried]
    simp

/-- The thread reads a link that is open, on a channel that is up. -/
def Reads (c : Channel) : Prop :=
  (∃ n scanner seen, c.receiver = .reading n scanner seen) ∧ c.state = .connected ∧
    ∃ n, c.transport.current = some n

/-- No link is open, in an outage with so many attempts. -/
def Out (c : Channel) (k : Nat) : Prop := c.transport.current = none ∧ c.outages.head? = some k

/-- What holds of a channel at each point of the thread. -/
def Stands (c : Channel) : Duty → Prop
  | .idle => c.Reads ∨ (∃ k, c.receiver = .waiting k ∧ c.Out k) ∨ c.receiver = .ended
  | .failed | .lost | .passing _ | .handling _ | .relaying _ _ | .unwinding .begun => c.Reads
  | .closed | .silenced => c.state = .connected ∧ c.Out 0
  | .unwinding _ => c.state = .connected
  | .attempting k | .checking k | .cleared k | .announced k => c.Out k
  | .refused k => c.Out (k + 1)
  | .opened _ | .kept _ | .installed _ => (∃ n, c.transport.current = some n) ∧ c.outages ≠ []
  | .leaving | .retiring | .retired => c.outages ≠ []

lemma Reads.unseen (h : c.Reads) (hu : c.Unseen c') (hr : c'.receiver = c.receiver)
    (hs : c'.state = c.state) : c'.Reads :=
  ⟨hr ▸ h.1, hs.trans h.2.1, hu.current ▸ h.2.2⟩

lemma Out.unseen (h : c.Out k) (hu : c.Unseen c') : c'.Out k :=
  ⟨hu.current.trans h.1, hu.outages ▸ h.2⟩

lemma Out.ne_nil (h : c.Out k) : c.outages ≠ [] := by
  intro hnil
  simp [Out, hnil] at h

/-- Whoever reads goes on reading, whatever is found. -/
lemma Reads.readOn {scanner : Scanner} {seen : ScanTally} {o : ReadOutcome} (h : c.Reads)
    (ho : c.readOn n scanner seen = (o, c')) : c.Unseen c' ∧ c'.Reads := by
  have hu := unseen_readOn c n scanner seen
  obtain ⟨-, seen', hw⟩ := wiring_readOn c n scanner seen
  rw [ho] at hu hw
  have hstate : c'.state = c.state := congrArg Wiring.state hw
  have hreceiver := congrArg Wiring.receiver hw
  exact ⟨hu, ⟨_, _, _, hreceiver⟩, hstate.trans h.2.1, hu.current ▸ h.2.2⟩

lemma Reads.passOn (h : c.Reads) (f : Frame) : (c.passOn f).2.Reads := by
  unfold Channel.passOn
  repeat' split
  all_goals exact h

lemma Stands.reads {scanner : Scanner} {seen : ScanTally} (h : c.Stands .idle)
    (hr : c.receiver = .reading n scanner seen) : c.Reads := by
  rcases h with h | ⟨k, h, -⟩ | h
  · exact h
  · rw [hr] at h
    cases h
  · rw [hr] at h
    cases h

lemma Stands.out (h : c.Stands .idle) (hr : c.receiver = .waiting k) : c.Out k := by
  rcases h with ⟨⟨_, _, _, h⟩, -⟩ | ⟨j, h, hout⟩ | h
  · rw [hr] at h
    cases h
  · rw [hr, Receiver.waiting.injEq] at h
    exact h ▸ hout
  · rw [hr] at h
    cases h

end Channel

namespace Traffic

variable {t u : Traffic} {d d' : Duty} {c : Channel}

open Channel

/-- A section of the thread leaves the books in order, and the thread where it can stand. -/
lemma Turns.kept (turns : t.Turns d d' c) (h : t.channel.Kept d) (hs : t.channel.Stands d) :
    c.Kept d' ∧ c.Stands d' := by
  have hsame : t.channel.Unseen t.channel := ⟨rfl, rfl, rfl, rfl, rfl, rfl, rfl⟩
  cases turns with
  | blocked reads read | broken reads read =>
    obtain ⟨hu, hreads⟩ := (hs.reads reads).readOn read
    first
    | exact ⟨h.unseen hu rfl, .inl hreads⟩
    | exact ⟨h.unseen hu rfl, hreads⟩
  | @heard _ _ _ c f reads read =>
    obtain ⟨hu, hreads⟩ := (hs.reads reads).readOn read
    have hu' : t.channel.Unseen (c.receive f) := { hu with }
    exact ⟨h.unseen hu' rfl, hreads⟩
  | @passed f =>
    have hreads := Reads.passOn hs f
    have hu := unseen_passOn t.channel f
    rcases Duty.ofStage_cases (t.channel.passOn f).1 with hd | hd | ⟨g, hd⟩ <;> rw [hd]
    · exact ⟨h.unseen hu rfl, .inl hreads⟩
    · exact ⟨h.unseen hu rfl, hreads⟩
    · exact ⟨h.unseen hu rfl, hreads⟩
  | handled e => cases e <;> exact ⟨h.unseen ⟨rfl, rfl, rfl, rfl, rfl, rfl, rfl⟩ rfl, .inl hs⟩
  | relayed r => cases r <;> exact ⟨h.unseen ⟨rfl, rfl, rfl, rfl, rfl, rfl, rfl⟩ rfl, .inl hs⟩
  | panicked => exact ⟨h.unseen hsame rfl, hs⟩
  | look =>
    rw [h.clear, if_neg Bool.false_ne_true]
    exact ⟨h.unseen hsame rfl, hs⟩
  | takeUp _ waits | takeUpLate _ waits => exact absurd (waits.symm.trans h.pending) (Option.some_ne_none _)
  | close =>
    obtain ⟨-, hup, n, hc⟩ := hs
    refine ⟨h.closed hc rfl rfl, ?_, current_closeLink _, by rw [outages_closeLink hc]; rfl⟩
    exact (congrArg Wiring.state (wiring_closeLink _)).trans hup
  | silence => exact ⟨h.unseen ⟨rfl, rfl, rfl, rfl, rfl, rfl, rfl⟩ rfl, hs⟩
  | shown =>
    exact ⟨h.unseen ⟨rfl, rfl, rfl, rfl, rfl, rfl, rfl⟩ rfl, .inr (.inl ⟨0, rfl, hs.2⟩)⟩
  | giveUp waits => exact ⟨h.unseen hsame rfl, (hs.out waits).ne_nil⟩
  | @delayed k waits left =>
    have hout := hs.out waits
    refine ⟨⟨h.pending, h.clear, congrArg (· + 1) h.attempts, ?_, h.lost⟩, hout⟩
    intro m (hm : t.channel.config.maxAttempts = some m)
    have hbudget := h.budget m hm
    obtain ⟨ks, hks⟩ : ∃ ks, t.channel.outages = k :: ks := List.head?_eq_some_iff.mp hout.2
    have hlt : k < m := by
      simp only [ChannelConfig.isExhausted, hm, decide_eq_false_iff_not] at left
      omega
    change ∀ j ∈ retried 1 t.channel.outages, j ≤ m
    change ∀ j ∈ retried 0 t.channel.outages, j ≤ m at hbudget
    rw [retried_zero, hks] at hbudget
    rw [hks]
    exact List.forall_mem_cons.mpr ⟨hlt, (List.forall_mem_cons.mp hbudget).2⟩
  | lock => exact ⟨h.unseen hsame rfl, hs⟩
  | check =>
    rw [h.clear, if_neg Bool.false_ne_true]
    exact ⟨h.unseen hsame rfl, hs⟩
  | announce => exact ⟨h.unseen ⟨rfl, rfl, rfl, rfl, rfl, rfl, rfl⟩ rfl, hs⟩
  | dial opens =>
    obtain ⟨htried, hopen⟩ := tried_of_ok hs.1 opens
    exact ⟨h.tried htried hs.1 hs.ne_nil rfl rfl, hopen, htried.ne_nil hs.ne_nil⟩
  | dialInVain refuses =>
    obtain ⟨htried, hnone⟩ := tried_of_error hs.1 refuses
    refine ⟨h.tried htried hs.1 hs.ne_nil rfl rfl, hnone, ?_⟩
    rw [htried.outages, head?_retried, hs.2]
    rfl
  | wait =>
    exact ⟨h.unseen ⟨rfl, rfl, rfl, rfl, rfl, rfl, rfl⟩ rfl, .inr (.inl ⟨_, rfl, hs⟩)⟩
  | abort halted => exact absurd (h.clear.symm.trans halted) Bool.false_ne_true
  | keep => exact ⟨h.unseen hsame rfl, hs⟩
  | install => exact ⟨h.unseen ⟨rfl, rfl, rfl, rfl, rfl, rfl, rfl⟩ rfl, hs⟩
  | reconnect =>
    exact ⟨h.unseen ⟨rfl, rfl, rfl, rfl, rfl, rfl, rfl⟩ rfl, .inl ⟨⟨_, _, _, rfl⟩, rfl, hs.1⟩⟩
  | leave => exact ⟨h.unseen hsame rfl, hs⟩
  | stay _ waits => exact absurd (waits.symm.trans h.pending) (Option.some_ne_none _)
  | retire =>
    exact ⟨h.unseen ⟨rfl, rfl, rfl, rfl, h.pending.symm, rfl, rfl⟩ rfl, hs⟩
  | vacate =>
    unfold Channel.vacate
    dsimp only
    split <;> exact ⟨h.unseen ⟨rfl, rfl, rfl, rfl, rfl, rfl, rfl⟩ rfl, .inr (.inr rfl)⟩
  | unwind =>
    obtain ⟨-, hup, n, hc⟩ := hs
    have hdropped : t.channel.Unseen { t.channel.dropPending with receiving := false } :=
      ⟨rfl, rfl, rfl, rfl, h.pending.symm, rfl, rfl⟩
    refine ⟨Kept.closed (h.unseen hdropped rfl) hc rfl rfl, ?_⟩
    exact (congrArg Wiring.state (wiring_closeLink _)).trans hup
  | unwindWriter => exact ⟨h.unseen ⟨rfl, rfl, rfl, rfl, rfl, rfl, rfl⟩ rfl, hs⟩
  | unwound => exact ⟨h.unseen ⟨rfl, rfl, rfl, rfl, rfl, rfl, rfl⟩ rfl, .inr (.inr rfl)⟩

end Traffic

namespace Channel

variable {c c' : Channel} {n : Nat} {d d' : Duty}

lemma Stands.unseen (h : c.Stands d) (hu : c.Unseen c') (hr : c'.receiver = c.receiver)
    (hs : c'.state = c.state) : c'.Stands d := by
  cases d with
  | idle =>
    rcases h with h | ⟨k, hk, h⟩ | h
    · exact .inl (h.unseen hu hr hs)
    · exact .inr (.inl ⟨k, hr.trans hk, h.unseen hu⟩)
    · exact .inr (.inr (hr.trans h))
  | failed | lost | passing | handling | relaying => exact Reads.unseen h hu hr hs
  | closed | silenced => exact ⟨hs.trans h.1, h.2.unseen hu⟩
  | unwinding stage =>
    cases stage with
    | begun => exact Reads.unseen h hu hr hs
    | closed | silenced => exact hs.trans h
  | attempting | checking | cleared | announced | refused => exact Out.unseen h hu
  | opened | kept | installed => exact ⟨hu.current ▸ h.1, hu.outages ▸ h.2⟩
  | leaving | retiring | retired => exact fun hnil => h (hu.outages.symm.trans hnil)

/-- The first link is opened, or is not to be had. -/
lemma Kept.first (h : c.Kept d) (ht : c.Tried c') (hc : c.transport.current = none)
    (fresh : c.outages = []) (hd : d'.underway = d.underway) : c'.Kept d' where
  pending := ht.pending.trans h.pending
  clear := ht.halted.trans h.clear
  attempts := by rw [ht.counters, ht.outages, hd, h.attempts, fresh, retried]
  budget m hm := by
    rw [ht.outages, fresh]
    exact fun k hk => absurd hk List.not_mem_nil
  lost := by
    have hlost := h.lost
    rw [hc, fresh] at hlost
    rw [ht.length, ht.outages, fresh, ← hlost, retried]
    simp

end Channel

end FrameLink
