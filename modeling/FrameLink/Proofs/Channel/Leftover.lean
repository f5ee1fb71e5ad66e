import FrameLink.Proofs.Channel.Scanned

/-!
What is still delivered after `terminate`.

`terminate` closes the link and halts the channel, and until the next `connect` nothing is opened again.
But the thread looks for the halt only when a request for a frame fails, and a request takes what the
scanner holds before it reads. So a handler that terminates its own channel is followed by the frames
that had been read off the link together with its own, and by no others: the transport is the scripted
one, on which a link gives nothing more once it is closed on this side. After a link that still serves
what has come in, as sockets do, the frames in that follow as well.
-/

namespace FrameLink

/-- No link is open or waits to be read, and the thread is told to stop. -/
structure Wiring.Stopped (w : Wiring) : Prop where
  halted : w.halted = true
  current : w.current = none
  pending : w.pending = none

namespace Session

/-- A call to `connect` begins, from outside or in a handler or a relay. -/
def Connects (s t : Session) : Prop :=
  s.caller = .free ∧ t.caller = .connecting ∨
    s.stage.IsOut ∧ t = s.leave (s.channel.perform .connect).2

/-- What the thread has delivered, beyond the frames `before`, of the frames `left` that it had read
off link `n` and not delivered yet. -/
inductive Winds (s : Session) (n : Nat) (before left : List Frame) : Prop where
  /-- It will go on with what its scanner holds. -/
  | going {scanner seen fs} (stage : s.stage = .idle ∨ (∃ f, s.stage = .passing f) ∨ s.stage.IsOut)
      (reads : s.channel.receiver = .reading n scanner seen)
      (delivered : s.delivered = before ++ fs) (rest : fs ++ scanner.drainEnd.1 = left)
  | leaving (stage : s.stage = .failed ∨ s.stage = .leaving) (delivered : s.delivered = before ++ left)
  | ended (stage : s.stage = .idle) (receiver : s.channel.receiver = .ended)
      (delivered : s.delivered = before ++ left)
  /-- A relay has panicked over one of the frames. -/
  | unwound {fs} (stage : s.stage = .idle) (receiver : s.channel.receiver = .ended)
      (delivered : s.delivered = before ++ fs) (part : fs <+: left)
      (relay : ∃ x ∈ s.past, ∃ f, x.link = n ∧ x.ending = some (.abandoned f))

/-- The channel is stopped, no call is about to clear the halt, and the thread winds down. -/
structure Stopping (s : Session) (n : Nat) (before left : List Frame) : Prop where
  stopped : s.channel.wiring.Stopped
  calm : s.caller ≠ .connecting
  winds : s.Winds n before left

variable {s t : Session} {l : Limits} {c : Channel} {n : Nat} {before left : List Frame}

/-- What is delivered does not depend on what else happens to the channel. -/
lemma Winds.mono (h : s.Winds n before left) (stage : t.stage = s.stage)
    (receiver : t.channel.receiver = s.channel.receiver) (delivered : t.delivered = s.delivered)
    (past : ∀ x ∈ s.past, x ∈ t.past) : t.Winds n before left := by
  cases h with
  | going hst reads hd rest =>
    exact .going (stage ▸ hst) (receiver.trans reads) (delivered.trans hd) rest
  | leaving hst hd => exact .leaving (stage ▸ hst) (delivered.trans hd)
  | ended hst hr hd => exact .ended (stage.trans hst) (receiver.trans hr) (delivered.trans hd)
  | unwound hst hr hd part relay =>
    obtain ⟨x, hx, f, hf⟩ := relay
    exact .unwound (stage.trans hst) (receiver.trans hr) (delivered.trans hd) part ⟨x, past x hx, f, hf⟩

/-- A section that keeps the channel stopped and does not touch the thread. -/
lemma Stopping.keep (h : s.Stopping n before left) {caller : Caller}
    (stopped : c.wiring.Stopped) (receiver : c.wiring.receiver = s.channel.wiring.receiver)
    (calm : caller ≠ .connecting) : Stopping { s with channel := c, caller } n before left :=
  ⟨stopped, calm, h.winds.mono rfl receiver rfl fun _ hx => hx⟩

/-! ### Calls -/

lemma past_leave (s : Session) (c : Channel) : ∀ x ∈ s.past, x ∈ (s.leave c).past := by
  intro x hx
  unfold leave
  split
  · exact List.mem_append_left _ hx
  · exact hx

lemma Stopped.released {w w' : Wiring} (h : w.Stopped) (hw : w.Released w') :
    w'.Stopped ∧ w'.receiver = w.receiver := by
  cases hw with
  | same => exact ⟨h, rfl⟩
  | down halted keep => exact ⟨⟨keep h.halted, rfl, rfl⟩, rfl⟩

lemma Stopping.leave (h : s.Stopping n before left) {call : Call} (hcall : call ≠ .connect) :
    (s.leave (s.channel.perform call).2).Stopping n before left := by
  obtain ⟨hstopped, hreceiver⟩ := Stopped.released h.stopped (s.channel.released hcall)
  refine ⟨by rwa [channel_leave], by rw [caller_leave]; exact h.calm, ?_⟩
  exact h.winds.mono (stage_leave s _) (by rw [channel_leave]; exact hreceiver)
    (delivered_leave s _) (past_leave s _)

lemma Stopping.calls (h : s.Stopping n before left) (hc : s.Calls t) (hno : ¬ s.Connects t) :
    t.Stopping n before left := by
  have hs := h.stopped
  cases hc with
  | short call short free => exact h.leave (by rintro rfl; exact short)
  | callBack call out free => exact h.leave (by rintro rfl; exact hno (Or.inr ⟨out, rfl⟩))
  | clearHalt free => exact absurd (Or.inl ⟨free, rfl⟩) hno
  | establish next => exact absurd next h.calm
  | send f free done =>
    have hw := Channel.wiring_write s.channel f
    exact h.keep (by rwa [hw]) (by rw [hw]) h.calm
  | @sendFails f e free fails =>
    have hw := Channel.wiring_write s.channel f
    exact h.keep (by rwa [hw]) (by rw [hw]) (by simp)
  | haltSend next => exact h.keep { hs with halted := rfl } rfl (by simp)
  | dropLink next =>
    have hw := Channel.wiring_disconnect s.channel
    exact h.keep (by rw [hw]; exact ⟨hs.halted, rfl, rfl⟩) (by rw [hw]; rfl) (by simp)
  | halt free => exact h.keep { hs with halted := rfl } rfl (by simp)
  | setHalting next => exact h.keep { hs with } rfl (by simp)
  | takeDown next =>
    have hw := Channel.wiring_takeDown s.channel
    refine h.keep (by rw [hw]; exact ⟨hs.halted, rfl, rfl⟩) (by rw [hw]; rfl) ?_
    split <;> simp
  | joined next ended => exact h.keep { hs with } rfl (by simp)
  | unjoined next => exact h.keep { hs with } rfl (by simp)

/-! ### The far end and the thread -/

/-- The far end has no link to act on. -/
lemma Stopping.hears (h : s.Stopping n before left) (hh : s.Hears t) : t.Stopping n before left := by
  have hcur := h.stopped.current
  cases hh with
  | feed b =>
    have hw : (s.feed b).channel.wiring = s.channel.wiring := by
      unfold Session.feed Transport.feed
      split
      · rfl
      · rw [Channel.wiring_deliver, Wiring.onOpen_of_none hcur]
    have hstopped := h.stopped
    rw [← hw] at hstopped
    exact ⟨hstopped, h.calm, h.winds.mono rfl rfl rfl fun _ hx => hx⟩
  | endInput =>
    have hw := Channel.wiring_endInput s.channel
    rw [Wiring.onOpen_of_none hcur] at hw
    exact h.keep (by rw [hw]; exact h.stopped) (by rw [hw]) h.calm
  | failRead e =>
    have hw := Channel.wiring_deliver s.channel (.failure e)
    rw [Wiring.onOpen_of_none hcur] at hw
    exact h.keep (by rw [Transport.failRead, hw]; exact h.stopped) (by rw [Transport.failRead, hw]) h.calm

variable {scanner : Scanner} {seen : ScanTally} {o : ReadOutcome} {stage : Stage}

/-- What a thread reads off a link that is closed is what its scanner still holds. -/
lemma Stopping.source (h : s.Stopping n before left) (hs : s.Sound) :
    (s.reader n scanner).source = Source.ended := by
  rw [source_reader]
  exact hs.ordered.ended n (by simp [h.stopped.current])

lemma Stopped.readOn (h : s.channel.wiring.Stopped)
    (hread : s.channel.readOn n scanner seen = (o, c)) : c.wiring.Stopped := by
  obtain ⟨-, seen', hw⟩ := readOn_reader hread
  rw [hw]
  exact ⟨h.halted, h.current, h.pending⟩

/-- Where the thread reads, it has not wound down. -/
lemma Winds.of_reading {m : Nat} (h : s.Winds n before left) (idle : s.stage = .idle)
    (reads : s.channel.receiver = .reading m scanner seen) :
    m = n ∧ ∃ fs, s.delivered = before ++ fs ∧ fs ++ scanner.drainEnd.1 = left := by
  cases h with
  | @going scanner' seen' fs stage reads' delivered rest =>
    obtain ⟨rfl, rfl, -⟩ : m = n ∧ scanner = scanner' ∧ seen = seen' := by
      simpa using reads.symm.trans reads'
    exact ⟨rfl, fs, delivered, rest⟩
  | leaving stage => simp [idle] at stage
  | ended stage receiver | unwound stage receiver => simp [receiver] at reads

/-- A thread that is not about to read or past its last read has frames left to look for. -/
lemma Winds.of_busy (h : s.Winds n before left) (busy : (∃ f, s.stage = .passing f) ∨ s.stage.IsOut) :
    ∃ scanner seen fs, s.channel.receiver = .reading n scanner seen ∧ s.delivered = before ++ fs ∧
      fs ++ scanner.drainEnd.1 = left := by
  cases h with
  | going stage reads delivered rest => exact ⟨_, _, _, reads, delivered, rest⟩
  | leaving stage =>
    rcases busy with ⟨f, hf⟩ | hout
    · simp [hf] at stage
    · rcases stage with hst | hst <;> simp [hst, Stage.IsOut] at hout
  | ended stage | unwound stage =>
    rcases busy with ⟨f, hf⟩ | hout
    · simp [hf] at stage
    · simp [stage, Stage.IsOut] at hout

/-- Past its last read the thread has delivered everything. -/
lemma Winds.of_done (h : s.Winds n before left) (done : s.stage = .failed ∨ s.stage = .leaving) :
    s.delivered = before ++ left := by
  cases h with
  | going stage => rcases done with hst | hst <;> simp [hst, Stage.IsOut] at stage
  | leaving stage delivered => exact delivered
  | ended stage | unwound stage => simp [stage] at done

/-- A thread that is busy with a frame goes on with what its scanner holds. -/
lemma Stopping.busy (h : s.Stopping n before left)
    (busy : (∃ f, s.stage = .passing f) ∨ s.stage.IsOut) (hw : c.wiring = s.channel.wiring)
    (hst : stage = .idle ∨ stage.IsOut) :
    Stopping { s with channel := c, stage } n before left := by
  obtain ⟨scanner, seen, fs, hr, hd, hrest⟩ := h.winds.of_busy busy
  have hr' : c.receiver = .reading n scanner seen := (congrArg Wiring.receiver hw).trans hr
  have hstopped : c.wiring.Stopped := hw ▸ h.stopped
  exact ⟨hstopped, h.calm, .going (hst.imp_right Or.inr) hr' hd hrest⟩

/-- A thread that waits, or is about to take a link, is not winding down. -/
lemma Winds.not_waiting (h : s.Winds n before left) {k : Nat} :
    s.channel.receiver ≠ .waiting k ∧ s.stage ≠ .attempting k ∧ s.stage ≠ .lost ∨
      s.stage = .failed ∨ s.stage = .leaving := by
  cases h with
  | going stage reads =>
    refine Or.inl ⟨by simp [reads], fun hst => ?_, fun hst => ?_⟩ <;>
      simp [hst, Stage.IsOut] at stage
  | leaving stage => exact Or.inr stage
  | ended stage receiver | unwound stage receiver => exact Or.inl (by simp [stage, receiver])

/-- The thread delivers what its scanner holds, frame by frame, and then leaves. -/
lemma Stopping.turns (h : s.Stopping n before left) (hacc : s.Accounted l) (hs : s.Sound)
    (ht : s.Turns t) : t.Stopping n before left := by
  have hidle := fun {k : Nat} => h.winds.not_waiting (k := k)
  cases ht with
  | @blocked m scanner seen c idle reads read =>
    obtain ⟨rfl, -⟩ := h.winds.of_reading idle reads
    exact absurd (readOn_reader read).1 (Reader.readFrame_of_ended (h.source hs)).2.2.1
  | @heard m scanner seen c f idle reads read =>
    obtain ⟨rfl, fs, hd, hrest⟩ := h.winds.of_reading idle reads
    obtain ⟨ho, seen', hw⟩ := readOn_reader read
    have hfinish := Reader.finish_of_readFrame_frame (h.source hs) ho
    have hreads : (c.receive f).receiver = _ := congrArg Wiring.receiver hw
    rw [show scanner.drainEnd.1 = f :: _ from Scanner.drainEnd_of_finish_some hfinish] at hrest
    have hstopped : (c.receive f).wiring.Stopped := by
      obtain ⟨h1, h2, h3⟩ := Stopped.readOn h.stopped read
      exact ⟨h1, h2, h3⟩
    have hdelivered : s.delivered ++ [f] = before ++ (fs ++ [f]) := by rw [hd, List.append_assoc]
    have hleft : (fs ++ [f]) ++ _ = left := (List.append_cons fs f _).symm.trans hrest
    exact ⟨hstopped, h.calm, .going (Or.inr (Or.inl ⟨f, rfl⟩)) hreads hdelivered hleft⟩
  | @passed f noted =>
    refine h.busy (Or.inl ⟨f, noted⟩) (wiring_passOn s.channel f) ?_
    rcases stage_passOn s.channel f with hst | hst | hst <;> simp [hst, Stage.IsOut]
  | @broken m scanner seen c e idle reads read =>
    obtain ⟨rfl, fs, hd, hrest⟩ := h.winds.of_reading idle reads
    have hfinish := Reader.finish_of_readFrame_failed (h.source hs) (readOn_reader read).1
    rw [show scanner.drainEnd.1 = [] from Scanner.drainEnd_of_finish_none hfinish,
      List.append_nil] at hrest
    exact ⟨Stopped.readOn h.stopped read, h.calm, .leaving (Or.inl rfl) (hrest ▸ hd)⟩
  | look failed =>
    have hhalted : s.channel.halted = true := h.stopped.halted
    exact ⟨h.stopped, h.calm, .leaving (Or.inr (if_pos hhalted)) (h.winds.of_done (Or.inl failed))⟩
  | takeOver lost => simp [lost] at hidle
  | @giveUp k idle waits spent => simpa [idle, waits] using hidle (k := k)
  | @delayed k idle waits left free => simpa [idle, waits] using hidle (k := k)
  | @attempt k due go => simpa [due] using hidle (k := k)
  | @halted k due none halted => simpa [due] using hidle (k := k)
  | @aborted k m c due none taking opens => simpa [due] using hidle (k := k)
  | retire leaving =>
    have hw := Channel.wiring_retire_none s.channel (Or.inl h.stopped.halted)
    have hr : s.channel.retire.receiver = .ended := congrArg Wiring.receiver hw
    have hstopped : s.channel.retire.wiring.Stopped := by
      rw [hw]
      exact ⟨h.stopped.halted, h.stopped.current, rfl⟩
    exact ⟨hstopped, h.calm, .ended rfl hr (h.winds.of_done (Or.inr leaving))⟩
  | handled e out =>
    exact h.busy (Or.inr (by rw [out]; trivial)) (wiring_countHandled s.channel e) (Or.inl rfl)
  | @relayed f r out =>
    exact h.busy (Or.inr (by rw [out]; trivial)) (Channel.wiring_countRelayed s.channel r) (Or.inl rfl)
  | @abandoned f out =>
    obtain ⟨scanner, seen, fs, hr, hd, hrest⟩ := h.winds.of_busy (Or.inr (by rw [out]; trivial))
    obtain ⟨x, hx, hlink, -⟩ := hacc.present.of_reading hr
    have hw := Channel.wiring_abandon s.channel
    have hr' : s.channel.abandon.receiver = .ended := congrArg Wiring.receiver hw
    have hstopped : s.channel.abandon.wiring.Stopped := by
      rw [hw]
      exact ⟨h.stopped.halted, rfl, rfl⟩
    refine ⟨hstopped, h.calm, ?_⟩
    refine .unwound rfl hr' hd ⟨_, hrest⟩ ⟨x.close (.abandoned f), ?_, f, hlink, rfl⟩
    simp [follow, shut, hx]

/-! ### Runs -/

lemma Stopping.step (h : s.Stopping n before left) (hacc : s.Accounted l) (hs : s.Sound)
    (hst : Step s t) (hno : ¬ s.Connects t) : t.Stopping n before left := by
  cases hst with
  | call calls => exact h.calls calls hno
  | far hears => exact h.hears hears
  | turn turns => exact h.turns hacc hs turns
  | noted trace notes =>
    subst notes
    exact ⟨h.stopped, h.calm, h.winds.mono rfl rfl rfl fun _ hx => hx⟩

variable {p : Nat → Session} {k : Nat}

/-- A channel that winds down goes on winding down as long as no call to `connect` begins. -/
lemma Stopping.path (h : (p 0).Stopping n before left) (hacc : (p 0).Accounted l) (hs : (p 0).Sound)
    (hp : Path p k) (hno : ∀ i < k, ¬ (p i).Connects (p (i + 1))) :
    (p k).Stopping n before left := by
  induction k with
  | zero => exact h
  | succ k ih =>
    have hk : Path p k := fun i hi => hp i (by omega)
    have hstopping := ih hk fun i hi => hno i (by omega)
    exact hstopping.step (hacc.reaches hs hk.reaches) (hs.reaches hk.reaches) (hp k (by omega))
      (hno k (by omega))

/-- A thread that terminates its own channel winds down. -/
lemma stopping_of_terminate (hout : s.stage.IsOut) (hfree : s.caller ≠ .connecting)
    (hr : s.channel.receiver = .reading n scanner seen) :
    (s.leave (s.channel.perform .terminate).2).Stopping n s.delivered scanner.drainEnd.1 := by
  have hw : (s.channel.perform .terminate).2.wiring = _ := Channel.wiring_terminateHere s.channel
  have hr' : (s.leave (s.channel.perform .terminate).2).channel.receiver = .reading n scanner seen := by
    rw [channel_leave]
    exact (congrArg Wiring.receiver hw).trans hr
  have hnone : (s.leave (s.channel.perform .terminate).2).delivered = s.delivered ++ [] := by
    rw [delivered_leave, List.append_nil]
  refine ⟨?_, by rwa [caller_leave], .going (Or.inr (Or.inr ?_)) hr' hnone rfl⟩
  · rw [channel_leave, hw]
    exact ⟨rfl, rfl, rfl⟩
  · rwa [stage_leave]

/-- What was delivered is a beginning of what was left. -/
lemma Winds.delivered (h : s.Winds n before left) : ∃ fs, s.delivered = before ++ fs ∧ fs <+: left := by
  cases h with
  | @going scanner seen fs stage reads delivered rest => exact ⟨fs, delivered, _, rest⟩
  | leaving stage delivered | ended stage receiver delivered =>
    exact ⟨left, delivered, List.prefix_refl left⟩
  | @unwound fs stage receiver delivered part => exact ⟨fs, delivered, part⟩

/-- A channel that has wound down is at rest without a thread. -/
lemma Stopping.at_rest (h : s.Stopping n before left) (hs : s.Sound) (hrest : s.AtRest) :
    s.channel.receiver = .ended ∧ (s.delivered = before ++ left ∨
      ∃ x ∈ s.past, ∃ f, x.link = n ∧ x.ending = some (.abandoned f)) := by
  obtain ⟨-, idle, hturn⟩ := hrest
  cases h.winds with
  | going stage reads =>
    rcases receiver_of_resting hturn with hr | ⟨m, scanner, seen, c, -, hread⟩
    · simp [hr] at reads
    · have hcur := hs.current_of_blocked hread
      simp [h.stopped.current] at hcur
  | leaving stage => simp [idle] at stage
  | ended stage receiver delivered => exact ⟨receiver, Or.inl delivered⟩
  | unwound stage receiver delivered part relay => exact ⟨receiver, Or.inr relay⟩

/-- **After `terminate` only what was read is delivered.** Once a handler or a relay has terminated its
own channel, and as long as no call to `connect` begins, the channel is halted with no link open, and the
frames that are still delivered are the first of those that the thread's scanner held at that moment. By
the time the channel is at rest the thread has ended, and all of them were delivered unless a relay
panicked over one. That there are no others is due to the scripted transport, whose links give nothing
more once they are closed on this side. -/
theorem terminate_leaves_what_was_read (config : ChannelConfig) (name : String)
    (connects : List (Except TransportError Unit)) (writes : List (Except IoError Nat))
    (flushes : List (Except IoError Unit)) (spawns : List (Except IoError Unit))
    (s : Session) (p : Nat → Session) (k : Nat)
    (hrun : (start config name connects writes flushes spawns).Reaches s)
    (hout : s.stage.IsOut) (hfree : s.caller = .free ∨ s.caller = .joining)
    (h0 : p 0 = s.leave (s.channel.perform .terminate).2) (hp : Path p k)
    (hno : ∀ i < k, ¬ (p i).Connects (p (i + 1))) :
    ∃ n scanner seen fs, s.channel.receiver = .reading n scanner seen ∧
      (p k).delivered = s.delivered ++ fs ∧ fs <+: scanner.drainEnd.1 ∧
      (p k).channel.halted = true ∧ (p k).channel.transport.current = none ∧
      ((p k).AtRest → (p k).channel.receiver = .ended ∧ (fs = scanner.drainEnd.1 ∨
        ∃ x ∈ (p k).past, ∃ f, x.link = n ∧ x.ending = some (.abandoned f))) := by
  have hs := (sound_start config name connects writes flushes spawns).reaches hrun
  have hacc := (accounted_start config name connects writes flushes spawns).reaches
    (sound_start config name connects writes flushes spawns) hrun
  -- code that is not the channel's runs on a thread that reads a link
  have hreads : ∃ n, s.channel.receiver.Reads n := by
    have hfits := Wiring.Sound.fits hs
    cases hst : s.stage with rw [hst] at hfits hout
    | handling | relaying f => exact hfits
    | _ => exact hout.elim
  obtain ⟨n, hn⟩ := hreads
  cases hr : s.channel.receiver with
  | ended | waiting j => simp [hr, Receiver.Reads] at hn
  | reading m scanner seen =>
    have hcalm : s.caller ≠ .connecting := by rcases hfree with h | h <;> simp [h]
    have hcall : Step s (p 0) := h0 ▸ .call (.callBack .terminate hout hfree)
    have hstopping := (h0 ▸ stopping_of_terminate hout hcalm hr : (p 0).Stopping m _ _).path
      (hacc.step hs hcall) (hs.step hcall) hp hno
    obtain ⟨fs, hd, hle⟩ := hstopping.winds.delivered
    refine ⟨m, scanner, seen, fs, rfl, hd, hle, hstopping.stopped.halted, hstopping.stopped.current,
      fun hrest => ?_⟩
    have hsk := (hs.step hcall).reaches hp.reaches
    obtain ⟨hended, hall | hpanic⟩ := hstopping.at_rest hsk hrest
    · exact ⟨hended, Or.inl (List.append_cancel_left (hd.symm.trans hall))⟩
    · exact ⟨hended, Or.inr hpanic⟩

/-! ### Two frames in one piece -/

lemma registry_terminateHere (c : Channel) : c.terminateHere.registry = c.registry := by
  unfold Channel.terminateHere Channel.beginTerminate Channel.takeDown Channel.closeLink
    Channel.noteClosing
  dsimp only
  split <;> rfl

/-- A frame that a request finds comes in, and its handler is entered. -/
lemma exists_handling {n : Nat} {scanner : Scanner} {seen : ScanTally} {f : Frame} {r : Reader}
    {h : Handler} {script : Script} (idle : s.stage = .idle)
    (reads : s.channel.receiver = .reading n scanner seen)
    (found : (s.reader n scanner).readFrame = (.frame f, r))
    (route : s.channel.registry.route f.kind = .handler h) (answer : h.answer f = .ok script) :
    ∃ m t, Step s m ∧ Step m t ∧ m.stage = .passing f ∧ m.caller = s.caller ∧ m.channel = t.channel ∧
      t.stage = .handling ∧ t.caller = s.caller ∧ t.delivered = s.delivered ++ [f] ∧
      t.channel = { s.channel with
        transport := s.channel.transport.onLink n fun l => { l with inbound := r.source }
        receiver := .reading n r.scanner r.scanner.tally
        lastReceived := some f
        counters := t.channel.counters } := by
  have hread : s.channel.readOn n scanner seen = (.frame f, _) :=
    Channel.readOn_of_found s.channel found
  have hheard := Turns.heard (s := s) idle reads hread
  generalize hm : ({ s with channel := _, stage := _, now := _, delivered := _ } : Session) = m at hheard
  have hpassed := Turns.passed (s := m) (f := f) (by rw [← hm])
  have hpass : m.channel.passOn f = (.handling, m.channel) := by
    have hroute : m.channel.registry.route f.kind = .handler h := by
      rw [← hm]
      exact route
    simp only [Channel.passOn, hroute, answer]
  rw [hpass] at hpassed
  refine ⟨m, _, .turn hheard, .turn hpassed, ?_⟩
  subst hm
  exact ⟨rfl, rfl, rfl, rfl, rfl, rfl, rfl⟩

/-- Two frames without payload come in as one piece, and the handler of the first is entered. -/
lemma reaches_two_frames (connects : List (Except TransportError Unit)) (a b : Frame → Script) :
    let f := Frame.empty 0x12
    let g := Frame.empty 0x13
    ∃ s, (start {} "far" (.ok () :: connects) [] [] []).Reaches s ∧ s.stage = .handling ∧
      s.caller = .free ∧ s.delivered = [f] ∧
      s.channel.receiver = .reading 0 ⟨{}, g.wire, { frames := 1 }⟩ { frames := 1 } ∧
      s.channel.registry.route g.kind = .handler (.raw b) ∧
      s.channel.transport.connects = connects ∧ s.channel.transport.current = some 0 ∧
      s.channel.writer = some 0 ∧ s.channel.pending = none ∧ s.channel.halted = false ∧
      s.channel.config = {} := by
  intro f g
  let s₀ := start {} "far" (.ok () :: connects) [] [] []
  let s₁ := s₀.leave (s₀.channel.perform (.register 0x13 (.raw b))).2
  let s₂ := s₁.leave (s₁.channel.perform (.register 0x12 (.raw a))).2
  let s₃ : Session := { s₂ with channel := s₂.channel.setHalted false, caller := .connecting }
  let s₄ : Session := { s₃.leave s₃.channel.establish.2 with caller := .free }
  let s₅ := s₄.feed (f.wire ++ g.wire)
  have hrun : s₀.Reaches s₅ :=
    .tail (.tail (.tail (.tail (.tail .refl (.call (.short (.register 0x13 (.raw b)) trivial rfl)))
      (.call (.short (.register 0x12 (.raw a)) trivial rfl))) (.call (.clearHalt rfl)))
      (.call (.establish rfl))) (.far (.feed _))
  -- the first request takes both frames off the link
  have hnext : ((Scanner.fresh {}).push (f.wire ++ g.wire)).next =
      (some f, ⟨{}, g.wire, { frames := 1 }⟩) := by
    decide
  have hread : (s₅.reader 0 (Scanner.fresh {})).readFrame = _ :=
    (Reader.readFrame_bytes (b := f.wire ++ g.wire) rfl rfl (by decide)).1.trans
      (Reader.readFrame_found hnext).1
  obtain ⟨m, s, hm, hs, -, -, -, hstage, hcaller, hdelivered, hchannel⟩ :=
    exists_handling (s := s₅) rfl rfl hread (h := .raw a) rfl rfl
  refine ⟨s, (hrun.tail hm).tail hs, hstage, hcaller, hdelivered, ?_⟩
  rw [hchannel]
  exact ⟨rfl, rfl, rfl, rfl, rfl, rfl, rfl, rfl⟩

/-- A handler returns, and the handler of the next frame in the scanner is entered, whatever has become
of the link. -/
lemma exists_next_handling {n : Nat} {scanner scanner' : Scanner} {seen : ScanTally} {g : Frame}
    {h : Handler} {script : Script} (handling : s.stage = .handling)
    (reads : s.channel.receiver = .reading n scanner seen) (next : scanner.next = (some g, scanner'))
    (route : s.channel.registry.route g.kind = .handler h) (answer : h.answer g = .ok script) :
    ∃ p : Nat → Session, p 0 = s ∧ Path p 3 ∧ (∀ i, (p i).caller = s.caller) ∧
      (p 1).stage = .idle ∧ (p 2).stage = .passing g ∧ (p 3).stage = .handling ∧
      (p 3).delivered = s.delivered ++ [g] ∧
      (∀ i, (p i).channel.transport.links.length = s.channel.transport.links.length) ∧
      (p 3).channel.transport.current = s.channel.transport.current ∧
      (p 3).channel.writer = s.channel.writer ∧ (p 3).channel.halted = s.channel.halted ∧
      (p 3).channel.config = s.channel.config := by
  let s₁ : Session := { s with channel := s.channel.countHandled .returned, stage := .idle }
  have hreturned : Step s s₁ := .turn (.handled .returned handling)
  obtain ⟨m, t, hm, ht, hpassing, hcallerm, hmt, hstage, hcaller, hdelivered, hchannel⟩ :=
    exists_handling (s := s₁) rfl reads (Reader.readFrame_found next).1 route answer
  have hlength : t.channel.transport.links.length = s.channel.transport.links.length := by
    rw [hchannel]
    exact List.length_modify _ _ _
  refine ⟨fun i => match i with | 0 => s | 1 => s₁ | 2 => m | _ => t, rfl, fun i hi => ?_, fun i => ?_,
    rfl, hpassing, hstage, hdelivered, fun i => ?_, ?_⟩
  · match i, hi with
    | 0, _ => exact hreturned
    | 1, _ => exact hm
    | 2, _ => exact ht
  · match i with
    | 0 | 1 => rfl
    | 2 => exact hcallerm
    | i + 3 => exact hcaller
  · match i with
    | 0 | 1 => rfl
    | 2 => exact (congrArg (·.transport.links.length) hmt).trans hlength
    | i + 3 => exact hlength
  · change t.channel.transport.current = _ ∧ t.channel.writer = _ ∧ t.channel.halted = _ ∧
      t.channel.config = _
    rw [hchannel]
    exact ⟨rfl, rfl, rfl, rfl⟩

/-- Between the return of a handler and the next one no call begins. -/
lemma not_out_of_next_handling {p : Nat → Session} {g : Frame}
    (h0 : (p 0).stage = .handling) (h₁ : (p 1).stage = .idle) (h₂ : (p 2).stage = .passing g) :
    ∀ i < 3, ∀ c, ¬ ((p i).stage.IsOut ∧ p (i + 1) = (p i).leave c) := by
  rintro i hi c ⟨hout, he⟩
  match i, hi with
  | 0, _ =>
    have hst := (congrArg Session.stage he).trans (stage_leave _ _)
    simp [h₁, h0] at hst
  | 1, _ =>
    rw [h₁] at hout
    exact hout
  | 2, _ =>
    rw [h₂] at hout
    exact hout

/-- The handler of the first of two frames terminates its channel and returns, and then the handler of
the second one is entered. -/
lemma second_frame_after_terminate :
    ∃ (s : Session) (p : Nat → Session), (start {} "far" [.ok ()] [] [] []).Reaches s ∧
      s.stage = .handling ∧ s.caller = .free ∧ s.delivered = [Frame.empty 0x12] ∧
      p 0 = s.leave (s.channel.perform .terminate).2 ∧ Path p 3 ∧
      (∀ i < 3, ¬ (p i).Connects (p (i + 1))) ∧ (p 1).stage = .idle ∧
      (p 2).stage = .passing (Frame.empty 0x13) ∧ (p 3).stage = .handling ∧
      (p 3).delivered = [Frame.empty 0x12, Frame.empty 0x13] := by
  obtain ⟨s, hrun, hstage, hcaller, hdelivered, hreads, hroute, -⟩ :=
    reaches_two_frames [] (fun _ => .call .terminate fun _ => .done) (fun _ => .done)
  let s₀ := s.leave (s.channel.perform .terminate).2
  have hstage₀ : s₀.stage = .handling := (stage_leave s _).trans hstage
  have hcaller₀ : s₀.caller = .free := (caller_leave s _).trans hcaller
  have hdelivered₀ : s₀.delivered = [Frame.empty 0x12] := (delivered_leave s _).trans hdelivered
  have hchannel : s₀.channel = s.channel.terminateHere := channel_leave s _
  have hreads₀ : s₀.channel.receiver =
      .reading 0 ⟨{}, (Frame.empty 0x13).wire, { frames := 1 }⟩ { frames := 1 } := by
    rw [hchannel, ← hreads]
    exact congrArg Wiring.receiver (Channel.wiring_terminateHere s.channel)
  have hroute₀ : s₀.channel.registry.route (Frame.empty 0x13).kind = .handler (.raw fun _ => .done) := by
    rw [hchannel, registry_terminateHere, hroute]
  have hnext : (⟨{}, (Frame.empty 0x13).wire, { frames := 1 }⟩ : Scanner).next =
      (some (Frame.empty 0x13), ⟨{}, [], { frames := 2 }⟩) := by
    decide
  obtain ⟨p, h0, hp, hcallers, h₁, h₂, h₃, hd, -⟩ :=
    exists_next_handling hstage₀ hreads₀ hnext hroute₀ rfl
  refine ⟨s, p, hrun, hstage, hcaller, hdelivered, h0, hp, fun i hi => ?_, h₁, h₂, h₃, ?_⟩
  · rintro (⟨-, hc⟩ | hback)
    · simp [hcallers, hcaller₀] at hc
    · exact not_out_of_next_handling (h0 ▸ hstage₀) h₁ h₂ i hi _ hback
  · rw [hd, hdelivered₀]
    rfl

/-- The second of two frames that came in as one piece is delivered behind the handler that has
terminated the channel, and it is one of those that were left. -/
theorem terminate_leaves_what_was_read_second_frame :
    ∃ (s : Session) (p : Nat → Session), (start {} "far" [.ok ()] [] [] []).Reaches s ∧
      s.stage = .handling ∧ p 0 = s.leave (s.channel.perform .terminate).2 ∧ Path p 3 ∧
      (∀ i < 3, ¬ (p i).Connects (p (i + 1))) ∧
      ∃ n scanner seen, s.channel.receiver = .reading n scanner seen ∧
        (p 3).delivered = s.delivered ++ [Frame.empty 0x13] ∧
        [Frame.empty 0x13] <+: scanner.drainEnd.1 ∧ (p 3).channel.halted = true := by
  obtain ⟨s, p, hrun, hstage, hcaller, hd, h0, hp, hno, -, -, -, hd₃⟩ := second_frame_after_terminate
  obtain ⟨n, scanner, seen, fs, hr, hfs, hle, hhalted, -, -⟩ := terminate_leaves_what_was_read {} "far"
    [.ok ()] [] [] [] s p 3 hrun (by rw [hstage]; trivial) (Or.inl hcaller) h0 hp hno
  have hsecond : fs = [Frame.empty 0x13] := by
    rw [hd₃, hd] at hfs
    have hbehind : [Frame.empty 0x12] ++ [Frame.empty 0x13] = [Frame.empty 0x12] ++ fs := hfs
    exact (List.append_cancel_left hbehind).symm
  exact ⟨s, p, hrun, hstage, h0, hp, hno, n, scanner, seen, hr, hsecond ▸ hfs, hsecond ▸ hle, hhalted⟩

/-- It is not so that no frame is handed to a handler or a relay any more once a handler has terminated
its channel and returned. -/
theorem delivery_goes_on_after_terminate :
    ¬ ∀ (config : ChannelConfig) (name : String) (connects : List (Except TransportError Unit))
      (writes : List (Except IoError Nat)) (flushes : List (Except IoError Unit))
      (spawns : List (Except IoError Unit)) (s : Session) (p : Nat → Session) (k : Nat),
      (start config name connects writes flushes spawns).Reaches s → s.stage = .handling →
      (s.caller = .free ∨ s.caller = .joining) →
      p 0 = s.leave (s.channel.perform .terminate).2 → Path p k →
      (∀ i < k, ¬ (p i).Connects (p (i + 1))) →
      ∀ m n, m ≤ n → n < k → (p m).stage ≠ .handling →
        ¬ ((∃ f, (p n).stage = .passing f) ∧ (p (n + 1)).stage.IsOut) := by
  intro hstops
  obtain ⟨s, p, hrun, hstage, hcaller, -, h0, hp, hno, h₁, h₂, h₃, -⟩ := second_frame_after_terminate
  refine hstops _ _ _ _ _ _ s p 3 hrun hstage (Or.inl hcaller) h0 hp hno 1 2 (by decide) (by decide)
    (by simp [h₁]) ⟨⟨_, h₂⟩, ?_⟩
  rw [h₃]
  trivial

end Session

end FrameLink
