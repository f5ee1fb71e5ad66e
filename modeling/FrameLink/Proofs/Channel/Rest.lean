import FrameLink.Proofs.Channel.Sound

/-!
A channel at rest is up or down, and nothing in between.

Every section of a run leads from a sound channel to a sound channel; and where no call is in progress
and the thread has nothing to do, a sound channel leaves only two ways for the state, the link, the
writer, the waiting link, the halt and the thread to stand.
-/

namespace FrameLink

namespace Session

variable {s t : Session}

@[simp] lemma channel_leave (s : Session) (c : Channel) : (s.leave c).channel = c := by
  unfold leave
  split <;> rfl

@[simp] lemma stage_leave (s : Session) (c : Channel) : (s.leave c).stage = s.stage := by
  unfold leave
  split <;> rfl

@[simp] lemma caller_leave (s : Session) (c : Channel) : (s.leave c).caller = s.caller := by
  unfold leave
  split <;> rfl

@[simp] lemma delivered_leave (s : Session) (c : Channel) : (s.leave c).delivered = s.delivered := by
  unfold leave
  split <;> rfl

/-- The channel is sound where the thread and the caller are. -/
def Sound (s : Session) : Prop := s.channel.wiring.Sound s.stage s.caller

/-- A section of a call leads from a sound channel to a sound channel. -/
lemma Sound.calls (h : s.Sound) (hc : s.Calls t) : t.Sound := by
  unfold Sound at h ⊢
  cases hc with
  | short c short free =>
    simp only [channel_leave, stage_leave, caller_leave]
    exact h.called (Or.inl free) (Channel.called _ c)
  | callBack c out free =>
    simp only [channel_leave, stage_leave, caller_leave]
    exact h.called free (Channel.called _ c)
  | clearHalt free =>
    refine h.cleared (by rw [free]; exact id) (by simp [Caller.IsTaking]) fun _ => ?_
    rw [free]
    trivial
  | establish next =>
    simp only [channel_leave, stage_leave]
    exact h.established (by rw [next]; exact id) (h.shown.clear next) (Channel.established _)
      (by simp [Caller.IsTaking])
  | send f free done =>
    change (s.channel.write f).2.wiring.Sound _ _
    rw [Channel.wiring_write]
    exact h
  | @sendFails f e free fails =>
    change (s.channel.write f).2.wiring.Sound _ _
    rw [Channel.wiring_write]
    rw [free] at h
    exact h.failing
  | haltSend next => exact h.halted (Or.inl rfl)
  | dropLink next =>
    change s.channel.disconnect.wiring.Sound _ _
    rw [Channel.wiring_disconnect]
    exact h.down s.channel.wiring.halted (Or.inl rfl)
  | halt free => exact h.halted (Or.inr rfl)
  | setHalting next =>
    rw [next] at h
    exact h.halting
  | takeDown next =>
    change s.channel.takeDown.wiring.Sound _ _
    rw [Channel.wiring_takeDown]
    rw [next] at h
    refine h.takenDown ?_
    split
    · exact Or.inl rfl
    · exact Or.inr rfl
  | joined next ended =>
    have hcalm : ¬ s.caller.IsTaking := by rw [next]; exact id
    exact h.terminated hcalm (h.current_of_ended hcalm ended)
  | unjoined next =>
    have hcalm : ¬ s.caller.IsTaking := by rw [next]; exact id
    have hh := h.shown.halted (Or.inr next)
    exact h.terminated hcalm ((h.held hcalm).current_of_halted hh)

lemma isFed_queue {source : Source} (h : source.IsFed) {item : Inbound} (he : item ≠ .eof)
    (hd : item ≠ .data []) : (source.queue item).IsFed := by
  unfold Source.queue
  split
  · intro x hx
    rcases List.mem_append.mp hx with hx | hx
    · exact h x hx
    · rw [List.mem_singleton.mp hx]
      exact ⟨he, hd⟩
  · exact h

/-- So does whatever the far end does. -/
lemma Sound.hears (h : s.Sound) (hh : s.Hears t) : t.Sound := by
  unfold Sound at h ⊢
  cases hh with
  | feed b =>
    by_cases hb : b = []
    · simp only [feed, Transport.feed, hb, if_true]
      exact h
    · simp only [feed, Transport.feed, hb, if_false, Channel.wiring_deliver]
      exact h.onOpen fun source hs => isFed_queue hs (by simp) (by simpa using hb)
  | endInput =>
    rw [Channel.wiring_endInput]
    exact h.onOpen fun source hs => hs
  | failRead e =>
    simp only [Transport.failRead, Channel.wiring_deliver]
    exact h.onOpen fun source hs => isFed_queue hs (by simp) (by simp)

/-! ### The receive thread -/

variable {n k : Nat} {scanner : Scanner} {seen : ScanTally} {c : Channel} {o : ReadOutcome}

lemma source_reader (s : Session) (n : Nat) (scanner : Scanner) :
    (s.reader n scanner).source = s.channel.wiring.source n := by
  rw [Channel.source_wiring]
  rfl

/-- Reading on is one request for a frame, of the link that is read. -/
lemma readOn_reader (h : s.channel.readOn n scanner seen = (o, c)) :
    (s.reader n scanner).readFrame.1 = o ∧ ∃ seen', c.wiring =
      { s.channel.wiring with
        sources := s.channel.wiring.sources.set n (s.reader n scanner).readFrame.2.source
        receiver := .reading n (s.reader n scanner).readFrame.2.scanner seen' } := by
  have hr : s.reader n scanner = ⟨scanner, s.channel.wiring.source n⟩ := by
    rw [← source_reader s n scanner]
    rfl
  have hw := Channel.wiring_readOn s.channel n scanner seen
  rw [h, ← hr] at hw
  exact ⟨hw.1.symm, hw.2⟩

/-- A link that is not open gives nothing more, so reading it changes nothing. -/
lemma Sound.readOn {stage : Stage} (h : s.Sound) (hidle : s.stage = .idle)
    (hr : s.channel.receiver = .reading n scanner seen)
    (hread : s.channel.readOn n scanner seen = (o, c)) (hst : stage ≠ .leaving)
    (hfits : ∀ r : Receiver, r.Reads n → stage.Fits r) : c.wiring.Sound stage s.caller := by
  obtain ⟨-, seen', hw⟩ := readOn_reader hread
  unfold Sound at h
  rw [hidle] at h
  rw [hw]
  refine h.read hr ?_ (fun hne => ?_) hst (hfits _ rfl)
  · refine (Reader.readFrame_leaves _ ?_).isFed
    rw [source_reader]
    exact h.ordered.fed n
  · refine (Reader.readFrame_of_ended ?_).1
    rw [source_reader]
    exact h.ordered.ended n hne

lemma wiring_passOn (c : Channel) (f : Frame) : (c.passOn f).2.wiring = c.wiring := by
  unfold Channel.passOn
  split
  · split <;> rfl
  · rfl
  · rfl

lemma stage_passOn (c : Channel) (f : Frame) :
    (c.passOn f).1 = .idle ∨ (c.passOn f).1 = .handling ∨ (c.passOn f).1 = .relaying f := by
  unfold Channel.passOn
  split
  · split <;> simp
  · simp
  · simp

lemma wiring_countHandled (c : Channel) (e : Ending) : (c.countHandled e).wiring = c.wiring := by
  cases e <;> rfl

/-- A thread that has lost its link goes on with the waiting one, or closes what is open. -/
lemma sound_takeOver {caller : Caller} (h : c.wiring.Sound .lost caller) :
    c.takeOver.wiring.Sound .idle caller := by
  cases hp : c.pending with
  | none =>
    rw [Channel.wiring_takeOver_lost _ hp]
    exact h.lost hp
  | some n =>
    rw [Channel.wiring_takeOver_waiting _ hp]
    exact h.handed hp

lemma sound_attempt {caller : Caller} (h : c.wiring.Sound (.attempting k) caller)
    (hgo : c.pending ≠ none ∨ c.halted = false ∨ caller.IsTaking) :
    (c.attempt k).wiring.Sound .idle caller := by
  cases hp : c.pending with
  | none =>
    have hgo' : c.halted = false ∨ caller.IsTaking := by simpa [hp] using hgo
    exact h.attempted hp hgo' (Channel.wiring_attempt_none _ hp)
  | some n =>
    rw [Channel.wiring_attempt_waiting _ hp]
    exact h.handed hp

lemma sound_retire {caller : Caller} (h : c.wiring.Sound .leaving caller) :
    c.retire.wiring.Sound .idle caller := by
  by_cases hl : c.halted = true ∨ c.pending = none
  · rw [Channel.wiring_retire_none _ hl]
    exact h.retired hl
  · rw [not_or, Bool.not_eq_true] at hl
    obtain ⟨n, hp⟩ := Option.ne_none_iff_exists'.mp hl.2
    rw [Channel.wiring_retire_waiting _ hl.1 hp]
    exact h.handed hp

/-- Before an attempt to reconnect the thread waits. -/
lemma Sound.waiting_of_due (h : s.Sound) (due : s.stage = .attempting k) :
    s.channel.wiring.receiver = .waiting k := by
  have hfits := Wiring.Sound.fits h
  rwa [due] at hfits

/-- So does every section of the receive thread. -/
lemma Sound.turns (h : s.Sound) (ht : s.Turns t) : t.Sound := by
  have hs := h
  unfold Sound at h ⊢
  cases ht with
  | @blocked n scanner seen c idle reads read =>
    refine hs.readOn idle reads read ?_ fun _ _ => ?_
    · simp [idle]
    · rw [idle]
      trivial
  | @heard n scanner seen c f idle reads read =>
    rw [Channel.wiring_receive]
    refine Wiring.Sound.noted (hs.readOn idle reads read ?_ fun _ hr => ?_) _
    · simp
    · exact ⟨n, hr⟩
  | @passed f noted =>
    rw [wiring_passOn]
    have hreads : ∃ n, s.channel.wiring.receiver.Reads n := by
      have hfits := h.fits
      rwa [noted] at hfits
    refine h.restage ?_ ?_
    · rcases stage_passOn s.channel f with hst | hst | hst <;> simp [hst]
    · rcases stage_passOn s.channel f with hst | hst | hst <;> rw [hst]
      · trivial
      · exact hreads
      · exact hreads
  | @broken n scanner seen c e idle reads read =>
    exact hs.readOn idle reads read (by simp) fun _ hr => ⟨n, hr⟩
  | look failed =>
    rw [failed] at h
    exact h.looked
  | takeOver lost =>
    rw [lost] at h
    exact sound_takeOver h
  | @giveUp k idle waits spent => exact h.givenUp waits
  | @delayed k idle waits left free => exact h.restage (by simp) waits
  | @attempt k due go =>
    rw [due] at h
    exact sound_attempt h go
  | @halted k due none halted => exact h.givenUp (hs.waiting_of_due due)
  | @aborted k n c due none taking opens =>
    rw [due] at h
    rw [Channel.wiring_aborted _ opens]
    exact h.aborted taking
  | retire leaving =>
    rw [leaving] at h
    exact sound_retire h
  | handled e out =>
    rw [wiring_countHandled]
    exact h.restage (by simp) trivial
  | @relayed f r out =>
    rw [Channel.wiring_countRelayed]
    exact h.restage (by simp) trivial
  | @abandoned f out =>
    change s.channel.abandon.wiring.Sound .idle s.caller
    rw [Channel.wiring_abandon]
    exact h.abandoned

/-! ### Runs -/

lemma sound_start (config : ChannelConfig) (name : String)
    (connects : List (Except TransportError Unit)) (writes : List (Except IoError Nat))
    (flushes : List (Except IoError Unit)) (spawns : List (Except IoError Unit)) :
    (start config name connects writes flushes spawns).Sound where
  ordered :=
    { leaves := rfl
      ended := fun n _ => rfl
      fed := fun n => Source.isFed_ended
      current_lt := by simp [start, Channel.wiring]
      pending_lt := by simp [start, Channel.wiring]
      reads_lt := by simp [start, Channel.wiring, Receiver.Reads]
      reads_lt_pending := by simp [start, Channel.wiring]
      receiving_iff := by simp [start, Channel.wiring]
      pending_of_ended := fun _ => rfl }
  fits := trivial
  shown := ⟨fun _ => Or.inl rfl, by simp [start, Caller.IsTaking], by simp [start]⟩
  held _ := .of_none rfl rfl rfl

lemma Sound.step (h : s.Sound) (hst : Step s t) : t.Sound := by
  cases hst with
  | call calls => exact h.calls calls
  | far hears => exact h.hears hears
  | turn turns => exact h.turns turns
  | noted trace notes =>
    subst notes
    exact h

/-- What can be reached from a sound channel is sound. -/
lemma Sound.reaches (h : s.Sound) (hr : s.Reaches t) : t.Sound := by
  induction hr with
  | refl => exact h
  | tail _ step ih => exact ih.step step

/-! ### At rest -/

/-- A thread that rests has ended, or finds nothing to read on its link. -/
lemma receiver_of_resting (h : s.channel.turn.1 = .resting) :
    s.channel.receiver = .ended ∨ ∃ n scanner seen c, s.channel.receiver = .reading n scanner seen ∧
      s.channel.readOn n scanner seen = (.blocked, c) := by
  unfold Channel.turn at h
  cases hr : s.channel.receiver with
  | ended => exact Or.inl rfl
  | waiting k => simp [hr] at h
  | reading n scanner seen =>
    refine Or.inr ⟨n, scanner, seen, (s.channel.readOn n scanner seen).2, rfl, ?_⟩
    simp only [hr] at h
    cases ho : s.channel.readOn n scanner seen with
    | mk o c => cases o <;> simp_all

lemma resting_of_blocked (hr : c.receiver = .reading n scanner seen)
    (hread : (c.readOn n scanner seen).1 = .blocked) : c.turn.1 = .resting := by
  unfold Channel.turn
  simp only [hr]
  cases ho : c.readOn n scanner seen with
  | mk o c' =>
    rw [ho] at hread
    subst hread
    rfl

/-- A link on which a request for a frame waits is the open one. -/
lemma Sound.current_of_blocked (h : s.Sound)
    (hread : s.channel.readOn n scanner seen = (.blocked, c)) :
    s.channel.wiring.current = some n := by
  by_cases hc : s.channel.wiring.current = some n
  · exact hc
  · have hsource := h.ordered.ended n hc
    rw [← source_reader s n scanner] at hsource
    have hlive := (Reader.readFrame_leaves (s.reader n scanner)
      (hsource ▸ Source.isFed_ended)).waiting (readOn_reader hread).1
    simp [hsource, Source.ended] at hlive

end Session

/-- The channel is up, with one link that is open, written to and read; or it is down, with none. -/
structure Channel.Consistent (c : Channel) : Prop where
  connected_or : c.state = .connected ∨ c.state = .disconnected
  link_iff : c.state = .connected ↔ c.transport.current ≠ none
  writer_iff : c.state = .connected ↔ c.writer ≠ none
  receiving_iff : c.state = .connected ↔ c.receiving = true
  thread_iff : c.receiving = true ↔ c.receiver ≠ .ended
  up : c.state = .connected → ∃ n, c.transport.current = some n ∧ c.writer = some n ∧
    c.receiver.Reads n ∧ c.pending = none ∧ c.halted = false
  down : c.state = .disconnected → c.receiving = false ∧ c.pending = none

namespace Session

variable {s : Session} {n : Nat} {scanner : Scanner} {seen : ScanTally} {c : Channel}

lemma Sound.consistent_of_ended (h : s.Sound) (hfree : s.caller = .free)
    (hr : s.channel.receiver = .ended) : s.channel.Consistent := by
  have hcalm : ¬ s.caller.IsTaking := by rw [hfree]; exact id
  have hcur : s.channel.transport.current = none := h.current_of_ended hcalm hr
  have hpend : s.channel.pending = none := h.ordered.pending_of_ended hr
  have hwriter : s.channel.writer = none := by
    refine (h.held hcalm).writer_of_unread hpend (Or.inr fun n hn => ?_)
    have hr' : s.channel.wiring.receiver = .ended := hr
    simp [hr', Receiver.Reads] at hn
  have hrec : s.channel.receiving = false := by
    have := h.ordered.receiving_iff
    simpa [Channel.wiring, hr] using this
  have hdown : s.channel.state = .disconnected := by
    rcases h.shown.state (by rw [hfree]; trivial) with hs | ⟨-, hopen⟩
    · exact hs
    · exact absurd hcur hopen
  exact ⟨Or.inr hdown, by simp [hdown, hcur], by simp [hdown, hwriter], by simp [hdown, hrec],
    by simp [hr, hrec], fun hs => by simp [hdown] at hs, fun _ => ⟨hrec, hpend⟩⟩

lemma Sound.consistent_of_blocked (h : s.Sound) (hfree : s.caller = .free)
    (hr : s.channel.receiver = .reading n scanner seen)
    (hread : s.channel.readOn n scanner seen = (.blocked, c)) : s.channel.Consistent := by
  have hheld := h.held (by rw [hfree]; exact id)
  have hcur := h.current_of_blocked hread
  have hreads : s.channel.wiring.receiver.Reads n := by
    change s.channel.receiver.Reads n
    rw [hr]
    rfl
  have hpend : s.channel.pending = none := by
    rcases hheld.reader_of_current n hcur with hp | ⟨hp, -⟩
    · exact absurd (h.ordered.reads_lt_pending n n hreads hp) (Nat.lt_irrefl n)
    · exact hp
  have hstate : s.channel.state = .connected := hheld.state_of_current n hcur
  have hwriter : s.channel.writer = some n := hheld.writer_of_current n hcur
  have hcur' : s.channel.transport.current = some n := hcur
  have hrec : s.channel.receiving = true := h.ordered.receiving_iff.mpr (by simp [Channel.wiring, hr])
  have hhalt : s.channel.halted = false := by
    by_cases hh : s.channel.halted = true
    · simp [hheld.current_of_halted hh] at hcur
    · simpa using hh
  exact ⟨Or.inl hstate, by simp [hstate, hcur'], by simp [hstate, hwriter], by simp [hstate, hrec],
    by simp [hr, hrec], fun _ => ⟨n, hcur', hwriter, hreads, hpend, hhalt⟩, fun hs => by
      simp [hstate] at hs⟩

lemma Sound.consistent (h : s.Sound) (hrest : s.AtRest) : s.channel.Consistent := by
  obtain ⟨hfree, -, hturn⟩ := hrest
  rcases receiver_of_resting hturn with hr | ⟨n, scanner, seen, c, hr, hread⟩
  · exact h.consistent_of_ended hfree hr
  · exact h.consistent_of_blocked hfree hr hread

/-- **A channel at rest is consistent.** However its calls, its receive thread and its far end have
followed one another, whenever no call is in progress and the thread has nothing to do, the channel is
up or down, with everything that belongs to it. The calls from outside are a sequence: each begins when
the one before has come back. What handlers and relays call on the thread comes in between, also while
`terminate` waits for the thread to end. For calls that overlap this does not hold: the two of
`Traffic.calls_cross` can leave a channel connected and halted. -/
theorem consistent_at_rest (config : ChannelConfig) (name : String)
    (connects : List (Except TransportError Unit)) (writes : List (Except IoError Nat))
    (flushes : List (Except IoError Unit)) (spawns : List (Except IoError Unit)) (s : Session)
    (hrun : (start config name connects writes flushes spawns).Reaches s) (hrest : s.AtRest) :
    s.channel.Consistent := by
  have hstart := sound_start config name connects writes flushes spawns
  exact (hstart.reaches hrun).consistent hrest

/-- After a first `connect` the thread waits for bytes, and the channel is up. -/
theorem consistent_at_rest_after_connect :
    let s := start {} "far" [] [] [] []
    let s' : Session := { s with channel := s.channel.setHalted false, caller := .connecting }
    let t : Session := { s'.leave s'.channel.establish.2 with caller := .free }
    s.Reaches t ∧ t.AtRest ∧ t.channel.state = .connected ∧ t.channel.Consistent := by
  intro s s' t
  have hrun : s.Reaches t :=
    .tail (.tail .refl (.call (.clearHalt rfl))) (.call (.establish rfl))
  have hread : (t.channel.readOn 0 (Scanner.fresh {}) {}).1 = .blocked := by
    rw [(Channel.wiring_readOn _ _ _ _).1, (Reader.readFrame_blocked rfl rfl).1]
  have hrest : t.AtRest := ⟨rfl, rfl, resting_of_blocked rfl hread⟩
  exact ⟨hrun, hrest, rfl, consistent_at_rest {} "far" [] [] [] [] t hrun hrest⟩

end Session

end FrameLink
