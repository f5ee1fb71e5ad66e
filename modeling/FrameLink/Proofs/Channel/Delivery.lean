import FrameLink.Proofs.Channel.Ledger

/-!
What a channel delivers, over all its links.

The frames delivered are those of the links it has read, link by link in the order the links were
opened. What one link yields depends on the bytes read from it alone, and those are the first of the
bytes that were sent on it; nothing is left over from one link to the next.
-/

namespace FrameLink.Session

variable {s t : Session} {l : Limits} {c : Channel} {n : Nat} {scanner : Scanner} {seen : ScanTally}

/-- A section of a call reads nothing. -/
lemma Accounted.calls (h : s.Accounted l) (hs : s.Sound) (hc : s.Calls t) : t.Accounted l := by
  have hsame := Wiring.Keeps.refl s.channel.wiring
  have hsound := Sound.calls hs hc
  unfold Sound at hsound
  cases hc with
  | short call short free =>
    have hcalled := Channel.called s.channel call
    simp only [channel_leave] at hsound
    exact h.leave hs (hcalled.keeps hs.ordered) hsound.ordered hcalled.receiver
  | callBack call out free =>
    have hcalled := Channel.called s.channel call
    simp only [channel_leave] at hsound
    exact h.leave hs (hcalled.keeps hs.ordered) hsound.ordered hcalled.receiver
  | clearHalt free =>
    exact h.keep (c := s.channel.setHalted false) { hsame with } rfl _ fun _ _ _ _ hh => hh
  | establish next =>
    have htried := Channel.established s.channel
    simp only [channel_leave] at hsound
    have hleave := h.leave hs (htried.keeps hs.ordered) hsound.ordered htried.receiver
    exact hleave.keep (.refl _) rfl .free fun _ _ _ _ hh => hh
  | send f free done =>
    have hw := Channel.wiring_write s.channel f
    exact h.keep (hw ▸ hsame) (by rw [hw]) _ fun _ _ _ _ hh => hh
  | @sendFails f e free fails =>
    have hw := Channel.wiring_write s.channel f
    exact h.keep (hw ▸ hsame) (by rw [hw]) _ fun _ _ _ _ hh => hh
  | haltSend next =>
    exact h.keep (c := s.channel.setHalted true) { hsame with } rfl _ fun _ _ _ _ hh => hh
  | dropLink next =>
    have hw := Channel.wiring_disconnect s.channel
    refine h.keep ?_ (by rw [hw]; rfl) _ fun _ _ _ _ hh => hh
    rw [hw]
    exact { hs.ordered.keeps_down with }
  | halt free =>
    exact h.keep (c := s.channel.setHalted true) { hsame with } rfl _ fun _ _ _ _ hh => hh
  | setHalting next =>
    exact h.keep (c := s.channel.setState .halting) { hsame with } rfl _ fun _ _ _ _ hh => hh
  | takeDown next =>
    have hw := Channel.wiring_takeDown s.channel
    refine h.keep ?_ (by rw [hw]; rfl) _ fun _ _ _ _ hh => hh
    rw [hw]
    exact hs.ordered.keeps_down
  | joined next ended =>
    exact h.keep (c := s.channel.endTerminate) { hsame with } rfl _ fun _ _ _ _ hh => hh
  | unjoined next =>
    exact h.keep (c := s.channel.endTerminate) { hsame with } rfl _ fun _ _ _ _ hh => hh

/-- What the far end does is put down to the open link. -/
lemma Accounted.hears (h : s.Accounted l) (hs : s.Sound) (hh : s.Hears t) : t.Accounted l := by
  cases hh with
  | feed b => exact h.feed hs.ordered b
  | endInput =>
    have hw := Channel.wiring_endInput s.channel
    refine h.keep ?_ ?_ _ fun _ _ _ _ hh => hh
    · rw [hw]
      exact hs.ordered.keeps_onOpen (fun _ => rfl) rfl
    · rw [hw, Wiring.receiver_onOpen]
  | failRead e =>
    have hw := Channel.wiring_deliver s.channel (.failure e)
    have hdata (source : Source) : (source.queue (.failure e)).data = source.data := by
      unfold Source.queue
      split <;> simp [Source.data]
    refine h.keep (c := { s.channel with transport := s.channel.transport.failRead e }) ?_ ?_ _
      fun _ _ _ _ hh => hh
    · rw [Transport.failRead, hw]
      exact hs.ordered.keeps_onOpen hdata rfl
    · rw [Transport.failRead, hw, Wiring.receiver_onOpen]

/-! ### The receive thread reads on -/

/-- What the thread holds while it is about to read. -/
lemma Accounted.going (h : s.Accounted l) (hidle : s.stage = .idle)
    (hr : s.channel.receiver = .reading n scanner seen) :
    ∃ x, s.now = some x ∧ x.link = n ∧ x.Going l scanner (s.reader n scanner).source := by
  obtain ⟨x, hx, hn, hh⟩ := h.present.of_reading hr
  rw [hidle] at hh
  rw [source_reader]
  exact ⟨x, hx, hn, hh⟩

/-- What one request reads is put down to the link, whatever it comes to. -/
lemma Accounted.readOn {x : Reading} {fs : List Frame} {o : ReadOutcome} {c' : Channel}
    (h : s.Accounted l) (hs : s.Sound) (x' : Reading) (stage : Stage) (hx : s.now = some x) (hn : x.link = n)
    (hr : s.channel.receiver = .reading n scanner seen)
    (hread : s.channel.readOn n scanner seen = (o, c))
    (hw : c'.wiring = { c.wiring with last := (s.delivered ++ fs).getLast? }) (hlink : x'.link = n)
    (hbytes : x'.bytes = x.bytes ++ (s.reader n scanner).intake)
    (hframes : x'.frames = x.frames ++ fs)
    (hholds : stage.Holds l x' (s.reader n scanner).readFrame.2.scanner
      (s.reader n scanner).readFrame.2.source) : (s.reads c' stage x' fs).Accounted l := by
  obtain ⟨-, seen', hc⟩ := readOn_reader hread
  have hlt : n < s.channel.wiring.sources.length := hs.ordered.reads_lt n (by
    change s.channel.receiver.Reads n
    rw [hr]
    rfl)
  have hsource (m : Nat) : c'.wiring.source m =
      if n = m then (s.reader n scanner).readFrame.2.source else s.channel.wiring.source m := by
    rw [hw, hc]
    exact Wiring.source_set _ n m _ hlt
  subst hn
  constructor
  · refine h.ledger.reads hx x' hlink hbytes hframes stage ?_ ?_ ?_ ?_ ?_ (fun hne => ?_) fun m => ?_
    · rw [hw, hc]
    · rw [hw]
    · rw [hw, hc]
      simp
    · rw [hw, hc]
    · rw [hw, hc]
    · refine (Reader.readFrame_of_ended ?_).2.1
      rw [source_reader]
      exact hs.ordered.ended x.link hne
    · rw [hsource m]
      split
      · next hm =>
        have hdata := Reader.data_readFrame (s.reader x.link scanner)
        rw [source_reader] at hdata
        rw [hdata, hm]
      · rfl
  · refine ⟨(s.reader x.link scanner).readFrame.2.scanner, seen', ?_, ?_⟩
    · change c'.wiring.receiver = _
      rw [hw, hc, hlink]
    · change stage.Holds l x' _ (c'.wiring.source x'.link)
      rw [hsource, if_pos hlink.symm]
      exact hholds

lemma Accounted.last_readOn {o : ReadOutcome} (h : s.Accounted l)
    (hread : s.channel.readOn n scanner seen = (o, c)) :
    c.wiring = { c.wiring with last := (s.delivered ++ []).getLast? } := by
  obtain ⟨-, seen', hc⟩ := readOn_reader hread
  rw [hc, List.append_nil, ← h.ledger.last]

/-- A source that the request has read to its end stays there. -/
lemma source_extend {x : Reading} {r : Reader} (hx : x.atEnd = true → r.source = Source.ended)
    (hfed : r.source.IsFed) (he : (x.extend r).atEnd = true) :
    r.readFrame.2.source = Source.ended := by
  simp only [Reading.extend, Bool.or_eq_true] at he
  rcases he with he | he
  · exact (Reader.readFrame_of_ended (hx he)).1
  · exact (Reader.readFrame_leaves r hfed).ended he

/-- A thread that is left waiting has delivered all that it has read. -/
lemma Accounted.blocked (h : s.Accounted l) (hs : s.Sound) (hidle : s.stage = .idle)
    (hreads : s.channel.receiver = .reading n scanner seen)
    (hread : s.channel.readOn n scanner seen = (.blocked, c)) :
    Accounted { s with channel := c, now := s.now.map (·.extend (s.reader n scanner)) } l := by
  obtain ⟨x, hx, hn, hg⟩ := h.going hidle hreads
  obtain ⟨htr, hend, -⟩ := hg.traces.blocked hg.source (readOn_reader hread).1
  have hgoing : (x.extend (s.reader n scanner)).Going l
      (s.reader n scanner).readFrame.2.scanner (s.reader n scanner).readFrame.2.source :=
    ⟨hg.ending, htr, fun he => by simp [hend] at he⟩
  have hr := h.readOn hs (x.extend (s.reader n scanner)) .idle hx hn hreads hread
    (h.last_readOn hread) hn rfl (List.append_nil _).symm hgoing
  simpa [Session.reads, hx, hidle] using hr

/-- A frame that comes in is the next one that the bytes of the link yield. -/
lemma Accounted.heard {f : Frame} (h : s.Accounted l) (hs : s.Sound) (hidle : s.stage = .idle)
    (hreads : s.channel.receiver = .reading n scanner seen)
    (hread : s.channel.readOn n scanner seen = (.frame f, c)) :
    Accounted { s with
      channel := c.receive f
      stage := .passing f
      now := s.now.map fun x => (x.extend (s.reader n scanner)).deliver f
      delivered := s.delivered ++ [f] } l := by
  obtain ⟨x, hx, hn, hg⟩ := h.going hidle hreads
  have htr := hg.traces.heard hg.source (readOn_reader hread).1
  have hfed : (s.reader n scanner).source.IsFed := by
    rw [source_reader]
    exact hs.ordered.fed n
  have hgoing : ((x.extend (s.reader n scanner)).deliver f).Going l
      (s.reader n scanner).readFrame.2.scanner (s.reader n scanner).readFrame.2.source :=
    ⟨hg.ending, htr, fun he => source_extend hg.source hfed he⟩
  have hw : (c.receive f).wiring = { c.wiring with last := (s.delivered ++ [f]).getLast? } := by
    rw [Channel.wiring_receive, List.getLast?_concat]
  have hr := h.readOn hs ((x.extend (s.reader n scanner)).deliver f) (.passing f) hx hn hreads hread
    hw hn rfl rfl ⟨hgoing, by simp [Reading.deliver]⟩
  simpa [Session.reads, hx] using hr

/-- A link whose reading fails has delivered what its bytes yield. -/
lemma Accounted.broken {e : FrameError} (h : s.Accounted l) (hs : s.Sound) (hidle : s.stage = .idle)
    (hreads : s.channel.receiver = .reading n scanner seen)
    (hread : s.channel.readOn n scanner seen = (.failed e, c)) :
    Accounted { s with
      channel := c
      stage := .failed
      now := s.now.map fun x => (x.extend (s.reader n scanner)).close (.ofError e) } l := by
  obtain ⟨x, hx, hn, hg⟩ := h.going hidle hreads
  have hset := hg.traces.broken hg.source (readOn_reader hread).1
  have hr := h.readOn hs ((x.extend (s.reader n scanner)).close (.ofError e)) .failed hx hn hreads
    hread (h.last_readOn hread) hn rfl (List.append_nil _).symm hset
  simpa [Session.reads, hx] using hr

/-- A relay that panics ends the delivery of a link behind the frame it was given. -/
lemma Accounted.abandoned {f : Frame} (h : s.Accounted l) (hs : s.Sound)
    (hout : s.stage = .relaying f) :
    Accounted { (s.shut (.abandoned f)).follow s.channel.abandon with stage := .idle } l := by
  have hsound := Sound.turns hs (.abandoned hout)
  have hfits := Wiring.Sound.fits hs
  rw [hout] at hfits
  obtain ⟨n, hreads⟩ := hfits
  cases hr : s.channel.receiver with
  | ended | waiting k => simp [Channel.wiring, hr, Receiver.Reads] at hreads
  | reading m scanner seen =>
    obtain ⟨x, hx, -, hh⟩ := h.present.of_reading hr
    rw [hout] at hh
    have hturned := Channel.turned_abandon hs.ordered
    refine .follow (h.ledger.shut hx _) hsound.ordered hturned fun y hy => ?_
    obtain rfl : x.close (.abandoned f) = y := by simpa [shut, hx] using hy
    exact hh.1.traces.abandoned hh.2

/-- A section of the receive thread reads on, or turns to another link, or does neither. -/
lemma Accounted.turns (h : s.Accounted l) (hs : s.Sound) (ht : s.Turns t) : t.Accounted l := by
  have hsound := Sound.turns hs ht
  have hsame := Wiring.Keeps.refl s.channel.wiring
  have hnone (k : Nat) (hr : s.channel.wiring.receiver = .waiting k) : s.now = none :=
    h.present.of_not_reading (by simp [hr, Receiver.Reads])
  cases ht with
  | blocked idle reads read => exact h.blocked hs idle reads read
  | heard idle reads read => exact h.heard hs idle reads read
  | broken idle reads read => exact h.broken hs idle reads read
  | @passed f noted =>
    have hw := wiring_passOn s.channel f
    refine h.keep (hw ▸ hsame) (by rw [hw]) s.caller fun x scanner source _ hh => ?_
    rw [noted] at hh
    rcases stage_passOn s.channel f with hst | hst | hst <;> rw [hst]
    · exact hh.1
    · exact hh.1
    · exact hh
  | look failed =>
    refine h.keep hsame rfl s.caller fun x scanner source _ hh => ?_
    rw [failed] at hh
    split <;> exact hh
  | takeOver lost =>
    exact .follow h.ledger hsound.ordered (Channel.turned_takeOver hs.ordered) fun _ =>
      h.present.settled (Or.inr (Or.inl lost))
  | @giveUp k idle waits spent => exact h.keep hsame rfl s.caller (by simp [hnone k waits])
  | @delayed k idle waits left free =>
    exact h.keep (c := s.channel.countAttempt) hsame rfl s.caller (by simp [hnone k waits])
  | @attempt k due go =>
    exact .follow h.ledger hsound.ordered (Channel.turned_attempt hs.ordered k) fun _ =>
      h.present.settled (Or.inr (Or.inr (Or.inr ⟨k, due⟩)))
  | @halted k due none halted =>
    exact h.keep hsame rfl s.caller (by simp [hnone k (hs.waiting_of_due due)])
  | @aborted k n c due none taking opens =>
    have hw := Channel.wiring_aborted s.channel opens
    refine h.keep ?_ (by rw [hw]; rfl) s.caller (by simp [hnone k (hs.waiting_of_due due)])
    rw [hw]
    exact { hs.ordered.keeps_opened_closed with }
  | retire leaving =>
    exact .follow h.ledger hsound.ordered (Channel.turned_retire s.channel) fun _ =>
      h.present.settled (Or.inr (Or.inr (Or.inl leaving)))
  | handled e out =>
    have hw := wiring_countHandled s.channel e
    refine h.keep (hw ▸ hsame) (by rw [hw]) s.caller fun x scanner source _ hh => ?_
    rw [out] at hh
    exact hh
  | @relayed f r out =>
    have hw := Channel.wiring_countRelayed s.channel r
    refine h.keep (hw ▸ hsame) (by rw [hw]) s.caller fun x scanner source _ hh => ?_
    rw [out] at hh
    exact hh.1
  | abandoned out => exact h.abandoned hs out

/-! ### Runs -/

lemma accounted_start (config : ChannelConfig) (name : String)
    (connects : List (Except TransportError Unit)) (writes : List (Except IoError Nat))
    (flushes : List (Except IoError Unit)) (spawns : List (Except IoError Unit)) :
    (start config name connects writes flushes spawns).Accounted config.limits where
  ledger :=
    { limits := rfl
      delivered := rfl
      last := rfl
      links := List.Pairwise.nil
      links_lt := by simp [readings, start]
      links_lt_pending := by simp [readings, start]
      sent_lt := by simp [start]
      bytes_le := fun n => List.nil_prefix
      bytes_open := by simp [start, Channel.wiring]
      settled := by simp [start] }
  present := by simp [Present, start, Channel.wiring, Receiver.Reads]

lemma Accounted.step (h : s.Accounted l) (hs : s.Sound) (hst : Step s t) : t.Accounted l := by
  cases hst with
  | call calls => exact h.calls hs calls
  | far hears => exact h.hears hs hears
  | turn turns => exact h.turns hs turns
  | noted trace notes =>
    subst notes
    exact h.keep (c := { s.channel with trace }) (.refl _) rfl _ fun _ _ _ _ hh => hh

/-- The account is right at every point of a run. -/
lemma Accounted.reaches (h : s.Accounted l) (hs : s.Sound) (hr : s.Reaches t) : t.Accounted l := by
  induction hr with
  | refl => exact h
  | tail run step ih => exact ih.step (hs.reaches run) step

/-! ### What is delivered -/

/-- A link is accounted for once. -/
lemma Ledger.filter_link (h : s.Ledger l) {x : Reading} (hx : x ∈ s.readings) :
    s.readings.filter (·.link = x.link) = [x] := by
  obtain ⟨before, after, hsplit⟩ := List.append_of_mem hx
  have hlinks := h.links
  rw [hsplit, List.map_append, List.map_cons, List.pairwise_append, List.pairwise_cons] at hlinks
  obtain ⟨-, ⟨hafter, -⟩, hbefore⟩ := hlinks
  have hb : before.filter (·.link = x.link) = [] := by
    refine List.filter_eq_nil_iff.mpr fun y hy => ?_
    have := hbefore y.link (List.mem_map_of_mem hy) x.link List.mem_cons_self
    simp only [decide_eq_true_eq]
    omega
  have ha : after.filter (·.link = x.link) = [] := by
    refine List.filter_eq_nil_iff.mpr fun y hy => ?_
    have := hafter y.link (List.mem_map_of_mem hy)
    simp only [decide_eq_true_eq]
    omega
  simp [hsplit, hb, ha]

lemma Ledger.bytesOn_of_mem (h : s.Ledger l) {x : Reading} (hx : x ∈ s.readings) :
    s.bytesOn x.link = x.bytes := by
  simp [bytesOn, h.filter_link hx]

lemma Present.settled_or_going (h : s.Present l) {x : Reading} (hx : s.now = some x) :
    x.Settled l ∨ x.ending = none ∧ x.frames <+: x.yield l := by
  simp only [Present, hx] at h
  obtain ⟨scanner, seen, -, hh⟩ := h
  have hgoing {source : Source} (hg : x.Going l scanner source) :
      x.Settled l ∨ x.ending = none ∧ x.frames <+: x.yield l :=
    Or.inr ⟨hg.ending, hg.traces.frames_le⟩
  cases hst : s.stage with rw [hst] at hh
  | idle | handling => exact hgoing hh
  | passing f | relaying f => exact hgoing hh.1
  | failed | lost | leaving => exact Or.inl hh
  | attempting k => exact hh.elim

lemma settled_ending {x : Reading} (h : x.Settled l) : x.ending ≠ none := by
  intro he
  simp [Reading.Settled, he] at h

lemma Accounted.settled_or_going (h : s.Accounted l) {x : Reading} (hx : x ∈ s.readings) :
    x.Settled l ∨ x.ending = none ∧ x.frames <+: x.yield l := by
  rcases List.mem_append.mp hx with hx | hx
  · exact Or.inl (h.ledger.settled x hx)
  · exact h.present.settled_or_going (by simpa using hx)

/-- A request that waits has found nothing in the buffer to begin with. -/
lemma next_of_blocked {r : Reader} (h : r.readFrame.1 = .blocked) : r.scanner.next.1 = none := by
  cases hn : r.scanner.next with
  | mk f? scanner =>
    cases f? with
    | none => rfl
    | some f =>
      rw [(Reader.readFrame_found hn).1] at h
      simp at h

/-- A thread that rests has delivered all that it has read, and will read what is queued. -/
lemma Accounted.resting (h : s.Accounted l) (hs : s.Sound) (hidle : s.stage = .idle)
    (hrest : s.channel.turn.1 = .resting) {x : Reading} (hx : s.now = some x) :
    x.ending = none ∧ x.atEnd = false ∧ x.frames = x.yield l ∧
      x.bytes ++ (s.channel.transport.link x.link).inbound.data = s.sentOn x.link := by
  rcases receiver_of_resting hrest with hr | ⟨n, scanner, seen, c, hr, hread⟩
  · have hnow := h.present.of_not_reading (by simp [Channel.wiring, hr, Receiver.Reads])
    simp [hnow] at hx
  · obtain ⟨y, hy, rfl, hg⟩ := h.going hidle hr
    obtain rfl : x = y := by simpa [hx] using hy
    have ho := (readOn_reader hread).1
    have hend : x.atEnd = false := Bool.eq_false_iff.mpr fun he =>
      (Reader.readFrame_of_ended (hg.source he)).2.2.1 ho
    have hopen := h.ledger.bytes_open x.link (hs.current_of_blocked hread)
    rw [h.ledger.bytesOn_of_mem (mem_readings_of_now hx), Channel.source_wiring] at hopen
    exact ⟨hg.ending, hend, hg.traces.frames_of_waits hend (next_of_blocked ho), hopen⟩

/-- What a channel has delivered is what the links it has read yield, each by its own bytes. -/
structure Delivers (s : Session) (l : Limits) : Prop where
  delivered : s.delivered = s.readings.flatMap (·.frames)
  last : s.channel.lastReceived = s.delivered.getLast?
  in_order : (s.readings.map (·.link)).Pairwise (· < ·)
  own_bytes : ∀ x ∈ s.readings, x.bytes <+: s.sentOn x.link
  leftmost : ∀ x ∈ s.readings, x.atEnd = true →
    ∃ placed, Scanner.Leftmost l x.bytes 0 placed ∧ placed.map Prod.snd = x.yield l
  past : ∀ x ∈ s.past, x.ending ≠ none
  settled : ∀ x ∈ s.readings, x.ending ≠ none → x.Settled l
  going : ∀ x ∈ s.readings, x.ending = none → x.frames <+: x.yield l
  /-- A thread that rests has delivered all that it has read, and will read what is queued. -/
  resting : s.stage = .idle → s.channel.turn.1 = .resting → ∀ x, s.now = some x →
    x.atEnd = false ∧ x.frames = x.yield l ∧
      x.bytes ++ (s.channel.transport.link x.link).inbound.data = s.sentOn x.link
  /-- And if no relay panicked, that is all there was. -/
  complete : s.stage = .idle → s.channel.turn.1 = .resting →
    (∀ x ∈ s.readings, ∀ f, x.ending ≠ some (.abandoned f)) →
    s.delivered = s.readings.flatMap (·.yield l)

lemma Accounted.delivers (h : s.Accounted l) (hs : s.Sound) : s.Delivers l where
  delivered := h.ledger.delivered
  last := h.ledger.last
  in_order := h.ledger.links
  own_bytes x hx := h.ledger.bytesOn_of_mem hx ▸ h.ledger.bytes_le x.link
  leftmost x _ he := Reading.leftmost_yield he
  past x hx := settled_ending (h.ledger.settled x hx)
  settled x hx he := by
    rcases h.settled_or_going hx with hset | ⟨hnone, -⟩
    · exact hset
    · exact absurd hnone he
  going x hx he := by
    rcases h.settled_or_going hx with hset | ⟨-, hle⟩
    · exact absurd he (settled_ending hset)
    · exact hle
  resting hidle hrest x hx := (h.resting hs hidle hrest hx).2
  complete hidle hrest hcalm := by
    rw [h.ledger.delivered, List.flatMap_def, List.flatMap_def]
    refine congrArg List.flatten (List.map_congr_left fun x hx => ?_)
    rcases List.mem_append.mp hx with hp | hn
    · have hset := h.ledger.settled x hp
      have hab := hcalm x hx
      cases he : x.ending with
      | none => exact absurd he (settled_ending hset)
      | some e =>
        simp only [Reading.Settled, he] at hset
        cases e with
        | drained => exact hset.2
        | failed e => exact hset.2.2
        | abandoned f => exact absurd he (hab f)
    · exact (h.resting hs hidle hrest (by simpa using hn)).2.2.1

/-- **A channel delivers, link by link, what the bytes of the link yield.** However its calls, its
receive thread and its far end have followed one another, the frames delivered are those of the links it
has read, in order; a link whose end was read has delivered the leftmost reading of its bytes, one that
failed or is still open what can be told from its bytes, and only a relay that panics cuts this short,
behind the frame it was given. The transport is the scripted one, whose links are at their end once they
are closed on this side. -/
theorem delivers_per_link (config : ChannelConfig) (name : String)
    (connects : List (Except TransportError Unit)) (writes : List (Except IoError Nat))
    (flushes : List (Except IoError Unit)) (spawns : List (Except IoError Unit)) (s : Session)
    (hrun : (start config name connects writes flushes spawns).Reaches s) :
    s.Delivers config.limits := by
  have hsound := sound_start config name connects writes flushes spawns
  have haccounted := accounted_start config name connects writes flushes spawns
  exact (haccounted.reaches hsound hrun).delivers (hsound.reaches hrun)

/-- A frame without payload comes in on the first link, and a part of another one. -/
theorem delivers_per_link_one_frame :
    let s := start {} "far" [] [] [] []
    let f := Frame.empty 0x12
    ∃ u, s.Reaches u ∧ u.sent = [(0, f.wire ++ [0xFF, 0xFF])] ∧ u.delivered = [f] ∧
      u.Delivers {} := by
  intro s f
  let s' : Session := { s with channel := s.channel.setHalted false, caller := .connecting }
  let t : Session := { s'.leave s'.channel.establish.2 with caller := .free }
  let b := f.wire ++ [0xFF, 0xFF]
  have hrun : s.Reaches (t.feed b) :=
    .tail (.tail (.tail .refl (.call (.clearHalt rfl))) (.call (.establish rfl))) (.far (.feed b))
  have hnext : ((Scanner.fresh {}).push b).next = (some f, { (Scanner.fresh {}).push [0xFF, 0xFF] with
      tally := { frames := 1 } }) := by
    decide
  have hread : ((t.feed b).channel.readOn 0 (Scanner.fresh {}) {}).1 = .frame f := by
    rw [(Channel.wiring_readOn _ _ _ _).1,
      (Reader.readFrame_bytes (b := b) rfl rfl (by simp [b])).1]
    exact congrArg Prod.fst (Reader.readFrame_found hnext).1
  have hstep := Step.turn (.heard (s := t.feed b) rfl rfl (Prod.ext hread rfl))
  have hreach := Reaches.tail hrun hstep
  exact ⟨_, hreach, rfl, rfl, delivers_per_link {} "far" [] [] [] [] _ hreach⟩

end FrameLink.Session
