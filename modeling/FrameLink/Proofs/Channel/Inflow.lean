import FrameLink.Proofs.Channel.Manned
import FrameLink.Proofs.Channel.Net
import FrameLink.Proofs.Channel.Scanned
import FrameLink.Proofs.Frame.Leftmost

/-!
What comes in on a channel that relays.

A request for a frame takes bytes off the front of what is buffered and read: some are skipped, and
behind them stands the frame. So all that the thread has read is the frames it has found, each on one
link, with gaps between them, and then what is still in the scanner. Each frame that is found is looked
up before the next one is.
-/

namespace FrameLink

/-! ### One request for a frame -/

/-- What a request reads joins the buffer, and leaves it skipped or as a frame. -/
lemma Reader.readFrame_splits (r : Reader) : ∃ skipped, r.scanner.buffer ++ r.intake =
    skipped ++ r.readFrame.1.frames.flatMap Frame.wire ++ r.readFrame.2.scanner.buffer := by
  -- a request that finds nothing in the buffer goes on behind what it skips
  have hgoes {r r' : Reader} {s : Scanner} {b : Bytes} (h : r.scanner.next = (none, s))
      (hbuffer : r'.scanner.buffer = s.buffer ++ b) (hintake : r.intake = b ++ r'.intake)
      (hread : r.readFrame = r'.readFrame) (ih : ∃ skipped, r'.scanner.buffer ++ r'.intake =
        skipped ++ r'.readFrame.1.frames.flatMap Frame.wire ++ r'.readFrame.2.scanner.buffer) :
      ∃ skipped, r.scanner.buffer ++ r.intake =
        skipped ++ r.readFrame.1.frames.flatMap Frame.wire ++ r.readFrame.2.scanner.buffer := by
    obtain ⟨front, hfront, -⟩ := Scanner.advance_splits r.scanner false
    obtain ⟨skipped, hskipped⟩ := ih
    change r.scanner.advance false = (none, s) at h
    rw [h] at hfront
    refine ⟨front ++ skipped, ?_⟩
    calc r.scanner.buffer ++ r.intake
        = front ++ (r'.scanner.buffer ++ r'.intake) := by
          rw [hfront, hintake, hbuffer]
          simp
      _ = _ := by
          rw [hskipped, hread]
          simp only [List.append_assoc]
  -- and one that stops there leaves the rest
  have hstops {r : Reader} {s : Scanner} (h : r.scanner.next = (none, s)) (hintake : r.intake = []) :
      ∃ skipped, r.scanner.buffer ++ r.intake = skipped ++ s.buffer := by
    obtain ⟨front, hfront, -⟩ := Scanner.advance_splits r.scanner false
    change r.scanner.advance false = (none, s) at h
    rw [h] at hfront
    exact ⟨front, by simpa [hintake] using hfront⟩
  induction r using readFrame.induct with
  | case1 r f s h =>
    obtain ⟨hf, hr⟩ := readFrame_found h
    obtain ⟨skipped, hskipped, -⟩ := Scanner.advance_splits r.scanner false
    change r.scanner.advance false = (some f, s) at h
    rw [h] at hskipped
    exact ⟨skipped, by simpa [hf, intake, hr, ReadOutcome.frames] using hskipped⟩
  | case2 r s h source hr =>
    obtain ⟨hf, hr⟩ := readFrame_blocked h hr
    simpa [hf, ReadOutcome.frames] using hstops h (by simp [intake, hr])
  | case3 r s h e source hr he ih =>
    obtain ⟨hf, hr⟩ := readFrame_interrupted h hr he
    exact hgoes (b := []) h (by simp) (by simp [intake, hr]) hf ih
  | case4 r s h e source hr he =>
    obtain ⟨hf, hr⟩ := readFrame_failed h hr he
    simpa [hf, ReadOutcome.frames] using hstops h (by simp [intake, hr])
  | case5 r s h source hr =>
    obtain ⟨hf, hr⟩ := readFrame_atEnd h hr
    obtain ⟨front, hfront⟩ := hstops h (by simp [intake, hr])
    obtain ⟨skipped, hskipped, -⟩ := Scanner.advance_splits s true
    refine ⟨front ++ skipped, ?_⟩
    rw [hfront, hskipped, hf]
    unfold atEnd Scanner.finish
    split
    · next heq => simp [heq, ReadOutcome.frames]
    · next heq => simp [heq, ReadOutcome.frames]
  | case6 r s h b bs source hr ih =>
    obtain ⟨hf, hr⟩ := readFrame_bytes h hr (List.cons_ne_nil b bs)
    exact hgoes h rfl (by simp [intake, hr]) hf ih

lemma Scanner.advance_admits {s s' : Scanner} {e : Bool} {f : Frame}
    (h : s.advance e = (some f, s')) : s.limits.Admits f := by
  obtain ⟨-, hs⟩ := advance_eq_iff.mp h
  cases e with
  | true => exact (scan_end_some hs).1
  | false =>
    have hend := scan_append_of_some (e := true) hs []
    exact (scan_end_some hend).1

lemma Reader.isValid_of_readFrame {r : Reader} {f : Frame} (h : r.readFrame.1 = .frame f) :
    f.IsValid := by
  induction r using readFrame.induct with
  | case1 r g s hn =>
    rw [(readFrame_found hn).1, ReadOutcome.frame.injEq] at h
    subst h
    exact (Scanner.advance_admits hn).valid
  | case2 r s hn source hr => simp [(readFrame_blocked hn hr).1] at h
  | case3 r s hn e source hr he ih => exact ih ((readFrame_interrupted hn hr he).1 ▸ h)
  | case4 r s hn e source hr he => simp [(readFrame_failed hn hr he).1] at h
  | case5 r s hn source hr =>
    rw [(readFrame_atEnd hn hr).1] at h
    unfold atEnd at h
    split at h
    · next g s' hfinish =>
      rw [ReadOutcome.frame.injEq] at h
      subst h
      exact (Scanner.advance_admits hfinish).valid
    · simp at h
  | case6 r s hn b bs source hr ih =>
    exact ih ((readFrame_bytes hn hr (List.cons_ne_nil b bs)).1 ▸ h)

/-! ### Sections that are none of the relay's -/

namespace Channel

/-- The config and the relay stay, and so do the counts of frames that were relayed or not. -/
structure Steady (c c' : Channel) : Prop where
  config : c'.config = c.config
  relay : c'.registry.relay = c.registry.relay
  relayed : c'.counters.relayed = c.counters.relayed
  relayFailures : c'.counters.relayFailures = c.counters.relayFailures

/-- A link that is read is read on from where its scanner stands, or from its beginning. -/
def Resumes (c c' : Channel) : Prop :=
  ∀ n scanner seen, c'.receiver = .reading n scanner seen →
    c.receiver = .reading n scanner seen ∨ scanner.buffer = []

variable {c c' d : Channel} {n : Nat}

lemma Steady.refl (c : Channel) : c.Steady c := ⟨rfl, rfl, rfl, rfl⟩

lemma Steady.trans (h : c.Steady c') (h' : c'.Steady d) : c.Steady d :=
  ⟨h'.config.trans h.config, h'.relay.trans h.relay, h'.relayed.trans h.relayed,
    h'.relayFailures.trans h.relayFailures⟩

lemma resumes_of_receiver (h : c'.receiver = c.receiver) : c.Resumes c' :=
  fun _ _ _ hr => .inl (h ▸ hr)

lemma resumes_listen (c : Channel) (n : Nat) : d.Resumes (c.listen n) := by
  intro m scanner seen h
  obtain ⟨-, rfl, -⟩ : n = m ∧ _ = scanner ∧ _ = seen := by simpa [listen] using h
  exact .inr rfl

lemma resumes_of_not_reading (h : ∀ n scanner seen, c'.receiver ≠ .reading n scanner seen) :
    c.Resumes c' := fun n scanner seen hr => absurd hr (h n scanner seen)

lemma steady_noteClosing (c : Channel) : c.Steady c.noteClosing := by
  unfold noteClosing
  split <;> exact ⟨rfl, rfl, rfl, rfl⟩

lemma Steady.closeLink (h : c.Steady c') : c.Steady c'.closeLink :=
  (h.trans (steady_noteClosing c')).trans ⟨rfl, rfl, rfl, rfl⟩

lemma steady_openLink {r : Except TransportError Nat} (h : c.openLink = (r, c')) :
    c.Steady c' := by
  refine (steady_noteClosing c).trans ?_
  unfold openLink at h
  dsimp only at h
  split at h
  all_goals
    obtain ⟨-, rfl⟩ := Prod.mk.inj h
    exact ⟨rfl, rfl, rfl, rfl⟩

lemma steady_nextSpawn {r : Except IoError Unit} (h : c.nextSpawn = (r, c')) :
    c.Steady c' ∧ c'.receiver = c.receiver := by
  obtain ⟨spawns, rfl⟩ := nextSpawn_eq h
  exact ⟨⟨rfl, rfl, rfl, rfl⟩, rfl⟩

lemma steady_readOn {scanner : Scanner} {seen : ScanTally} {o : ReadOutcome}
    (h : c.readOn n scanner seen = (o, c')) : c.Steady c' := by
  unfold readOn at h
  dsimp only at h
  split at h
  all_goals
    obtain ⟨-, rfl⟩ := Prod.mk.inj h
    exact ⟨rfl, rfl, rfl, rfl⟩

lemma steady_passOn (c : Channel) (f : Frame) : c.Steady (c.passOn f).2 := by
  unfold passOn
  repeat' split
  all_goals exact ⟨rfl, rfl, rfl, rfl⟩

lemma steady_vacate (c : Channel) : c.Steady c.vacate := by
  unfold vacate
  dsimp only
  split <;> exact ⟨rfl, rfl, rfl, rfl⟩

lemma receiver_vacate (c : Channel) : c.vacate.receiver = .ended := by
  unfold vacate
  dsimp only
  split <;> rfl

lemma Hears.steady (h : c.Hears c') : c.Steady c' ∧ c.Resumes c' := by
  cases h <;> exact ⟨⟨rfl, rfl, rfl, rfl⟩, resumes_of_receiver rfl⟩

end Channel

namespace Traffic

open Channel

variable {t : Traffic} {who : Party} {p : Point} {next : Next} {s : Shared} {d d' : Duty}
  {c : Channel} {call : Call}

lemma Begins.steady (h : t.Begins call next c) (hcall : ∀ r, call ≠ .relay r) :
    t.channel.Steady c ∧ t.channel.Resumes c := by
  cases h with
  | brief call brief =>
    cases call with
    | connect | terminate | disconnect | send => exact brief.elim
    | relay r => exact absurd rfl (hcall r)
    | _ => exact ⟨⟨rfl, rfl, rfl, rfl⟩, resumes_of_receiver rfl⟩
  | _ => exact ⟨.refl _, resumes_of_receiver rfl⟩

lemma Begins.sets_relay {r : Option Relay} (h : t.Begins (.relay r) next c) :
    c = t.channel.setRelay r := by
  cases h
  rfl

lemma Closes.steady {stage : Closing} {next : Option Closing} (h : t.Closes stage next c) :
    t.channel.Steady c ∧ t.channel.Resumes c := by
  cases h with
  | close =>
    exact ⟨.closeLink ⟨rfl, rfl, rfl, rfl⟩, resumes_of_receiver (receiver_closeLink _)⟩
  | silence | shown => exact ⟨⟨rfl, rfl, rfl, rfl⟩, resumes_of_receiver rfl⟩

lemma Acts.steady (h : t.Acts who p next s) :
    t.channel.Steady s.channel ∧ t.channel.Resumes s.channel := by
  cases h with
  | connect connects =>
    cases connects with
    | dial opens | dialInVain opens =>
      exact ⟨steady_openLink opens, resumes_of_receiver (receiver_openLink opens)⟩
    | spawn spawns =>
      exact ⟨(steady_nextSpawn spawns).1.trans ⟨rfl, rfl, rfl, rfl⟩, resumes_listen _ _⟩
    | spawnInVain spawns =>
      obtain ⟨hsteady, hreceiver⟩ := steady_nextSpawn spawns
      exact ⟨hsteady.closeLink, resumes_of_receiver ((receiver_closeLink _).trans hreceiver)⟩
    | _ => exact ⟨⟨rfl, rfl, rfl, rfl⟩, resumes_of_receiver rfl⟩
  | disconnect closes | disconnected closes => exact closes.steady
  | terminate acts =>
    cases acts with
    | close =>
      exact ⟨.closeLink ⟨rfl, rfl, rfl, rfl⟩, resumes_of_receiver (receiver_closeLink _)⟩
    | _ => exact ⟨⟨rfl, rfl, rfl, rfl⟩, resumes_of_receiver rfl⟩
  | send sends =>
    cases sends with
    | close closes | finish closes => exact closes.steady
    | flush flushes | flushInVain flushes =>
      obtain ⟨-, rfl⟩ := Prod.mk.inj flushes
      exact ⟨⟨rfl, rfl, rfl, rfl⟩, resumes_of_receiver rfl⟩
    | _ => exact ⟨⟨rfl, rfl, rfl, rfl⟩, resumes_of_receiver rfl⟩

/-- All turns of the thread, but those that come back from a relay. -/
lemma Turns.steady (h : t.Turns d d' c) (hd : d.inHand = none) : t.channel.Steady c := by
  cases h with
  | blocked reads read | broken reads read => exact steady_readOn read
  | heard reads read => exact (steady_readOn read).trans ⟨rfl, rfl, rfl, rfl⟩
  | passed => exact steady_passOn _ _
  | relayed | panicked => simp [Duty.inHand] at hd
  | handled e => cases e <;> exact ⟨rfl, rfl, rfl, rfl⟩
  | close | abort | unwind => exact .closeLink ⟨rfl, rfl, rfl, rfl⟩
  | dial opens | dialInVain opens => exact steady_openLink opens
  | vacate => exact steady_vacate _
  | _ => exact ⟨rfl, rfl, rfl, rfl⟩

lemma Begins.config (h : t.Begins call next c) : c.config = t.channel.config := by
  cases h with
  | brief call brief => cases call <;> first | exact brief.elim | rfl
  | _ => rfl

lemma Turns.config (h : t.Turns d d' c) : c.config = t.channel.config := by
  cases hd : d.inHand with
  | none => exact (h.steady hd).config
  | some f =>
    cases h with
    | relayed r => cases r <;> rfl
    | panicked => rfl
    | _ => simp [Duty.inHand] at hd

end Traffic

/-! ### What the thread reads, finds and looks up -/

namespace Log

/-- The bytes read are the frames found in them, each on one link, with gaps between them, and then
some more. -/
def Cut (log : Log) (rest : List (Nat × UInt8)) : Prop :=
  ∃ pieces : List (List (Nat × UInt8) × Nat × Frame), pieces.map (·.2) = log.found ∧
    log.read = pieces.flatMap (fun x => x.1 ++ of x.2.1 x.2.2.wire) ++ rest

/-- The log is that of the thread. -/
structure Follows (log : Log) (t : Traffic) : Prop where
  looked : log.found.map (·.2) = log.routed.map (·.1) ++ t.duty.noted.toList
  valid : ∀ x ∈ log.found, x.2.IsValid
  /-- Behind the frames that were found comes what is in the scanner. -/
  cut : ∃ rest, log.Cut rest ∧ ∀ n scanner seen, t.channel.receiver = .reading n scanner seen →
    ∃ gap, rest = gap ++ of n scanner.buffer

variable {log : Log} {t u : Traffic} {c c' : Channel} {n : Nat} {scanner : Scanner}
  {seen : ScanTally} {o : ReadOutcome} {d d' : Duty} {rest : List (Nat × UInt8)}

lemma of_append (n : Nat) (b b' : Bytes) : of n (b ++ b') = of n b ++ of n b' := List.map_append

/-- Of what was buffered and is read, some is skipped and at most one frame is taken. -/
lemma Cut.take {gap : List (Nat × UInt8)} {buffer more skipped tail : Bytes} {f? : Option Frame}
    (h : log.Cut (gap ++ of n buffer))
    (hmore : buffer ++ more = skipped ++ f?.toList.flatMap Frame.wire ++ tail) :
    ∃ gap', Cut { log with
      read := log.read ++ of n more, found := log.found ++ f?.toList.map (n, ·) }
      (gap' ++ of n tail) := by
  obtain ⟨pieces, hfound, hread⟩ := h
  have htotal : log.read ++ of n more = pieces.flatMap (fun x => x.1 ++ of x.2.1 x.2.2.wire) ++
      (gap ++ of n (skipped ++ f?.toList.flatMap Frame.wire ++ tail)) := by
    rw [hread, ← hmore, of_append]
    simp only [List.append_assoc]
  cases f? with
  | none =>
    refine ⟨gap ++ of n skipped, pieces, by simp [hfound], ?_⟩
    simpa [of_append] using htotal
  | some f =>
    refine ⟨[], pieces ++ [(gap ++ of n skipped, n, f)], by simp [hfound], ?_⟩
    simpa [of_append] using htotal

lemma Follows.cut_of_resumes (h : log.Follows t) (hr : t.channel.Resumes c) :
    ∃ rest, log.Cut rest ∧ ∀ n scanner seen, c.receiver = .reading n scanner seen →
      ∃ gap, rest = gap ++ of n scanner.buffer := by
  obtain ⟨rest, hcut, hbuffer⟩ := h.cut
  refine ⟨rest, hcut, fun n scanner seen hn => ?_⟩
  rcases hr n scanner seen hn with hsame | hempty
  · exact hbuffer n scanner seen hsame
  · exact ⟨rest, by rw [hempty]; simp [of]⟩

/-- Sections that read nothing. -/
lemma Follows.resumes (h : log.Follows t) (hnoted : u.duty.noted = t.duty.noted)
    (hr : t.channel.Resumes u.channel) : log.Follows u where
  looked := hnoted ▸ h.looked
  valid := h.valid
  cut := h.cut_of_resumes hr

/-- The thread asks for a frame. -/
lemma Follows.reads (h : log.Follows t) (idle : t.duty = .idle)
    (reads : t.channel.receiver = .reading n scanner seen)
    (read : t.channel.readOn n scanner seen = (o, c)) (hd : d'.noted.toList = o.frames)
    (hc : c'.receiver = c.receiver) : (log.turn t d').Follows (t.turned d' c') := by
  -- the request of the thread
  let r : Reader := ⟨scanner, (t.channel.transport.link n).inbound⟩
  obtain ⟨ho, seen', hw⟩ := Channel.wiring_readOn t.channel n scanner seen
  rw [Channel.source_wiring] at ho hw
  rw [read] at ho hw
  have hframes : d'.noted.toList = r.readFrame.1.frames := hd.trans (congrArg _ ho)
  have hreceiver : c.receiver = .reading n r.readFrame.2.scanner seen' :=
    congrArg Wiring.receiver hw
  have hturn : log.turn t d' = { log with
      read := log.read ++ of n r.intake, found := log.found ++ d'.noted.toList.map (n, ·) } := by
    simp only [turn, idle, reads, r]
  obtain ⟨rest, hcut, hbuffer⟩ := h.cut
  obtain ⟨gap, rfl⟩ := hbuffer n scanner seen reads
  obtain ⟨skipped, hsplits⟩ := r.readFrame_splits
  have hnone : t.duty.noted = none := by rw [idle]; rfl
  refine ⟨?_, ?_, ?_⟩
  · have hlooked := h.looked
    rw [hnone, Option.toList_none, List.append_nil] at hlooked
    rw [hturn]
    simp [hlooked, Traffic.turned]
  · rw [hturn]
    intro x hx
    rcases List.mem_append.mp hx with hx | hx
    · exact h.valid x hx
    · obtain ⟨f, hf, rfl⟩ := List.mem_map.mp hx
      rw [hd] at hf
      cases o with
      | frame g =>
        obtain rfl : f = g := by simpa [ReadOutcome.frames] using hf
        exact Reader.isValid_of_readFrame ho.symm
      | failed e | blocked => simp [ReadOutcome.frames] at hf
  · rw [← hframes] at hsplits
    obtain ⟨gap', hcut'⟩ := hcut.take hsplits
    refine ⟨_, hturn ▸ hcut', fun m scanner' seen'' hm => ⟨gap', ?_⟩⟩
    have hm' : Receiver.reading n r.readFrame.2.scanner seen' = .reading m scanner' seen'' :=
      hreceiver.symm.trans (hc.symm.trans hm)
    obtain ⟨rfl, rfl, -⟩ := Receiver.reading.inj hm'
    rfl

end Log

namespace Traffic

variable {t : Traffic} {log : Log} {d d' : Duty} {c : Channel} {f : Frame}

lemma noted_ofStage (s : Stage) : (Duty.ofStage s).noted = none := by
  rcases Duty.ofStage_cases s with h | h | ⟨f, h⟩ <;> rw [h] <;> rfl

/-- A frame that is passed on goes to the relay exactly if no handler takes its kind. -/
lemma inHand_passOn (c : Channel) (f : Frame) : (Duty.ofStage (c.passOn f).1).inHand =
    relayedFrame (f, c.registry) := by
  cases hhas : c.registry.has f.kind with
  | true =>
    obtain ⟨h, hroute⟩ := Registry.route_of_has hhas
    simp only [Channel.passOn, hroute, relayedFrame, hhas, reduceCtorEq, false_and, if_false]
    cases h.answer f <;> rfl
  | false =>
    have hroute := Registry.route_of_not_has hhas
    simp only [Channel.passOn, hroute, relayedFrame, hhas, true_and]
    cases c.registry.relay <;> rfl

/-- The log goes on with the thread, as long as that has no business with a relay. -/
lemma Turns.follows (h : t.Turns d d' c) (here : t.duty = d) (hd : d.inHand = none)
    (hlog : log.Follows t) : (log.turn t d').Follows (t.turned d' c) := by
  -- sections that begin and end without a frame, and read nothing
  have hquiet (hsame : log.turn t d' = log) (hnone : d.noted = none) (hnone' : d'.noted = none)
      (hr : t.channel.Resumes c) : (log.turn t d').Follows (t.turned d' c) := by
    rw [hsame]
    exact hlog.resumes (by rw [here, hnone]; exact hnone') hr
  have haway (hidle : d ≠ .idle) (hnone : d.noted = none) : log.turn t d' = log := by
    unfold Log.turn
    rw [here]
    split
    · exact absurd rfl hidle
    · simp [Duty.noted] at hnone
    · rfl
  have hwaits {k : Nat} (hidle : d = .idle) (waits : t.channel.receiver = .waiting k) :
      log.turn t d' = log := by
    simp only [Log.turn, here, hidle, waits]
  cases h with
  | blocked reads read | heard reads read | broken reads read =>
    exact hlog.reads here reads read rfl rfl
  | @passed f =>
    have hturn (d' : Duty) : log.turn t d' =
        { log with routed := log.routed ++ [(f, t.channel.registry)] } := by
      simp only [Log.turn, here]
    rw [hturn]
    have hlooked := hlog.looked
    rw [here] at hlooked
    have hnoted : (t.turned (.ofStage (t.channel.passOn f).1) (t.channel.passOn f).2).duty.noted =
        none := noted_ofStage _
    have hresumes := Channel.resumes_of_receiver (Channel.berth_passOn t.channel f).2
    refine ⟨?_, hlog.valid, hlog.cut_of_resumes hresumes⟩
    rw [hnoted, hlooked]
    simp [Duty.noted]
  | relayed | panicked => simp [Duty.inHand] at hd
  | giveUp waits => exact hquiet (hwaits rfl waits) rfl rfl (Channel.resumes_of_receiver rfl)
  | delayed waits => exact hquiet (hwaits rfl waits) rfl rfl (Channel.resumes_of_receiver rfl)
  | look | check =>
    refine hquiet (haway (by simp) rfl) rfl ?_ (Channel.resumes_of_receiver rfl)
    split <;> rfl
  | handled e =>
    refine hquiet (haway (by simp) rfl) rfl rfl (Channel.resumes_of_receiver ?_)
    cases e <;> rfl
  | takeUp | takeUpLate | reconnect | stay =>
    exact hquiet (haway (by simp) rfl) rfl rfl (Channel.resumes_listen _ _)
  | close | abort | unwind =>
    exact hquiet (haway (by simp) rfl) rfl rfl
      (Channel.resumes_of_receiver (Channel.receiver_closeLink _))
  | dial opens | dialInVain opens =>
    exact hquiet (haway (by simp) rfl) rfl rfl
      (Channel.resumes_of_receiver (Channel.receiver_openLink opens))
  | shown | wait | unwound =>
    exact hquiet (haway (by simp) rfl) rfl rfl
      (Channel.resumes_of_not_reading fun _ _ _ hr => by simp at hr)
  | vacate =>
    refine hquiet (haway (by simp) rfl) rfl rfl
      (Channel.resumes_of_not_reading fun _ _ _ hr => ?_)
    rw [Channel.receiver_vacate] at hr
    cases hr
  | _ => exact hquiet (haway (by simp) rfl) rfl rfl (Channel.resumes_of_receiver rfl)

/-- Of the frames that are looked up, those for the relay come into its hands. -/
lemma Turns.handed (h : t.Turns d d' c) (here : t.duty = d) (hd : d.inHand = none) :
    (log.turn t d').routed.filterMap relayedFrame =
      log.routed.filterMap relayedFrame ++ d'.inHand.toList := by
  have hquiet (haway : d.noted = none) (hnone : d'.inHand = none) :
      (log.turn t d').routed.filterMap relayedFrame =
        log.routed.filterMap relayedFrame ++ d'.inHand.toList := by
    have hsame : (log.turn t d').routed = log.routed := by
      unfold Log.turn
      rw [here]
      split
      · rfl
      · simp [Duty.noted] at haway
      · rfl
    rw [hsame, hnone, Option.toList_none, List.append_nil]
  cases h with
  | @passed f =>
    have hturn (d' : Duty) : (log.turn t d').routed =
        log.routed ++ [(f, t.channel.registry)] := by
      simp only [Log.turn, here]
    rw [hturn, inHand_passOn, List.filterMap_append]
    cases hroute : relayedFrame (f, t.channel.registry) <;> simp [hroute]
  | relayed | panicked => simp [Duty.inHand] at hd
  | heard => exact hquiet rfl rfl
  | look | check =>
    refine hquiet rfl ?_
    split <;> rfl
  | _ => exact hquiet rfl rfl

end Traffic

end FrameLink
