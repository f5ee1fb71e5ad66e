import FrameLink.Proofs.Channel.Hub
import FrameLink.Proofs.Channel.Leftover
import FrameLink.Proofs.Console.Copies

/-!
An errand as it is run.

Run in one piece on a hub with one channel, an errand does what it does in one of the runs in which its
calls, the thread and the far end take turns. So what holds at the end of all of those holds of it; and it
always comes to its end, since a thread whose link is closed for good has only the frames left that its
scanner holds.
-/

namespace FrameLink

/-- Nothing is open, and no link gives anything more. -/
structure Wiring.IsDry (w : Wiring) : Prop where
  stopped : w.Stopped
  dry (n : Nat) : w.source n = Source.ended

/-- How many turns a thread takes at most once there is nothing more to read. -/
def Receiver.toGo : Receiver → Nat
  | .ended => 0
  | .waiting _ => 1
  | .reading _ scanner _ => scanner.buffer.length + 1

namespace Channel

variable {c d : Channel} {n : Nat} {scanner : Scanner} {seen : ScanTally} {o : ReadOutcome}

lemma isDry_retire (h : c.wiring.IsDry) : c.retire.wiring.IsDry ∧ c.retire.receiver = .ended := by
  have hw := wiring_retire_none c (.inl h.stopped.halted)
  rw [hw]
  exact ⟨⟨⟨h.stopped.halted, h.stopped.current, rfl⟩, h.dry⟩, congrArg Wiring.receiver hw⟩

/-- Where there is nothing more to read, a thread still takes the frames that its scanner holds. -/
lemma IsDry.readOn (h : c.wiring.IsDry) (read : c.readOn n scanner seen = (o, d)) :
    o ≠ .blocked ∧ d.wiring.IsDry ∧
      ∀ f, o = .frame f → d.receiver.toGo < (Receiver.reading n scanner seen).toGo := by
  obtain ⟨ho, seen', hw⟩ := wiring_readOn c n scanner seen
  rw [read, h.dry n] at ho hw
  dsimp only at ho hw
  obtain ⟨hsource, -, hblocked, -⟩ :=
    Reader.readFrame_of_ended (r := ⟨scanner, Source.ended⟩) rfl
  refine ⟨ho ▸ hblocked, ⟨?_, fun m => ?_⟩, ?_⟩
  · rw [hw]
    exact ⟨h.stopped.halted, h.stopped.current, h.stopped.pending⟩
  · have hm := h.dry m
    rw [hw, hsource]
    simp only [Wiring.source, List.getD_eq_getElem?_getD, List.getElem?_set] at hm ⊢
    split
    · split <;> rfl
    · exact hm
  · rintro f rfl
    have hfinish := Reader.finish_of_readFrame_frame (r := ⟨scanner, Source.ended⟩) rfl ho.symm
    have hlength := Scanner.length_of_advance hfinish
    rw [show d.receiver = _ from congrArg Wiring.receiver hw]
    exact Nat.succ_lt_succ hlength

/-- A thread that has nothing more to read has ended, or comes closer to its end. -/
lemma IsDry.turn (h : c.wiring.IsDry) :
    c.receiver = .ended ∧ c.turn = (.resting, c) ∨
      c.turn.1 ≠ .resting ∧ c.turn.2.wiring.IsDry ∧ c.turn.2.receiver.toGo < c.receiver.toGo := by
  unfold Channel.turn
  cases hr : c.receiver with
  | ended => exact .inl ⟨rfl, rfl⟩
  | waiting k =>
    have hretry : c.retry k = c.retire := by
      rw [retry, show c.halted = true from h.stopped.halted, Bool.or_true, if_pos rfl]
    obtain ⟨hdry, hended⟩ := isDry_retire h
    dsimp only
    rw [hretry, hended]
    exact .inr ⟨fun h => Turn.noConfusion h, hdry, Nat.one_pos⟩
  | reading n scanner seen =>
    dsimp only
    rcases hread : c.readOn n scanner seen with ⟨o, d⟩
    obtain ⟨hblocked, hdry, hless⟩ := IsDry.readOn h hread
    cases o with
    | blocked => exact absurd rfl hblocked
    | frame f => exact .inr ⟨fun h => Turn.noConfusion h, hdry, hless f rfl⟩
    | failed e =>
      have hrecover : d.recover = d.retire := if_pos hdry.stopped.halted
      obtain ⟨hdry', hended⟩ := isDry_retire hdry
      dsimp only
      rw [hrecover, hended]
      exact .inr ⟨fun h => Turn.noConfusion h, hdry', Nat.succ_pos _⟩

/-- The fuel that is given to a thread is enough. -/
lemma toGo_le_patience (c : Channel) : c.receiver.toGo ≤ Hub.patience c := by
  have hmul (m : Nat) : m ≤ m * (c.transport.connects.length + 4) :=
    Nat.le_mul_of_pos_right m (Nat.succ_pos _)
  unfold Hub.patience
  refine Nat.le_trans ?_ (hmul _)
  cases c.receiver with
  | ended => exact Nat.zero_le _
  | waiting k => exact Nat.succ_le_succ (Nat.zero_le _)
  | reading n scanner seen =>
    simp only [Receiver.toGo]
    omega

end Channel

namespace Traffic

variable {t : Traffic}

/-- The client has no lock, and the others are in no call. -/
lemma Lone.quiet (h : t.Lone) (hlink : ¬ (t.callers 0).HasLink)
    (hwriter : ¬ (t.callers 0).HasWriter) : t.Quiet := by
  intro who p hp
  rcases h who p hp with rfl | rfl
  · obtain rfl := Option.some.inj hp
    exact ⟨hlink, hwriter⟩
  · exact ⟨id, id⟩

lemma Lone.alone (h : t.Lone) (here : t.callers 0 = .free) (idle : t.duty = .idle) :
    t.Alone .client where
  here := congrArg some here
  apart := (h.quiet (here ▸ id) (here ▸ id)).apart _
  away := idle ▸ id

end Traffic

namespace Hub

variable {h : Hub} {c : Channel}

lemma act_single {α : Type} (hc : h.channels = [c]) (f : Channel → α × Channel) :
    h.act 0 f = (some (f c).1, h.collect 0 (f c).2) := by
  simp [act, hc]

lemma channels_collect (hc : h.channels = [c]) (d : Channel) :
    (h.collect 0 d).channels = [{ d with trace := [] }] := by
  simp [collect, hc]

lemma channels_update (hc : h.channels = [c]) (f : Channel → Channel) :
    (h.update 0 f).channels = [{ f c with trace := [] }] := by
  rw [update, act_single hc]
  exact channels_collect hc _

lemma IsQuiet.undergo (hq : h.IsQuiet) (i : Nat) (stimuli : List Stimulus) :
    (h.undergo i stimuli).IsQuiet :=
  List.foldlRecOn stimuli _ hq fun _ hq stimulus _ => hq.meet i stimulus

lemma IsQuiet.act {α : Type} (hq : h.IsQuiet) (i : Nat) {f : Channel → α × Channel}
    (hf : ∀ c : Channel, c.Comes .idle .free → (f c).2.Comes .idle .free) : (h.act i f).2.IsQuiet :=
  Runs.quiet ((hq.runs i).act fun c _ hc => (hf c hc).noted [])

lemma IsQuiet.send (hq : h.IsQuiet) (i : Nat) (f : Frame) : (h.send i f).2.IsQuiet := by
  have hact := hq.act i fun c hc => hc.send f
  unfold Hub.send
  split <;> next he => rwa [he] at hact

end Hub

namespace Console.Errand

open Channel Traffic

variable {e : Errand} {name : String} {t₀ t u : Traffic} {h h' : Hub} {p q : Point} {call : Call}
  {next : Next} {s : Shared} {c : Channel}

/-- A run of an errand has come to a point of its client, and has brought about the one channel of a
hub, whose thread is between two turns. -/
structure Reached (e : Errand) (name : String) (t₀ : Traffic) (h : Hub) (t : Traffic) (p : Point) :
    Prop where
  run : e.Runs t₀ t
  lone : t.Lone
  upheld : e.Upheld name t
  here : t.callers 0 = p
  idle : t.duty = .idle
  channels : h.channels = [t.channel]

lemma Runs.of_agenda (run : Agenda.Runs e.Due t u) : e.Runs t u :=
  Relation.ReflTransGen.mono (fun _ _ => .goes) _ _ run

/-- The run goes on, and what was observed is taken away. -/
lemma Reached.goes (hr : e.Reached name t₀ h t p) (run : Agenda.Runs e.Due t u)
    (here : u.callers 0 = q) (idle : u.duty = .idle)
    (channels : h'.channels = [{ u.channel with trace := [] }]) :
    e.Reached name t₀ h' { u with channel := { u.channel with trace := [] } } q := by
  have hrun : e.Runs t { u with channel := { u.channel with trace := [] } } :=
    .tail (Runs.of_agenda run) (.noted [])
  obtain ⟨hlone, hupheld⟩ := hr.upheld.runs hr.lone hrun
  exact ⟨hr.run.trans hrun, hlone, hupheld, here, idle, channels⟩

/-- One call, from its first section to its last. -/
lemma Reached.calls (hr : e.Reached name t₀ h t .free) (due : e.Due t.done call)
    (begins : t.Begins call (.on p) t.channel) {r : Reply}
    (run : Solo .client (t.after .client (.on p) t.toShared) (t.after .client (.back call r) s))
    (channels : h'.channels = [{ s.channel with trace := [] }]) :
    ∃ u, e.Reached name t₀ h' u .free ∧ u.done = t.done ++ [(call, r)] := by
  have hserves := (hr.lone.alone hr.here hr.idle).serves (a := e.Due) due begins run
  exact ⟨_, hr.goes hserves callers_after hr.idle channels, done_after⟩

lemma Reached.connect (hr : e.Reached name t₀ h t .free) (due : e.Due t.done .connect) :
    ∃ r h' u, h.act 0 (·.connect) = (some r, h') ∧ e.Reached name t₀ h' u .free ∧
      u.done = t.done ++ [(.connect, .ofExcept r)] := by
  obtain ⟨threads, held, run⟩ := (hr.lone.alone hr.here hr.idle).connecting
  obtain ⟨u, hu, hdone⟩ := hr.calls due .connect run (Hub.channels_collect hr.channels _)
  exact ⟨_, _, u, Hub.act_single hr.channels _, hu, hdone⟩

lemma Reached.send {f : Frame} (hr : e.Reached name t₀ h t .free) (due : e.Due t.done (.send f)) :
    ∃ r h' u, h.send 0 f = (r, h') ∧ e.Reached name t₀ h' u .free ∧
      u.done = t.done ++ [(.send f, .ofExcept r)] := by
  have run := (hr.lone.alone hr.here hr.idle).sending f
  obtain ⟨u, hu, hdone⟩ := hr.calls due (.send f) run (Hub.channels_collect hr.channels _)
  exact ⟨(t.channel.send f).1, h.collect 0 (t.channel.send f).2, u,
    by rw [Hub.send, Hub.act_single hr.channels], hu, hdone⟩

/-- A frame that comes in is dropped. -/
lemma deliver_single (hone : c.OneShot name) (hc : h.channels = [c]) (f : Frame) :
    (h.deliver 0 f).channels = [{ (c.receive f).count fun k => { k with dropped := k.dropped + 1 } with
      trace := [] }] := by
  have hnoted := Hub.channels_update hc (·.receive f)
  have hroute : ({ c.receive f with trace := [] } : Channel).registry.route f.kind = .drop := by
    change c.registry.route f.kind = .drop
    rw [hone.registry]
    rfl
  simp only [Hub.deliver]
  rw [hnoted]
  simp only [List.getElem?_cons_zero, hroute]
  exact Hub.channels_update hnoted _

/-- One turn of the thread, in whatever the client is that has no lock. -/
lemma Reached.step (hr : e.Reached name t₀ h t p) (hlink : ¬ p.HasLink) (hwriter : ¬ p.HasWriter) :
    ∃ u, e.Reached name t₀ (h.step 0).2 u p ∧ u.done = t.done ∧
      ((h.step 0).1 = false ↔ t.channel.turn.1 = .resting) ∧
      ∃ last, u.channel.wiring = { t.channel.turn.2.wiring with last } := by
  have hquiet : t.Quiet := hr.lone.quiet (hr.here ▸ hlink) (hr.here ▸ hwriter)
  have hturn := @Quiet.turn t (fun _ => False) hquiet hr.idle
  unfold Hub.step
  rw [Hub.act_single hr.channels]
  rcases hres : t.channel.turn with ⟨turn, c⟩
  rw [hres] at hturn
  have hcollected := Hub.channels_collect hr.channels c
  cases turn with
  | resting | moved =>
    exact ⟨_, hr.goes hturn.serves hr.here rfl hcollected, rfl, by simp, _, rfl⟩
  | heard f =>
    have hone : (c.receive f).OneShot name :=
      (hr.upheld.runs hr.lone (Runs.of_agenda hturn.serves)).2.oneShot
    have hcollected' : OneShot { c with trace := [] } name :=
      { hone with }
    have hpassed := hturn.turns rfl .passed
    rw [show (t.turned (.passing f) (c.receive f)).channel.passOn f = _ from hone.passOn f] at hpassed
    exact ⟨_, hr.goes hpassed.serves hr.here rfl (deliver_single hcollected' hcollected f), rfl,
      by simp, _, rfl⟩

lemma Reached.meet (hr : e.Reached name t₀ h t .free) (stimulus : Stimulus) :
    ∃ u, e.Reached name t₀ (h.meet 0 stimulus) u .free ∧ u.done = t.done := by
  have hhears {c : Channel} (hears : t.channel.Hears c) :
      Agenda.Runs e.Due t { t with channel := c } := .single (.goes (.hears hears))
  cases stimulus with
  | feed b => exact ⟨_, hr.goes (hhears (.feed b)) hr.here hr.idle (Hub.channels_update hr.channels _), rfl⟩
  | endInput =>
    exact ⟨_, hr.goes (hhears .endInput) hr.here hr.idle (Hub.channels_update hr.channels _), rfl⟩
  | failRead cause =>
    exact ⟨_, hr.goes (hhears (.failRead cause)) hr.here hr.idle (Hub.channels_update hr.channels _), rfl⟩
  | turn =>
    obtain ⟨u, hu, hdone, -⟩ := hr.step id id
    exact ⟨u, hu, hdone⟩

lemma Reached.undergo (hr : e.Reached name t₀ h t .free) (stimuli : List Stimulus) :
    ∃ u, e.Reached name t₀ (h.undergo 0 stimuli) u .free ∧ u.done = t.done := by
  induction stimuli generalizing h t with
  | nil => exact ⟨t, hr, rfl⟩
  | cons stimulus stimuli ih =>
    obtain ⟨u, hu, hdone⟩ := hr.meet stimulus
    obtain ⟨v, hv, hdone'⟩ := ih hu
    exact ⟨v, hv, hdone'.trans hdone⟩

/-! ### The end of the thread -/

/-- The thread goes on until it has ended. -/
lemma Reached.winds {fuel : Nat} (hr : e.Reached name t₀ h t p) (hlink : ¬ p.HasLink)
    (hwriter : ¬ p.HasWriter) (hdry : t.channel.wiring.IsDry)
    (enough : t.channel.receiver.toGo ≤ fuel) :
    ∃ u, e.Reached name t₀ (Hub.runUntil (fun _ => false) 0 fuel h) u p ∧ u.done = t.done ∧
      u.channel.receiver = .ended := by
  have hzero {r : Receiver} (hr : r.toGo ≤ 0) : r = .ended := by
    cases r <;> simp [Receiver.toGo] at hr ⊢
  induction fuel generalizing h t with
  | zero => exact ⟨t, hr, rfl, hzero enough⟩
  | succ fuel ih =>
    obtain ⟨u, hu, hdone, hrests, last, hw⟩ := hr.step hlink hwriter
    have hreceiver : u.channel.receiver = t.channel.turn.2.receiver := congrArg Wiring.receiver hw
    rw [Hub.runUntil, if_neg Bool.false_ne_true]
    rcases hstep : h.step 0 with ⟨goes, h'⟩
    rw [hstep] at hu hrests
    rcases IsDry.turn hdry with ⟨hended, hturn⟩ | ⟨hgoes, hdry', hless⟩
    · obtain rfl : goes = false := hrests.mpr (congrArg Prod.fst hturn)
      refine ⟨u, hu, hdone, ?_⟩
      rw [hreceiver, hturn, hended]
    · obtain rfl : goes = true := by
        rw [← Bool.not_eq_false]
        exact hgoes ∘ hrests.mp
      have hdry : u.channel.wiring.IsDry := by
        rw [hw]
        exact ⟨⟨hdry'.stopped.halted, hdry'.stopped.current, hdry'.stopped.pending⟩, hdry'.dry⟩
      rw [← hreceiver] at hless
      obtain ⟨v, hv, hdone', hended⟩ := ih hu hdry (Nat.le_of_lt_succ (Nat.lt_of_lt_of_le hless enough))
      exact ⟨v, hv, hdone'.trans hdone, hended⟩

/-- Nothing is read any more after the link is closed for good. -/
lemma isDry_beginTerminate (hc : c.Comes .idle .free) : c.beginTerminate.wiring.IsDry := by
  obtain ⟨s, hs, rfl, -, -⟩ := hc
  have hw : s.channel.beginTerminate.wiring = _ := wiring_takeDown _
  rw [hw]
  exact ⟨⟨rfl, rfl, rfl⟩, hs.sound.ordered.source_closed⟩

/-- The channel is halted and its link closed. -/
lemma Reached.stops (hr : e.Reached name t₀ h t .free) (quiet : h.IsQuiet)
    (due : e.Due t.done .terminate) :
    ∃ u, e.Reached name t₀ (h.update 0 (·.beginTerminate)) u (.terminate .down) ∧
      u.done = t.done ∧ u.channel.wiring.IsDry := by
  have halone := hr.lone.alone hr.here hr.idle
  have hserves := halone.serves (a := e.Due) due .terminate halone.stops
  have hcomes : t.channel.Comes .idle .free := quiet 0 _ (by rw [hr.channels]; rfl)
  exact ⟨_, hr.goes hserves callers_after hr.idle (Hub.channels_update hr.channels _),
    done_on, isDry_beginTerminate hcomes⟩

/-- A thread that has ended is joined. -/
lemma Reached.joins (hr : e.Reached name t₀ h t (.terminate .down))
    (ended : t.channel.receiver = .ended) :
    ∃ u, e.Reached name t₀ (h.update 0 (·.endTerminate)) u .free ∧
      u.done = t.done ++ [(.terminate, .done)] := by
  have here : t.point .client = some (.terminate .down) := congrArg some hr.here
  have hjoinable : t.channel.joinable = true := by
    cases hr.upheld.phase_at hr.here with
    | terminates ceases => exact ceases.1.1
  have hjoining := Solo.acts .refl here (.terminate (.join nofun hjoinable))
  have hending := hjoining.acts (point_after here) (.terminate (.joined (.inr ⟨hr.idle, ended⟩)))
  rw [after_after] at hending
  have hfinished := hending.acts (point_after here) (.terminate .finish)
  rw [after_after] at hfinished
  exact ⟨_, hr.goes (hfinished.runs _).serves callers_after hr.idle
    (Hub.channels_update hr.channels _), done_after⟩

lemma Reached.terminate (hr : e.Reached name t₀ h t .free) (quiet : h.IsQuiet)
    (due : e.Due t.done .terminate) :
    ∃ h' u, h.terminate 0 = some h' ∧ e.Reached name t₀ h' u .free ∧
      u.done = t.done ++ [(.terminate, .done)] := by
  obtain ⟨u, hu, hdone, hdry⟩ := hr.stops quiet due
  obtain ⟨v, hv, hdone', hended⟩ := hu.winds id id hdry (toGo_le_patience _)
  obtain ⟨w, hw, hdone''⟩ := hv.joins hended
  refine ⟨_, w, ?_, hw, by rw [hdone'', hdone', hdone]⟩
  have hjoinable : u.channel.joinable = true := by
    cases hu.upheld.phase_at hu.here with
    | terminates ceases => exact ceases.1.1
  have hget {h : Hub} {c : Channel} (hc : h.channels = [c]) : h.channels[0]? = some c := by
    rw [hc]
    rfl
  simp only [Hub.terminate, Hub.settle, Hub.hasEnded, hget hu.channels, hget hv.channels, hended,
    hjoinable, Option.any_some, Option.all_some, if_true, decide_true, Option.map_some]

/-! ### The errand as it is run -/

variable {f : Frame} {meanwhile : Nat → List Stimulus} {k n : Nat}

lemma isQuiet_sendCopies (quiet : h.IsQuiet) : (sendCopies 0 f meanwhile n h).hub.IsQuiet := by
  fun_induction sendCopies 0 f meanwhile n h with
  | case1 => exact quiet
  | case2 n h h' hsend rest ih =>
    have hsent := (quiet.undergo 0 (meanwhile n)).send 0 f
    rw [hsend] at hsent
    exact ih hsent
  | case3 n h cause h' hsend =>
    have hsent := (quiet.undergo 0 (meanwhile n)).send 0 f
    rwa [hsend] at hsent

lemma isQuiet_perform (quiet : h.IsQuiet) : (e.perform 0 meanwhile h).hub.IsQuiet := by
  unfold perform
  split
  · exact quiet
  · split
    · exact quiet
    · exact isQuiet_sendCopies quiet

lemma shown_append (peer : String) (done last : List (Call × Reply)) :
    shown peer (done ++ last) = shown peer done ++ shown peer last := by
  rw [shown, List.filterMap_append, List.map_append]
  rfl

lemma verdict_terminated (e : Errand) (done : List (Call × Reply)) :
    e.verdict (done ++ [(.terminate, .done)]) = e.verdict done := by
  have hnone : List.findSome? failure? [(Call.terminate, Reply.done)] = none := rfl
  rw [verdict, List.findSome?_append, hnone, Option.or_none]
  rfl

lemma Reached.peer (hr : e.Reached name t₀ h t p) : h.peer 0 = "mem://" ++ name := by
  rw [Hub.peer, hr.channels]
  exact congrArg ("mem://" ++ ·) hr.upheld.oneShot.name

/-- Sending copies, as long as they are sent, is what an errand has to do. -/
lemma Reached.sendCopies (hr : e.Reached name t₀ h t .free) (copy : e.copy = .ok f)
    (done : t.done = (.connect, .done) :: copiesMade f k) (left : k + n = e.repeats) :
    ∃ u, e.Reached name t₀ (sendCopies 0 f meanwhile n h).hub u .free ∧ e.Due u.done .terminate ∧
      (sendCopies 0 f meanwhile n h).result = e.verdict u.done ∧
      shown ("mem://" ++ name) t.done ++ (sendCopies 0 f meanwhile n h).notices =
        shown ("mem://" ++ name) u.done := by
  induction n generalizing k h t with
  | zero =>
    obtain rfl : k = e.repeats := left
    have hverdict := verdict_copiesMade e f e.repeats []
    rw [List.append_nil, ← done, verdict_nil copy] at hverdict
    exact ⟨t, hr, done ▸ .finish copy, hverdict.symm, List.append_nil _⟩
  | succ n ih =>
    have hmore : k < e.repeats := by omega
    obtain ⟨u, hu, hdone⟩ := hr.undergo (meanwhile n)
    have due : e.Due u.done (.send f) := by
      rw [hdone, done]
      exact .send copy hmore
    obtain ⟨r, h', v, hsend, hv, hdone'⟩ := hu.send due
    rw [hdone] at hdone'
    have hshown : shown ("mem://" ++ name) v.done =
        shown ("mem://" ++ name) t.done ++ shown ("mem://" ++ name) [(.send f, .ofExcept r)] := by
      rw [hdone', shown_append]
    unfold Errand.sendCopies
    rw [hsend]
    rw [done] at hdone'
    cases r with
    | error cause =>
      refine ⟨v, hv, hdone' ▸ .giveUp copy hmore, ?_, hshown.symm⟩
      rw [hdone', verdict_copiesMade]
      rfl
    | ok =>
      have hdone'' : v.done = (.connect, .done) :: copiesMade f (k + 1) := by
        rw [hdone', copiesMade_succ]
        rfl
      obtain ⟨w, hw, hdue, hresult, hnotices⟩ := ih hv hdone'' (by omega)
      refine ⟨w, hw, hdue, hresult, ?_⟩
      rw [← hnotices, hshown, List.append_assoc]
      dsimp only
      rw [hv.peer]
      rfl

/-- So is all that is done while the channel is up. -/
lemma Reached.perform (hr : e.Reached name t₀ h t .free) (done : t.done = [(.connect, .done)]) :
    ∃ u, e.Reached name t₀ (e.perform 0 meanwhile h).hub u .free ∧ e.Due u.done .terminate ∧
      (e.perform 0 meanwhile h).result = e.verdict u.done ∧
      (e.perform 0 meanwhile h).notices = shown ("mem://" ++ name) u.done := by
  obtain ⟨f, hframe⟩ := e.exists_frame
  unfold Errand.perform
  cases hpause : e.pause with
  | error failure =>
    refine ⟨t, hr, done ▸ .refuse (copy_eq_error_iff.mpr hpause), ?_, ?_⟩
    · rw [done, verdict, hpause]
      rfl
    · rw [done]
      rfl
  | ok pause =>
    have hcopy : e.copy = .ok f := copy_eq_ok_iff.mpr ⟨hframe, pause, hpause⟩
    obtain ⟨u, hu, hdue, hresult, hnotices⟩ :=
      @Reached.sendCopies e name t₀ t h f meanwhile 0 e.repeats hr hcopy done (Nat.zero_add _)
    rw [done] at hnotices
    rw [hframe]
    exact ⟨u, hu, hdue, hresult, hnotices⟩

/-- So is an errand as a whole. -/
lemma Reached.errand (hr : e.Reached name t₀ h t .free) (quiet : h.IsQuiet) (new : t.done = []) :
    ∃ u, e.Reached name t₀ (e.run 0 meanwhile h).hub u .free ∧ e.IsOver u ∧
      (e.run 0 meanwhile h).result = e.verdict u.done ∧
      (e.run 0 meanwhile h).notices = shown ("mem://" ++ name) u.done := by
  obtain ⟨r, h', u, hconnect, hu, hdone⟩ := hr.connect (new ▸ .connect)
  have hquiet := quiet.act 0 fun c hc => hc.connect
  rw [hconnect] at hquiet
  rw [new, List.nil_append] at hdone
  unfold Errand.run
  rw [hconnect]
  cases r with
  | error cause =>
    refine ⟨u, hu, ⟨hu.here, fun call due => ?_⟩, ?_, ?_⟩
    · rw [hdone] at due
      cases due
    · rw [hdone]
      rfl
    · rw [hdone]
      rfl
  | ok =>
    obtain ⟨v, hv, hdue, hresult, hnotices⟩ := @Reached.perform e name t₀ u h' meanwhile hu hdone
    obtain ⟨h'', w, hterminate, hw, hdone'⟩ := hv.terminate (isQuiet_perform hquiet) hdue
    have hend : (.terminate, .done) ∈ w.done :=
      hdone' ▸ List.mem_append_right _ (List.mem_singleton_self _)
    dsimp only
    rw [hterminate, Option.getD_some]
    refine ⟨w, hw, ⟨hw.here, fun call due => due.no_terminate _ hend⟩, ?_, ?_⟩
    · rw [hdone', verdict_terminated, hresult]
    · rw [hdone', shown_append, hnotices]
      exact (List.append_nil _).symm

/-- **An errand sends its copies and closes the channel.** Every errand has a frame. However the
connect, the writes and flushes and the start of the thread come out, and whatever the thread and the far
end do between any two sections of its calls, no attempt to reconnect is ever made; and once the errand
is through, the link has so many copies of the frame, and behind them perhaps a beginning of one whose
send failed; there is a notice for each copy; the result is a success just if the pause is valid, the
channel was opened and all copies were sent, and the first failure otherwise; nothing was opened a second
time, and the channel is closed and down. And in one go, with whatever happens between the sends, the
errand is run as one of these runs. -/
theorem sends_copies_and_closes (e : Errand) : ∃ f, e.frame = .ok f ∧
    ∀ (name : String) (connects : List (Except TransportError Unit))
      (writes : List (Except IoError Nat)) (flushes : List (Except IoError Unit))
      (spawns : List (Except IoError Unit)),
      let t₀ := start config name connects writes flushes spawns
      (∀ t, e.Runs t₀ t → t.channel.counters.reconnectAttempts = 0 ∧
        t.channel.transport.links.length ≤ 1 ∧ (e.IsOver t → e.Concluded f t)) ∧
      ∀ meanwhile : Nat → List Stimulus,
        let o := e.run 0 meanwhile ⟨[t₀.channel], []⟩
        ∃ t, e.Runs t₀ t ∧ e.IsOver t ∧ o.hub.channels = [t.channel] ∧
          o.result = e.verdict t.done ∧
          o.notices = shown t.channel.transport.describe t.done := by
  obtain ⟨f, hframe⟩ := e.exists_frame
  refine ⟨f, hframe, fun name connects writes flushes spawns => ?_⟩
  intro t₀
  have hlone : t₀.Lone := lone_start config name connects writes flushes spawns
  have hupheld : e.Upheld name t₀ := upheld_start e name connects writes flushes spawns
  refine ⟨fun t run => ?_, fun meanwhile => ?_⟩
  · have ht := (hupheld.runs hlone run).2
    exact ⟨ht.oneShot.attempts, ht.phase.links, fun ends => ht.concluded ends hframe⟩
  intro o
  have hquiet : Hub.IsQuiet ⟨[t₀.channel], []⟩ :=
    Hub.isQuiet_of_new fun c hc => ⟨_, _, _, _, _, _, List.mem_singleton.mp hc⟩
  have hstart : e.Reached name t₀ ⟨[t₀.channel], []⟩ t₀ .free :=
    ⟨.refl, hlone, hupheld, rfl, rfl, rfl⟩
  obtain ⟨t, ht, hover, hresult, hnotices⟩ := hstart.errand hquiet rfl
  refine ⟨t, ht.run, hover, ht.channels, hresult, hnotices.trans ?_⟩
  rw [← ht.upheld.oneShot.name]
  rfl

/-- A setpoint that is to be sent three times, over a link that takes the first copy and a part of the
second. -/
theorem sends_copies_and_closes_torn :
    let e : Errand := .command ⟨100, -50, 0, 200⟩ 3 "100ms"
    let t₀ := start config "far" [] [.ok 20, .ok 3, .error ⟨.brokenPipe, "broken pipe"⟩] [] []
    ∃ f t, e.frame = .ok f ∧ e.Runs t₀ t ∧ e.IsOver t ∧ e.Concluded f t ∧
      (t.channel.transport.link 0).written.length = 14 + 3 ∧
      (shown t.channel.transport.describe t.done).length = 1 := by
  intro e t₀
  obtain ⟨f, hframe, hall⟩ := sends_copies_and_closes e
  obtain ⟨hconcluded, hrun⟩ :=
    hall "far" [] [.ok 20, .ok 3, .error ⟨.brokenPipe, "broken pipe"⟩] [] []
  obtain ⟨t, run, ends, hchannels, -, hnotices⟩ := hrun fun _ => [.turn]
  have hwritten : (e.run 0 (fun _ => [.turn]) ⟨[t₀.channel], []⟩).hub.channels.map
      (fun c => (c.transport.link 0).written.length) = [17] := by decide +kernel
  have hshown : (e.run 0 (fun _ => [.turn]) ⟨[t₀.channel], []⟩).notices.length = 1 := by
    decide +kernel
  rw [hchannels] at hwritten
  rw [hnotices] at hshown
  exact ⟨f, t, hframe, run, ends, (hconcluded t run).2.2 ends, (List.cons.inj hwritten).1, hshown⟩

end Console.Errand

end FrameLink
