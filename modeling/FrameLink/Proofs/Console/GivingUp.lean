import FrameLink.Console.Listening
import FrameLink.Proofs.Channel.Attempts
import FrameLink.Proofs.Channel.Client

/-!
When a listener gives a lost channel up.

A listener connects, and then leaves the channel to its receive thread. It looks at the counter of
attempts, which goes on over the whole life of the channel, while the thread begins anew with each
outage. So the two agree on an outage that is the first to cost anything, and on a later one the
listener gives up early.
-/

namespace FrameLink

/-! ### The calls of a listener -/

/-- A listener connects once, and then sets its relay and takes it away again. -/
def Console.Listening.agenda : Agenda := fun done call =>
  done = [] ∧ call = .connect ∨ (.connect, .done) ∈ done ∧ ∃ r, call = .relay r

namespace Traffic

variable {t u : Traffic} {d d' : Duty} {c : Channel} {stage : Connecting} {next : Next} {s : Shared}
  {call : Call} {p : Point}

open Channel

lemma Unmanned.first (h : t.Unmanned) (ht : t.channel.Tried c) :
    (t.after .client next { t.toShared with channel := c }).Unmanned :=
  ⟨h.1, ht.receiver.trans h.2.1, ht.receiving.trans h.2.2⟩

/-- How far a listener has got, by where it is. -/
inductive Phase (t : Traffic) : Point → Prop where
  | new (unmanned : t.Unmanned) (first : t.done = []) (closed : t.channel.transport.current = none)
      (fresh : t.channel.outages = []) : Phase t .free
  | early {stage : Connecting} (unmanned : t.Unmanned) (first : t.done = [])
      (closed : t.channel.transport.current = none) (fresh : t.channel.outages = [])
      (isEarly : stage.IsEarly) : Phase t (.connect stage)
  | linked {stage : Connecting} (unmanned : t.Unmanned) (first : t.done = [])
      (one : ∃ n, t.channel.transport.current = some n) (hasOne : stage.HasOne)
      (shown : ∀ n, stage = .unread n → t.channel.state = .connected) : Phase t (.connect stage)
  | inVain {stage : Connecting} (unmanned : t.Unmanned) (first : t.done = [])
      (inVain : stage.IsInVain) : Phase t (.connect stage)
  | failed {e : ChannelError} (unmanned : t.Unmanned) (done : t.done = [(.connect, .failed e)]) :
      Phase t .free
  | started (stands : t.channel.Stands t.duty) : Phase t (.connect .started)
  | runs (up : (.connect, .done) ∈ t.done) (stands : t.channel.Stands t.duty) : Phase t .free

/-- What holds of a listener's channel at every point. -/
structure Attended (t : Traffic) : Prop where
  kept : t.channel.Kept t.duty
  phase : t.Phase (t.callers 0)

lemma Attended.phase_at (h : t.Attended) (here : t.callers 0 = p) : t.Phase p := here ▸ h.phase

lemma Attended.after (kept : s.channel.Kept t.duty)
    (phase : (t.after .client next s).Phase next.point) : (t.after .client next s).Attended :=
  ⟨kept, callers_after.symm ▸ phase⟩

lemma Phase.turns (h : t.Phase p) (kept : t.channel.Kept t.duty) (turns : t.Turns t.duty d' c) :
    c.Kept d' ∧ (t.turned d' c).Phase p := by
  have hgone (hun : t.Unmanned) : False := hun.deserted.no_turns rfl turns
  cases h with
  | new unmanned | early unmanned | linked unmanned | inVain unmanned | failed unmanned =>
    exact (hgone unmanned).elim
  | started stands =>
    obtain ⟨hkept, hstands⟩ := turns.kept kept stands
    exact ⟨hkept, .started hstands⟩
  | runs up stands =>
    obtain ⟨hkept, hstands⟩ := turns.kept kept stands
    exact ⟨hkept, .runs up hstands⟩

lemma Phase.hears (h : t.Phase p) (hears : t.channel.Hears c) : Phase { t with channel := c } p := by
  have hu := hears.unseen
  cases h with
  | new unmanned first closed fresh =>
    exact .new (unmanned.hears hears) first (hu.current.trans closed) (hu.outages.trans fresh)
  | early unmanned first closed fresh isEarly =>
    exact .early (unmanned.hears hears) first (hu.current.trans closed) (hu.outages.trans fresh) isEarly
  | linked unmanned first one hasOne shown =>
    exact .linked (unmanned.hears hears) first (hu.current ▸ one) hasOne
      fun n hn => hears.state.trans (shown n hn)
  | inVain unmanned first inVain => exact .inVain (unmanned.hears hears) first inVain
  | failed unmanned done => exact .failed (unmanned.hears hears) done
  | started stands => exact .started (stands.unseen hu hears.receiver hears.state)
  | runs up stands => exact .runs up (stands.unseen hu hears.receiver hears.state)

lemma Attended.turns (h : t.Attended) (here : t.duty = d) (turns : t.Turns d d' c) :
    (t.turned d' c).Attended := by
  subst here
  obtain ⟨hkept, hphase⟩ := h.phase.turns h.kept turns
  exact ⟨hkept, hphase⟩

lemma Attended.hears (h : t.Attended) (hears : t.channel.Hears c) :
    Attended { t with channel := c } :=
  ⟨h.kept.unseen hears.unseen rfl, h.phase.hears hears⟩

lemma Attended.begins (h : t.Attended) (allowed : Console.Listening.agenda t.done call)
    (here : t.callers 0 = .free) (begins : t.Begins call next c) :
    (t.after .client next { t.toShared with channel := c }).Attended := by
  have hphase := h.phase_at here
  obtain ⟨hnone, rfl⟩ | ⟨hup, r, rfl⟩ := allowed
  · cases begins with
    | brief _ brief => exact brief.elim
    | connect =>
      refine .after h.kept ?_
      cases hphase with
      | new unmanned _ closed fresh =>
        exact .early unmanned (done_on.trans hnone) closed fresh trivial
      | failed _ done =>
        rw [hnone] at done
        cases done
      | runs up =>
        rw [hnone] at up
        cases up
  · cases begins with
    | brief _ brief =>
      have hu : t.channel.Unseen (t.channel.perform (.relay r)).2 := ⟨rfl, rfl, rfl, rfl, rfl, rfl, rfl⟩
      refine .after (h.kept.unseen hu rfl) ?_
      cases hphase with
      | new _ first =>
        rw [first] at hup
        cases hup
      | failed _ done =>
        rw [done] at hup
        simp at hup
      | runs _ stands =>
        exact .runs (done_after ▸ List.mem_append_left _ hup) (stands.unseen hu rfl rfl)

/-- How far a connect of the client has got. -/
lemma Attended.connects (h : t.Attended) (here : t.callers 0 = .connect stage)
    (connects : t.Connects stage next s) : (t.after .client next s).Attended := by
  cases h.phase_at here with
  | early unmanned first closed fresh isEarly =>
    cases connects with
    | clear =>
      have hkept : (t.channel.setHalted false).Kept t.duty :=
        ⟨h.kept.pending, rfl, h.kept.attempts, h.kept.budget, h.kept.lost⟩
      exact .after hkept (.early unmanned (done_on.trans first) closed fresh trivial)
    | lock => exact .after h.kept (.early unmanned (done_on.trans first) closed fresh trivial)
    | announce =>
      exact .after (h.kept.unseen ⟨rfl, rfl, rfl, rfl, rfl, rfl, rfl⟩ rfl)
        (.early unmanned (done_on.trans first) closed fresh trivial)
    | dial opens =>
      obtain ⟨htried, one⟩ := tried_of_ok closed opens
      exact .after (h.kept.first htried closed fresh rfl)
        (.linked (unmanned.first htried) (done_on.trans first) one trivial nofun)
    | dialInVain refuses =>
      obtain ⟨htried, -⟩ := tried_of_error closed refuses
      exact .after (h.kept.first htried closed fresh rfl)
        (.inVain (unmanned.first htried) (done_on.trans first) trivial)
    | _ => exact isEarly.elim
  | linked unmanned first one hasOne shown =>
    obtain ⟨n, hn⟩ := one
    cases connects with
    | install =>
      exact .after (h.kept.unseen ⟨rfl, rfl, rfl, rfl, rfl, rfl, rfl⟩ rfl)
        (.linked unmanned (done_on.trans first) ⟨n, hn⟩ trivial nofun)
    | handOver runs => exact absurd runs (by simp [unmanned.2.2])
    | keep =>
      exact .after (h.kept.unseen ⟨rfl, rfl, rfl, rfl, rfl, rfl, rfl⟩ rfl)
        (.linked unmanned (done_on.trans first) ⟨n, hn⟩ trivial fun _ _ => rfl)
    | spawn spawns =>
      obtain ⟨spawns', rfl⟩ := nextSpawn_eq spawns
      refine .after (h.kept.unseen ⟨rfl, rfl, rfl, rfl, rfl, rfl, rfl⟩ rfl) (.started ?_)
      rw [duty_after, unmanned.1]
      exact .inl ⟨⟨_, _, _, rfl⟩, shown _ rfl, n, hn⟩
    | spawnInVain spawns =>
      obtain ⟨spawns', rfl⟩ := nextSpawn_eq spawns
      have hkept : Kept { t.channel with spawns := spawns' } t.duty :=
        h.kept.unseen ⟨rfl, rfl, rfl, rfl, rfl, rfl, rfl⟩ rfl
      have hw := wiring_closeLink { t.channel with spawns := spawns' }
      have hidle : t.duty.underway = 0 := by rw [unmanned.1]; rfl
      refine .after (hkept.closed hn hidle hidle) (.inVain ⟨unmanned.1, ?_, ?_⟩ (done_on.trans first) trivial)
      · exact (receiver_closeLink _).trans unmanned.2.1
      · exact (congrArg Wiring.receiving hw).trans unmanned.2.2
    | _ => exact hasOne.elim
  | inVain unmanned first inVain =>
    have hfailed {e : ChannelError} {s : Shared} :
        (t.after .client (.back .connect (.failed e)) s).done = [(.connect, .failed e)] := by
      rw [done_after, first]
      rfl
    cases connects with
    | fail | abandon =>
      exact .after (h.kept.unseen ⟨rfl, rfl, rfl, rfl, rfl, rfl, rfl⟩ rfl) (.failed unmanned hfailed)
    | silence =>
      exact .after (h.kept.unseen ⟨rfl, rfl, rfl, rfl, rfl, rfl, rfl⟩ rfl)
        (.inVain unmanned (done_on.trans first) trivial)
    | _ => exact inVain.elim
  | started stands =>
    cases connects
    have hu : t.channel.Unseen { t.channel with joinable := true } := ⟨rfl, rfl, rfl, rfl, rfl, rfl, rfl⟩
    refine .after (h.kept.unseen hu rfl) (.runs ?_ (stands.unseen hu rfl rfl))
    rw [done_after]
    exact List.mem_append_right _ (List.mem_singleton_self _)

lemma attended_start (config : ChannelConfig) (name : String)
    (connects : List (Except TransportError Unit)) (writes : List (Except IoError Nat))
    (flushes : List (Except IoError Unit)) (spawns : List (Except IoError Unit)) :
    (start config name connects writes flushes spawns).Attended :=
  ⟨⟨rfl, rfl, rfl, fun _ _ => nofun, rfl⟩, .new ⟨rfl, rfl, rfl⟩ rfl rfl rfl⟩

/-- Everything is in order at every point of a listener's run. -/
lemma Lone.attended (h : t.Lone) (ht : t.Attended)
    (run : Console.Listening.agenda.Runs t u) : u.Attended := by
  refine (h.runs ht (fun v w _ hv hm => ?_) run).2
  cases hm with
  | begins allowed here begins => exact hv.begins allowed here begins
  | acts here acts =>
    cases acts with
    | connect connects => exact hv.connects here connects
    -- A listener is never in the middle of another call.
    | disconnect | disconnected | terminate | send => cases hv.phase_at here
  | turns here turns => exact hv.turns here turns
  | hears hears => exact hv.hears hears

end Traffic

/-! ### Giving up -/

namespace Console.Listening

variable {l : Listening} {peer : String} {idle attempts m : Nat} {connected : Bool} {f : Failure}

/-- As long as the silence is not too long, a channel is given up if it is not up and there were too
many attempts. -/
lemma isSome_giveUp?_iff (hmost : l.maxReconnects = some m)
    (short : l.idleTimeout.filter (·.millis ≤ idle) = none) :
    (l.giveUp? peer idle connected attempts).isSome ↔ connected = false ∧ m ≤ attempts := by
  simp [giveUp?, short, hmost, Option.filter_some]

end Console.Listening

namespace Traffic

variable {t u : Traffic}

open Channel

/-- Once a listener is connected, its thread is somewhere. -/
lemma Phase.stands {p : Point} (h : t.Phase p) (up : (.connect, .done) ∈ t.done) :
    t.channel.Stands t.duty := by
  cases h with
  | new _ first | early _ first | linked _ first | inVain _ first =>
    rw [first] at up
    cases up
  | failed _ done =>
    rw [done] at up
    simp at up
  | started stands | runs _ stands => exact stands

/-- A channel that is down is in an outage, if its thread is not gone. -/
lemma Attended.outage (h : t.Attended) (up : (.connect, .done) ∈ t.done)
    (down : t.channel.state ≠ .connected) : t.Deserted ∨ t.channel.outages ≠ [] := by
  have hstands := h.phase.stands up
  cases hd : t.duty with
  | idle =>
    rw [hd] at hstands
    obtain hreads | ⟨k, -, hout⟩ | hended := hstands
    · exact absurd hreads.2.1 down
    · exact .inr hout.ne_nil
    · exact .inl ⟨hd, hended⟩
  | failed | lost | passing | handling | relaying =>
    rw [hd] at hstands
    exact absurd hstands.2.1 down
  | closed | silenced =>
    rw [hd] at hstands
    exact absurd hstands.1 down
  | unwinding stage =>
    rw [hd] at hstands
    cases stage with
    | begun => exact absurd hstands.2.1 down
    | closed | silenced => exact absurd hstands down
  | attempting | checking | cleared | announced | refused =>
    rw [hd] at hstands
    exact .inr (Out.ne_nil hstands)
  | opened | kept | installed =>
    rw [hd] at hstands
    exact .inr hstands.2
  | leaving | retiring | retired =>
    rw [hd] at hstands
    exact .inr hstands

end Traffic

namespace Console.Listening

open Channel Traffic

variable (l : Listening) (config : ChannelConfig) (name : String)
  (connects : List (Except TransportError Unit)) (writes : List (Except IoError Nat))
  (flushes : List (Except IoError Unit)) (spawns : List (Except IoError Unit))

/-- **A listener gives a channel up by what all its outages have cost together.** At every point of a
run, once the channel is connected: the counter that the listener looks at is the number of attempts in
all outages, and one more while an attempt is counted and not made; the thread spends no more than the
budget on any one outage, and its own count is that of the last one alone; the links that were opened
are those that were lost and the open one. As long as the silence is not too long the listener gives
up exactly if the channel is down and all outages have cost the budget. Then the thread is gone or in
an outage, and what this one has cost and the earlier ones together are no less than the budget: so
if it is the first that has cost anything, and its last attempt is made, it has had all of them. -/
theorem gives_up_by_all_outages (m : Nat) (hmost : l.maxReconnects = some m)
    (hconfig : config.maxAttempts = some m) (t : Traffic)
    (run : agenda.Runs (start config name connects writes flushes spawns) t)
    (up : (.connect, .done) ∈ t.done) :
    let c := t.channel
    let made := c.counters.reconnectAttempts
    made = c.outages.sum + t.duty.underway ∧
    (∀ k ∈ retried t.duty.underway c.outages, k ≤ m) ∧
    (∀ k, t.duty = .idle → c.receiver = .waiting k → c.outages.head? = some k) ∧
    c.outages.length + c.transport.current.toList.length = c.transport.links.length ∧
    ∀ peer idle, l.idleTimeout.filter (·.millis ≤ idle) = none →
      ((l.giveUp? peer idle (c.state = .connected) made).isSome ↔
        c.state ≠ .connected ∧ m ≤ c.outages.sum + t.duty.underway) ∧
      ∀ attempts ≤ made, (l.giveUp? peer idle (c.state = .connected) attempts).isSome →
        t.Deserted ∨ ∃ k earlier, c.outages = k :: earlier ∧
          k + t.duty.underway ≤ m ∧ m ≤ k + t.duty.underway + earlier.sum := by
  have hlone := lone_start config name connects writes flushes spawns
  have ht := hlone.attended (attended_start config name connects writes flushes spawns) run
  have hbudget := ht.kept.budget m ((congrArg ChannelConfig.maxAttempts (hlone.runs_config run)).trans hconfig)
  refine ⟨ht.kept.attempts, hbudget, ?waits, ht.kept.lost, ?gives⟩
  case waits =>
    intro k hidle hwaits
    have hstands := ht.phase.stands up
    rw [hidle] at hstands
    exact (hstands.out hwaits).2
  case gives =>
    intro peer idle short
    refine ⟨?_, fun attempts hle hgives => ?_⟩
    · rw [isSome_giveUp?_iff hmost short, ht.kept.attempts]
      simp
    · obtain ⟨hdown, hspent⟩ := (isSome_giveUp?_iff hmost short).mp hgives
      refine (ht.outage up (of_decide_eq_false hdown)).imp_right fun hone => ?_
      obtain ⟨k, earlier, hout⟩ := List.exists_cons_of_ne_nil hone
      have hmade := ht.kept.attempts
      rw [hout] at hbudget hmade
      refine ⟨k, earlier, hout, (List.forall_mem_cons.mp hbudget).1, ?_⟩
      rw [List.sum_cons] at hmade
      omega

/-- The thread is left alone for some turns. -/
lemma moved {t : Traffic} {k : Nat} {c : Channel} {may : Call → Prop} (h : t.Quiet)
    (idle : t.duty = .idle) (moves : t.channel.Moves k c) : t.Runs may (t.turned .idle c) := by
  induction moves with
  | refl =>
    have hsame : t.turned .idle t.channel = t := by rw [Traffic.turned, ← idle]
    rw [hsame]
    exact .refl
  | @tail k d d' _ turn ih =>
    have hquiet : (t.turned .idle d).Quiet := h.turned rfl
    have hnext := @Quiet.turn _ may hquiet rfl
    rw [show (t.turned .idle d).channel.turn = _ from turn] at hnext
    exact ih.trans hnext

/-- The far end ends a link that nothing has passed over, and the thread finds it lost. -/
lemma lost_of_endInput {c : Channel} {n : Nat} (h : c.Fresh n) :
    Lost { c with transport := c.transport.endInput } := by
  refine ⟨⟨n, _, _, .connectionClosed, h.receiver, ?_⟩, h.running, h.unawaited, h.wanted⟩
  have hlt : n < c.transport.links.length := by
    by_contra hge
    have hlink := h.link
    rw [Transport.link, List.getD_eq_getElem?_getD, List.getElem?_eq_none (Nat.le_of_not_lt hge)]
      at hlink
    cases hlink
  have hended : (c.transport.endInput.link n).inbound = Source.ended := by
    have hlink : c.transport.links[n] = {} := by
      rw [← h.link, Transport.link, List.getD_eq_getElem?_getD, List.getElem?_eq_getElem hlt,
        Option.getD_some]
    simp only [Transport.endInput, h.current, Transport.onLink, Transport.link,
      List.getD_eq_getElem?_getD, List.getElem?_modify_eq, List.getElem?_eq_getElem hlt, hlink]
    rfl
  rw [(wiring_readOn _ _ _ _).1, source_wiring, Reader.readFrame_eq_atEnd hended]
  rfl

/-- The listener is up on a link that nothing has passed over, and no one does anything. -/
structure Rests (t : Traffic) (n : Nat) : Prop where
  quiet : t.Quiet
  idle : t.duty = .idle
  up : (.connect, .done) ∈ t.done
  fresh : t.channel.Fresh n

lemma rests_connected : ∃ t, agenda.Runs (start { maxAttempts := some 1 } "far" [] [] [] []) t ∧
    Rests t 0 ∧ t.channel.config.maxAttempts = some 1 ∧ t.channel.transport.connects = [] ∧
    t.channel.outages = [] ∧ t.channel.counters.reconnectAttempts = 0 := by
  let t₀ := start { maxAttempts := some 1 } "far" [] [] [] []
  have hquiet : t₀.Quiet := start_quiet _ _ _ _ _ _
  have halone : t₀.Alone .client := ⟨rfl, hquiet.apart _, id⟩
  obtain ⟨threads, held, run⟩ := halone.connecting
  have hfresh : t₀.channel.connect.2.Fresh 0 := (fresh_connect (c := t₀.channel) rfl rfl rfl rfl rfl).2
  refine ⟨_, halone.serves (.inl ⟨rfl, rfl⟩) .connect run, ⟨hquiet.after id id, rfl, ?_, hfresh⟩,
    rfl, rfl, rfl, rfl⟩
  rw [done_after]
  exact List.mem_singleton_self _

variable {t : Traffic} {n k : Nat} {c : Channel}

/-- The far end ends the link, and the thread is left alone. -/
lemma Rests.ends (h : Rests t n)
    (moves : Moves { t.channel with transport := t.channel.transport.endInput } k c) :
    agenda.Runs t (t.turned .idle c) := by
  let u : Traffic :=
    { t with channel := { t.channel with transport := t.channel.transport.endInput } }
  have hquiet : u.Quiet := h.quiet
  have hturned : u.Runs (fun _ => False) (u.turned .idle c) := moved hquiet h.idle moves
  exact Runs.serves (.head (.hears .endInput) hturned)

lemma Rests.closing (h : Rests t n) :
    Channel.closing { t.channel with transport := t.channel.transport.endInput } =
      [.closed t.channel.transport.name n] := by
  simp [Channel.closing, Transport.endInput, h.fresh.current, Transport.onLink]

/-- The link is lost, and the thread begins with its attempts. -/
lemma Rests.loses (h : Rests t n) : ∃ u, agenda.Runs t u ∧ (.connect, .done) ∈ u.done ∧
    u.duty = .idle ∧ u.channel.Seeking ∧ u.channel.outages = 0 :: t.channel.outages ∧
    u.channel.counters.reconnectAttempts = t.channel.counters.reconnectAttempts := by
  obtain ⟨d, hturn, hd, hleaves⟩ := (lost_of_endInput h.fresh).turn
  refine ⟨_, h.ends (.tail .refl hturn), h.up, rfl, hd, ?_, hleaves.attempts⟩
  change d.outages = _
  rw [outages, hleaves.trace, h.closing, List.foldl_append]
  rfl

/-- The link is lost, and the first attempt gets another one. -/
lemma Rests.regains (h : Rests t n) (opens : t.channel.transport.connects = [])
    (budget : t.channel.config.maxAttempts = some 1) :
    ∃ u n', agenda.Runs t u ∧ Rests u n' ∧ u.channel.outages = 1 :: t.channel.outages ∧
      u.channel.counters.reconnectAttempts = t.channel.counters.reconnectAttempts + 1 := by
  have hopens : t.channel.transport.endInput.outcome 0 = .ok () := by
    simp [Transport.outcome, Transport.endInput, h.fresh.current, Transport.onLink, opens]
  have hbudget (m : Nat) (hm : t.channel.config.maxAttempts = some m) : 0 < m := by
    rw [budget, Option.some.injEq] at hm
    omega
  obtain ⟨c', hmoves, -, hc'⟩ := (lost_of_endInput h.fresh).regains (k := 0)
    (fun i hi => absurd hi (Nat.not_lt_zero i)) hopens hbudget
  refine ⟨_, _, h.ends hmoves, ⟨h.quiet.turned rfl, rfl, h.up, hc'.fresh⟩, ?_, hc'.attempts⟩
  change c'.outages = _
  rw [outages, hc'.trace, h.closing, List.foldl_append, List.foldl_append, List.foldl_append]
  rfl

/-- With a budget of one attempt the link is lost, regained with the first attempt, and lost again;
the thread waits, and has made no attempt for this outage. -/
lemma lost_again : ∃ t, agenda.Runs (start { maxAttempts := some 1 } "far" [] [] [] []) t ∧
    (.connect, .done) ∈ t.done ∧ t.duty = .idle ∧ t.channel.Seeking ∧ t.channel.outages = [0, 1] ∧
    t.channel.counters.reconnectAttempts = 1 := by
  obtain ⟨t, run, ht, hbudget, hopens, hnone, hcounted⟩ := rests_connected
  obtain ⟨u, n, run', hu, hone, hcounted'⟩ := ht.regains hopens hbudget
  obtain ⟨v, run'', hup, hidle, hv, htwo, hcounted''⟩ := hu.loses
  refine ⟨v, (run.trans run').trans run'', hup, hidle, hv, ?_, ?_⟩
  · rw [htwo, hone, hnone]
  · rw [hcounted'', hcounted', hcounted]

/-- A listener with a budget of one attempt gives up while the thread has made none for this outage:
the earlier one has cost the budget. -/
theorem gives_up_by_all_outages_lost_again :
    ∃ t, agenda.Runs (start { maxAttempts := some 1 } "far" [] [] [] []) t ∧
      t.channel.receiver = .waiting 0 ∧ t.channel.outages = [0, 1] ∧
      (({ maxReconnects := some 1 } : Listening).giveUp? "far" 100 (t.channel.state = .connected)
        t.channel.counters.reconnectAttempts).isSome ∧
      (t.Deserted ∨ ∃ k earlier, t.channel.outages = k :: earlier ∧ k + t.duty.underway ≤ 1 ∧
        1 ≤ k + t.duty.underway + earlier.sum) := by
  obtain ⟨t, run, up, hidle, hseeking, hout, -⟩ := lost_again
  obtain ⟨-, -, -, -, hgives⟩ := gives_up_by_all_outages { maxReconnects := some 1 }
    { maxAttempts := some 1 } "far" [] [] [] [] 1 rfl rfl t run up
  have hdown : t.channel.state ≠ .connected := by simp [hseeking.state]
  have hspent : 1 ≤ t.channel.outages.sum + t.duty.underway := by
    rw [hout, hidle]
    decide
  obtain ⟨hgives_iff, hgone⟩ := hgives "far" 100 rfl
  have hgives_now := hgives_iff.mpr ⟨hdown, hspent⟩
  exact ⟨t, run, hseeking.waits, hout, hgives_now, hgone _ (Nat.le_refl _) hgives_now⟩

/-- Earlier outages shorten the budget of a later one. -/
theorem gives_up_before_channel : ¬ ∀ (l : Listening) (m : Nat), l.maxReconnects = some m →
    ∀ config : ChannelConfig, config.maxAttempts = some m → ∀ t,
      agenda.Runs (start config "far" [] [] [] []) t → (.connect, .done) ∈ t.done →
      ∀ peer idle, l.idleTimeout.filter (·.millis ≤ idle) = none →
      (l.giveUp? peer idle (t.channel.state = .connected)
        t.channel.counters.reconnectAttempts).isSome →
      t.Deserted ∨ ∃ k earlier, t.channel.outages = k :: earlier ∧ m ≤ k := by
  intro h
  obtain ⟨t, run, up, -, hseeking, hout, hcounted⟩ := lost_again
  have hgives : (({ maxReconnects := some 1 } : Listening).giveUp? "far" 100
      (t.channel.state = .connected) t.channel.counters.reconnectAttempts).isSome := by
    rw [hcounted, hseeking.state]
    rfl
  rcases h { maxReconnects := some 1 } 1 rfl { maxAttempts := some 1 } rfl t run up "far" 100 rfl hgives
    with hgone | ⟨k, earlier, hone, hle⟩
  · exact absurd (hseeking.waits.symm.trans hgone.2) nofun
  · rw [hout, List.cons.injEq] at hone
    omega

end Console.Listening

end FrameLink
