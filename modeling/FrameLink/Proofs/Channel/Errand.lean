import FrameLink.Proofs.Channel.Hops
import FrameLink.Proofs.Channel.Inflow

/-!
The relay's errands.

Of the frames that the first channel finds, in the order in which it finds them, those that no handler
takes make one hop each. An account of the hops is kept at every step of anyone, together with where
the hop is that is on its way.
-/

namespace FrameLink

lemma Reply.ofExcept_inj {r r' : Except ChannelError Unit} (h : ofExcept r = ofExcept r') : r = r' := by
  cases r <;> cases r' <;> cases h <;> rfl

namespace Traffic

variable {t : Traffic} {who : Party} {p : Point} {next : Next} {s : Shared} {f : Frame}
  {d d' : Duty} {c : Channel}

@[simp] lemma inHand_after : (t.after who next s).duty.inHand = t.duty.inHand := by
  cases who with
  | caller i => rfl
  | thread => exact Duty.inHand_put _ _

@[simp] lemma noted_after : (t.after who next s).duty.noted = t.duty.noted := by
  cases who with
  | caller i => rfl
  | thread => exact Duty.noted_put _ _

lemma relaying_after (own : who = .thread → t.duty.inHand = none) :
    (t.after who next s).duty = .relaying f p ↔ t.duty = .relaying f p := by
  cases who with
  | caller i => rfl
  | thread =>
    have hnone := own rfl
    change t.duty.put next.point = _ ↔ _
    cases hd : t.duty with
    | relaying => simp [hd, Duty.inHand] at hnone
    | _ => simp [Duty.put]

end Traffic

/-! ### The account of the hops -/

/-- What the log and the hops tell of the channel that relays. -/
structure Account (b : Nat) (l : Limits) (t : Traffic) (log : Log)
    (hops : List (Hop × Except ChannelError Unit)) : Prop where
  follows : log.Follows t
  handed : log.routed.filterMap relayedFrame = hops.map (·.1.frame) ++ t.duty.inHand.toList
  aimed : ∀ x ∈ log.routed, ∀ r, x.2.relay = some r → r = .channel b
  relay : ∀ r, t.channel.registry.relay = some r → r = .channel b
  fares : ∀ x ∈ hops, x.1.Fares l x.2
  relayed : t.channel.counters.relayed = hops.countP (·.2.isOk)
  relayFailures : t.channel.counters.relayFailures = hops.countP (!·.2.isOk)

/-- Nothing changes of which the account tells. -/
structure Traffic.Spared (b : Nat) (t t' : Traffic) : Prop where
  noted : t'.duty.noted = t.duty.noted
  inHand : t'.duty.inHand = t.duty.inHand
  resumes : t.channel.Resumes t'.channel
  relay : ∀ r, t'.channel.registry.relay = some r →
    t.channel.registry.relay = some r ∨ r = .channel b
  relayed : t'.channel.counters.relayed = t.channel.counters.relayed
  relayFailures : t'.channel.counters.relayFailures = t.channel.counters.relayFailures

section Account

variable {b : Nat} {l : Limits} {t t' : Traffic} {log : Log}
  {hops : List (Hop × Except ChannelError Unit)} {who : Party} {p q : Point} {next : Next} {s : Shared}
  {f : Frame} {hop : Hop} {d d' : Duty} {c : Channel} {r : Except ChannelError Unit}

lemma Account.spared (h : Account b l t log hops) (spared : t.Spared b t') :
    Account b l t' log hops where
  follows := h.follows.resumes spared.noted spared.resumes
  handed := by rw [spared.inHand, h.handed]
  aimed := h.aimed
  relay r hr := (spared.relay r hr).elim (h.relay r) id
  fares := h.fares
  relayed := spared.relayed.trans h.relayed
  relayFailures := spared.relayFailures.trans h.relayFailures

lemma Traffic.spared_after (steady : t.channel.Steady s.channel)
    (resumes : t.channel.Resumes s.channel) : t.Spared b (t.after who next s) where
  noted := noted_after
  inHand := inHand_after
  resumes := resumes
  relay _ hr := .inl (steady.relay ▸ hr)
  relayed := steady.relayed
  relayFailures := steady.relayFailures

/-- A call that begins may set the relay. -/
lemma Traffic.Begins.spared {call : Call} (relays : ∀ r, call = .relay (some r) → r = .channel b)
    (h : t.Begins call next c) :
    t.Spared b (t.after who next { t.toShared with channel := c }) := by
  by_cases hcall : ∃ r, call = .relay r
  · obtain ⟨r, rfl⟩ := hcall
    obtain rfl := h.sets_relay
    exact {
      noted := noted_after
      inHand := inHand_after
      resumes := Channel.resumes_of_receiver rfl
      relay := fun r' hr => .inr (relays r' (congrArg _ hr))
      relayed := rfl
      relayFailures := rfl }
  · obtain ⟨hsteady, hresumes⟩ := h.steady fun r hr => hcall ⟨r, hr⟩
    exact spared_after hsteady hresumes

lemma Traffic.spared_hears (h : t.channel.Hears c) : t.Spared b { t with channel := c } where
  noted := rfl
  inHand := rfl
  resumes := h.steady.2
  relay _ hr := .inl (h.steady.1.relay ▸ hr)
  relayed := h.steady.1.relayed
  relayFailures := h.steady.1.relayFailures

/-- What the thread passes on goes by the registry as that is. -/
lemma Log.mem_routed_turn {x : Frame × Registry} (hx : x ∈ (log.turn t d').routed) :
    x ∈ log.routed ∨ x.2 = t.channel.registry := by
  unfold turn at hx
  split at hx
  · exact .inl hx
  · rcases List.mem_append.mp hx with hx | hx
    · exact .inl hx
    · exact .inr (congrArg Prod.snd (List.mem_singleton.mp hx))
  · exact .inl hx

lemma Account.turned (h : Account b l t log hops) (here : t.duty = d) (own : d.inHand = none)
    (turns : t.Turns d d' c) : Account b l (t.turned d' c) (log.turn t d') hops where
  follows := turns.follows here own h.follows
  handed := by
    rw [turns.handed here own, h.handed, here, own, Option.toList_none, List.append_nil]
    rfl
  aimed x hx r hr := by
    rcases Log.mem_routed_turn hx with hx | hnow
    · exact h.aimed x hx r hr
    · exact h.relay r (hnow ▸ hr)
  relay r hr := h.relay r ((turns.steady own).relay ▸ hr)
  fares := h.fares
  relayed := (turns.steady own).relayed.trans h.relayed
  relayFailures := (turns.steady own).relayFailures.trans h.relayFailures

/-- A hop that has been made is written down and counted. -/
lemma Account.returned (h : Account b l t log hops) (here : t.duty = .relaying hop.frame q)
    (fares : hop.Fares l r) : Account b l (t.turned .idle (t.channel.countRelayed r)) log
      (hops ++ [(hop, r)]) where
  follows := h.follows.resumes (by rw [here]; rfl)
    (Channel.resumes_of_receiver (by cases r <;> rfl))
  handed := by
    rw [h.handed, here]
    simp [Traffic.turned, Duty.inHand]
  aimed := h.aimed
  relay r' hr := h.relay r' (by cases r <;> exact hr)
  fares x hx := by
    rcases List.mem_append.mp hx with hx | hx
    · exact h.fares x hx
    · rw [List.mem_singleton.mp hx]
      exact fares
  relayed := by
    rw [List.countP_append, ← h.relayed]
    cases r <;> rfl
  relayFailures := by
    rw [List.countP_append, ← h.relayFailures]
    cases r <;> rfl

/-- A frame that is with the relay was found by the scanner. -/
lemma Account.valid (h : Account b l t log hops) (here : t.duty = .relaying f q) : f.IsValid := by
  have hf : f ∈ log.routed.filterMap relayedFrame := by
    rw [h.handed, here]
    simp [Duty.inHand]
  obtain ⟨y, hy, hrelayed⟩ := List.mem_filterMap.mp hf
  have hfound : f ∈ log.found.map (·.2) := by
    rw [h.follows.looked, ← eq_of_relayedFrame hrelayed]
    exact List.mem_append_left _ (List.mem_map_of_mem hy)
  obtain ⟨x, hx, rfl⟩ := List.mem_map.mp hfound
  exact h.follows.valid x hx

lemma Account.put {a i : Nat} {n : Net} (h : Account b l (n.traffic a) log hops)
    (spared : i = a → (n.traffic a).Spared b t) : Account b l ((n.put i t).traffic a) log hops := by
  by_cases hi : i = a
  · subst hi
    rw [Net.traffic_put_self]
    exact h.spared (spared rfl)
  · rwa [Net.traffic_put_other (Ne.symm hi)]

end Account

namespace Net

variable {a b : Nat} {l : Limits} {n m : Net} {i : Nat} {t : Traffic} {who : Party} {p q : Point}
  {next : Next} {s : Shared} {f : Frame} {hop : Hop} {d d' : Duty} {c : Channel}

/-! ### The hop that is on its way -/

/-- Where the relay is with its call: in none, or at a point that tells how far the hop has come. -/
inductive Errand (a b : Nat) (l : Limits) (n : Net) : Prop where
  | home (idle : n.hop = none) (back : ∀ f p, (n.traffic a).duty = .relaying f p → p = .free)
      (free : a ≠ b → (n.traffic b).point (seat a b) = some .free)
  | out {x : Hop} {q p} (out : n.hop = some x) (duty : (n.traffic a).duty = .relaying x.frame q)
      (stands : a ≠ b → q = .free) (here : (n.traffic b).point (seat a b) = some p)
      (stage : x.At l (n.traffic b) (seat a b) p)

/-- What others do leaves the relay where it is. -/
structure Aside (a b : Nat) (l : Limits) (n : Net) (i : Nat) (t : Traffic) : Prop where
  keeps : i = a → ∀ f q, (n.traffic a).duty = .relaying f q → t.duty = .relaying f q
  takes : i = a → ∀ f q, t.duty = .relaying f q → (n.traffic a).duty = .relaying f q ∨ q = .free
  point : i = b → (a ≠ b ∨ (n.traffic a).duty.inHand ≠ none) →
    t.point (seat a b) = (n.traffic b).point (seat a b)
  stays : i = b → ∀ (hop : Hop) p, (n.traffic a).duty.inHand = some hop.frame →
    (n.traffic b).point (seat a b) = some p → hop.At l (n.traffic b) (seat a b) p →
      hop.At l t (seat a b) p

lemma Errand.put (h : Errand a b l n) (aside : Aside a b l n i t) : Errand a b l (n.put i t) := by
  have hpoint (hbusy : a ≠ b ∨ (n.traffic a).duty.inHand ≠ none) :
      ((n.put i t).traffic b).point (seat a b) = (n.traffic b).point (seat a b) := by
    by_cases hi : i = b
    · subst hi
      rw [traffic_put_self, aside.point rfl hbusy]
    · rw [traffic_put_other (Ne.symm hi)]
  cases h with
  | home idle back free =>
    refine .home idle (fun f p hd => ?_) fun hab => (hpoint (.inl hab)).trans (free hab)
    by_cases hi : i = a
    · subst hi
      rw [traffic_put_self] at hd
      exact (aside.takes rfl f p hd).elim (back f p) id
    · rw [traffic_put_other (Ne.symm hi)] at hd
      exact back f p hd
  | @out hop q p out duty stands here stage =>
    have hhand : (n.traffic a).duty.inHand = some hop.frame := by rw [duty]; rfl
    refine .out (p := p) out (q := q) ?_ stands ((hpoint (.inr (by simp [hhand]))).trans here) ?_
    · by_cases hi : i = a
      · subst hi
        rw [traffic_put_self]
        exact aside.keeps rfl _ _ duty
      · rwa [traffic_put_other (Ne.symm hi)]
    · by_cases hi : i = b
      · subst hi
        rw [traffic_put_self]
        exact aside.stays rfl hop p hhand here stage
      · rwa [traffic_put_other (Ne.symm hi)]

lemma Errand.logged (h : Errand a b l n) (log : Log) : Errand a b l { n with log := log } := by
  cases h with
  | home idle back free => exact .home idle back free
  | out out duty stands here stage => exact .out out duty stands here stage

/-- A party that makes no calls for the relay. -/
lemma aside_after (own : ¬ n.Bound a b i who)
    (stays : i = b → ∀ (hop : Hop) p, who ≠ seat a b → (n.traffic b).point (seat a b) = some p →
      hop.At l (n.traffic b) (seat a b) p → hop.At l ((n.traffic i).after who next s) (seat a b) p) :
    Aside a b l n i ((n.traffic i).after who next s) where
  keeps hi f q hd := by
    subst hi
    exact (Traffic.relaying_after (not_bound_thread own)).mpr hd
  takes hi f q hd := by
    subst hi
    exact .inl ((Traffic.relaying_after (not_bound_thread own)).mp hd)
  point hi busy := by
    subst hi
    exact Traffic.point_after_other (not_bound_seat own busy).symm
  stays hi hop p hhand here stage := by
    subst hi
    exact stays rfl hop p (not_bound_seat own (.inr (by simp [hhand]))) here stage

lemma aside_hears (h : (n.traffic i).channel.Hears c) :
    Aside a b l n i { n.traffic i with channel := c } where
  keeps hi f q hd := hi ▸ hd
  takes hi f q hd := .inl (hi ▸ hd)
  point hi _ := by
    subst hi
    cases seat a i <;> rfl
  stays hi hop p _ _ stage := by
    subst hi
    have hs : (n.traffic i).Step (fun _ => True) { n.traffic i with channel := c } := .hears h
    exact stage.stays hs rfl fun _ => h.spares.written

lemma aside_turned (own : i = a → d.inHand = none) (here : (n.traffic i).duty = d)
    (turns : (n.traffic i).Turns d d' c) : Aside a b l n i ((n.traffic i).turned d' c) where
  keeps hi f q hd := by
    subst hi
    rw [← here, hd] at own
    cases own rfl
  takes hi f q hd := by
    refine .inr (turns.to_free ?_)
    change d' = _ at hd
    rw [hd]
    rfl
  point hi busy := by
    subst hi
    by_cases hab : a = i
    · subst hab
      rw [here, own rfl] at busy
      rcases busy with hne | hne <;> exact absurd rfl hne
    · rw [seat, if_neg hab]
      rfl
  stays hi hop p hhand _ stage := by
    subst hi
    have hs : (n.traffic i).Step (fun _ => True) ((n.traffic i).turned d' c) := .turns here turns
    exact stage.stays hs rfl fun _ => turns.spares.written

/-- The relay stays with its frame while its call goes on. -/
lemma relaying_seat (next : Next) (s : Shared) (duty : (n.traffic a).duty = .relaying f q) :
    ((n.put b ((n.traffic b).after (seat a b) next s)).traffic a).duty =
      .relaying f (if a = b then next.point else q) := by
  by_cases hab : a = b
  · subst hab
    rw [traffic_put_self, seat, if_pos rfl, if_pos rfl]
    change (n.traffic a).duty.put next.point = _
    rw [duty]
    rfl
  · rwa [traffic_put_other hab, if_neg hab]

/-! ### Runs -/

/-- What holds at every point of a run. -/
structure Kept (a b : Nat) (l : Limits) (n : Net) : Prop where
  account : Account b l (n.traffic a) n.log n.hops
  limits : (n.traffic b).channel.config.limits = l
  errand : n.Errand a b l
  inked : ∃ blocks, (n.traffic b).Inked blocks

lemma limits_put (h : (n.traffic b).channel.config.limits = l)
    (config : t.channel.config = (n.traffic i).channel.config) :
    ((n.put i t).traffic b).channel.config.limits = l := by
  by_cases hi : b = i
  · subst hi
    rw [traffic_put_self, config, h]
  · rw [traffic_put_other hi, h]

/-- The call goes on. -/
lemma Kept.works (h : n.Kept a b l) (out : n.hop = some hop)
    (here : (n.traffic b).point (seat a b) = some p) (acts : (n.traffic b).Acts (seat a b) p next s) :
    Errand a b l { n.put b ((n.traffic b).after (seat a b) next s) with
      hop := some (hop.work (n.traffic b).channel p next s.channel) } := by
  obtain ⟨blocks, hinked⟩ := h.inked
  cases h.errand with
  | home idle => exact absurd (idle.symm.trans out) (by simp)
  | @out x q p' hx duty stands there stage =>
    obtain rfl := Option.some.inj (hx.symm.trans out)
    obtain rfl := Option.some.inj (there.symm.trans here)
    refine .out (p := next.point) rfl (relaying_seat next s duty)
      (fun hab => (if_neg hab).trans (stands hab)) ?_ ?_
    · change ((n.put b _).traffic b).point _ = _
      rw [traffic_put_self, Traffic.point_after here]
    · change Hop.At l ((n.put b _).traffic b) _ _ _
      rw [traffic_put_self]
      exact stage.acts (h.account.valid duty) h.limits hinked.ranged acts

/-- The call has come back with what its hop has come to. -/
lemma Kept.returns {call : Call} {r : Except ChannelError Unit} (h : n.Kept a b l)
    (out : n.hop = some hop) (free : (n.traffic b).point (seat a b) = some .free)
    (reply : ((n.traffic b).made (seat a b)).getLast? = some (call, .ofExcept r)) :
    (∃ q, (n.traffic a).duty = .relaying hop.frame q) ∧ hop.Fares l r := by
  cases h.errand with
  | home idle => exact absurd (idle.symm.trans out) (by simp)
  | @out x q p hx duty stands there stage =>
    obtain rfl := Option.some.inj (hx.symm.trans out)
    obtain rfl := Option.some.inj (there.symm.trans free)
    cases stage with
    | @back r' reply' fares =>
      obtain ⟨-, hr⟩ := Prod.mk.inj (Option.some.inj (reply.symm.trans reply'))
      exact ⟨⟨q, duty⟩, Reply.ofExcept_inj hr ▸ fares⟩

/-- **One step of anyone keeps the account of the hops and of the one that is on its way.** -/
theorem Kept.step (h : n.Kept a b l) (hs : n.Step a b m) : m.Kept a b l := by
  have hinked : ∃ blocks, (m.traffic b).Inked blocks := by
    obtain ⟨blocks, hi⟩ := h.inked
    rcases hs.traffic b with hsame | hstep
    · exact ⟨blocks, hsame ▸ hi⟩
    · exact (hi.step hstep 0).imp fun _ => And.left
  cases hs with
  | @begins i who call next c own relays here begins =>
    refine ⟨h.account.put fun hi => ?_, limits_put h.limits begins.config,
      h.errand.put (aside_after own fun hi hop p other there stage => ?_), hinked⟩
    · subst hi
      exact begins.spared (relays rfl)
    · subst hi
      have hs : (n.traffic i).Step (fun _ => True) ((n.traffic i).after who next
        { (n.traffic i).toShared with channel := c }) := .begins trivial here begins
      exact stage.stays hs (Traffic.made_after_other other.symm) fun _ => begins.spares.written
  | @acts i who p next s own here acts =>
    obtain ⟨hsteady, hresumes⟩ := acts.steady
    refine ⟨h.account.put fun hi => ?_, limits_put h.limits hsteady.config,
      h.errand.put (aside_after own fun hi hop p other there stage => ?_), hinked⟩
    · subst hi
      exact Traffic.spared_after hsteady hresumes
    · subst hi
      obtain ⟨blocks, hi⟩ := h.inked
      exact stage.beside hi.sole there other here acts
  | @hears i c hears =>
    refine ⟨h.account.put fun hi => ?_, limits_put h.limits hears.steady.1.config,
      h.errand.put (aside_hears hears), hinked⟩
    subst hi
    exact Traffic.spared_hears hears
  | @turns i d d' c own here turns =>
    refine ⟨?_, limits_put h.limits turns.config, ?_, hinked⟩
    · by_cases hi : i = a
      · subst hi
        dsimp only
        rw [traffic_put_self, if_pos rfl]
        exact h.account.turned here (own rfl) turns
      · dsimp only
        rw [if_neg hi]
        exact h.account.put fun ha => absurd ha hi
    · exact (h.errand.put (aside_turned own here turns)).logged _
  | @hands f idle here free =>
    refine ⟨h.account.put fun hi => ?_, limits_put h.limits rfl, ?_, hinked⟩
    · subst hi
      exact (Traffic.Begins.send f).spared fun _ hr => by cases hr
    · have hduty := relaying_seat (b := b) (.on (.send f .begun)) (n.traffic b).toShared here
      refine .out (x := { frame := f }) rfl hduty (fun hab => if_neg hab) ?_ (.begun rfl)
      change ((n.put b _).traffic b).point _ = _
      rw [traffic_put_self, Traffic.point_after free]
      rfl
  | @works x p next s out here acts =>
    obtain ⟨hsteady, hresumes⟩ := acts.steady
    refine ⟨h.account.put fun hi => ?_, limits_put h.limits hsteady.config, h.works out here acts,
      hinked⟩
    subst hi
    exact Traffic.spared_after hsteady hresumes
  | @returns x f call r out here free reply =>
    obtain ⟨⟨q, hduty⟩, hfares⟩ := h.returns out free reply
    refine ⟨?_, limits_put h.limits (by cases r <;> rfl), ?_, hinked⟩
    · dsimp only
      rw [traffic_put_self]
      exact h.account.returned hduty hfares
    · refine .home rfl (fun g p hd => ?_) fun hab => ?_
      · dsimp only at hd
        rw [traffic_put_self] at hd
        cases hd
      · dsimp only
        rw [traffic_put_other (Ne.symm hab)]
        exact free

lemma account_start (b : Nat) (l : Limits) (config : ChannelConfig) (name : String)
    (connects : List (Except TransportError Unit)) (writes : List (Except IoError Nat))
    (flushes : List (Except IoError Unit)) (spawns : List (Except IoError Unit)) :
    Account b l (.start config name connects writes flushes spawns) {} [] where
  follows := {
    looked := rfl
    valid := fun _ hx => absurd hx List.not_mem_nil
    cut := ⟨[], ⟨[], rfl, rfl⟩, fun _ _ _ hr => by cases hr⟩ }
  handed := rfl
  aimed _ hx := absurd hx List.not_mem_nil
  relay _ hr := by cases hr
  fares _ hx := absurd hx List.not_mem_nil
  relayed := rfl
  relayFailures := rfl

lemma IsNew.kept (new : n.IsNew) (a b : Nat) :
    n.Kept a b (n.traffic b).channel.config.limits := by
  obtain ⟨config, name, connects, writes, flushes, spawns, hstart⟩ := new.fresh a
  obtain ⟨_, _, _, _, _, _, hstart'⟩ := new.fresh b
  refine ⟨?_, rfl, ?_, [], hstart' ▸ Traffic.inked_start ..⟩
  · rw [new.log, new.hops, hstart]
    exact account_start ..
  · refine .home new.hop (fun f q hd => ?_) fun hab => ?_
    · rw [hstart] at hd
      cases hd
    · rw [seat, if_neg hab, hstart']
      rfl

lemma Kept.runs (h : n.Kept a b l) (run : n.Runs a b m) : m.Kept a b l := by
  induction run with
  | refl => exact h
  | tail _ hs ih => exact ih.step hs

end Net

end FrameLink
