import FrameLink.Proofs.Channel.Blocks
import FrameLink.Proofs.Channel.Client
import FrameLink.Proofs.Console.OneShot
import FrameLink.Proofs.Message.Frames

/-!
What an errand has sent, at every point of it.

The calls of an errand are an agenda: a connect, one send after the other until one fails, a terminate.
The invariant says for every point of its client which calls are behind it and what is on the link:
copies of the frame, and during a send, or after one that has failed, a beginning of one more. What an
errand leaves is read off the invariant where no call is due any more.
-/

namespace FrameLink

/-! ### The calls of an errand -/

namespace Console.Errand

/-- The frame to send, unless what the user wrote of the pause is wrong. -/
def copy (e : Errand) : Except Failure Frame := do
  let _ ← e.pause
  e.frame

/-- So many copies of a frame were sent. -/
def copiesMade (f : Frame) (k : Nat) : List (Call × Reply) := List.replicate k (.send f, .done)

def copies (f : Frame) (k : Nat) : Bytes := (List.replicate k f.wire).flatten

/-- Which call comes next, behind those that were made. -/
inductive Due (e : Errand) : List (Call × Reply) → Call → Prop where
  | connect : Due e [] .connect
  | send {f : Frame} {k : Nat} (copy : e.copy = .ok f) (more : k < e.repeats) :
      Due e ((.connect, .done) :: copiesMade f k) (.send f)
  | refuse {failure : Failure} (copy : e.copy = .error failure) : Due e [(.connect, .done)] .terminate
  | finish {f : Frame} (copy : e.copy = .ok f) :
      Due e ((.connect, .done) :: copiesMade f e.repeats) .terminate
  | giveUp {f : Frame} {k : Nat} {cause : ChannelError} (copy : e.copy = .ok f) (more : k < e.repeats) :
      Due e ((.connect, .done) :: (copiesMade f k ++ [(.send f, .failed cause)])) .terminate

/-- What the sends have come to: how many copies were sent, and which bytes written. -/
inductive Sent (e : Errand) : List (Call × Reply) → Nat → Bytes → Prop where
  | none {failure : Failure} (copy : e.copy = .error failure) : Sent e [] 0 []
  | whole {f : Frame} {k : Nat} (copy : e.copy = .ok f) (le : k ≤ e.repeats) :
      Sent e (copiesMade f k) k (copies f k)
  | torn {f : Frame} {k : Nat} {cause : ChannelError} {b : Bytes} (copy : e.copy = .ok f)
      (more : k < e.repeats) (front : b <+: f.wire) (fails : b ≠ [] → ∃ e, cause = .sendFailed e) :
      Sent e (copiesMade f k ++ [(.send f, .failed cause)]) k (copies f k ++ b)

variable {e : Errand} {made done : List (Call × Reply)} {f : Frame} {k j : Nat} {b : Bytes} {call : Call}

lemma copiesMade_succ (f : Frame) (k : Nat) :
    copiesMade f (k + 1) = copiesMade f k ++ [(.send f, .done)] := List.replicate_succ'

lemma copies_succ (f : Frame) (k : Nat) : copies f (k + 1) = copies f k ++ f.wire := by
  simp [copies, List.replicate_succ']

lemma length_copiesMade (f : Frame) (k : Nat) : (copiesMade f k).length = k := List.length_replicate

/-- As long as all sends came back well, they were copies. -/
lemma Sent.of_copies (h : e.Sent (copiesMade f j) k b) (copy : e.copy = .ok f) :
    k = j ∧ b = copies f j := by
  generalize hm : copiesMade f j = made at h
  cases h with
  | none refused => cases copy.symm.trans refused
  | whole copy' =>
    obtain rfl := Except.ok.inj (copy.symm.trans copy')
    have hlength := congrArg List.length hm
    rw [length_copiesMade, length_copiesMade] at hlength
    exact ⟨hlength.symm, by rw [hlength]⟩
  | @torn f' k cause =>
    have hmem : (.send f', .failed cause) ∈ copiesMade f j :=
      hm ▸ List.mem_append_right _ (List.mem_singleton_self _)
    simp [copiesMade, List.mem_replicate] at hmem

/-- Nothing was sent yet. -/
lemma sent_nil (e : Errand) : e.Sent [] 0 [] := by
  cases hcopy : e.copy with
  | error failure => exact .none hcopy
  | ok f => exact .whole hcopy (Nat.zero_le _)

/-- Nothing is due behind the end. -/
lemma Due.no_terminate (h : e.Due done call) (r : Reply) : (.terminate, r) ∉ done := by
  cases h <;> simp [copiesMade, List.mem_replicate]

/-- Behind copies that all came back well, the end is due once all are sent. -/
lemma Due.of_copies (h : e.Due ((.connect, .done) :: copiesMade f k) .terminate)
    (copy : e.copy = .ok f) : k = e.repeats := by
  generalize hm : copiesMade f k = made at h
  cases h with
  | refuse refused => cases copy.symm.trans refused
  | finish =>
    have hlength := congrArg List.length hm
    rwa [length_copiesMade, length_copiesMade] at hlength
  | @giveUp g j cause =>
    have hmem : (.send g, .failed cause) ∈ copiesMade f k :=
      hm ▸ List.mem_append_right _ (List.mem_singleton_self _)
    simp [copiesMade, List.mem_replicate] at hmem

lemma Due.not_isBrief (h : e.Due done call) : ¬ call.IsBrief := by
  cases h <;> exact id

/-- As long as the channel is up, there is something to do. -/
lemma Sent.due (h : e.Sent made k b) : ∃ call, e.Due ((.connect, .done) :: made) call := by
  cases h with
  | none copy => exact ⟨_, .refuse copy⟩
  | whole copy le =>
    rcases Nat.lt_or_eq_of_le le with hlt | rfl
    · exact ⟨_, .send copy hlt⟩
    · exact ⟨_, .finish copy⟩
  | torn copy more => exact ⟨_, .giveUp copy more⟩

end Console.Errand

/-! ### Points of an errand -/

/-- The client has the first link, for which there is no thread yet. -/
def Connecting.HasFirst : Connecting → Prop
  | .opened n | .installed n | .unread n => n = 0
  | _ => False

/-- What of the frame is on the link at a point of its send. -/
def Sending.Leaves (f : Frame) (b : Bytes) : Sending → Prop
  | .begun | .locked => b = []
  | .writing n rest => n = 0 ∧ b ++ rest = f.wire
  | .flushing n => n = 0 ∧ b = f.wire
  | .failed _ | .closing _ _ => b <+: f.wire

namespace Traffic

/-- There is a thread to join, and it is the latest. -/
def Joinable (t : Traffic) : Prop := t.channel.joinable = true ∧ t.held = t.threads

/-- What holds while the channel is taken down for good. -/
def Ceases (t : Traffic) : Terminating → Prop
  | .begun | .halted | .announced => t.Joinable
  | .closed | .down => t.Joinable ∧ t.channel.transport.current = none
  | .joining thread => thread = t.threads ∧ t.channel.transport.current = none
  | .ending => t.Deserted ∧ t.channel.transport.current = none

/-- The channel is down, and there is no thread. -/
def Gone (t : Traffic) : Prop :=
  t.Deserted ∧ t.channel.transport.current = none ∧ t.channel.state = .disconnected

end Traffic

namespace Console.Errand

open Channel Traffic

/-- How far an errand has got, by where its client is. -/
inductive Phase (e : Errand) (t : Traffic) : Point → Prop where
  | new (unmanned : t.Unmanned) (first : t.done = []) (blank : t.channel.transport.links = [])
      (closed : t.channel.transport.current = none) (inscribed : t.channel.Inscribed 0 []) :
      Phase e t .free
  | early {stage : Connecting} (unmanned : t.Unmanned) (first : t.done = [])
      (blank : t.channel.transport.links = []) (closed : t.channel.transport.current = none)
      (isEarly : stage.IsEarly) (inscribed : t.channel.Inscribed 0 []) : Phase e t (.connect stage)
  | linked {stage : Connecting} (unmanned : t.Unmanned) (first : t.done = [])
      (hasFirst : stage.HasFirst) (inscribed : t.channel.Inscribed 0 []) : Phase e t (.connect stage)
  | inVain {stage : Connecting} (unmanned : t.Unmanned) (first : t.done = [])
      (inVain : stage.IsInVain) (closed : t.channel.transport.current = none)
      (inscribed : t.channel.Inscribed 0 []) : Phase e t (.connect stage)
  | failed {cause : ChannelError} (gone : t.Gone) (done : t.done = [(.connect, .failed cause)])
      (inscribed : t.channel.Inscribed 0 []) : Phase e t .free
  | started (first : t.done = []) (inscribed : t.channel.Inscribed 0 []) :
      Phase e t (.connect .started)
  | between {made : List (Call × Reply)} {k : Nat} {b : Bytes} (joinable : t.Joinable)
      (done : t.done = (.connect, .done) :: made) (sent : e.Sent made k b)
      (inscribed : t.channel.Inscribed k b) : Phase e t .free
  | sends {f : Frame} {k : Nat} {b : Bytes} {stage : Sending} (joinable : t.Joinable)
      (done : t.done = (.connect, .done) :: copiesMade f k) (copy : e.copy = .ok f)
      (more : k < e.repeats) (leaves : stage.Leaves f b)
      (inscribed : t.channel.Inscribed k (copies f k ++ b)) : Phase e t (.send f stage)
  | terminates {made : List (Call × Reply)} {k : Nat} {b : Bytes} {stage : Terminating}
      (ceases : t.Ceases stage) (done : t.done = (.connect, .done) :: made) (sent : e.Sent made k b)
      (due : e.Due t.done .terminate) (inscribed : t.channel.Inscribed k b) :
      Phase e t (.terminate stage)
  | through {made : List (Call × Reply)} {k : Nat} {b : Bytes} (gone : t.Gone)
      (done : t.done = (.connect, .done) :: made ++ [(.terminate, .done)]) (sent : e.Sent made k b)
      (due : e.Due ((.connect, .done) :: made) .terminate) (inscribed : t.channel.Inscribed k b) :
      Phase e t .free

/-- What holds of an errand at every point. -/
structure Upheld (e : Errand) (name : String) (t : Traffic) : Prop where
  oneShot : t.channel.OneShot name
  tame : t.duty.IsTame
  phase : e.Phase t (t.callers 0)

variable {e : Errand} {t u : Traffic} {p : Point} {call : Call} {next : Next} {s : Shared}
  {d d' : Duty} {c : Channel} {name : String}

lemma Upheld.phase_at (h : e.Upheld name t) (here : t.callers 0 = p) : e.Phase t p := here ▸ h.phase

lemma Upheld.after (hone : s.channel.OneShot name) (tame : t.duty.IsTame)
    (phase : e.Phase (t.after .client next s) next.point) :
    e.Upheld name (t.after .client next s) :=
  ⟨hone, tame, callers_after.symm ▸ phase⟩

/-- The thread and the far end change nothing about how far an errand has got. -/
lemma Phase.idles (h : e.Phase t p) (hi : t.channel.Idles u.channel) (hheld : u.held = t.held)
    (hthreads : u.threads = t.threads) (hdone : u.done = t.done)
    (hunmanned : t.Unmanned → u.Unmanned) (hdeserted : t.Deserted → u.Deserted)
    (hgone : t.Gone → u.Gone) : e.Phase u p := by
  have hjoinable (h : t.Joinable) : u.Joinable :=
    ⟨hi.joinable.trans h.1, hheld.trans (h.2.trans hthreads.symm)⟩
  have hblank (blank : t.channel.transport.links = []) : u.channel.transport.links = [] :=
    List.eq_nil_of_length_eq_zero (hi.length.trans (congrArg List.length blank))
  cases h with
  | new unmanned first blank closed inscribed =>
    exact .new (hunmanned unmanned) (hdone.trans first) (hblank blank) (hi.current closed)
      (inscribed.idles hi)
  | early unmanned first blank closed isEarly inscribed =>
    exact .early (hunmanned unmanned) (hdone.trans first) (hblank blank) (hi.current closed) isEarly
      (inscribed.idles hi)
  | linked unmanned first hasFirst inscribed =>
    exact .linked (hunmanned unmanned) (hdone.trans first) hasFirst (inscribed.idles hi)
  | inVain unmanned first inVain closed inscribed =>
    exact .inVain (hunmanned unmanned) (hdone.trans first) inVain (hi.current closed)
      (inscribed.idles hi)
  | failed gone done inscribed => exact .failed (hgone gone) (hdone.trans done) (inscribed.idles hi)
  | started first inscribed => exact .started (hdone.trans first) (inscribed.idles hi)
  | between joinable done sent inscribed =>
    exact .between (hjoinable joinable) (hdone.trans done) sent (inscribed.idles hi)
  | sends joinable done copy more leaves inscribed =>
    exact .sends (hjoinable joinable) (hdone.trans done) copy more leaves (inscribed.idles hi)
  | @terminates made k b stage ceases done sent due inscribed =>
    refine .terminates ?_ (hdone.trans done) sent (hdone ▸ due) (inscribed.idles hi)
    cases stage with
    | begun | halted | announced => exact hjoinable ceases
    | closed | down => exact ⟨hjoinable ceases.1, hi.current ceases.2⟩
    | joining => exact ⟨ceases.1.trans hthreads.symm, hi.current ceases.2⟩
    | ending => exact ⟨hdeserted ceases.1, hi.current ceases.2⟩
  | through gone done sent due inscribed =>
    exact .through (hgone gone) (hdone.trans done) sent due (inscribed.idles hi)

lemma Upheld.turns (h : e.Upheld name t) (here : t.duty = d) (turns : t.Turns d d' c) :
    e.Upheld name (t.turned d' c) := by
  have tame := h.tame
  rw [here] at tame
  obtain ⟨hi, htame⟩ := turns.idles h.oneShot tame
  have hgone (hdeserted : t.Deserted) : False := hdeserted.no_turns here turns
  exact ⟨h.oneShot.idles hi, htame, h.phase.idles hi rfl rfl rfl
    (fun hu => (hgone hu.deserted).elim) (fun hd => (hgone hd).elim) fun hg => (hgone hg.1).elim⟩

lemma Upheld.hears (h : e.Upheld name t) (hears : t.channel.Hears c) :
    e.Upheld name { t with channel := c } := by
  have hi := hears.idles
  exact ⟨h.oneShot.idles hi, h.tame, h.phase.idles hi rfl rfl rfl (·.hears hears) (·.hears hears)
    fun hg => ⟨hg.1.hears hears, hi.current hg.2.1, hears.state.trans hg.2.2⟩⟩

/-- What was observed has no bearing on an errand. -/
lemma Upheld.noting (h : e.Upheld name t) (trace : List Event) :
    e.Upheld name { t with channel := { t.channel with trace } } := by
  have hi : t.channel.Idles { t.channel with trace } :=
    idles_of_transport rfl (fun _ => id) id rfl rfl rfl rfl rfl
  exact ⟨h.oneShot.idles hi, h.tame, h.phase.idles hi rfl rfl rfl id id id⟩

lemma Upheld.begins (h : e.Upheld name t) (due : e.Due t.done call) (here : t.callers 0 = .free)
    (begins : t.Begins call next c) :
    e.Upheld name (t.after .client next { t.toShared with channel := c }) := by
  obtain ⟨p, rfl, rfl⟩ : ∃ p, next = .on p ∧ c = t.channel := by
    cases begins with
    | brief _ brief => exact absurd brief due.not_isBrief
    | _ => exact ⟨_, rfl, rfl⟩
  have hterminates {made : List (Call × Reply)} {k : Nat} {b : Bytes} (hcall : call = .terminate)
      (joinable : t.Joinable) (done : t.done = (.connect, .done) :: made) (sent : e.Sent made k b)
      (inscribed : t.channel.Inscribed k b) : e.Phase (t.after .client (.on p) t.toShared) p := by
    subst hcall
    cases begins
    exact .terminates joinable (done_on.trans done) sent (done_on.symm ▸ due) inscribed
  refine .after h.oneShot h.tame ?_
  cases h.phase_at here with
  | new unmanned first blank closed inscribed =>
    rw [first] at due
    cases due
    cases begins
    exact .early unmanned (done_on.trans first) blank closed trivial inscribed
  | failed _ done =>
    rw [done] at due
    cases due
  | between joinable done sent inscribed =>
    have hdue := due
    rw [done] at hdue
    cases hdue with
    | send copy more =>
      obtain ⟨rfl, rfl⟩ := sent.of_copies copy
      cases begins
      exact .sends joinable (done_on.trans done) copy more rfl ((List.append_nil _).symm ▸ inscribed)
    | refuse | finish | giveUp => exact hterminates rfl joinable done sent inscribed
  | through _ done =>
    have hend : (.terminate, .done) ∈ t.done := done ▸ List.mem_append_right _ (List.mem_singleton_self _)
    exact absurd hend (due.no_terminate _)

/-- There is never more than one link. -/
lemma Phase.links (h : e.Phase t p) : t.channel.transport.links.length ≤ 1 := by
  cases h <;> next inscribed => exact inscribed.length

/-! ### The sections of its calls -/

lemma Upheld.connects {stage : Connecting} (h : e.Upheld name t) (here : t.callers 0 = .connect stage)
    (connects : t.Connects stage next s) : e.Upheld name (t.after .client next s) := by
  have hback (first : t.done = []) {r : Reply} {s : Shared} :
      (t.after .client (.back .connect r) s).done = [(.connect, r)] := by
    rw [done_after, first]
    rfl
  have hidle {c : Channel} (ht : c.transport = t.channel.transport)
      (hw : ∀ n, c.writer = some n → t.channel.writer = some n) (hp : c.pending = t.channel.pending)
      (hc : c.config = t.channel.config) (hr : c.registry = t.channel.registry)
      (hk : c.counters = t.channel.counters) (hj : c.joinable = t.channel.joinable) :
      t.channel.Idles c :=
    idles_of_transport ht hw hp.trans hc hr (congrArg Counters.framesSent hk)
      (congrArg Counters.reconnectAttempts hk) hj
  have hupheld (hi : t.channel.Idles s.channel)
      (hphase : (∀ k b, t.channel.Inscribed k b → s.channel.Inscribed k b) →
        e.Phase (t.after .client next s) next.point) : e.Upheld name (t.after .client next s) :=
    .after (h.oneShot.idles hi) h.tame (hphase fun _ _ hin => hin.idles hi)
  cases h.phase_at here with
  | early unmanned first blank closed isEarly inscribed =>
    cases connects with
    | clear | lock | announce =>
      exact hupheld (hidle rfl (fun _ => id) rfl rfl rfl rfl rfl) fun hkeep =>
        .early unmanned (done_on.trans first) blank closed trivial (hkeep _ _ inscribed)
    | dial opens =>
      obtain ⟨rfl, hone, hinscribed, hreceiver, hreceiving⟩ :=
        h.oneShot.opens inscribed blank closed opens
      exact .after hone h.tame (.linked ⟨unmanned.1, hreceiver.trans unmanned.2.1,
        hreceiving.trans unmanned.2.2⟩ (done_on.trans first) rfl hinscribed)
    | dialInVain refuses =>
      obtain ⟨hi, hreceiver, hreceiving⟩ := Channel.refuses closed refuses
      exact hupheld hi fun hkeep => .inVain ⟨unmanned.1, hreceiver.trans unmanned.2.1,
        hreceiving.trans unmanned.2.2⟩ (done_on.trans first) trivial (hi.current closed) (hkeep _ _ inscribed)
    | _ => exact isEarly.elim
  | linked unmanned first hasFirst inscribed =>
    cases connects with
    | install =>
      obtain rfl := hasFirst
      exact .after { h.oneShot with } h.tame (.linked unmanned (done_on.trans first) rfl { inscribed with
          writer := fun n hn => (Option.some.inj hn).symm })
    | handOver runs => exact absurd runs (by simp [unmanned.2.2])
    | keep =>
      exact hupheld (hidle rfl (fun _ => id) rfl rfl rfl rfl rfl) fun hkeep =>
        .linked unmanned (done_on.trans first) hasFirst (hkeep _ _ inscribed)
    | spawn spawns =>
      obtain ⟨spawns', rfl⟩ := nextSpawn_eq spawns
      exact hupheld (hidle rfl (fun _ => id) rfl rfl rfl rfl rfl) fun hkeep =>
        .started (done_on.trans first) (hkeep _ _ inscribed)
    | spawnInVain spawns =>
      obtain ⟨spawns', rfl⟩ := nextSpawn_eq spawns
      have hspawned : t.channel.Idles { t.channel with spawns := spawns' } :=
        hidle rfl (fun _ => id) rfl rfl rfl rfl rfl
      have hw := wiring_closeLink { t.channel with spawns := spawns' }
      have hunmanned : Unmanned { t with
          channel := { t.channel with spawns := spawns' }.closeLink } :=
        ⟨unmanned.1, (receiver_closeLink _).trans unmanned.2.1,
          (congrArg Wiring.receiving hw).trans unmanned.2.2⟩
      exact hupheld (hspawned.trans (idles_closeLink _)) fun hkeep =>
        .inVain hunmanned (done_on.trans first) trivial (current_closeLink _) (hkeep _ _ inscribed)
    | _ => exact hasFirst.elim
  | inVain unmanned first inVain closed inscribed =>
    cases connects with
    | fail | abandon =>
      exact hupheld (hidle rfl (fun _ => id) rfl rfl rfl rfl rfl) fun hkeep =>
        .failed ⟨unmanned.deserted, closed, rfl⟩ (hback first) (hkeep _ _ inscribed)
    | silence =>
      exact hupheld (hidle rfl (fun _ => nofun) rfl rfl rfl rfl rfl) fun hkeep =>
        .inVain unmanned (done_on.trans first) trivial closed (hkeep _ _ inscribed)
    | _ => exact inVain.elim
  | started first inscribed =>
    cases connects
    exact .after { h.oneShot with } h.tame (.between ⟨rfl, rfl⟩ (hback first) e.sent_nil { inscribed with })

lemma Upheld.terminates {stage : Terminating} (h : e.Upheld name t)
    (here : t.callers 0 = .terminate stage) (terminates : t.Terminates .client stage next c) :
    e.Upheld name (t.after .client next { t.toShared with channel := c }) := by
  cases h.phase_at here with
  | @terminates made k b _ ceases done sent due inscribed =>
    have hon {c : Channel} {stage' : Terminating} (hone : c.OneShot name) (hin : c.Inscribed k b)
        (hceases : (t.after .client (.on (.terminate stage'))
          { t.toShared with channel := c }).Ceases stage') :
        e.Upheld name (t.after .client (.on (.terminate stage')) { t.toShared with channel := c }) := by
      exact .after hone h.tame
        (.terminates hceases (done_on.trans done) sent (done_on.symm ▸ due) hin)
    have hidle {c : Channel} (hi : t.channel.Idles c) : c.OneShot name ∧ c.Inscribed k b :=
      ⟨h.oneShot.idles hi, inscribed.idles hi⟩
    -- Whoever joins is not the thread, and there is a thread to join.
    have hjoins : t.channel.joinable = true → ¬ (Party.client = .thread ∨ t.channel.joinable = false) := by
      intro hj hskip
      rcases hskip with hself | hnone
      · cases hself
      · exact Bool.false_ne_true (hnone.symm.trans hj)
    cases terminates with
    | halt =>
      obtain ⟨hone, hin⟩ := hidle (idles_setHalted _ true)
      exact hon hone hin ceases
    | announce =>
      obtain ⟨hone, hin⟩ := hidle (idles_setState _ .halting)
      exact hon hone hin ceases
    | close =>
      have hi := (idles_dropPending t.channel).trans (idles_closeLink _)
      obtain ⟨hone, hin⟩ := hidle hi
      exact hon hone hin ⟨⟨hi.joinable.trans ceases.1, ceases.2⟩, current_closeLink _⟩
    | silence =>
      obtain ⟨hone, hin⟩ := hidle (idles_dropWriter _)
      exact hon hone hin ceases
    | join =>
      exact hon { h.oneShot with } { inscribed with } ⟨ceases.1.2, ceases.2⟩
    | skip hnone => exact absurd hnone (hjoins ceases.1.1)
    | joined ended =>
      refine hon h.oneShot inscribed ⟨?_, ceases.2⟩
      rcases ended with hlater | hdeserted
      · exact absurd (ceases.1 ▸ hlater) (Nat.lt_irrefl _)
      · exact hdeserted
    | finish =>
      have hi := idles_setState t.channel .disconnected
      have hdone : (t.after .client (.back .terminate .done)
          { t.toShared with channel := t.channel.setState .disconnected }).done =
          (.connect, .done) :: made ++ [(.terminate, .done)] := by
        rw [done_after, done]
        rfl
      exact .after (h.oneShot.idles hi) h.tame
        (.through ⟨ceases.1, ceases.2, rfl⟩ hdone sent (done ▸ due) (inscribed.idles hi))

lemma Upheld.sends {f : Frame} {stage : Sending} (h : e.Upheld name t)
    (here : t.callers 0 = .send f stage) (sends : t.Sends f stage next c) :
    e.Upheld name (t.after .client next { t.toShared with channel := c }) := by
  cases h.phase_at here with
  | @sends _ k b _ joinable done copy more leaves inscribed =>
    have hon {c : Channel} {b' : Bytes} {stage' : Sending} (hone : c.OneShot name)
        (hj : c.joinable = t.channel.joinable) (hin : c.Inscribed k (copies f k ++ b'))
        (hleaves : stage'.Leaves f b') :
        e.Upheld name (t.after .client (.on (.send f stage')) { t.toShared with channel := c }) := by
      exact .after hone h.tame
        (.sends ⟨hj.trans joinable.1, joinable.2⟩ (done_on.trans done) copy more hleaves hin)
    have hfails {c : Channel} {cause : ChannelError} (hone : c.OneShot name)
        (hj : c.joinable = t.channel.joinable) (hin : c.Inscribed k (copies f k ++ b))
        (front : b <+: f.wire) (hcause : b ≠ [] → ∃ e, cause = .sendFailed e) :
        e.Upheld name (t.after .client (.back (.send f) (.failed cause))
          { t.toShared with channel := c }) := by
      have hdone : (t.after .client (.back (.send f) (.failed cause))
          { t.toShared with channel := c }).done =
          (.connect, .done) :: (copiesMade f k ++ [(.send f, .failed cause)]) := by
        rw [done_after, done]
        rfl
      exact .after hone h.tame (.between ⟨hj.trans joinable.1, joinable.2⟩ hdone
        (.torn copy more front hcause) hin)
    cases sends with
    | lock => exact hon h.oneShot rfl inscribed leaves
    | deny | refuse =>
      obtain rfl := leaves
      exact hfails h.oneShot rfl inscribed (List.nil_prefix) (absurd rfl)
    | accept writer =>
      obtain rfl := leaves
      exact hon h.oneShot rfl inscribed ⟨inscribed.writer _ writer, rfl⟩
    | @write n rest =>
      obtain ⟨rfl, hleft⟩ := leaves
      have hone : (t.channel.writeTo 0 rest).2.OneShot name := { h.oneShot with }
      have hin := inscribed.writeTo rest
      rw [List.append_assoc] at hin
      rcases afterWrite_cases 0 rest (t.channel.writeTo 0 rest).1 with
        ⟨rest', hafter, hrest⟩ | ⟨cause, hafter, hnone⟩
      · rw [hafter]
        refine hon hone rfl hin ⟨rfl, ?_⟩
        rw [List.append_assoc, hrest, hleft]
      · rw [hafter]
        refine hon hone rfl hin ?_
        rw [hnone, List.append_nil]
        exact ⟨rest, hleft⟩
    | written =>
      obtain ⟨rfl, hleft⟩ := leaves
      exact hon h.oneShot rfl inscribed ⟨rfl, by rw [← hleft, List.append_nil]⟩
    | @flush n c flushes =>
      obtain ⟨rfl, rfl⟩ := leaves
      have hi := idles_flushTo t.channel 0
      rw [flushes] at hi
      have hone := h.oneShot.idles hi
      have hin := inscribed.idles hi
      have hdone : (t.after .client (.back (.send f) .done) { t.toShared with
          channel := c.count fun k => { k with framesSent := k.framesSent + 1 } }).done =
          (.connect, .done) :: copiesMade f (k + 1) := by
        rw [done_after, done, copiesMade_succ]
        rfl
      rw [← copies_succ] at hin
      exact .after { hone with } h.tame
        (.between ⟨hi.joinable.trans joinable.1, joinable.2⟩ hdone (.whole copy more)
          { hin with sent := congrArg (· + 1) hin.sent })
    | @flushInVain n cause c flushes =>
      obtain ⟨rfl, rfl⟩ := leaves
      have hi := idles_flushTo t.channel 0
      rw [flushes] at hi
      refine hon (h.oneShot.idles hi) hi.joinable (inscribed.idles hi) ?_
      unfold Sending.afterFlush
      split
      · exact ⟨rfl, rfl⟩
      · exact List.prefix_refl _
    | halt =>
      have hi := idles_setHalted t.channel true
      exact hon (h.oneShot.idles hi) rfl (inscribed.idles hi) leaves
    | close closes =>
      have hi := closes.idles
      exact hon (h.oneShot.idles hi) hi.joinable (inscribed.idles hi) leaves
    | finish closes =>
      have hi := closes.idles
      exact hfails (h.oneShot.idles hi) hi.joinable (inscribed.idles hi) leaves fun _ => ⟨_, rfl⟩

/-! ### Runs -/

/-- One step of an errand; what was observed may be taken away at any point. -/
inductive Step (e : Errand) (t : Traffic) : Traffic → Prop where
  | goes {u : Traffic} (step : Agenda.Step e.Due t u) : Step e t u
  | noted (trace : List Event) : Step e t { t with channel := { t.channel with trace } }

/-- Any number of such steps. -/
def Runs (e : Errand) : Traffic → Traffic → Prop := Relation.ReflTransGen e.Step

lemma upheld_start (e : Errand) (name : String) (connects : List (Except TransportError Unit))
    (writes : List (Except IoError Nat)) (flushes : List (Except IoError Unit))
    (spawns : List (Except IoError Unit)) :
    e.Upheld name (start config name connects writes flushes spawns) :=
  ⟨⟨rfl, rfl, rfl, rfl, rfl⟩, trivial,
    .new ⟨rfl, rfl, rfl⟩ rfl rfl rfl ⟨rfl, rfl, Nat.zero_le 1, nofun, nofun⟩⟩

lemma Upheld.moves (h : e.Upheld name t) (hm : Agenda.Moves e.Due t u) : e.Upheld name u := by
  cases hm with
  | begins due here begins => exact h.begins due here begins
  | turns here turns => exact h.turns here turns
  | hears hears => exact h.hears hears
  | acts here acts =>
    cases acts with
    | connect connects => exact h.connects here connects
    | terminate terminates => exact h.terminates here terminates
    | send sends => exact h.sends here sends
    -- An errand makes no other calls.
    | disconnect | disconnected => cases h.phase_at here

/-- What holds of an errand holds at every point of a run. -/
lemma Upheld.runs (h : e.Upheld name t) (lone : t.Lone) (run : e.Runs t u) :
    u.Lone ∧ e.Upheld name u := by
  induction run with
  | refl => exact ⟨lone, h⟩
  | tail _ hs ih =>
    obtain ⟨hlone, hu⟩ := ih
    cases hs with
    | goes step =>
      have hm := hlone.moves step
      exact ⟨hlone.kept hm, hu.moves hm⟩
    | noted trace => exact ⟨hlone, hu.noting trace⟩

end Console.Errand

/-! ### Exit codes -/

namespace Console.Failure

lemma ioCode_ne_success (kind : IoKind) : ioCode kind ≠ ExitCode.success := by
  cases kind <;> decide

lemma code_ofTransport (context : String) (e : TransportError) :
    (ofTransport context e).code ≠ ExitCode.success := by
  cases e with
  | bind | connect | io => exact ioCode_ne_success _
  | _ => exact Nat.succ_ne_zero _

lemma code_ofFrame (context : String) (e : FrameError) :
    (ofFrame context e).code ≠ ExitCode.success := by
  cases e with
  | io => exact ioCode_ne_success _
  | _ => exact Nat.succ_ne_zero _

lemma code_ofMessage (context : String) (e : MessageError) :
    (ofMessage context e).code ≠ ExitCode.success := by
  cases e with
  | frame cause => exact code_ofFrame context cause
  | _ => exact Nat.succ_ne_zero _

/-- No failure of a channel passes for a success. -/
lemma code_ofChannel (context : String) (e : ChannelError) :
    (ofChannel context e).code ≠ ExitCode.success := by
  cases e with
  | transport cause => exact code_ofTransport context cause
  | frame cause | sendFailed cause => exact code_ofFrame context cause
  | message cause => exact code_ofMessage context cause
  | _ => exact Nat.succ_ne_zero _

end Console.Failure

namespace Console.Errand

variable {e : Errand} {t : Traffic} {name : String}

/-! ### What is left in the end -/

/-- The calls of an errand that is through, what it comes to, what is shown, and what was written. -/
inductive Ended (e : Errand) (f : Frame) (peer : String) :
    List (Call × Reply) → Except Failure Unit → List Notice → Bytes → Prop where
  | refused (cause : ChannelError) :
      Ended e f peer [(.connect, .failed cause)] (.error (.ofChannel "connect failed" cause)) [] []
  | unpaused {failure : Failure} (pause : e.pause = .error failure) :
      Ended e f peer [(.connect, .done), (.terminate, .done)] (.error failure) [] []
  | sent {pause : Option Duration} (valid : e.pause = .ok pause) :
      Ended e f peer ((.connect, .done) :: copiesMade f e.repeats ++ [(.terminate, .done)]) (.ok ())
        (List.replicate e.repeats ⟨.sent, peer, f⟩) (copies f e.repeats)
  | torn {pause : Option Duration} {k : Nat} {cause : ChannelError} {b : Bytes}
      (valid : e.pause = .ok pause) (more : k < e.repeats) (front : b <+: f.wire)
      (fails : b ≠ [] → ∃ e, cause = .sendFailed e) :
      Ended e f peer
        ((.connect, .done) :: (copiesMade f k ++ [(.send f, .failed cause)]) ++ [(.terminate, .done)])
        (.error (.ofChannel "send failed" cause)) (List.replicate k ⟨.sent, peer, f⟩) (copies f k ++ b)

/-- An errand succeeds if the pause is valid, the channel was opened and all copies were sent. -/
lemma Ended.isOk_iff {f : Frame} {peer : String} {done : List (Call × Reply)}
    {result : Except Failure Unit} {notices : List Notice} {b : Bytes}
    (h : e.Ended f peer done result notices b) : result = .ok () ↔
      (∃ pause, e.pause = .ok pause) ∧ (.connect, .done) ∈ done ∧ notices.length = e.repeats := by
  cases h with
  | refused cause => simp
  | unpaused pause => simp [pause]
  | sent valid => simp [valid]
  | torn valid more => simp [Nat.ne_of_lt more]

lemma code_pause {failure : Failure} (h : e.pause = .error failure) :
    failure.code ≠ ExitCode.success := by
  cases e with
  | command setpoint repeats interval =>
    change ((Duration.ofText interval).map some).mapError Failure.ofDuration = _ at h
    cases hd : Duration.ofText interval with
    | ok d =>
      rw [hd] at h
      cases h
    | error cause =>
      rw [hd] at h
      exact Except.error.inj h ▸ Nat.succ_ne_zero _
  | gains | request => cases h

lemma Ended.code {f : Frame} {peer : String} {done : List (Call × Reply)} {failure : Failure}
    {notices : List Notice} {b : Bytes} (h : e.Ended f peer done (.error failure) notices b) :
    failure.code ≠ ExitCode.success := by
  cases h with
  | refused cause | torn => exact Failure.code_ofChannel _ _
  | unpaused pause => exact code_pause pause

/-- The client is through with an errand. -/
def IsOver (e : Errand) (t : Traffic) : Prop := t.callers 0 = .free ∧ ∀ call, ¬ e.Due t.done call

/-- Every errand has a frame. -/
lemma exists_frame (e : Errand) : ∃ f, e.frame = .ok f := by
  cases hframe : e.message.toFrame with
  | ok f =>
    refine ⟨f, ?_⟩
    rw [frame, hframe]
    rfl
  | error cause =>
    obtain ⟨b, hb, -⟩ := Message.toFrame_eq_error_iff.mp hframe
    cases e with
    | command | gains => cases hb
    | request r => cases r <;> cases hb

lemma copy_eq_ok_iff {f : Frame} :
    e.copy = .ok f ↔ e.frame = .ok f ∧ ∃ pause, e.pause = .ok pause := by
  unfold copy
  cases e.pause with
  | error failure => exact ⟨nofun, fun ⟨_, _, hp⟩ => nomatch hp⟩
  | ok pause => exact ⟨fun hf => ⟨hf, pause, rfl⟩, And.left⟩

lemma copy_eq_error_iff {failure : Failure} : e.copy = .error failure ↔ e.pause = .error failure := by
  obtain ⟨f, hf⟩ := e.exists_frame
  unfold copy
  cases e.pause with
  | error failure' =>
    exact ⟨fun h => congrArg Except.error (Except.error.inj h),
      fun h => congrArg Except.error (Except.error.inj h)⟩
  | ok pause => exact ⟨fun h => (nomatch hf.symm.trans h), nofun⟩

/-- The failure that a call is for an errand, if it is one. -/
def failure? : Call × Reply → Option Failure
  | (.connect, .failed cause) => some (.ofChannel "connect failed" cause)
  | (.send _, .failed cause) => some (.ofChannel "send failed" cause)
  | _ => none

/-- The first failure; behind a connect, what the user wrote of the pause can be one, and comes first. -/
def verdict (e : Errand) (done : List (Call × Reply)) : Except Failure Unit :=
  match done.findSome? failure? with
  | some failure => .error failure
  | none => e.pause.map fun _ => ()

/-- A notice for each frame that was sent. -/
def shown (peer : String) (done : List (Call × Reply)) : List Notice :=
  (done.filterMap sentFrame).map (⟨.sent, peer, ·⟩)

lemma findSome?_copiesMade (f : Frame) (k : Nat) : (copiesMade f k).findSome? failure? = none :=
  List.findSome?_eq_none_iff.mpr fun _ hm => (List.eq_of_mem_replicate hm) ▸ rfl

lemma filterMap_copiesMade (f : Frame) (k : Nat) :
    (copiesMade f k).filterMap sentFrame = List.replicate k f :=
  List.filterMap_replicate_of_some rfl

lemma verdict_nil {f : Frame} (copy : e.copy = .ok f) : e.verdict [] = .ok () := by
  obtain ⟨-, pause, hpause⟩ := copy_eq_ok_iff.mp copy
  rw [verdict, hpause]
  rfl

/-- Copies that were sent are no failures. -/
lemma verdict_copiesMade (e : Errand) (f : Frame) (k : Nat) (last : List (Call × Reply)) :
    e.verdict ((.connect, .done) :: copiesMade f k ++ last) = e.verdict last := by
  have hcopies : ((.connect, .done) :: copiesMade f k).findSome? failure? = none := by
    rw [List.findSome?_cons, findSome?_copiesMade]
    rfl
  rw [verdict, List.findSome?_append, hcopies]
  rfl

/-- There is one notice for each. -/
lemma shown_copiesMade (peer : String) (f : Frame) (k : Nat) (last : List (Call × Reply)) :
    shown peer ((.connect, .done) :: copiesMade f k ++ last) =
      List.replicate k ⟨.sent, peer, f⟩ ++ shown peer last := by
  have hcopies : ((.connect, .done) :: copiesMade f k).filterMap sentFrame = List.replicate k f := by
    rw [List.filterMap_cons_none rfl, filterMap_copiesMade]
  rw [shown, List.filterMap_append, hcopies, List.map_append, List.map_replicate]
  rfl

/-- What an errand leaves that is through: its calls, its result and what it has shown and written fit
together, the link is closed for good, and there was never another one. -/
structure Concluded (e : Errand) (f : Frame) (t : Traffic) : Prop where
  ended : e.Ended f t.channel.transport.describe t.done (e.verdict t.done)
    (shown t.channel.transport.describe t.done) (t.channel.transport.link 0).written
  succeeds : e.verdict t.done = .ok () ↔ (∃ pause, e.pause = .ok pause) ∧ (.connect, .done) ∈ t.done ∧
    (shown t.channel.transport.describe t.done).length = e.repeats
  fails (failure : Failure) : e.verdict t.done = .error failure → failure.code ≠ ExitCode.success
  sent : t.channel.counters.framesSent = (shown t.channel.transport.describe t.done).length
  links : t.channel.transport.links.length ≤ 1
  attempts : t.channel.counters.reconnectAttempts = 0
  closed : t.channel.transport.current = none
  state : t.channel.state = .disconnected
  thread : t.Deserted

/-- What the calls have come to decides how an errand ends. -/
lemma Sent.ended {made : List (Call × Reply)} {k : Nat} {b : Bytes} {f : Frame} (h : e.Sent made k b)
    (due : e.Due ((.connect, .done) :: made) .terminate) (hf : e.frame = .ok f) (peer : String) :
    let done := (.connect, .done) :: made ++ [(.terminate, .done)]
    (shown peer done).length = k ∧ e.Ended f peer done (e.verdict done) (shown peer done) b := by
  cases h with
  | none copy =>
    have hpause := copy_eq_error_iff.mp copy
    refine ⟨rfl, ?_⟩
    rw [verdict, hpause]
    exact .unpaused hpause
  | @whole g k copy le =>
    obtain ⟨hg, pause, hpause⟩ := copy_eq_ok_iff.mp copy
    obtain rfl := Except.ok.inj (hg.symm.trans hf)
    obtain rfl := due.of_copies copy
    have hverdict : e.verdict [(.terminate, .done)] = .ok () := by rw [verdict, hpause]; rfl
    dsimp only
    rw [verdict_copiesMade, shown_copiesMade, hverdict]
    exact ⟨List.length_append.trans (congrArg (· + 0) List.length_replicate),
      (List.append_nil _).symm ▸ .sent hpause⟩
  | @torn g k cause b copy more front fails =>
    obtain ⟨hg, pause, hpause⟩ := copy_eq_ok_iff.mp copy
    obtain rfl := Except.ok.inj (hg.symm.trans hf)
    have hdone : (.connect, .done) :: (copiesMade g k ++ [(.send g, .failed cause)]) ++
        [(.terminate, .done)] =
        (.connect, .done) :: copiesMade g k ++ [(.send g, .failed cause), (.terminate, .done)] := by
      simp
    have hended : e.Ended g peer _ _ _ _ := .torn hpause more front fails
    dsimp only
    rw [hdone] at hended ⊢
    rw [verdict_copiesMade, shown_copiesMade]
    exact ⟨List.length_append.trans (congrArg (· + 0) List.length_replicate),
      (List.append_nil _).symm ▸ hended⟩

lemma Upheld.concluded {f : Frame} (h : e.Upheld name t) (ends : e.IsOver t) (hf : e.frame = .ok f) :
    e.Concluded f t := by
  suffices hended : t.Gone ∧ (∃ k b, t.channel.Inscribed k b ∧
      (shown t.channel.transport.describe t.done).length = k ∧
      e.Ended f t.channel.transport.describe t.done (e.verdict t.done)
        (shown t.channel.transport.describe t.done) b) by
    obtain ⟨⟨hdeserted, hclosed, hstate⟩, k, b, hin, hlength, hended⟩ := hended
    refine ⟨?_, hended.isOk_iff, fun failure hfailure => ?_, hin.sent.trans hlength.symm, hin.length,
      h.oneShot.attempts, hclosed, hstate, hdeserted⟩
    · rw [hin.written]
      exact hended
    · rw [hfailure] at hended
      exact hended.code
  cases h.phase_at ends.1 with
  | new _ first => exact absurd (first ▸ .connect) (ends.2 .connect)
  | between _ done sent =>
    obtain ⟨call, due⟩ := sent.due
    exact absurd (done ▸ due) (ends.2 call)
  | @failed cause gone done inscribed =>
    refine ⟨gone, _, _, inscribed, ?_⟩
    rw [done]
    exact ⟨rfl, .refused cause⟩
  | through gone done sent due inscribed =>
    refine ⟨gone, _, _, inscribed, ?_⟩
    rw [done]
    exact sent.ended due hf _

end Console.Errand

end FrameLink
