import FrameLink.Proofs.Channel.Inflow

/-!
A channel with one client.

The client makes its calls one after the other, and which one it makes next depends on what the earlier
ones came to. Beside it there are only the receive thread, whose handlers and relay make no calls, and
the far end; each of them may take a step between any two sections of the client.
-/

namespace FrameLink

/-- Which call may come after the calls that were made. -/
abbrev Agenda := List (Call × Reply) → Call → Prop

/-- The party that makes all the calls. -/
def Party.client : Party := .caller 0

/-- The client has still to get a link. -/
def Connecting.IsEarly : Connecting → Prop
  | .begun | .cleared | .locked | .announced => True
  | _ => False

/-- The client has a link, for which there is no thread yet. -/
def Connecting.HasOne : Connecting → Prop
  | .opened _ | .installed _ | .unread _ => True
  | _ => False

/-- The client has no link, or has given it up. -/
def Connecting.IsInVain : Connecting → Prop
  | .refused _ | .unstarted _ | .silenced _ => True
  | _ => False

namespace Traffic

/-- The calls that the client has made, and what they came back with. -/
def done (t : Traffic) : List (Call × Reply) := t.made .client

/-- Everyone else is in no call. -/
def Lone (t : Traffic) : Prop := t.Everyone fun who p => who = .client ∨ p = .free

end Traffic

namespace Agenda

/-- One step in which no one begins a call but the client, and the client as its agenda has it. -/
inductive Step (a : Agenda) (t : Traffic) : Traffic → Prop where
  | begins {call : Call} {next : Next} {c : Channel} (allowed : a t.done call)
      (here : t.callers 0 = .free) (begins : t.Begins call next c) :
      Step a t (t.after .client next { t.toShared with channel := c })
  | goes {u : Traffic} (step : t.Step (fun _ => False) u) : Step a t u

/-- Any number of such steps. -/
def Runs (a : Agenda) : Traffic → Traffic → Prop := Relation.ReflTransGen a.Step

/-- The steps that are left where everyone else is in no call. -/
inductive Moves (a : Agenda) (t : Traffic) : Traffic → Prop where
  | begins {call : Call} {next : Next} {c : Channel} (allowed : a t.done call)
      (here : t.callers 0 = .free) (begins : t.Begins call next c) :
      Moves a t (t.after .client next { t.toShared with channel := c })
  | acts {p : Point} {next : Next} {s : Shared} (here : t.callers 0 = p)
      (acts : t.Acts .client p next s) : Moves a t (t.after .client next s)
  | turns {d d' : Duty} {c : Channel} (here : t.duty = d) (turns : t.Turns d d' c) :
      Moves a t (t.turned d' c)
  | hears {c : Channel} (hears : t.channel.Hears c) : Moves a t { t with channel := c }

end Agenda

namespace Channel

variable {c c' : Channel}

lemma Hears.receiver (h : c.Hears c') : c'.receiver = c.receiver := by
  cases h <;> rfl

lemma Hears.receiving (h : c.Hears c') : c'.receiving = c.receiving := by
  cases h <;> rfl

lemma Hears.state (h : c.Hears c') : c'.state = c.state := by
  cases h <;> rfl

end Channel

namespace Traffic

variable {t u : Traffic} {a : Agenda} {next : Next} {s : Shared} {d d' : Duty} {c : Channel}
  {call : Call} {p : Point}

lemma Acts.ne_free {who : Party} (h : t.Acts who p next s) : p ≠ .free := by
  rintro rfl
  cases h

lemma Lone.after (h : t.Lone) : (t.after .client next s).Lone := Everyone.after h (.inl rfl)

lemma Lone.turned (h : t.Lone) (turns : t.Turns d d' c) : (t.turned d' c).Lone :=
  Everyone.turned h fun _ hp => .inr (turns.to_free hp)

lemma Lone.moves (h : t.Lone) (hs : a.Step t u) : a.Moves t u := by
  cases hs with
  | begins allowed here begins => exact .begins allowed here begins
  | goes step =>
    cases step with
    | begins allowed => exact allowed.elim
    | turns here turns => exact .turns here turns
    | hears hears => exact .hears hears
    | acts here acts =>
      rcases h _ _ here with rfl | rfl
      · exact .acts (Option.some.inj here) acts
      · exact absurd rfl acts.ne_free

lemma Lone.kept (h : t.Lone) (hm : a.Moves t u) : u.Lone := by
  cases hm with
  | begins | acts => exact h.after
  | turns _ turns => exact h.turned turns
  | hears => exact h

/-- What every move keeps holds in the end. -/
lemma Lone.runs {P : Traffic → Prop} (h : t.Lone) (hP : P t)
    (keeps : ∀ u v, u.Lone → P u → a.Moves u v → P v) (run : a.Runs t u) : u.Lone ∧ P u := by
  induction run with
  | refl => exact ⟨h, hP⟩
  | tail _ hs ih =>
    have hm := ih.1.moves hs
    exact ⟨ih.1.kept hm, keeps _ _ ih.1 ih.2 hm⟩

lemma lone_start (config : ChannelConfig) (name : String)
    (connects : List (Except TransportError Unit)) (writes : List (Except IoError Nat))
    (flushes : List (Except IoError Unit)) (spawns : List (Except IoError Unit)) :
    (start config name connects writes flushes spawns).Lone :=
  fun w p hp => .inr (start_free _ _ _ _ _ _ _ w p hp)

/-- The link lock is free if neither the client nor the thread has it. -/
lemma Lone.linkFree (h : t.Lone) (hp : ¬ (t.callers 0).HasLink) (hd : ¬ t.duty.HasLink) :
    t.LinkFree := by
  refine ⟨fun w p hw => ?_, hd⟩
  rcases h w p hw with rfl | rfl
  · exact Option.some.inj hw ▸ hp
  · exact id

lemma Lone.writerFree (h : t.Lone) (hp : ¬ (t.callers 0).HasWriter) : t.WriterFree := by
  intro w p hw
  rcases h w p hw with rfl | rfl
  · exact Option.some.inj hw ▸ hp
  · exact id

lemma LinkFree.client (h : t.LinkFree) : ¬ (t.callers 0).HasLink := h.1 .client _ rfl

lemma Lone.runs_config (h : t.Lone) (run : a.Runs t u) : u.channel.config = t.channel.config := by
  refine (h.runs (P := fun v => v.channel.config = t.channel.config) rfl
    (fun v w _ hv hm => Eq.trans ?_ hv) run).2
  cases hm with
  | begins _ _ begins => exact begins.config
  | acts _ acts => exact acts.steady.1.config
  | turns _ turns => exact turns.config
  | hears hears => exact hears.steady.1.config

/-- A run in which no one begins a call is as the agenda has it. -/
lemma Runs.serves (run : t.Runs (fun _ => False) u) : a.Runs t u :=
  Relation.ReflTransGen.mono (fun _ _ => .goes) _ _ run

/-- One call of a client that is left alone. -/
lemma Alone.serves (h : t.Alone .client) (allowed : a t.done call)
    (begins : t.Begins call (.on p) t.channel)
    (run : Solo .client (t.after .client (.on p) t.toShared) u) : a.Runs t u :=
  .head (.begins allowed (Option.some.inj h.here) begins) (run.runs _).serves

/-! ### Without a receive thread -/

/-- The receive thread is gone, or there was none. -/
def Deserted (t : Traffic) : Prop := t.duty = .idle ∧ t.channel.receiver = .ended

/-- No receive thread was started. -/
def Unmanned (t : Traffic) : Prop :=
  t.duty = .idle ∧ t.channel.receiver = .ended ∧ t.channel.receiving = false

lemma Deserted.no_turns (h : t.Deserted) (here : t.duty = d) (turns : t.Turns d d' c) : False := by
  obtain rfl : .idle = d := h.1.symm.trans here
  have hr := h.2
  cases turns with
  | blocked reads | heard reads | broken reads =>
    rw [hr] at reads
    cases reads
  | giveUp waits | delayed waits =>
    rw [hr] at waits
    cases waits

lemma Deserted.hears (h : t.Deserted) (hears : t.channel.Hears c) :
    Deserted { t with channel := c } := ⟨h.1, hears.receiver.trans h.2⟩

lemma Unmanned.deserted (h : t.Unmanned) : t.Deserted := ⟨h.1, h.2.1⟩

lemma Unmanned.hears (h : t.Unmanned) (hears : t.channel.Hears c) :
    Unmanned { t with channel := c } :=
  ⟨h.1, hears.receiver.trans h.2.1, hears.receiving.trans h.2.2⟩

/-! ### The client's steps -/

@[simp] lemma callers_after : (t.after .client next s).callers 0 = next.point := by
  simp [after, put, Party.client]

@[simp] lemma done_after : (t.after .client next s).done = t.done ++ next.made := made_after_self

lemma done_on : (t.after .client (.on p) s).done = t.done := done_after.trans (List.append_nil _)

@[simp] lemma duty_after : (t.after .client next s).duty = t.duty := rfl

end Traffic

end FrameLink
