import FrameLink.Channel.Stimulus
import FrameLink.Proofs.Channel.Rest

/-!
Several channels side by side, each in a run of its own.

A turn of a receive thread, a call and whatever else is done with a hub are composed of the sections
that the steps of a run are made of. So every channel of a hub has come about in a run, and what holds
at every point of all runs holds of it.
-/

namespace FrameLink

namespace Session

/-- The point of a run that began with a new channel. -/
def Arises (t : Session) : Prop :=
  ∃ (config : ChannelConfig) (name : String) (connects : List (Except TransportError Unit))
    (writes : List (Except IoError Nat)) (flushes : List (Except IoError Unit))
    (spawns : List (Except IoError Unit)),
    (start config name connects writes flushes spawns).Reaches t

lemma Arises.tail {t u : Session} (h : t.Arises) (step : Step t u) : u.Arises := by
  obtain ⟨config, name, connects, writes, flushes, spawns, hr⟩ := h
  exact ⟨config, name, connects, writes, flushes, spawns, hr.tail step⟩

lemma Arises.sound {t : Session} (h : t.Arises) : t.Sound := by
  obtain ⟨config, name, connects, writes, flushes, spawns, hr⟩ := h
  exact (sound_start config name connects writes flushes spawns).reaches hr

end Session

namespace Channel

/-- A run has come to the stage and the call, and has brought the channel about. -/
def Comes (stage : Stage) (caller : Caller) (c : Channel) : Prop :=
  ∃ t : Session, t.Arises ∧ t.channel = c ∧ t.stage = stage ∧ t.caller = caller

open Session

variable {stage : Stage} {caller : Caller} {c : Channel}

lemma comes_start (config : ChannelConfig) (name : String)
    (connects : List (Except TransportError Unit)) (writes : List (Except IoError Nat))
    (flushes : List (Except IoError Unit)) (spawns : List (Except IoError Unit)) :
    Comes .idle .free (Session.start config name connects writes flushes spawns).channel :=
  ⟨_, ⟨config, name, connects, writes, flushes, spawns, .refl⟩, rfl, rfl, rfl⟩

lemma Comes.noted (h : c.Comes stage caller) (trace : List Event) :
    Comes stage caller { c with trace } := by
  obtain ⟨t, hr, rfl, hst, hca⟩ := h
  exact ⟨_, hr.tail (.noted trace rfl), rfl, hst, hca⟩

/-! ### Calls -/

lemma Comes.callBack (h : c.Comes stage caller) (hout : stage.IsOut)
    (hca : caller = .free ∨ caller = .joining) (call : Call) :
    Comes stage caller (c.perform call).2 := by
  obtain ⟨t, hr, rfl, rfl, rfl⟩ := h
  exact ⟨_, hr.tail (.call (.callBack call hout hca)), by simp, by simp, by simp⟩

/-- A handler makes its calls one after the other. -/
lemma Comes.run (h : c.Comes stage caller) (hout : stage.IsOut)
    (hca : caller = .free ∨ caller = .joining) (script : Script) :
    Comes stage caller (c.run script).2 := by
  fun_induction Channel.run c script with
  | case1 c => exact h
  | case2 c => exact h
  | case3 c e rest ih => exact ih (h.noted _)
  | case4 c call next ih => exact ih (h.callBack hout hca call)

lemma Comes.short (h : c.Comes stage .free) (call : Call) (hc : call.IsShort) :
    Comes stage .free (c.perform call).2 := by
  obtain ⟨t, hr, rfl, rfl, hca⟩ := h
  exact ⟨_, hr.tail (.call (.short call hc hca)), by simp, by simp, by simpa using hca⟩

lemma Comes.connect (h : c.Comes stage .free) : c.connect.2.Comes stage .free := by
  obtain ⟨t, hr, rfl, rfl, hca⟩ := h
  have hclear := hr.tail (.call (.clearHalt hca))
  exact ⟨_, hclear.tail (.call (.establish rfl)), by simp [Channel.connect], by simp, rfl⟩

lemma Comes.send (h : c.Comes stage .free) (f : Frame) : Comes stage .free (c.send f).2 := by
  obtain ⟨t, hr, rfl, rfl, hca⟩ := h
  by_cases hfails : ∃ e, (t.channel.write f).1 = .error (.sendFailed e)
  · obtain ⟨e, he⟩ := hfails
    have hfail := hr.tail (.call (.sendFails hca he))
    have hhalt := hfail.tail (.call (.haltSend rfl))
    refine ⟨_, hhalt.tail (.call (.dropLink rfl)), ?_, rfl, rfl⟩
    rw [Channel.send]
    split
    · next e' c' hw =>
      rw [hw]
      rfl
    · next hw => exact (hw e _ (Prod.ext he rfl)).elim
  · have hdone := hr.tail (.call (.send f hca fun e he => hfails ⟨e, he⟩))
    refine ⟨_, hdone, ?_, rfl, hca⟩
    rw [Channel.send]
    split
    · next e' c' hw => exact absurd ⟨e', congrArg Prod.fst hw⟩ hfails
    · rfl

/-- Any call from outside but `terminate`, which has to wait for the thread. -/
lemma Comes.perform (h : c.Comes stage .free) (call : Call) (hc : call ≠ .terminate) :
    Comes stage .free (c.perform call).2 := by
  cases call with
  | connect => exact h.connect
  | terminate => exact absurd rfl hc
  | send f => exact h.send f
  | disconnect | last | register kind h' | unregister kind | relay r => exact h.short _ trivial

lemma Comes.beginTerminate (h : c.Comes stage .free) :
    c.beginTerminate.Comes stage (if c.joinable then .joining else .ending) := by
  obtain ⟨t, hr, rfl, rfl, hca⟩ := h
  have hhalt := hr.tail (.call (.halt hca))
  have hstate := hhalt.tail (.call (.setHalting rfl))
  exact ⟨_, hstate.tail (.call (.takeDown rfl)), rfl, rfl, rfl⟩

lemma Comes.endTerminate (h : c.Comes stage caller)
    (hca : caller = .joining ∧ c.receiver = .ended ∨ caller = .ending) :
    c.endTerminate.Comes stage .free := by
  obtain ⟨t, hr, rfl, rfl, rfl⟩ := h
  rcases hca with ⟨hjoin, hend⟩ | hend
  · exact ⟨_, hr.tail (.call (.joined hjoin hend)), rfl, rfl, rfl⟩
  · exact ⟨_, hr.tail (.call (.unjoined hend)), rfl, rfl, rfl⟩

/-! ### The far end -/

lemma Comes.feed (h : c.Comes stage caller) (b : Bytes) :
    Comes stage caller { c with transport := c.transport.feed b } := by
  obtain ⟨t, hr, rfl, hst, hca⟩ := h
  exact ⟨_, hr.tail (.far (.feed b)), rfl, hst, hca⟩

lemma Comes.endInput (h : c.Comes stage caller) :
    Comes stage caller { c with transport := c.transport.endInput } := by
  obtain ⟨t, hr, rfl, hst, hca⟩ := h
  exact ⟨_, hr.tail (.far .endInput), rfl, hst, hca⟩

lemma Comes.failRead (h : c.Comes stage caller) (e : IoError) :
    Comes stage caller { c with transport := c.transport.failRead e } := by
  obtain ⟨t, hr, rfl, hst, hca⟩ := h
  exact ⟨_, hr.tail (.far (.failRead e)), rfl, hst, hca⟩

/-! ### The receive thread -/

lemma Comes.retire (h : c.Comes .leaving caller) : c.retire.Comes .idle caller := by
  obtain ⟨t, hr, rfl, hst, hca⟩ := h
  exact ⟨_, hr.tail (.turn (.retire hst)), rfl, rfl, hca⟩

lemma Comes.recover (h : c.Comes .failed caller) : c.recover.Comes .idle caller := by
  obtain ⟨t, hr, rfl, hst, hca⟩ := h
  have hlook := hr.tail (.turn (.look hst))
  unfold Channel.recover
  cases hh : t.channel.halted with
  | true => exact Comes.retire ⟨_, hlook, rfl, by simp [hh], hca⟩
  | false => exact ⟨_, hlook.tail (.turn (.takeOver (by simp [hh]))), rfl, rfl, hca⟩

lemma Comes.retry {k : Nat} (h : c.Comes .idle caller) (hk : c.receiver = .waiting k) :
    Comes .idle caller (c.retry k) := by
  obtain ⟨t, hr, rfl, hst, hca⟩ := h
  unfold Channel.retry
  split
  · next hover =>
    have hspent : t.channel.config.isExhausted k = true ∨ t.channel.halted = true := by
      simpa using hover
    exact Comes.retire ⟨_, hr.tail (.turn (.giveUp hst hk hspent)), rfl, rfl, hca⟩
  · next hgo =>
    obtain ⟨hleft, hfree⟩ : t.channel.config.isExhausted k = false ∧ t.channel.halted = false := by
      simpa using hgo
    have hcount := hr.tail (.turn (.delayed hst hk hleft hfree))
    exact ⟨_, hcount.tail (.turn (.attempt rfl (Or.inr (Or.inl hfree)))), rfl, rfl, hca⟩

/-- A turn in which no frame comes in leaves the thread between two turns. -/
lemma Comes.turn (h : c.Comes .idle caller) (hf : ∀ f, c.turn.1 ≠ .heard f) :
    c.turn.2.Comes .idle caller := by
  unfold Channel.turn at hf ⊢
  cases hr : c.receiver with
  | ended => exact h
  | waiting k => exact h.retry hr
  | reading n scanner seen =>
    simp only [hr] at hf ⊢
    obtain ⟨t, hrun, rfl, hst, hca⟩ := h
    cases hread : t.channel.readOn n scanner seen with
    | mk o c =>
      cases o with
      | blocked => exact ⟨_, hrun.tail (.turn (.blocked hst hr hread)), rfl, hst, hca⟩
      | frame f => simp [hread] at hf
      | failed e =>
        exact Comes.recover ⟨_, hrun.tail (.turn (.broken hst hr hread)), rfl, rfl, hca⟩

/-- A frame that comes in is noted, and is to be passed on. -/
lemma Comes.heard {f : Frame} (h : c.Comes .idle caller) (hf : c.turn.1 = .heard f) :
    Comes (.passing f) caller (c.turn.2.receive f) := by
  unfold Channel.turn at hf ⊢
  cases hr : c.receiver with
  | ended | waiting k => simp [hr] at hf
  | reading n scanner seen =>
    simp only [hr] at hf ⊢
    obtain ⟨t, hrun, rfl, hst, hca⟩ := h
    cases hread : t.channel.readOn n scanner seen with
    | mk o c =>
      cases o with
      | blocked | failed e => simp [hread] at hf
      | frame f' =>
        obtain rfl : f' = f := by simpa [hread] using hf
        exact ⟨_, hrun.tail (.turn (.heard hst hr hread)), rfl, rfl, hca⟩

lemma Comes.passed {f : Frame} (h : c.Comes (.passing f) caller) :
    Comes (c.passOn f).1 caller (c.passOn f).2 := by
  obtain ⟨t, hr, rfl, hst, hca⟩ := h
  exact ⟨_, hr.tail (.turn (.passed hst)), rfl, rfl, hca⟩

lemma Comes.handled (h : c.Comes .handling caller) (e : Ending) :
    Comes .idle caller (c.countHandled e) := by
  obtain ⟨t, hr, rfl, hst, hca⟩ := h
  exact ⟨_, hr.tail (.turn (.handled e hst)), rfl, rfl, hca⟩

/-- A frame is handed to its handler, which runs to its end. -/
lemma Comes.handle {f : Frame} {handler : Handler} (h : c.Comes (.passing f) caller)
    (hca : caller = .free ∨ caller = .joining)
    (hroute : c.registry.route f.kind = .handler handler) :
    Comes .idle caller (c.handle handler f) := by
  have hpassed := h.passed
  unfold Channel.passOn at hpassed
  unfold Channel.handle
  simp only [hroute] at hpassed
  cases ha : handler.answer f with
  | error e => simpa only [ha] using hpassed
  | ok script =>
    simp only [ha] at hpassed ⊢
    have hrun := hpassed.run trivial hca script
    cases hs : c.run script with
    | mk e c' =>
      rw [hs] at hrun
      have hhandled := hrun.handled e
      cases e with
      | returned => exact hhandled
      | panicked => exact hhandled

lemma Comes.relaying {f : Frame} {r : Relay} (h : c.Comes (.passing f) caller)
    (hroute : c.registry.route f.kind = .relay r) : c.Comes (.relaying f) caller := by
  have hpassed := h.passed
  unfold Channel.passOn at hpassed
  simpa only [hroute] using hpassed

lemma Comes.dropped {f : Frame} (h : c.Comes (.passing f) caller)
    (hroute : c.registry.route f.kind = .drop) :
    Comes .idle caller (c.count fun k => { k with dropped := k.dropped + 1 }) := by
  have hpassed := h.passed
  unfold Channel.passOn at hpassed
  simpa only [hroute] using hpassed

lemma Comes.relayed {f : Frame} (h : c.Comes (.relaying f) caller)
    (r : Except ChannelError Unit) : Comes .idle caller (c.countRelayed r) := by
  obtain ⟨t, hr, rfl, hst, hca⟩ := h
  exact ⟨_, hr.tail (.turn (.relayed r hst)), rfl, rfl, hca⟩

lemma Comes.abandon {f : Frame} (h : c.Comes (.relaying f) caller) :
    c.abandon.Comes .idle caller := by
  obtain ⟨t, hr, rfl, hst, hca⟩ := h
  exact ⟨_, hr.tail (.turn (.abandoned hst)), rfl, rfl, hca⟩

end Channel

namespace Hub

variable {h : Hub} {i j : Nat} {c d : Channel} {P Q : Channel → Prop} {caller : Caller}

/-- Of one channel something holds; the others have come about in runs, and are between two turns with no
call in progress. -/
structure Runs (h : Hub) (i : Nat) (P : Channel → Prop) : Prop where
  here : ∀ c, h.channels[i]? = some c → P c
  elsewhere : ∀ j ≠ i, ∀ c, h.channels[j]? = some c → c.Comes .idle .free

/-- All channels have come about in runs, and are between two turns with no call in progress. -/
def IsQuiet (h : Hub) : Prop :=
  ∀ (i : Nat) (c : Channel), h.channels[i]? = some c → c.Comes .idle .free

lemma IsQuiet.runs (hq : h.IsQuiet) (i : Nat) : h.Runs i (Channel.Comes .idle .free) :=
  ⟨hq i, fun j _ => hq j⟩

lemma Runs.quiet (hr : h.Runs i (Channel.Comes .idle .free)) : h.IsQuiet := by
  intro j c hc
  by_cases hj : j = i
  · subst hj
    exact hr.here c hc
  · exact hr.elsewhere j hj c hc

/-! ### One channel after the other -/

lemma getElem?_collect (hi : h.channels[i]? = some c) (d : Channel) (j : Nat) :
    (h.collect i d).channels[j]? =
      if i = j then some { d with trace := [] } else h.channels[j]? := by
  simp [collect, List.getElem?_set, (List.getElem?_eq_some_iff.mp hi).1]

/-- What acts on the one channel leaves the others alone. -/
lemma Runs.collect (hr : h.Runs i P) (hi : h.channels[i]? = some c)
    (hd : Q { d with trace := [] }) : (h.collect i d).Runs i Q where
  here e he := by
    rw [getElem?_collect hi, if_pos rfl] at he
    obtain rfl : { d with trace := [] } = e := by simpa using he
    exact hd
  elsewhere j hj e he := by
    rw [getElem?_collect hi, if_neg (Ne.symm hj)] at he
    exact hr.elsewhere j hj e he

/-- What acts on another channel leaves the one alone. -/
lemma Runs.collect_other (hr : h.Runs i P) (hji : j ≠ i) (hj : h.channels[j]? = some c)
    (hd : d.Comes .idle .free) : (h.collect j d).Runs i P where
  here e he := by
    rw [getElem?_collect hj, if_neg hji] at he
    exact hr.here e he
  elsewhere k hk e he := by
    rw [getElem?_collect hj] at he
    split at he
    · obtain rfl : { d with trace := [] } = e := by simpa using he
      exact hd.noted []
    · exact hr.elsewhere k hk e he

lemma Runs.act {α : Type} {f : Channel → α × Channel} (hr : h.Runs i P)
    (hf : ∀ c, h.channels[i]? = some c → P c → Q { (f c).2 with trace := [] }) :
    (h.act i f).2.Runs i Q := by
  unfold Hub.act
  cases hi : h.channels[i]? with
  | none => exact ⟨fun c hc => by simp [hi] at hc, hr.elsewhere⟩
  | some c => exact hr.collect hi (hf c hi (hr.here c hi))

/-- One channel sends; if it is the one, then its own thread has it send. -/
lemma Runs.send {f g : Frame} (hr : h.Runs i (Channel.Comes (.relaying f) caller))
    (hca : caller = .free ∨ caller = .joining) (j : Nat) :
    (h.send j g).2.Runs i (Channel.Comes (.relaying f) caller) := by
  have hact : (h.send j g).2 = (h.act j (·.send g)).2 := by
    unfold Hub.send
    split
    · next he => rw [he]
    · next he => rw [he]
  rw [hact]
  by_cases hj : j = i
  · subst hj
    exact hr.act fun c _ hc => (hc.callBack trivial hca (.send g)).noted []
  · unfold Hub.act
    cases hi : h.channels[j]? with
    | none => exact hr
    | some c => exact hr.collect_other hj hi ((hr.elsewhere j hj c hi).send g)

lemma Runs.relay {f : Frame} (hr : h.Runs i (Channel.Comes (.relaying f) caller))
    (hca : caller = .free ∨ caller = .joining) (r : Relay) :
    (h.relay i f r).Runs i (Channel.Comes .idle caller) := by
  cases r with
  | accept => exact hr.act fun c _ hc => ((hc.noted _).relayed _).noted []
  | refuse e => exact hr.act fun c _ hc => ((hc.noted _).relayed _).noted []
  | panic => exact hr.act fun c _ hc => (hc.noted _).abandon.noted []
  | channel j => exact (hr.send hca j).act fun c _ hc => (hc.relayed _).noted []

/-- A frame that has come in is noted and passed on. -/
lemma Runs.deliver {f : Frame} (hr : h.Runs i fun c => (c.receive f).Comes (.passing f) caller)
    (hca : caller = .free ∨ caller = .joining) :
    (h.deliver i f).Runs i (Channel.Comes .idle caller) := by
  have hnoted : (h.update i (·.receive f)).Runs i (Channel.Comes (.passing f) caller) :=
    hr.act fun c _ hc => hc.noted []
  unfold Hub.deliver
  generalize h.update i (·.receive f) = h' at hnoted ⊢
  dsimp only
  cases hi : h'.channels[i]? with
  | none => exact ⟨fun c hc => by simp [hi] at hc, hnoted.elsewhere⟩
  | some c =>
    dsimp only
    cases hroute : c.registry.route f.kind with
    | handler handler =>
      refine hnoted.act fun d hd hpass => ?_
      obtain rfl : c = d := by simpa [hi] using hd
      exact (hpass.handle hca hroute).noted []
    | relay r =>
      refine Runs.relay ⟨fun d hd => ?_, hnoted.elsewhere⟩ hca r
      obtain rfl : c = d := by simpa [hi] using hd
      exact (hnoted.here c hd).relaying hroute
    | drop =>
      refine hnoted.act fun d hd hpass => ?_
      obtain rfl : c = d := by simpa [hi] using hd
      exact (hpass.dropped hroute).noted []

/-! ### The receive threads -/

/-- A turn of a receive thread is a part of a run. -/
lemma Runs.step (hr : h.Runs i (Channel.Comes .idle caller))
    (hca : caller = .free ∨ caller = .joining) :
    (h.step i).2.Runs i (Channel.Comes .idle caller) := by
  unfold Hub.step Hub.act
  cases hi : h.channels[i]? with
  | none => exact hr
  | some c =>
    have hc := hr.here c hi
    dsimp only
    cases ht : c.turn.1 with
    | resting => exact hr.collect hi ((hc.turn (by simp [ht])).noted [])
    | moved => exact hr.collect hi ((hc.turn (by simp [ht])).noted [])
    | heard f => exact Runs.deliver (hr.collect hi ((hc.heard ht).noted [])) hca

/-- However many turns a thread takes, they are a part of a run. -/
lemma Runs.runUntil (hr : h.Runs i (Channel.Comes .idle caller))
    (hca : caller = .free ∨ caller = .joining) (stop : Hub → Bool) (fuel : Nat) :
    (runUntil stop i fuel h).Runs i (Channel.Comes .idle caller) := by
  induction fuel generalizing h with
  | zero => exact hr
  | succ fuel ih =>
    have hstep := hr.step hca
    rw [Hub.runUntil]
    split
    · exact hr
    · split
      · next he => exact ih (by rwa [he] at hstep)
      · next he => rwa [he] at hstep

lemma Runs.settle (hr : h.Runs i (Channel.Comes .idle caller))
    (hca : caller = .free ∨ caller = .joining) :
    (h.settle i).Runs i (Channel.Comes .idle caller) := by
  unfold Hub.settle
  split
  · exact hr.runUntil hca _ _
  · exact hr

lemma Runs.proceed (hr : h.Runs i (Channel.Comes .idle caller))
    (hca : caller = .free ∨ caller = .joining) :
    (h.proceed i).Runs i (Channel.Comes .idle caller) := by
  unfold Hub.proceed
  split
  · exact hr.runUntil hca _ _
  · exact hr

/-! ### Calls and the far end -/

/-- `terminate`, where it returns, has waited for the thread, which has gone on with its run. -/
lemma IsQuiet.terminate {h' : Hub} (hq : h.IsQuiet) (ht : h.terminate i = some h') :
    h'.IsQuiet := by
  have hbegun : (h.update i (·.beginTerminate)).Runs i fun c =>
      c.Comes .idle (if c.joinable then .joining else .ending) := by
    refine (hq.runs i).act fun c _ hc => ?_
    have hbegin := hc.beginTerminate.noted []
    rwa [← Channel.joinable_beginTerminate] at hbegin
  unfold Hub.terminate at ht
  generalize h.update i (·.beginTerminate) = h₁ at hbegun ht
  dsimp only at ht
  split at ht
  · next hany =>
    have hjoining : h₁.Runs i (Channel.Comes .idle .joining) := by
      refine ⟨fun c hc => ?_, hbegun.elsewhere⟩
      have hj : c.joinable = true := by simpa [hc] using hany
      simpa [hj] using hbegun.here c hc
    -- meanwhile the thread goes on with its run, and its handlers may still call
    have hsettled := hjoining.settle (Or.inr rfl)
    split at ht
    · next hended =>
      obtain rfl := Option.some.inj ht
      refine Runs.quiet (i := i) (hsettled.act fun c hi hc => ?_)
      have hr : c.receiver = .ended := by simpa [hasEnded, hi] using hended
      exact (hc.endTerminate (Or.inl ⟨rfl, hr⟩)).noted []
    · simp at ht
  · next hnone =>
    obtain rfl := Option.some.inj ht
    refine Runs.quiet (i := i) (hbegun.act fun c hi hc => ?_)
    have hj : c.joinable = false := by simpa [hi] using hnone
    rw [hj] at hc
    exact (hc.endTerminate (Or.inr rfl)).noted []

lemma IsQuiet.meet (hq : h.IsQuiet) (i : Nat) (stimulus : Stimulus) :
    (h.meet i stimulus).IsQuiet := by
  have hr := hq.runs i
  cases stimulus with
  | feed b => exact Runs.quiet (hr.act fun c _ hc => (hc.feed b).noted [])
  | endInput => exact Runs.quiet (hr.act fun c _ hc => hc.endInput.noted [])
  | failRead e => exact Runs.quiet (hr.act fun c _ hc => (hc.failRead e).noted [])
  | turn => exact (hr.step (Or.inl rfl)).quiet

/-- What is done with a hub from outside. -/
inductive Does (h : Hub) : Hub → Prop where
  | call (i : Nat) (c : Call) (returns : c ≠ .terminate) : Does h (h.act i (·.perform c)).2
  | terminate {i : Nat} {h' : Hub} (returns : h.terminate i = some h') : Does h h'
  | meet (i : Nat) (stimulus : Stimulus) : Does h (h.meet i stimulus)
  | settle (i : Nat) : Does h (h.settle i)
  | proceed (i : Nat) : Does h (h.proceed i)
  | takeLog : Does h h.takeLog.2

/-- What a hub can come to. -/
inductive Reaches (h : Hub) : Hub → Prop where
  | refl : Reaches h h
  | tail {t u : Hub} (run : Reaches h t) (does : Does t u) : Reaches h u

lemma IsQuiet.does {h' : Hub} (hq : h.IsQuiet) (hd : h.Does h') : h'.IsQuiet := by
  cases hd with
  | call i c returns =>
    exact Runs.quiet ((hq.runs i).act fun d _ hd => (hd.perform c returns).noted [])
  | terminate returns => exact hq.terminate returns
  | meet i stimulus => exact hq.meet i stimulus
  | settle i => exact ((hq.runs i).settle (Or.inl rfl)).quiet
  | proceed i => exact ((hq.runs i).proceed (Or.inl rfl)).quiet
  | takeLog => exact hq

lemma IsQuiet.reaches {h' : Hub} (hq : h.IsQuiet) (hr : h.Reaches h') : h'.IsQuiet := by
  induction hr with
  | refl => exact hq
  | tail _ does ih => exact ih.does does

/-- Before anything is done with them, all channels are quiet. -/
lemma isQuiet_of_new (hnew : ∀ c ∈ h.channels, ∃ config name connects writes flushes spawns,
    c = (Session.start config name connects writes flushes spawns).channel) : h.IsQuiet := by
  intro i c hc
  obtain ⟨config, name, connects, writes, flushes, spawns, rfl⟩ :=
    hnew c (List.mem_of_getElem? hc)
  exact Channel.comes_start config name connects writes flushes spawns

/-- **The channels of a hub are consistent whenever they rest.** Whatever calls are made on channels that
begin as new ones, and however their threads take turns and relay to one another, a channel whose thread
has nothing to do is up or down, with everything that belongs to it. -/
theorem consistent_of_resting {h' : Hub}
    (hnew : ∀ c ∈ h.channels, ∃ config name connects writes flushes spawns,
      c = (Session.start config name connects writes flushes spawns).channel)
    (hr : h.Reaches h') (hc : h'.channels[i]? = some c) (hrest : c.turn.1 = .resting) :
    c.Consistent := by
  obtain ⟨t, hrun, rfl, hst, hca⟩ := (isQuiet_of_new hnew).reaches hr i c hc
  exact hrun.sound.consistent ⟨hca, hst, hrest⟩

end Hub

end FrameLink
