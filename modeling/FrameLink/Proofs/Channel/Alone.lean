import FrameLink.Proofs.Channel.Traffic
import FrameLink.Proofs.Stream.Writer

/-!
Whoever is left alone with a channel.

The sections of a call, one after the other and with no one else's in between, come to what the call
does in one piece, and so do those of the receive thread.
-/

namespace FrameLink

/-! ### A frame that is written piece by piece -/

namespace Sink

lemma isClosed_write (s : Sink) (b : Bytes) : (s.write b).2.isClosed = s.isClosed := by
  unfold Sink.write
  repeat' split
  all_goals rfl

lemma isClosed_writeAll (s : Sink) (b : Bytes) : (Writer.writeAll s b).2.isClosed = s.isClosed :=
  Writer.writeAll_keeps (P := fun t => t.isClosed = s.isClosed)
    (fun t b ht => (isClosed_write t b).trans ht) rfl b

lemma isClosed_flush (s : Sink) : s.flush.2.isClosed = s.isClosed := by
  unfold Sink.flush
  split <;> rfl

end Sink

namespace Channel

variable {c : Channel} {n : Nat} {s : Sink}

lemma noteWritten_sink (c : Channel) (n : Nat) : c.noteWritten n (c.transport.sink n) = c := by
  have hid : (fun l : Link => { l with written := l.written ++ (c.transport.sink n).accepted }) = id := by
    funext l
    simp [Transport.sink, Sink.accepted]
  simp only [noteWritten, Transport.absorb, Transport.onLink, hid, List.modify_id]
  simp [Transport.sink]

lemma noteWritten_noteWritten (c : Channel) (n : Nat) (s s' : Sink) :
    (c.noteWritten n s).noteWritten n s' =
      c.noteWritten n { s' with pieces := s.pieces ++ s'.pieces } := by
  have hcomp : ((fun l : Link => { l with written := l.written ++ s'.pieces.flatten }) ∘
        fun l : Link => { l with written := l.written ++ s.pieces.flatten }) =
      fun l : Link => { l with written := l.written ++ (s.pieces ++ s'.pieces).flatten } := by
    funext l
    simp
  simp only [noteWritten, Transport.absorb, Transport.onLink, List.modify_modify_eq, Sink.accepted,
    hcomp, List.map_append, List.append_assoc]

lemma sink_noteWritten (c : Channel) (n : Nat) (s : Sink) :
    (c.noteWritten n s).transport.sink n =
      { writes := s.writes, flushes := s.flushes, isClosed := !c.transport.isOpen n } := rfl

lemma halted_openLink (c : Channel) : c.openLink.2.halted = c.halted := by
  rcases openLink_wiring c with ⟨t, ht, hw⟩ | ⟨e, t, ht, hw⟩
  all_goals
    rw [ht]
    exact congrArg Wiring.halted hw

/-- The link goes on where the sink stands. -/
lemma writeTo_noteWritten (h : s.isClosed = !c.transport.isOpen n) (b : Bytes) :
    (c.noteWritten n s).writeTo n b = ((s.write b).1, c.noteWritten n (s.write b).2) := by
  rw [writeTo, sink_noteWritten, ← h, noteWritten_noteWritten]
  obtain ⟨writes, flushes, isClosed, pieces, flushed⟩ := s
  unfold Sink.write
  dsimp only
  repeat' split
  all_goals simp [Sink.take, noteWritten, Transport.absorb, Sink.accepted]

lemma flushTo_noteWritten (h : s.isClosed = !c.transport.isOpen n) :
    (c.noteWritten n s).flushTo n = (s.flush.1, c.noteWritten n s.flush.2) := by
  rw [flushTo, sink_noteWritten, ← h, noteWritten_noteWritten]
  obtain ⟨writes, flushes, isClosed, pieces, flushed⟩ := s
  unfold Sink.flush
  dsimp only
  split <;> simp [noteWritten, Transport.absorb, Sink.accepted]

/-- What a send comes to when its frame is not refused. -/
def sent (c : Channel) (n : Nat) : Except FrameError Unit × Sink → Except ChannelError Unit × Channel
  | (.ok (), s) =>
    (.ok (), (c.noteWritten n s).count fun k => { k with framesSent := k.framesSent + 1 })
  | (.error e, s) => (.error (.sendFailed e), (c.noteWritten n s).failSend)

lemma send_of_writer {f : Frame} (hwriter : c.writer = some n)
    (hrefusal : c.config.limits.refusal? f = none) :
    c.send f = c.sent n (Writer.writeFrame c.config.limits (c.transport.sink n) f) := by
  simp only [send, write, hwriter, hrefusal]
  rcases Writer.writeFrame c.config.limits (c.transport.sink n) f with ⟨_ | _, s⟩ <;> rfl

end Channel

/-- Where a send goes on after all its bytes are written, or are not. -/
def Sending.ofWritten (n : Nat) : Except FrameError Unit → Sending
  | .ok () => .flushing n
  | .error e => .failed e

namespace Traffic

variable {t u v : Traffic} {who : Party} {p q : Point} {next : Next} {s s' : Shared} {may : Call → Prop}
  {c : Channel} {call : Call} {f : Frame} {n : Nat}

/-! ### One party -/

/-- No other party has a lock. -/
def Apart (t : Traffic) (who : Party) : Prop :=
  t.Everyone fun w p => w = who ∨ ¬ p.HasLink ∧ ¬ p.HasWriter

lemma Apart.after (h : t.Apart who) : (t.after who next s).Apart who := Everyone.after h (.inl rfl)

lemma Apart.turned {d : Duty} (h : t.Apart who) (hd : d.point? = none) : (t.turned d c).Apart who :=
  Everyone.turned h fun p hp => by simp [hd] at hp

lemma Apart.linkFree (h : t.Apart who) (here : t.point who = some p) (hp : ¬ p.HasLink)
    (away : ¬ t.duty.HasLink) : t.LinkFree := by
  refine ⟨fun w q hq => ?_, away⟩
  rcases h w q hq with rfl | hw
  · exact Option.some.inj (here.symm.trans hq) ▸ hp
  · exact hw.1

lemma Apart.writerFree (h : t.Apart who) (here : t.point who = some p) (hp : ¬ p.HasWriter) :
    t.WriterFree := by
  intro w q hq
  rcases h w q hq with rfl | hw
  · exact Option.some.inj (here.symm.trans hq) ▸ hp
  · exact hw.2

lemma Runs.begins (run : t.Runs may u) (who : Party) (here : u.point who = some .free)
    (allowed : may call) (begins : u.Begins call next c) :
    t.Runs may (u.after who next { u.toShared with channel := c }) :=
  run.tail (.begins allowed here begins)

lemma Runs.acts (run : t.Runs may u) (who : Party) (here : u.point who = some p)
    (acts : u.Acts who p next s) : t.Runs may (u.after who next s) := run.tail (.acts here acts)

lemma Runs.turns {d d' : Duty} (run : t.Runs may u) (here : u.duty = d) (turns : u.Turns d d' c) :
    t.Runs may (u.turned d' c) := run.tail (.turns here turns)

lemma Step.mono {may' : Call → Prop} (h : ∀ call, may call → may' call) (hs : t.Step may u) :
    t.Step may' u := by
  cases hs with
  | begins allowed here begins => exact .begins (h _ allowed) here begins
  | acts here acts => exact .acts here acts
  | turns here turns => exact .turns here turns
  | hears hears => exact .hears hears

lemma Runs.mono {may' : Call → Prop} (run : t.Runs may u) (h : ∀ call, may call → may' call) :
    t.Runs may' u :=
  Relation.ReflTransGen.mono (fun _ _ => Step.mono h) _ _ run

/-- A party takes a section of the call that it is in. -/
inductive Moves (v : Traffic) (w : Party) : Traffic → Prop where
  | acts {p : Point} {next : Next} {s : Shared} (here : v.point w = some p)
      (acts : v.Acts w p next s) : Moves v w (v.after w next s)

/-- A party goes on with the call that it is in, and everyone else stands still. -/
def Solo (w : Party) : Traffic → Traffic → Prop := Relation.ReflTransGen fun v v' => v.Moves w v'

lemma Solo.acts (run : Solo who t u) (here : u.point who = some p) (acts : u.Acts who p next s) :
    Solo who t (u.after who next s) := run.tail (.acts here acts)

lemma Solo.runs (run : Solo who t u) (may : Call → Prop) : t.Runs may u := by
  refine Relation.ReflTransGen.mono (fun v w hs => ?_) _ _ run
  obtain ⟨here, acts⟩ := hs
  exact .acts here acts

lemma point_after (here : t.point who = some p) :
    (t.after who next s).point who = some next.point := by
  rw [point_after_self, here]
  rfl

/-- A party is about to make a call, and no one has a lock. -/
structure Alone (t : Traffic) (who : Party) : Prop where
  here : t.point who = some .free
  apart : t.Apart who
  away : ¬ t.duty.HasLink

lemma after_after : (t.after who (.on p) s).after who next s' = t.after who next s' := by
  cases who with
  | caller i => simp [after, put, Next.made]
  | thread =>
    simp only [after, put, Next.made, Next.point, List.append_nil, Function.update_eq_self, mk.injEq,
      true_and, and_true]
    cases t.duty <;> rfl

lemma Alone.point_after (h : t.Alone who) : (t.after who next s).point who = some next.point :=
  Traffic.point_after h.here

lemma Alone.linkFree (h : t.Alone who) (hp : ¬ p.HasLink) : (t.after who (.on p) s).LinkFree :=
  h.apart.after.linkFree h.point_after hp (by simpa using h.away)

lemma Alone.writerFree (h : t.Alone who) (hp : ¬ p.HasWriter) :
    (t.after who (.on p) s).WriterFree :=
  h.apart.after.writerFree h.point_after hp

lemma Alone.begins (h : t.Alone who) (begins : t.Begins call next c) :
    t.Runs (· = call) (t.after who next { t.toShared with channel := c }) :=
  .single (.begins rfl h.here begins)

/-- One call of a party that is left alone, from its first point on. -/
lemma Alone.makes (h : t.Alone who) (begins : t.Begins call (.on p) t.channel)
    (run : Solo who (t.after who (.on p) t.toShared) u) : t.Runs (· = call) u :=
  (h.begins begins).trans (run.runs _)

lemma Alone.acts (h : t.Alone who) (run : Solo who v (t.after who (.on p) s))
    (acts : (t.after who (.on p) s).Acts who p next s') : Solo who v (t.after who next s') := by
  have hstep := run.acts h.point_after acts
  rwa [after_after] at hstep

lemma Alone.first (h : t.Alone who) (acts : (t.after who (.on p) t.toShared).Acts who p next s) :
    Solo who (t.after who (.on p) t.toShared) (t.after who next s) := h.acts .refl acts

/-- The link is closed, and the writer dropped, in a call of whatever kind. -/
lemma Alone.closes (h : t.Alone who) (wrap : Closing → Point) {back : Next}
    (hon : ∀ {u stage next c}, Closes u stage (some next) c →
      u.Acts who (wrap stage) (.on (wrap next)) { u.toShared with channel := c })
    (hback : ∀ {u stage c}, Closes u stage none c →
      u.Acts who (wrap stage) back { u.toShared with channel := c })
    (hlink : ¬ (wrap .begun).HasLink) (hwriter : ¬ (wrap .closed).HasWriter)
    (run : Solo who v (t.after who (.on (wrap .begun)) s)) :
    Solo who v (t.after who back { s with channel := s.channel.disconnect }) := by
  have hclosed := h.acts run (hon (.close (h.linkFree hlink)))
  have hsilenced := h.acts hclosed (hon (.silence (h.writerFree hwriter)))
  exact h.acts hsilenced (hback .shown)

lemma Alone.disconnects (h : t.Alone who) : t.Runs (· = .disconnect)
    (t.after who (.back .disconnect .done)
      { t.toShared with channel := t.channel.disconnect }) :=
  h.makes .disconnect (h.closes .disconnect .disconnect .disconnected id id .refl)

/-- The sections of a `terminate` up to where the thread is to be joined. -/
lemma Alone.stops (h : t.Alone who) :
    Solo who (t.after who (.on (.terminate .begun)) t.toShared)
      (t.after who (.on (.terminate .down))
        { t.toShared with channel := t.channel.beginTerminate }) := by
  have hhalted := h.first (.terminate .halt)
  have hannounced := h.acts hhalted (.terminate .announce)
  have hclosed := h.acts hannounced (.terminate (.close (h.linkFree id)))
  exact h.acts hclosed (.terminate (.silence (h.writerFree id)))

/-- A party that is not the thread has to wait until the thread has ended. -/
lemma Alone.terminates (h : t.Alone who)
    (hjoin : who = .thread ∨ t.channel.joinable = false ∨ t.HasEnded t.held) :
    t.Runs (· = .terminate) (t.after who (.back .terminate .done)
      { t.toShared with channel := t.channel.terminateHere }) := by
  refine h.makes .terminate ?_
  have hdown := h.stops
  have hending : Solo who (t.after who (.on (.terminate .begun)) t.toShared)
      (t.after who (.on (.terminate .ending))
        { t.toShared with channel := { t.channel.beginTerminate with joinable := false } }) := by
    have hjoinable := Channel.joinable_beginTerminate t.channel
    rcases hjoin with hself | hnone | hended
    · exact h.acts hdown (.terminate (.skip (.inl hself)))
    · exact h.acts hdown (.terminate (.skip (.inr (hjoinable.trans hnone))))
    · by_cases hskip : who = .thread ∨ t.channel.joinable = false
      · exact h.acts hdown (.terminate (.skip (hskip.imp_right hjoinable.trans)))
      · obtain ⟨hother, hhas⟩ := not_or.mp hskip
        have hjoining := h.acts hdown
          (.terminate (.join hother (hjoinable.trans (Bool.not_eq_false _ ▸ hhas))))
        refine h.acts hjoining (.terminate (.joined (hended.imp_right fun hgone => ⟨?_, ?_⟩)))
        · cases who with
          | caller i => exact hgone.1
          | thread => exact absurd rfl hother
        · exact (congrArg Wiring.receiver (Channel.wiring_closeLink _)).trans hgone.2
  exact h.acts hending (.terminate .finish)

/-- The sections of a connect. -/
lemma Alone.connecting (h : t.Alone who) : ∃ threads held,
    Solo who (t.after who (.on (.connect .begun)) t.toShared)
      (t.after who (.back .connect (t.channel.perform .connect).1)
        { channel := (t.channel.perform .connect).2, threads, held }) := by
  have hcleared := h.first (.connect .clear)
  have hlocked := h.acts hcleared (.connect (.lock (h.linkFree id)))
  have hannounced := h.acts hlocked (.connect .announce)
  change ∃ threads held, Solo who _ (t.after who (.back .connect
    (.ofExcept (t.channel.setHalted false).establish.1)) ⟨(t.channel.setHalted false).establish.2, _, _⟩)
  unfold Channel.establish
  cases hopen : ((t.channel.setHalted false).setState .connecting).openLink with
  | mk outcome c =>
    cases outcome with
    | error e =>
      have hrefused := h.acts hannounced (.connect (.dialInVain hopen))
      exact ⟨_, _, h.acts hrefused (.connect .fail)⟩
    | ok n =>
      have hopened := h.acts hannounced (.connect (.dial hopen))
      have hinstalled := h.acts hopened (.connect (.install (h.writerFree id)))
      dsimp only
      split
      · next hrun => exact ⟨_, _, h.acts hinstalled (.connect (.handOver hrun))⟩
      · next hidle =>
        have hunread := h.acts hinstalled (.connect (.keep (Bool.not_eq_true _ ▸ hidle)))
        unfold Channel.start
        split
        · next hspawns =>
          have hstarted := h.acts hunread (.connect (.spawn (Channel.nextSpawn_nil hspawns)))
          exact ⟨_, _, h.acts hstarted (.connect .hold)⟩
        · next rest hspawns =>
          have hstarted := h.acts hunread (.connect (.spawn (Channel.nextSpawn_cons hspawns)))
          exact ⟨_, _, h.acts hstarted (.connect .hold)⟩
        · next e rest hspawns =>
          have hunstarted := h.acts hunread (.connect (.spawnInVain (Channel.nextSpawn_cons hspawns)))
          have hsilenced := h.acts hunstarted (.connect (.silence (h.writerFree id)))
          exact ⟨_, _, h.acts hsilenced (.connect .abandon)⟩

lemma Alone.connects (h : t.Alone who) : ∃ threads held, t.Runs (· = .connect)
    (t.after who (.back .connect (t.channel.perform .connect).1)
      { channel := (t.channel.perform .connect).2, threads, held }) := by
  obtain ⟨threads, held, run⟩ := h.connecting
  exact ⟨threads, held, h.makes .connect run⟩

lemma Alone.writes (h : t.Alone who) (sink : Sink) (b : Bytes)
    (hsink : sink.isClosed = !t.channel.transport.isOpen n)
    (run : Solo who v (t.after who (.on (.send f (.writing n b)))
      { t.toShared with channel := t.channel.noteWritten n sink })) :
    Solo who v (t.after who (.on (.send f (.ofWritten n (Writer.writeAll sink b).1)))
      { t.toShared with channel := t.channel.noteWritten n (Writer.writeAll sink b).2 }) := by
  have hwrite {sink : Sink} {b : Bytes} (hb : b ≠ [])
      (hsink : sink.isClosed = !t.channel.transport.isOpen n)
      (run : Solo who v (t.after who (.on (.send f (.writing n b)))
        { t.toShared with channel := t.channel.noteWritten n sink })) :
      Solo who v (t.after who (.on (.send f (.afterWrite n b (ByteSink.write sink b).1)))
        { t.toShared with channel := t.channel.noteWritten n (ByteSink.write sink b).2 }) := by
    have hstep := h.acts run (.send (.write hb))
    change Solo who v (t.after who
      (.on (.send f (.afterWrite n b ((t.channel.noteWritten n sink).writeTo n b).1)))
      { t.toShared with channel := ((t.channel.noteWritten n sink).writeTo n b).2 }) at hstep
    rwa [Channel.writeTo_noteWritten hsink] at hstep
  induction sink, b using Writer.writeAll.induct with
  | case1 sink =>
    rw [Writer.writeAll_nil]
    exact h.acts run (.send .written)
  | case2 sink b hb hz =>
    have hdone := hwrite hb hsink run
    rw [Writer.writeAll_closed hb hz]
    rwa [hz] at hdone
  | case3 sink b hb k hk ih =>
    have hdone := hwrite hb hsink run
    rw [Writer.writeAll_put hb hk]
    rw [hk] at hdone
    exact ih ((Sink.isClosed_write sink b).trans hsink) hdone
  | case4 sink b hb e he hi ih =>
    have hdone := hwrite hb hsink run
    rw [Writer.writeAll_interrupted hb he hi]
    rw [he, Sending.afterWrite, if_pos hi] at hdone
    exact ih ((Sink.isClosed_write sink b).trans hsink) hdone
  | case5 sink b hb e he hi =>
    have hdone := hwrite hb hsink run
    rw [Writer.writeAll_failed hb he hi]
    rwa [he, Sending.afterWrite, if_neg hi] at hdone

/-- How a flush ends the send, or leaves it to be failed. -/
def Flushed (t : Traffic) (who : Party) (f : Frame) (n : Nat) (v : Traffic) :
    Except FrameError Unit × Sink → Prop
  | (.ok (), sink) => Solo who v (t.after who (.back (.send f) .done) { t.toShared with
      channel := (t.channel.noteWritten n sink).count fun k => { k with framesSent := k.framesSent + 1 } })
  | (.error e, sink) => Solo who v (t.after who (.on (.send f (.failed e)))
      { t.toShared with channel := t.channel.noteWritten n sink })

lemma Alone.flushes (h : t.Alone who) (sink : Sink)
    (hsink : sink.isClosed = !t.channel.transport.isOpen n)
    (run : Solo who v (t.after who (.on (.send f (.flushing n)))
      { t.toShared with channel := t.channel.noteWritten n sink })) :
    t.Flushed who f n v (Writer.flush sink) := by
  induction sink using Writer.flush.induct with
  | case1 sink hdone =>
    rw [Writer.flush_done hdone]
    have hflush := Channel.flushTo_noteWritten hsink
    change sink.flush.1 = .ok () at hdone
    rw [hdone] at hflush
    exact h.acts run (.send (.flush hflush))
  | case2 sink e he hi ih =>
    rw [Writer.flush_interrupted he hi]
    have hflush := Channel.flushTo_noteWritten hsink
    change sink.flush.1 = .error e at he
    rw [he] at hflush
    have hstep := h.acts run (.send (.flushInVain hflush))
    rw [Sending.afterFlush, if_pos hi] at hstep
    exact ih ((Sink.isClosed_flush sink).trans hsink) hstep
  | case3 sink e he hi =>
    rw [Writer.flush_failed he hi]
    have hflush := Channel.flushTo_noteWritten hsink
    change sink.flush.1 = .error e at he
    rw [he] at hflush
    have hstep := h.acts run (.send (.flushInVain hflush))
    rwa [Sending.afterFlush, if_neg hi] at hstep

/-- The sections of a send up to where its frame is looked at. -/
lemma Alone.locks (h : t.Alone who) (f : Frame) :
    Solo who (t.after who (.on (.send f .begun)) t.toShared)
      (t.after who (.on (.send f .locked)) t.toShared) := h.first (.send (.lock (h.writerFree id)))

/-- The link takes the beginning of a frame, and no more of it. -/
lemma Alone.tears (h : t.Alone who) {e : IoError} {k : Nat} {c' : Channel}
    (writer : t.channel.writer = some n) (accepts : t.channel.config.limits.refusal? f = none)
    (takes : t.channel.writeTo n f.wire = (.ok (k + 1), c)) (more : f.wire.drop (k + 1) ≠ [])
    (fails : c.writeTo n (f.wire.drop (k + 1)) = (.error e, c')) (he : e.kind ≠ .interrupted) :
    t.Runs (· = .send f)
      (t.after who (.on (.send f (.failed (.io e)))) { t.toShared with channel := c' }) := by
  have hwire : f.wire ≠ [] := fun hnil => more (by rw [hnil, List.drop_nil])
  refine h.makes (.send f) ?_
  have haccepted := h.acts (h.locks f) (.send (.accept writer accepts))
  have htaken : Solo who _
      (t.after who (.on (.send f (.afterWrite n f.wire (t.channel.writeTo n f.wire).1)))
        { t.toShared with channel := (t.channel.writeTo n f.wire).2 }) :=
    h.acts haccepted (.send (.write hwire))
  rw [takes] at htaken
  have hfailed : Solo who _
      (t.after who (.on (.send f (.afterWrite n (f.wire.drop (k + 1))
          (c.writeTo n (f.wire.drop (k + 1))).1)))
        { t.toShared with channel := (c.writeTo n (f.wire.drop (k + 1))).2 }) :=
    h.acts htaken (.send (.write more))
  rwa [fails, Sending.afterWrite, if_neg he] at hfailed

/-- The link takes a frame at once. -/
lemma Alone.takes (h : t.Alone who) {c' : Channel} (writer : t.channel.writer = some n)
    (accepts : t.channel.config.limits.refusal? f = none)
    (takes : t.channel.writeTo n f.wire = (.ok f.wire.length, c)) (flushes : c.flushTo n = (.ok (), c')) :
    t.Runs (· = .send f) (t.after who (.back (.send f) .done) { t.toShared with
      channel := c'.count fun k => { k with framesSent := k.framesSent + 1 } }) := by
  have hwire : f.wire ≠ [] := List.cons_ne_nil _ _
  refine h.makes (.send f) ?_
  have haccepted := h.acts (h.locks f) (.send (.accept writer accepts))
  have htaken : Solo who _
      (t.after who (.on (.send f (.afterWrite n f.wire (t.channel.writeTo n f.wire).1)))
        { t.toShared with channel := (t.channel.writeTo n f.wire).2 }) :=
    h.acts haccepted (.send (.write hwire))
  have hafter : Sending.afterWrite n f.wire (.ok f.wire.length) = .writing n [] := by
    change Sending.writing n (f.wire.drop f.wire.length) = _
    rw [List.drop_length]
  rw [takes, hafter] at htaken
  exact h.acts (h.acts htaken (.send .written)) (.send (.flush flushes))

/-- A send that has set the halt takes the link down. -/
lemma Apart.closes (h : u.Apart who) {e : FrameError} (away : ¬ u.duty.HasLink)
    (here : u.point who = some (.send f (.closing e .begun))) (run : Solo who t u) :
    Solo who t (u.after who (.back (.send f) (.failed (.sendFailed e)))
      { u.toShared with channel := u.channel.disconnect }) := by
  have hclosed := run.acts here (.send (.close (.close (h.linkFree here id away))))
  have hsilenced := hclosed.acts (point_after here)
    (.send (.close (.silence (h.after.writerFree (point_after here) id))))
  rw [after_after] at hsilenced
  have hshown := hsilenced.acts (point_after here) (.send (.finish .shown))
  rwa [after_after] at hshown

/-- A send that has failed takes the link down, whatever others have done in between. -/
lemma Apart.fails (h : u.Apart who) {e : FrameError} (away : ¬ u.duty.HasLink)
    (here : u.point who = some (.send f (.failed e))) :
    Solo who u (u.after who (.back (.send f) (.failed (.sendFailed e)))
      { u.toShared with channel := u.channel.failSend }) := by
  have hhalted : Solo who u (u.after who (.on (.send f (.closing e .begun)))
      { u.toShared with channel := u.channel.setHalted true }) := .single (.acts here (.send .halt))
  have hclosed := h.after.closes (by simpa using away) (point_after here) hhalted
  rwa [after_after] at hclosed

lemma Alone.fails (h : t.Alone who) {e : FrameError}
    (run : Solo who v (t.after who (.on (.send f (.failed e))) { t.toShared with channel := c })) :
    Solo who v (t.after who (.back (.send f) (.failed (.sendFailed e)))
      { t.toShared with channel := c.failSend }) := by
  have hfailed := run.trans (h.apart.after.fails (by simpa using h.away) h.point_after)
  rwa [after_after] at hfailed

/-- The sections of a send. -/
lemma Alone.sending (h : t.Alone who) (f : Frame) :
    Solo who (t.after who (.on (.send f .begun)) t.toShared)
      (t.after who (.back (.send f) (t.channel.perform (.send f)).1)
        { t.toShared with channel := (t.channel.perform (.send f)).2 }) := by
  have hlocked := h.locks f
  cases hwriter : t.channel.writer with
  | none =>
    have hsend : t.channel.send f =
        (.error (if t.channel.halted then .halted else .notConnected), t.channel) := by
      simp only [Channel.send, Channel.write, hwriter]
      split
      · next heq =>
        split at heq <;> simp at heq
      · rfl
    rw [Channel.perform, hsend]
    exact h.acts hlocked (.send (.deny hwriter))
  | some n =>
    cases hrefusal : t.channel.config.limits.refusal? f with
    | some e =>
      have hsend : t.channel.send f = (.error (.frame e), t.channel) := by
        simp only [Channel.send, Channel.write, hwriter, hrefusal]
      rw [Channel.perform, hsend]
      exact h.acts hlocked (.send (.refuse hwriter hrefusal))
    | none =>
      have hwriting := h.acts hlocked (.send (.accept hwriter hrefusal))
      have hsink : (t.channel.transport.sink n).isClosed = !t.channel.transport.isOpen n := rfl
      have hwritten := h.writes (t.channel.transport.sink n) f.wire hsink
        (by rw [Channel.noteWritten_sink]; exact hwriting)
      rw [Channel.perform, Channel.send_of_writer hwriter hrefusal]
      simp only [Writer.writeFrame, hrefusal]
      rcases hall : Writer.writeAll (t.channel.transport.sink n) f.wire with ⟨_ | _, sink⟩
      · rw [hall] at hwritten
        exact h.fails hwritten
      · have hopen := (Sink.isClosed_writeAll _ f.wire).trans hsink
        rw [hall] at hwritten hopen
        have hflushed := h.flushes sink hopen hwritten
        dsimp only
        rcases hflush : Writer.flush sink with ⟨_ | _, sink'⟩
        · rw [hflush] at hflushed
          exact h.fails hflushed
        · rw [hflush] at hflushed
          exact hflushed

lemma Alone.sends (h : t.Alone who) (f : Frame) : t.Runs (· = .send f)
    (t.after who (.back (.send f) (t.channel.perform (.send f)).1)
      { t.toShared with channel := (t.channel.perform (.send f)).2 }) :=
  h.makes (.send f) (h.sending f)

/-- **A call that is left alone does what it does in one piece.** -/
theorem Alone.performs (h : t.Alone who) (call : Call)
    (hjoin : call = .terminate →
      who = .thread ∨ t.channel.joinable = false ∨ t.HasEnded t.held) :
    ∃ threads held, t.Runs (· = call) (t.after who (.back call (t.channel.perform call).1)
      { channel := (t.channel.perform call).2, threads, held }) := by
  cases call with
  | connect => exact h.connects
  | disconnect => exact ⟨_, _, h.disconnects⟩
  | terminate => exact ⟨_, _, h.terminates (hjoin rfl)⟩
  | send f => exact ⟨_, _, h.sends f⟩
  | last | register | unregister | relay => exact ⟨_, _, h.begins (.brief _ trivial)⟩

/-! ### The receive thread -/

/-- No party has a lock. -/
def Quiet (t : Traffic) : Prop := t.Everyone fun _ p => ¬ p.HasLink ∧ ¬ p.HasWriter

variable {d d' : Duty} {c' : Channel} {k : Nat}

lemma Quiet.apart (h : t.Quiet) (who : Party) : t.Apart who := fun w p hp => .inr (h w p hp)

lemma Quiet.after (h : t.Quiet) (hlink : ¬ next.point.HasLink) (hwriter : ¬ next.point.HasWriter) :
    (t.after who next s).Quiet := Everyone.after h ⟨hlink, hwriter⟩

lemma Quiet.turned (h : t.Quiet) (hd : d.point? = none) : (t.turned d c).Quiet :=
  Everyone.turned h fun p hp => by simp [hd] at hp

lemma Quiet.linkFree (h : t.Quiet) (hd : d.point? = none) (away : ¬ d.HasLink) :
    (t.turned d c).LinkFree :=
  ⟨fun w p hp => (h.turned hd w p hp).1, away⟩

lemma Quiet.writerFree (h : t.Quiet) (hd : d.point? = none) : (t.turned d c).WriterFree :=
  fun w p hp => (h.turned hd w p hp).2

lemma Quiet.retires (h : t.Quiet) (run : t.Runs may (t.turned .leaving c)) :
    t.Runs may (t.turned .idle c.retire) := by
  have hretiring := run.turns rfl (.leave (h.linkFree rfl id))
  unfold Channel.retire
  split
  · next n hclear hwaits => exact hretiring.turns rfl (.stay hclear hwaits)
  · next hdone =>
    have hgone : c.halted = true ∨ c.pending = none := by
      cases hh : c.halted with
      | true => exact .inl rfl
      | false =>
        cases hp : c.pending with
        | none => exact .inr rfl
        | some n => exact (hdone n hh hp).elim
    exact (hretiring.turns rfl (.retire hgone)).turns rfl .vacate

lemma Quiet.recovers (h : t.Quiet) (run : t.Runs may (t.turned .failed c)) :
    t.Runs may (t.turned .idle c.recover) := by
  have hlooked := run.turns rfl .look
  unfold Channel.recover
  split
  · next hh =>
    refine h.retires ?_
    change t.Runs may (t.turned (if c.halted then .leaving else .lost) c) at hlooked
    rwa [if_pos hh] at hlooked
  · next hh =>
    change t.Runs may (t.turned (if c.halted then .leaving else .lost) c) at hlooked
    rw [if_neg hh] at hlooked
    unfold Channel.takeOver
    split
    · next n hwaits => exact hlooked.turns rfl (.takeUp (h.linkFree rfl id) hwaits)
    · next hnone =>
      have hclosed := hlooked.turns rfl (.close (h.linkFree rfl id) hnone)
      exact (hclosed.turns rfl (.silence (h.writerFree rfl))).turns rfl .shown

lemma Quiet.attempts (h : t.Quiet) (hclear : c.halted = false)
    (run : t.Runs may (t.turned (.attempting k) c)) : t.Runs may (t.turned .idle (c.attempt k)) := by
  unfold Channel.attempt
  split
  · next n hwaits => exact run.turns rfl (.takeUpLate (h.linkFree rfl id) hwaits)
  · next hnone =>
    have hlocked := run.turns rfl (.lock (h.linkFree rfl id) hnone)
    have hchecked := hlocked.turns rfl .check
    change t.Runs may (t.turned (if c.halted then .leaving else .cleared k) c) at hchecked
    rw [hclear, if_neg Bool.false_ne_true] at hchecked
    have hannounced := hchecked.turns rfl .announce
    split
    · next n c' hopen =>
      have hhalted := Channel.halted_openLink (c.setState .connecting)
      rw [hopen] at hhalted
      have hopened := hannounced.turns rfl (.dial hopen)
      have hkept := hopened.turns rfl (.keep (hhalted.trans hclear))
      exact (hkept.turns rfl (.install (h.writerFree rfl))).turns rfl .reconnect
    · next e c' hopen => exact (hannounced.turns rfl (.dialInVain hopen)).turns rfl .wait

/-- **A turn of the thread that is left alone does what it does in one piece.** -/
theorem Quiet.turn (h : t.Quiet) (idle : t.duty = .idle) :
    match t.channel.turn with
    | (.heard f, c) => t.Runs may (t.turned (.passing f) (c.receive f))
    | (_, c) => t.Runs may (t.turned .idle c) := by
  have hstart : t.Runs may (t.turned .idle t.channel) := by
    have hsame : t.turned .idle t.channel = t := by
      rw [Traffic.turned, ← idle]
    rw [hsame]
    exact .refl
  unfold Channel.turn
  cases hr : t.channel.receiver with
  | ended => exact hstart
  | waiting k =>
    dsimp only
    unfold Channel.retry
    split
    · next hspent =>
      have hspent' : t.channel.config.isExhausted k = true ∨ t.channel.halted = true := by
        simpa using hspent
      exact h.retires (hstart.turns rfl (.giveUp hr hspent'))
    · next hleft =>
      obtain ⟨hleft, hclear⟩ : t.channel.config.isExhausted k = false ∧ t.channel.halted = false := by
        simpa using hleft
      exact h.attempts hclear (hstart.turns rfl (.delayed hr hleft hclear))
  | reading n scanner seen =>
    dsimp only
    rcases hread : t.channel.readOn n scanner seen with ⟨_ | _ | _, c⟩
    · exact hstart.turns rfl (.heard hr hread)
    · exact h.recovers (hstart.turns rfl (.broken hr hread))
    · exact hstart.turns rfl (.blocked hr hread)

/-- **A panic of the relay that is left alone does what it does in one piece.** -/
theorem Quiet.abandons (h : t.Quiet) (idle : t.duty = .relaying f .free) :
    t.Runs may (t.turned .idle t.channel.abandon) := by
  have hpanicked : t.Runs may (t.turned (.unwinding .begun) t.channel) :=
    .single (.turns idle .panicked)
  have hclosed := hpanicked.turns rfl (.unwind (h.linkFree rfl id))
  have hdone := (hclosed.turns rfl (.unwindWriter (h.writerFree rfl))).turns rfl .unwound
  have hsame : t.channel.abandon = { ({ t.channel.dropPending with
      receiving := false }.closeLink.dropWriter.setState .disconnected) with receiver := .ended } := by
    unfold Channel.abandon Channel.closeLink Channel.noteClosing
    dsimp only
    split <;> rfl
  rw [hsame]
  exact hdone

/-! ### A new channel -/

/-- A channel that no one has used yet. -/
def start (config : ChannelConfig) (name : String) (connects : List (Except TransportError Unit))
    (writes : List (Except IoError Nat)) (flushes : List (Except IoError Unit))
    (spawns : List (Except IoError Unit)) (leaves : Source → Source := fun _ => {}) : Traffic where
  channel := (Session.start config name connects writes flushes spawns leaves).channel

lemma start_free (config : ChannelConfig) (name : String)
    (connects : List (Except TransportError Unit)) (writes : List (Except IoError Nat))
    (flushes : List (Except IoError Unit)) (spawns : List (Except IoError Unit))
    (leaves : Source → Source) :
    (start config name connects writes flushes spawns leaves).Everyone fun _ p => p = .free := by
  intro w p hp
  cases w with
  | caller i => exact (Option.some.inj hp).symm
  | thread => simp [start, point, Duty.point?] at hp

lemma start_quiet (config : ChannelConfig) (name : String)
    (connects : List (Except TransportError Unit)) (writes : List (Except IoError Nat))
    (flushes : List (Except IoError Unit)) (spawns : List (Except IoError Unit)) :
    (start config name connects writes flushes spawns).Quiet := fun w p hp => by
  rw [start_free _ _ _ _ _ _ _ w p hp]
  exact ⟨id, id⟩

/-- A caller has connected on a new channel, and nothing else has happened. -/
def connected (writes : List (Except IoError Nat)) (threads held : Nat) : Traffic :=
  (start {} "far" [] writes [] []).after (.caller 0) (.back .connect .done)
    ⟨((start {} "far" [] writes [] []).channel.perform .connect).2, threads, held⟩

lemma runs_connected (writes : List (Except IoError Nat)) : ∃ threads held,
    (start {} "far" [] writes [] []).Runs (fun _ => True) (connected writes threads held) := by
  have hquiet := start_quiet {} "far" [] writes [] []
  have halone : (start {} "far" [] writes [] []).Alone (.caller 0) :=
    ⟨rfl, hquiet.apart _, id⟩
  obtain ⟨threads, held, run⟩ := halone.connects
  exact ⟨threads, held, run.mono fun _ _ => trivial⟩

lemma quiet_connected (writes : List (Except IoError Nat)) (threads held : Nat) :
    (connected writes threads held).Quiet :=
  (start_quiet {} "far" [] writes [] []).after id id

end Traffic

end FrameLink
