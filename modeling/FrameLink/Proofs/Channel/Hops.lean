import FrameLink.Proofs.Channel.Net
import FrameLink.Proofs.Channel.Torn

/-!
A frame on its way through the channel that it is relayed to.

Under the writer lock, the call finds a writer or none and takes the frame or refuses it; a frame that
was valid where it came in is not refused for its checksum. From there to the end of the call no one else
writes, and all that the link takes is what is left of the frame. So either the whole frame stands behind
what the link had, or the link has balked.
-/

namespace FrameLink

namespace Hop

/-- The call has found a writer, and the frame is not too long. -/
structure Accepted (l : Limits) (hop : Hop) (c : Channel) (n : Nat) : Prop where
  seen : hop.seen = some c
  writer : c.writer = some n
  fits : hop.frame.payload.length ≤ l.payload

/-- Where the call for the hop is, with what it has found and written so far. -/
inductive At (l : Limits) (t : Traffic) (who : Party) (hop : Hop) : Point → Prop where
  | begun (took : hop.balked = false) : At l t who hop (.send hop.frame .begun)
  | locked (took : hop.balked = false) : At l t who hop (.send hop.frame .locked)
  /-- The link was open when the writer was found, or it is shut and has taken nothing. -/
  | writing {c n rest} (accepted : hop.Accepted l c n) (took : hop.balked = false)
      (live : c.transport.current = some n ∨ t.Shut n ∧ rest = hop.frame.wire)
      (left : (t.channel.transport.link n).written ++ rest =
        (c.transport.link n).written ++ hop.frame.wire) : At l t who hop (.send hop.frame (.writing n rest))
  | flushing {c n} (accepted : hop.Accepted l c n) (took : hop.balked = false)
      (live : c.transport.current = some n)
      (whole : (t.channel.transport.link n).written =
        (c.transport.link n).written ++ hop.frame.wire) : At l t who hop (.send hop.frame (.flushing n))
  | failed {c n e} (accepted : hop.Accepted l c n) (balked : hop.balked = true) :
      At l t who hop (.send hop.frame (.failed e))
  | closing {c n e stage} (accepted : hop.Accepted l c n) (balked : hop.balked = true) :
      At l t who hop (.send hop.frame (.closing e stage))
  | back {r} (reply : (t.made who).getLast? = some (.send hop.frame, .ofExcept r))
      (fares : hop.Fares l r) : At l t who hop .free

variable {l : Limits} {hop : Hop} {t u : Traffic} {who w : Party} {p q : Point} {next : Next}
  {s : Shared} {c : Channel} {f : Frame} {n : Nat} {r : Except ChannelError Unit}

lemma Accepted.on {hop' : Hop} (h : hop.Accepted l c n) (frame : hop'.frame = hop.frame)
    (seen : hop'.seen = hop.seen) : hop'.Accepted l c n :=
  ⟨seen.trans h.seen, h.writer, frame ▸ h.fits⟩

/-- With a writer, a payload that fits and a link that takes everything, the frame gets through. -/
lemma Fares.done (h : hop.Fares l r) (seen : hop.seen = some c) (writer : c.writer = some n)
    (fits : hop.frame.payload.length ≤ l.payload) (took : hop.balked = false) :
    r = .ok () ∧ ∃ d, hop.left = some d ∧
      (d.transport.link n).written = (c.transport.link n).written ++ hop.frame.wire := by
  cases h with
  | away seen' none =>
    obtain rfl := Option.some.inj (seen'.symm.trans seen)
    exact absurd (none.symm.trans writer) (by simp)
  | tooLong _ _ long => exact absurd fits (Nat.not_le_of_lt long)
  | broken _ _ _ balked => exact absurd (balked.symm.trans took) (by simp)
  | through seen' writer' _ _ _ left written =>
    obtain rfl := Option.some.inj (seen'.symm.trans seen)
    obtain rfl := Option.some.inj (writer'.symm.trans writer)
    exact ⟨rfl, _, left, written⟩

lemma Fares.not_done (h : hop.Fares l r) (seen : hop.seen = some c)
    (why : (∀ k, c.writer = some k → c.transport.current ≠ some k) ∨
      l.payload < hop.frame.payload.length ∨ hop.balked = true) :
    r.isOk = false := by
  cases h with
  | away | tooLong | broken => rfl
  | through seen' writer live fits took =>
    obtain rfl := Option.some.inj (seen'.symm.trans seen)
    rcases why with away | long | balked
    · exact absurd live (away _ writer)
    · exact absurd fits (Nat.not_le_of_lt long)
    · exact absurd (balked.symm.trans took) (by simp)

lemma Fares.not_stale (h : hop.Fares l r) (kind : Kind) : r ≠ .error (.frame (.staleChecksum kind)) := by
  intro hr
  cases h with
  | away => split at hr <;> cases hr
  | _ => cases hr

/-- What a call has come back with is the last that its party has made. -/
lemma getLast?_made_after {call : Call} {reply : Reply} :
    ((t.after who (.back call reply) s).made who).getLast? = some (call, reply) := by
  rw [Traffic.made_after_self, Next.made, List.getLast?_concat]

/-- A valid frame is only refused for its size. -/
lemma refusal_of_valid {e : FrameError} (valid : f.IsValid) (refuses : l.refusal? f = some e) :
    l.payload < f.payload.length ∧ e = .payloadTooLarge f.payload.length l.payload := by
  unfold Limits.refusal? at refuses
  split at refuses
  · next long => exact ⟨long, (Option.some.inj refuses).symm⟩
  · cases refuses

lemma le_of_accepts (accepts : l.refusal? f = none) : f.payload.length ≤ l.payload := by
  unfold Limits.refusal? at accepts
  split at accepts
  · cases accepts
  · next fits => exact Nat.le_of_not_lt fits

/-- The link is offered what is left. -/
lemma At.wrote {rest : Bytes} (accepted : hop.Accepted l c n) (took : hop.balked = false)
    (live : c.transport.current = some n ∨ t.Shut n ∧ rest = hop.frame.wire)
    (left : (t.channel.transport.link n).written ++ rest =
      (c.transport.link n).written ++ hop.frame.wire) (more : rest ≠ [])
    (lt : ∀ m, t.channel.transport.current = some m → m < t.channel.transport.links.length) :
    let next := Next.on (.send hop.frame (.afterWrite n rest (t.channel.writeTo n rest).1))
    let s := { t.toShared with channel := (t.channel.writeTo n rest).2 }
    (hop.work t.channel (.send hop.frame (.writing n rest)) next s.channel).At l (t.after who next s) who
      next.point := by
  obtain ⟨x, rest, rfl⟩ := List.exists_cons_of_ne_nil more
  dsimp only
  have hwritten := Channel.written_writeTo lt n n (x :: rest)
  have hbalked : (hop.work t.channel (.send hop.frame (.writing n (x :: rest)))
      (.on (.send hop.frame (.afterWrite n (x :: rest) (t.channel.writeTo n (x :: rest)).1)))
      (t.channel.writeTo n (x :: rest)).2).balked =
        balksWrite (t.channel.writeTo n (x :: rest)).1 := by
    simp only [work, took, Bool.false_or, balks]
  rw [if_pos rfl] at hwritten
  cases hr : (t.channel.writeTo n (x :: rest)).1 with
  | ok k =>
    rw [hr] at hwritten hbalked
    cases k with
    | zero => exact .failed (accepted.on rfl rfl) hbalked
    | succ k =>
      have hopen : t.channel.transport.current = some n :=
        Channel.current_of_put (by rw [hr]; exact List.cons_ne_nil _ _)
      refine .writing (accepted.on rfl rfl) hbalked
        (.inl (live.resolve_right fun hshut => hshut.1.2 hopen)) ?_
      change ((t.channel.writeTo n (x :: rest)).2.transport.link n).written ++
        (x :: rest).drop (k + 1) = _
      rw [hwritten, List.append_assoc, Channel.put, List.take_append_drop]
      exact left
  | error e =>
    rw [hr] at hwritten hbalked
    by_cases hi : e.kind = .interrupted
    · rw [Sending.afterWrite, if_pos hi]
      refine .writing (accepted.on rfl rfl) ?_ (live.imp_right fun hshut => ⟨⟨?_, hshut.1.2⟩, hshut.2⟩) ?_
      · rw [Sending.afterWrite, if_pos hi] at hbalked
        rw [hbalked, balksWrite]
        simpa using hi
      · exact (Channel.length_writeTo t.channel n (x :: rest)).symm ▸ hshut.1.1
      · change ((t.channel.writeTo n (x :: rest)).2.transport.link n).written ++ _ = _
        rw [hwritten, Channel.put, List.append_nil]
        exact left
    · rw [Sending.afterWrite, if_neg hi] at hbalked ⊢
      refine .failed (accepted.on rfl rfl) ?_
      rw [hbalked, balksWrite]
      simpa using hi

/-- The link has all of the frame, and is flushed. -/
lemma At.flushed {d : Channel} (accepted : hop.Accepted l c n) (took : hop.balked = false)
    (live : c.transport.current = some n)
    (whole : (t.channel.transport.link n).written =
      (c.transport.link n).written ++ hop.frame.wire)
    (sends : t.Sends hop.frame (.flushing n) next d) :
    (hop.work t.channel (.send hop.frame (.flushing n)) next d).At l
      (t.after who next { t.toShared with channel := d }) who next.point := by
  have hbalked : (hop.work t.channel (.send hop.frame (.flushing n)) next d).balked =
      balksFlush (t.channel.flushTo n).1 := by
    simp only [work, took, Bool.false_or, balks]
  have hwritten : ((t.channel.flushTo n).2.transport.link n).written =
      (c.transport.link n).written ++ hop.frame.wire :=
    ((Channel.spares_flushTo t.channel n).written n).trans whole
  cases sends with
  | flush flushes =>
    rw [flushes] at hbalked hwritten
    exact .back (r := .ok ()) getLast?_made_after
      (.through accepted.seen accepted.writer live accepted.fits hbalked rfl hwritten)
  | @flushInVain _ e _ flushes =>
    rw [flushes] at hbalked hwritten
    by_cases hi : e.kind = .interrupted
    · rw [Sending.afterFlush, if_pos hi] at hbalked ⊢
      refine .flushing (accepted.on rfl rfl) ?_ live hwritten
      rw [hbalked, balksFlush]
      simpa using hi
    · rw [Sending.afterFlush, if_neg hi] at hbalked ⊢
      refine .failed (accepted.on rfl rfl) ?_
      rw [hbalked, balksFlush]
      simpa using hi

/-- **The call goes on with its frame.** -/
lemma At.acts (h : hop.At l t who p) (valid : hop.frame.IsValid) (limits : t.channel.config.limits = l)
    (ranged : t.Ranged) (acts : t.Acts who p next s) :
    (hop.work t.channel p next s.channel).At l (t.after who next s) who next.point := by
  cases h with
  | begun took =>
    obtain - | - | - | - | ⟨sends⟩ := acts
    cases sends with
    | lock => exact .locked (by simp [work, took, balks])
  | locked took =>
    obtain - | - | - | - | ⟨sends⟩ := acts
    cases sends with
    | deny none => exact .back getLast?_made_after (.away rfl none)
    | refuse writer refuses =>
      rw [limits] at refuses
      obtain ⟨long, rfl⟩ := refusal_of_valid valid refuses
      exact .back getLast?_made_after (.tooLong rfl writer long)
    | @accept n writer accepts =>
      have hlive : t.channel.transport.current = some n ∨ t.Shut n :=
        (em _).imp_right fun hshut => ⟨ranged.writer n writer, hshut⟩
      exact .writing ⟨rfl, writer, le_of_accepts (limits ▸ accepts)⟩ (by simp [work, took, balks])
        (hlive.imp_right fun hshut => ⟨hshut, rfl⟩) rfl
  | writing accepted took live left =>
    obtain - | - | - | - | ⟨sends⟩ := acts
    cases sends with
    | write more => exact At.wrote accepted took live left more ranged.current
    | written =>
      rw [List.append_nil] at left
      have hlive := live.resolve_right fun hshut => List.cons_ne_nil _ _ hshut.2.symm
      exact .flushing (accepted.on rfl rfl) (by simp [work, took, balks]) hlive left
  | flushing accepted took live whole =>
    obtain - | - | - | - | ⟨sends⟩ := acts
    exact At.flushed accepted took live whole sends
  | failed accepted balked =>
    obtain - | - | - | - | ⟨sends⟩ := acts
    cases sends with
    | halt =>
      exact .closing (accepted.on rfl rfl) (by simp [work, balked])
  | @closing c n e stage accepted balked =>
    obtain - | - | - | - | ⟨sends⟩ := acts
    cases sends with
    | close closes =>
      exact .closing (accepted.on rfl rfl) (by simp [work, balked])
    | finish =>
      exact .back (r := .error (.sendFailed e)) getLast?_made_after
        (.broken accepted.seen accepted.writer accepted.fits (by simp [work, balked]))
  | back => cases acts

/-- Nothing of it changes in a step as long as no one else writes. -/
lemma At.stays {may : Call → Prop} (h : hop.At l t who p) (hs : t.Step may u)
    (made : u.made who = t.made who)
    (written : p.Writes → ∀ n,
      (u.channel.transport.link n).written = (t.channel.transport.link n).written) :
    hop.At l u who p := by
  cases h with
  | begun took => exact .begun took
  | locked took => exact .locked took
  | writing accepted took live left =>
    exact .writing accepted took (live.imp_right fun hshut => ⟨hshut.1.step hs, hshut.2⟩)
      (by rw [written trivial, left])
  | flushing accepted took live whole =>
    exact .flushing accepted took live (by rw [written trivial, whole])
  | failed accepted balked => exact .failed accepted balked
  | closing accepted balked => exact .closing accepted balked
  | back reply fares => exact .back (made ▸ reply) fares

/-- No one else writes, because the call has the writer lock. -/
lemma At.beside (h : hop.At l t who p) (sole : t.Sole Point.HasWriter) (here : t.point who = some p)
    (other : w ≠ who) (there : t.point w = some q) (acts : t.Acts w q next s) :
    hop.At l (t.after w next s) who p := by
  have hs : t.Step (fun _ => True) (t.after w next s) := .acts there acts
  refine h.stays hs (Traffic.made_after_other other.symm) fun hp => ?_
  have hq : ¬ q.Writes := fun hq => other (sole w who q p there here hq.hasWriter hp.hasWriter)
  exact (acts.spares hq).written

end Hop

end FrameLink
