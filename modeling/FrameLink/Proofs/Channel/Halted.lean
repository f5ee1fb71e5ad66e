import FrameLink.Proofs.Channel.Calm

/-!
A channel that is halted for good.

`terminate` and a send that fails set the halt, then close the link under its lock, then drop the
writer. A receive thread that is about to reconnect looks at the halt under the same lock before it
opens a link, and once more before it keeps it. Whoever gets the lock last finds the halt set or closes
the link: nothing is taken up again after that.
-/

namespace FrameLink

/-- The calls that neither connect nor terminate. -/
def Call.IsMild : Call → Prop
  | .connect | .terminate => False
  | _ => True

/-- The party holds the writer lock and has not looked for the writer yet. -/
def Point.IsLocked : Point → Prop
  | .send _ .locked => True
  | _ => False

namespace Traffic

variable {t u : Traffic} {who w : Party} {p : Point} {next : Next} {s : Shared} {d d' : Duty}
  {c : Channel}

/-! ### What holds once the link is taken for good -/

lemma Begins.not_isConnect {call : Call} (h : t.Begins call next c) (hc : call.IsMild) :
    ¬ next.point.IsConnect := fun hn => by
  rw [h.isConnect hn] at hc
  exact hc

lemma Begins.not_isTerminate {call : Call} (h : t.Begins call next c) (hc : call.IsMild) :
    ¬ next.point.IsTerminate := fun hn => by
  rw [h.isTerminate hn] at hc
  exact hc

/-- Without a writer no one gets past the lock. -/
lemma Acts.isLocked (h : t.Acts who p next s) (hwriter : t.channel.writer = none)
    (hp : p.HasWriter → p.IsLocked) (hn : next.point.HasWriter) : next.point.IsLocked := by
  cases h with
  | connect acts => cases acts <;> exact hn.elim
  | disconnect | disconnected => exact hn.elim
  | terminate acts => cases acts <;> exact hn.elim
  | send sends =>
    cases sends with
    | lock => trivial
    | accept writer => exact absurd (hwriter.symm.trans writer) (by simp)
    | write | written | flushInVain => exact (hp trivial).elim
    | _ => exact hn.elim

/-- No one connects, and at most one party terminates. -/
def Orderly (t : Traffic) (who : Party) : Prop :=
  t.Everyone fun w p => ¬ p.IsConnect ∧ (p.IsTerminate → w = who)

/-- A party has the link lock for itself, and has closed the link. -/
structure Seized (t : Traffic) (who : Party) : Prop where
  halted : t.channel.halted = true
  current : t.channel.transport.current = none
  pending : t.channel.pending = none
  alone : t.Everyone fun w p => p.HasLink → w = who
  away : ¬ t.duty.HasLink

/-- There is no link and no writer, and no one is left who would open a link or write. -/
structure Still (t : Traffic) : Prop where
  halted : t.channel.halted = true
  current : t.channel.transport.current = none
  pending : t.channel.pending = none
  writer : t.channel.writer = none
  calls : t.Everyone fun _ p => ¬ p.IsConnect
  away : ¬ t.duty.Opens
  locked : t.Everyone fun _ p => p.HasWriter → p.IsLocked
  sole : t.Sole Point.HasWriter

/-- The channel shows that it is down, and no one is left who would show anything else. -/
structure Down (t : Traffic) : Prop extends t.Still where
  state : t.channel.state = .disconnected
  ends : t.Everyone fun _ p => ¬ p.IsTerminate

lemma Orderly.step (h : t.Orderly who) (hs : t.Step Call.IsMild u) : u.Orderly who := by
  cases hs with
  | begins allowed here begins =>
    exact h.after ⟨begins.not_isConnect allowed, fun hn => absurd hn (begins.not_isTerminate allowed)⟩
  | acts here acts =>
    obtain ⟨hconnect, hterminate⟩ := h _ _ here
    exact h.after ⟨fun hn => hconnect (acts.isConnect hn),
      fun hn => hterminate (acts.isTerminate hn)⟩
  | turns here turns =>
    refine h.turned fun q hq => ?_
    rw [turns.to_free hq]
    exact ⟨id, False.elim⟩
  | hears => exact h

lemma opens_after : (t.after who next s).duty.Opens ↔ t.duty.Opens := by
  cases who with
  | caller i => rfl
  | thread => exact Duty.opens_put _ _

lemma Still.after (h : t.Still) (here : t.point who = some p) (hcalm : t.channel.Calms s.channel)
    (hconnect : ¬ next.point.IsConnect) (hwriter : next.point.HasWriter → p.HasWriter ∨ t.WriterFree)
    (hlocked : next.point.HasWriter → next.point.IsLocked) : (t.after who next s).Still where
  halted := hcalm.halted h.halted
  current := hcalm.current h.current
  pending := hcalm.pending h.pending
  writer := hcalm.writer h.writer
  calls := h.calls.after hconnect
  away hd := h.away (opens_after.mp hd)
  locked := h.locked.after hlocked
  sole := h.sole.after here hwriter

lemma Still.begins {call : Call} (h : t.Still) (here : t.point who = some .free) (hc : call.IsMild)
    (begins : t.Begins call next c) : (t.after who next { t.toShared with channel := c }).Still :=
  h.after here begins.calms (begins.not_isConnect hc)
    (fun hn => absurd hn begins.hasWriter) fun hn => absurd hn begins.hasWriter

lemma Still.acts (h : t.Still) (here : t.point who = some p) (hp : p ≠ .terminate .halted)
    (acts : t.Acts who p next s) : (t.after who next s).Still :=
  h.after here (acts.calms (h.calls who p here) hp) (fun hn => h.calls who p here (acts.isConnect hn))
    acts.hasWriter (acts.isLocked h.writer (h.locked who p here))

lemma Still.turned (h : t.Still) (here : t.duty = d) (turns : t.Turns d d' c) :
    (t.turned d' c).Still := by
  have haway : ¬ d.Opens := here ▸ h.away
  have hcalm := turns.calms haway
  exact {
    halted := hcalm.halted h.halted
    current := hcalm.current h.current
    pending := hcalm.pending h.pending
    writer := hcalm.writer h.writer
    calls := h.calls.turned fun q hq => turns.to_free hq ▸ id
    away := turns.opens haway h.halted
    locked := h.locked.turned fun q hq => turns.to_free hq ▸ False.elim
    sole := h.sole.turned fun q hq => turns.to_free hq ▸ id }

lemma Still.hears (h : t.Still) (hears : t.channel.Hears c) :
    Still { t with channel := c } where
  halted := hears.calms.halted h.halted
  current := hears.calms.current h.current
  pending := hears.calms.pending h.pending
  writer := hears.calms.writer h.writer
  calls := h.calls
  away := h.away
  locked := h.locked
  sole := h.sole

/-- What a step changes of the channel when no one connects or terminates. -/
lemma Down.step_calms (h : t.Down) (hs : t.Step Call.IsMild u) : t.channel.Calms u.channel := by
  cases hs with
  | begins allowed here begins => exact begins.calms
  | acts here acts => exact acts.calms (h.calls _ _ here) fun hp => h.ends _ _ here (hp ▸ trivial)
  | turns here turns => exact turns.calms (here ▸ h.away)
  | hears hears => exact hears.calms

lemma Down.step (h : t.Down) (hs : t.Step Call.IsMild u) : u.Down := by
  have hstate := (h.step_calms hs).state h.state
  cases hs with
  | begins allowed here begins =>
    exact ⟨h.toStill.begins here allowed begins, hstate,
      h.ends.after (begins.not_isTerminate allowed)⟩
  | acts here acts =>
    have hends := h.ends _ _ here
    exact ⟨h.toStill.acts here (fun hp => hends (hp ▸ trivial)) acts, hstate,
      h.ends.after fun hn => hends (acts.isTerminate hn)⟩
  | turns here turns =>
    exact ⟨h.toStill.turned here turns, hstate, h.ends.turned fun q hq => turns.to_free hq ▸ id⟩
  | hears hears => exact ⟨h.toStill.hears hears, hstate, h.ends⟩

lemma Down.runs (h : t.Down) (hr : t.Runs Call.IsMild u) : u.Down ∧ t.channel.Calms u.channel := by
  induction hr with
  | refl => exact ⟨h, .refl _⟩
  | tail _ hs ih => exact ⟨ih.1.step hs, ih.2.trans (ih.1.step_calms hs)⟩

/-! ### The call that takes the link -/

/-- How far a call that takes the link has got with it, by where its party is. -/
def Abides (t : Traffic) (who : Party) : Point → Prop
  | .terminate .halted | .terminate .announced | .send _ (.closing _ .begun) =>
    t.channel.halted = true
  | .terminate .closed | .send _ (.closing _ .closed) => t.Seized who
  | .terminate .down | .terminate (.joining _) | .terminate .ending
  | .send _ (.closing _ .silenced) => t.Still
  | .terminate .begun | .send _ _ => True
  | _ => False

/-- The call halts the channel when it comes back like this. -/
def Halts : Call → Reply → Prop
  | .terminate, _ | .send _, .failed (.sendFailed _) => True
  | _, _ => False

/-- Once the lock is taken and the link closed, no one else gets at it. -/
lemma Seized.after (h : t.Seized who) (here : t.point w = some p) (hcalm : t.channel.Calms s.channel)
    (hlink : next.point.HasLink → p.HasLink ∨ t.LinkFree) (hheld : ¬ t.LinkFree) :
    (t.after w next s).Seized who where
  halted := hcalm.halted h.halted
  current := hcalm.current h.current
  pending := hcalm.pending h.pending
  alone := h.alone.after fun hn => (hlink hn).elim (h.alone w p here) fun hfree => absurd hfree hheld
  away := by simpa using h.away

lemma Seized.turned (h : t.Seized who) (here : t.duty = d) (turns : t.Turns d d' c)
    (hheld : ¬ t.LinkFree) : (t.turned d' c).Seized who := by
  have haway : ¬ d.HasLink := here ▸ h.away
  have hcalm := turns.calms fun hd => haway hd.hasLink
  exact {
    halted := hcalm.halted h.halted
    current := hcalm.current h.current
    pending := hcalm.pending h.pending
    alone := h.alone.turned fun q hq => turns.to_free hq ▸ False.elim
    away := fun hn => (turns.hasLink hn).elim haway hheld }

lemma Seized.hears (h : t.Seized who) (hears : t.channel.Hears c) :
    Seized { t with channel := c } who where
  halted := hears.calms.halted h.halted
  current := hears.calms.current h.current
  pending := hears.calms.pending h.pending
  alone := h.alone
  away := h.away

/-- A party that has closed the link has the lock. -/
lemma not_linkFree_of_hasLink (here : t.point who = some p) (hp : p.HasLink) : ¬ t.LinkFree :=
  fun hfree => hfree.1 who p here hp

/-- A step of another party does not set the call back. -/
lemma Abides.other {q : Point} (h : t.Abides who q) (here : t.point who = some q)
    (hhalted : t.channel.halted = true → u.channel.halted = true)
    (hseized : t.Seized who → ¬ t.LinkFree → u.Seized who) (hstill : t.Still → u.Still) :
    u.Abides who q := by
  have hlink (hq : q.HasLink) (hs : t.Seized who) : u.Seized who :=
    hseized hs (not_linkFree_of_hasLink here hq)
  cases q with
  | terminate stage =>
    cases stage with
    | begun => trivial
    | halted | announced => exact hhalted h
    | closed => exact hlink trivial h
    | down | joining | ending => exact hstill h
  | send f stage =>
    cases stage with
    | closing e stage =>
      cases stage with
      | begun => exact hhalted h
      | closed => exact hlink trivial h
      | silenced => exact hstill h
    | _ => trivial
  | _ => exact h.elim

lemma seized_after (free : t.LinkFree) (hh : t.channel.halted = true) :
    (t.after who next { t.toShared with channel := t.channel.dropPending.closeLink }).Seized who where
  halted := (Channel.calms_closeLink t.channel.dropPending).halted hh
  current := Channel.current_closeLink _
  pending := (Channel.calms_closeLink t.channel.dropPending).pending rfl
  alone := Everyone.after (fun w q hq hlink => absurd hlink (free.1 w q hq)) fun _ => rfl
  away := by simpa using free.2

lemma Seized.still_after (h : t.Seized who) (horder : t.Orderly who) (free : t.WriterFree)
    (hconnect : ¬ next.point.IsConnect) (hwriter : ¬ next.point.HasWriter) :
    (t.after who next { t.toShared with channel := t.channel.dropWriter }).Still where
  halted := h.halted
  current := h.current
  pending := h.pending
  writer := rfl
  calls := Everyone.after (fun w q hq => (horder w q hq).1) hconnect
  away hd := h.away (opens_after.mp hd).hasLink
  locked := Everyone.after (fun w q hq hw => absurd hw (free w q hq)) fun hn => absurd hn hwriter
  sole := by
    have hnone : (t.after who next { t.toShared with channel := t.channel.dropWriter }).Everyone
        fun _ q => ¬ q.HasWriter := free.after hwriter
    exact fun w w' q q' hq hq' hw hw' => absurd hw (hnone w q hq)

lemma Still.down_after {call : Call} {r : Reply} (h : t.Still) (here : t.point who = some p)
    (horder : t.Orderly who) :
    (t.after who (.back call r)
      { t.toShared with channel := t.channel.setState .disconnected }).Down where
  toStill := h.after here (Channel.calms_show _) id False.elim False.elim
  state := rfl
  ends := by
    intro w q hq hterminate
    have hafter : (t.after who (.back call r)
        { t.toShared with channel := t.channel.setState .disconnected }).Everyone
        fun w q => q.IsTerminate → w = who :=
      Everyone.after (fun w q hq => (horder w q hq).2) fun _ => rfl
    obtain rfl := hafter w q hq hterminate
    rw [point_after_self, here] at hq
    obtain rfl := Option.some.inj hq
    exact hterminate

/-- The section of the call itself takes it further. -/
lemma Abides.acts (h : t.Abides who p) (here : t.point who = some p) (horder : t.Orderly who)
    (acts : t.Acts who p next s) :
    (∃ q, next = .on q ∧ (t.after who next s).Abides who q) ∨
    ∃ call r, next = .back call r ∧ (Halts call r → (t.after who next s).Down) := by
  cases acts with
  | connect | disconnect | disconnected => exact h.elim
  | terminate acts =>
    cases acts with
    | halt => exact .inl ⟨_, rfl, by simp [Abides, Channel.setHalted]⟩
    | announce => exact .inl ⟨_, rfl, by simpa [Abides, Channel.setState] using h⟩
    | close free => exact .inl ⟨_, rfl, seized_after free h⟩
    | silence free => exact .inl ⟨_, rfl, Seized.still_after h horder free id id⟩
    | join other joinable =>
      exact .inl ⟨_, rfl, Still.acts h here (by simp) (.terminate (.join other joinable))⟩
    | skip none => exact .inl ⟨_, rfl, Still.acts h here (by simp) (.terminate (.skip none))⟩
    | joined ended => exact .inl ⟨_, rfl, Still.acts h here (by simp) (.terminate (.joined ended))⟩
    | finish => exact .inr ⟨_, _, rfl, fun _ => Still.down_after h here horder⟩
  | send acts =>
    cases acts with
    | lock | accept | written => exact .inl ⟨_, rfl, trivial⟩
    | deny =>
      refine .inr ⟨_, _, rfl, fun hhalts => ?_⟩
      split at hhalts <;> exact hhalts.elim
    | refuse | flush => exact .inr ⟨_, _, rfl, False.elim⟩
    | write =>
      refine .inl ⟨_, rfl, ?_⟩
      unfold Sending.afterWrite
      repeat' split
      all_goals trivial
    | flushInVain =>
      refine .inl ⟨_, rfl, ?_⟩
      unfold Sending.afterFlush
      split <;> trivial
    | halt => exact .inl ⟨_, rfl, by simp [Abides, Channel.setHalted]⟩
    | close closes =>
      cases closes with
      | close free => exact .inl ⟨_, rfl, seized_after free h⟩
      | silence free => exact .inl ⟨_, rfl, Seized.still_after h horder free id id⟩
    | finish closes =>
      cases closes with
      | shown => exact .inr ⟨_, _, rfl, fun _ => Still.down_after h here horder⟩

/-- The call of a party, which had made some calls before, is on its way to a halt or has come back;
if it has halted the channel, the channel is down. -/
def Course (who : Party) (before : List (Call × Reply)) (t : Traffic) : Prop :=
  (t.made who = before ∧ ∃ p, t.point who = some p ∧ t.Abides who p) ∨
  ∃ call r rest, t.made who = before ++ (call, r) :: rest ∧ (Halts call r → t.Down)

lemma Course.own {before : List (Call × Reply)} (horder : t.Orderly who)
    (hmade : t.made who = before) (here : t.point who = some p) (habides : t.Abides who p)
    (acts : t.Acts who p next s) : Course who before (t.after who next s) := by
  rcases habides.acts here horder acts with ⟨q, rfl, hnext⟩ | ⟨call, r, rfl, hdown⟩
  · refine .inl ⟨?_, q, ?_, hnext⟩
    · rw [made_after_self, hmade]
      exact List.append_nil _
    · rw [point_after_self, here]
      rfl
  · refine .inr ⟨call, r, [], ?_, hdown⟩
    rw [made_after_self, hmade]
    rfl

/-- A section of another party, in a call or at its beginning, leaves the call on its course. -/
lemma Course.other {before : List (Call × Reply)} {q : Point} (hmade : t.made who = before)
    (here : t.point who = some q) (habides : t.Abides who q) (hne : who ≠ w)
    (hw : t.point w = some p) (hcalm : t.channel.Calms s.channel)
    (hlink : next.point.HasLink → p.HasLink ∨ t.LinkFree)
    (hstill : t.Still → (t.after w next s).Still) : Course who before (t.after w next s) := by
  refine .inl ⟨(made_after_other hne).trans hmade, q, (point_after_other hne).trans here, ?_⟩
  exact habides.other here hcalm.halted (fun hs hheld => hs.after hw hcalm hlink hheld) hstill

lemma Course.step {before : List (Call × Reply)} (h : Course who before t) (horder : t.Orderly who)
    (hs : t.Step Call.IsMild u) : Course who before u := by
  rcases h with ⟨hmade, q, here, habides⟩ | ⟨call, r, rest, hmade, hdown⟩
  · cases hs with
    | begins allowed hw begins =>
      refine .other hmade here habides ?_ hw begins.calms (fun hn => absurd hn begins.hasLink)
        fun hstill => hstill.begins hw allowed begins
      -- The party of the call is not free to begin another one.
      rintro rfl
      obtain rfl := Option.some.inj (hw.symm.trans here)
      exact habides
    | @acts w p next s hw acts =>
      by_cases heq : who = w
      · subst heq
        obtain rfl := Option.some.inj (hw.symm.trans here)
        exact .own horder hmade here habides acts
      · obtain ⟨hconnect, hterminate⟩ := horder w p hw
        have hp : p ≠ .terminate .halted := fun hp => heq (hterminate (hp ▸ trivial)).symm
        exact .other hmade here habides heq hw (acts.calms hconnect hp) acts.hasLink
          fun hstill => hstill.acts hw hp acts
    | turns hd turns =>
      cases who with
      | thread =>
        -- The thread does not turn while a handler is in the call.
        subst hd
        obtain rfl := turns.from_free here
        exact habides.elim
      | caller i =>
        exact .inl ⟨hmade, q, here, habides.other here turns.halted
          (fun hs hheld => hs.turned hd turns hheld) fun hs => hs.turned hd turns⟩
    | hears hears =>
      exact .inl ⟨hmade, q, here, habides.other here hears.calms.halted
        (fun hs _ => hs.hears hears) fun hs => hs.hears hears⟩
  · obtain ⟨more, hmore⟩ := hs.made who
    refine .inr ⟨call, r, rest ++ more, ?_, fun hhalts => (hdown hhalts).step hs⟩
    rw [hmore, hmade, List.append_assoc, List.cons_append]

lemma Course.runs {before : List (Call × Reply)} (h : Course who before t) (horder : t.Orderly who)
    (hr : t.Runs Call.IsMild u) : u.Orderly who ∧ Course who before u := by
  induction hr with
  | refl => exact ⟨horder, h⟩
  | tail _ hs ih => exact ⟨ih.1.step hs, ih.2.step ih.1 hs⟩

/-! ### Sends on a channel that is down -/

/-- The send of a party, which had made some calls before, has not looked for the writer yet, or it was
told that the channel is halted. -/
def Denied (w : Party) (f : Frame) (before : List (Call × Reply)) (t : Traffic) : Prop :=
  (t.made w = before ∧ (t.point w = some (.send f .begun) ∨ t.point w = some (.send f .locked))) ∨
  ∃ rest, t.made w = before ++ (.send f, .failed .halted) :: rest

variable {before : List (Call × Reply)} {f : Frame}

lemma Still.deny (h : t.Still) (here : t.point w = some (.send f .locked)) (may : Call → Prop) :
    t.Step may (t.after w (.back (.send f) (.failed .halted)) t.toShared) := by
  have hstep : t.Step may _ := .acts here (.send (.deny h.writer))
  rwa [if_pos h.halted] at hstep

/-- Without a writer a send has one way to go. -/
lemma Still.send_acts (h : t.Still) (hp : p = .send f .begun ∨ p = .send f .locked)
    (acts : t.Acts who p next s) :
    next = .on (.send f .locked) ∨ next = .back (.send f) (.failed .halted) := by
  rcases hp with rfl | rfl
  · obtain - | - | - | - | ⟨sends⟩ := acts
    cases sends with
    | lock => exact .inl rfl
  · obtain - | - | - | - | ⟨sends⟩ := acts
    cases sends with
    | deny => exact .inr (by rw [if_pos h.halted])
    | refuse writer | accept writer => exact absurd (h.writer.symm.trans writer) (by simp)

lemma Denied.step (h : Denied w f before t) (hstill : t.Still) {may : Call → Prop}
    (hs : t.Step may u) : Denied w f before u := by
  rcases h with ⟨hmade, here⟩ | ⟨rest, hmade⟩
  · have hother {w' : Party} {next : Next} {s : Shared} (heq : w ≠ w') :
        Denied w f before (t.after w' next s) := by
      have hpoint : (t.after w' next s).point w = t.point w := point_after_other heq
      rw [← hpoint] at here
      exact .inl ⟨(made_after_other heq).trans hmade, here⟩
    cases hs with
    | begins allowed hw begins =>
      refine hother ?_
      rintro rfl
      simp [hw] at here
    | @acts w' p next s hw acts =>
      by_cases heq : w = w'
      · subst heq
        rw [hw, Option.some.injEq, Option.some.injEq] at here
        rcases hstill.send_acts here acts with rfl | rfl
        · refine .inl ⟨?_, .inr ?_⟩
          · rw [made_after_self, hmade]
            exact List.append_nil _
          · rw [point_after_self, hw]
            rfl
        · refine .inr ⟨[], ?_⟩
          rw [made_after_self, hmade]
          rfl
      · exact hother heq
    | turns hd turns =>
      cases w with
      | thread =>
        subst hd
        rcases here with here | here <;> exact absurd (turns.from_free here) (by simp)
      | caller i => exact .inl ⟨hmade, here⟩
    | hears => exact .inl ⟨hmade, here⟩
  · obtain ⟨more, hmore⟩ := hs.made w
    refine .inr ⟨rest ++ more, ?_⟩
    rw [hmore, hmade, List.append_assoc, List.cons_append]

lemma Denied.runs (h : Denied w f before t) (hdown : t.Down) (hr : t.Runs Call.IsMild u) :
    Denied w f before u := by
  induction hr with
  | refl => exact h
  | tail hr hs ih => exact ih.step (hdown.runs hr).1.toStill hs

/-- Whoever has the writer lock gives it back. -/
lemma Still.runs_to_free (h : t.Still) (may : Call → Prop)
    (here : t.point w = some (.send f .begun)) :
    ∃ u, t.Runs may u ∧ u.Still ∧ u.WriterFree ∧ u.point w = t.point w ∧ u.made w = t.made w := by
  by_cases hfree : t.WriterFree
  · exact ⟨t, .refl, h, hfree, rfl, rfl⟩
  obtain ⟨w', p, hp, hheld⟩ : ∃ w' p, t.point w' = some p ∧ p.HasWriter := by
    simpa [WriterFree, Everyone] using hfree
  obtain ⟨g, rfl⟩ : ∃ g, p = .send g .locked := by
    have hlocked := h.locked w' p hp hheld
    cases p with
    | send g stage => cases stage <;> first | exact ⟨g, rfl⟩ | exact hlocked.elim
    | _ => exact hlocked.elim
  have hne : w ≠ w' := by
    rintro rfl
    simp [here] at hp
  refine ⟨_, .single (h.deny hp may), ?_, ?_, point_after_other hne, made_after_other hne⟩
  · have hacts := h.acts hp (by simp) (.send (.deny h.writer))
    rwa [if_pos h.halted] at hacts
  · intro v q hq hqw
    by_cases hv : v = w'
    · subst hv
      rw [point_after_self, hp] at hq
      obtain rfl := Option.some.inj hq
      exact hqw
    · rw [point_after_other hv] at hq
      exact hv (h.sole v w' q _ hq hp hqw hheld)

/-- A send that has not been answered yet can be. -/
lemma Denied.answered (h : Denied w f before t) (hstill : t.Still) (may : Call → Prop) :
    ∃ u, t.Runs may u ∧ ∃ rest, u.made w = before ++ (.send f, .failed .halted) :: rest := by
  -- From behind the lock it is one step.
  have hlocked {v : Traffic} (hv : v.Still) (hmade : v.made w = before)
      (here : v.point w = some (.send f .locked)) :
      ∃ u, v.Runs may u ∧ ∃ rest, u.made w = before ++ (.send f, .failed .halted) :: rest := by
    refine ⟨_, .single (hv.deny here may), [], ?_⟩
    rw [made_after_self, hmade]
    rfl
  rcases h with ⟨hmade, here | here⟩ | hanswered
  · obtain ⟨v, hrun, hv, hfree, hpoint, hsame⟩ := hstill.runs_to_free may here
    have hbegun := hpoint.trans here
    have hlock : v.Acts w (.send f .begun) (.on (.send f .locked)) v.toShared := .send (.lock hfree)
    obtain ⟨u, hu, hanswered⟩ := hlocked (hv.acts hbegun (by simp) hlock)
      ((made_after_self.trans (List.append_nil _)).trans (hsame.trans hmade))
      (by rw [point_after_self, hbegun]; rfl)
    exact ⟨u, hrun.trans (.head (.acts hbegun hlock) hu), hanswered⟩
  · exact hlocked hstill hmade here
  · exact ⟨t, .refl, hanswered⟩

end Traffic

/-- The channel is halted, shows that it is down, and holds nothing. -/
structure Channel.IsDown (c : Channel) : Prop where
  halted : c.halted = true
  state : c.state = .disconnected
  current : c.transport.current = none
  pending : c.pending = none
  writer : c.writer = none

namespace Traffic

/-- **A halted channel stays down.** A call to terminate, or a send that fails, has come back, and no
one else connects or terminates meanwhile or later. Then, in whatever order everyone goes on, the
channel is down, the receive thread is not about to open a link, nothing more is to be seen outside (no
attempt to open a link, no byte written), and every send that has not got the writer lock yet is told
that the channel is halted. -/
theorem halted_stays_down {call : Call} {r : Reply} {rest : List (Call × Reply)} {s : Traffic}
    (begun : s.point who = some (.terminate .begun) ∨ ∃ f, s.point who = some (.send f .begun))
    (order : s.Orderly who) (run : s.Runs Call.IsMild t)
    (back : t.made who = s.made who ++ (call, r) :: rest) (halts : Halts call r)
    (later : t.Runs Call.IsMild u) :
    u.channel.IsDown ∧ ¬ u.duty.Opens ∧ u.channel.trace = t.channel.trace ∧
      u.channel.transport.written = t.channel.transport.written ∧
      ∀ w f v, u.point w = some (.send f .begun) → u.Runs Call.IsMild v →
        (∀ call r more, v.made w = u.made w ++ (call, r) :: more →
          call = .send f ∧ r = .failed .halted) ∧
        ∃ x, v.Runs (fun _ => False) x ∧
          ∃ more, x.made w = u.made w ++ (.send f, .failed .halted) :: more := by
  have hcourse : Course who (s.made who) s := by
    rcases begun with here | ⟨f, here⟩ <;> exact .inl ⟨rfl, _, here, trivial⟩
  have hdown : t.Down := by
    rcases (hcourse.runs order run).2 with ⟨hmade, -⟩ | ⟨call', r', rest', hmade, hdown⟩
    · simp [back] at hmade
    · obtain ⟨⟨rfl, rfl⟩, -⟩ : (call = call' ∧ r = r') ∧ rest = rest' := by
        simpa [back] using hmade
      exact hdown halts
  obtain ⟨hlater, hcalm⟩ := hdown.runs later
  refine ⟨⟨hlater.halted, hlater.state, hlater.current, hlater.pending, hlater.writer⟩,
    hlater.away, hcalm.trace hdown.current, hcalm.written hdown.current, fun w f v here hr => ?_⟩
  have hdenied : Denied w f (u.made w) v := Denied.runs (.inl ⟨rfl, .inl here⟩) hlater hr
  refine ⟨fun call r more hmore => ?_, hdenied.answered (hlater.runs hr).1.toStill _⟩
  rcases hdenied with ⟨hmade, -⟩ | ⟨more', hmade⟩
  · simp [hmade] at hmore
  · obtain ⟨⟨rfl, rfl⟩, -⟩ : (Call.send f = call ∧ Reply.failed .halted = r) ∧ more' = more := by
      simpa [hmade] using hmore
    exact ⟨rfl, rfl⟩

/-- The receive thread has just opened a link again, one caller begins to terminate and another one to
send. -/
def reopening : Traffic where
  channel := {
    transport := { name := "far", links := [{ inbound := {} }, {}], current := some 1 }
    receiving := true, state := .connecting, joinable := true, receiver := .waiting 0 }
  threads := 1
  held := 1
  duty := .opened 1
  callers
    | 0 => .terminate .begun
    | 1 => .send (Frame.empty Kind.shutDown) .begun
    | _ => .free

/-- The thread finds the halt, and closes its link before the caller gets the lock. -/
theorem halted_stays_down_reopening :
    ∃ t, reopening.Runs Call.IsMild t ∧ t.made (.caller 0) = [(.terminate, .done)] ∧
      t.channel.IsDown ∧
      ∃ v, t.Runs (fun _ => False) v ∧
        ∃ more, v.made (.caller 1) = (.send (Frame.empty Kind.shutDown), .failed .halted) :: more := by
  have others (w : Party) (p : Point) (hp : reopening.point w = some p) :
      w = .caller 0 ∨ p = .send (Frame.empty Kind.shutDown) .begun ∨ p = .free := by
    match w with
    | .thread => exact absurd hp (by simp [reopening, point, Duty.point?])
    | .caller 0 => exact .inl rfl
    | .caller 1 => exact .inr (.inl (Option.some.inj hp).symm)
    | .caller (_ + 2) => exact .inr (.inr (Option.some.inj hp).symm)
  have order : reopening.Orderly (.caller 0) := by
    intro w p hp
    rcases others w p hp with rfl | rfl | rfl
    · obtain rfl := Option.some.inj hp
      exact ⟨id, fun _ => rfl⟩
    all_goals exact ⟨id, False.elim⟩
  have apart : reopening.Apart (.caller 0) := by
    intro w p hp
    rcases others w p hp with rfl | rfl | rfl
    · exact .inl rfl
    all_goals exact .inr ⟨id, id⟩
  have begun : reopening.Runs Call.IsMild reopening := .refl
  have announced := (begun.acts (.caller 0) rfl (.terminate .halt)).acts (.caller 0) rfl
    (.terminate .announce)
  have aborted := announced.turns rfl (.abort rfl)
  have leaving : Duty.leaving.point? = none := rfl
  have closed := aborted.acts (.caller 0) rfl
    (.terminate (.close ((apart.after.after.turned leaving).linkFree rfl id id)))
  have silenced := closed.acts (.caller 0) rfl
    (.terminate (.silence ((apart.after.after.turned leaving).after.writerFree rfl id)))
  have joining := silenced.acts (.caller 0) rfl (.terminate (.join (by simp) rfl))
  have left := joining.turns rfl
    (.leave ((apart.after.after.turned leaving).after.after.after.linkFree rfl id id))
  have retired := (left.turns rfl (.retire (.inl rfl))).turns rfl .vacate
  have joined := retired.acts (.caller 0) rfl (.terminate (.joined (.inr ⟨rfl, rfl⟩)))
  have finished := joined.acts (.caller 0) rfl (.terminate .finish)
  have back (t : Traffic) (h : t.made (.caller 0) = [(.terminate, .done)]) :
      t.made (.caller 0) = reopening.made (.caller 0) ++ (Call.terminate, Reply.done) :: [] := h
  obtain ⟨down, -, -, -, sends⟩ :=
    halted_stays_down (.inl rfl) order finished (back _ rfl) trivial .refl
  exact ⟨_, finished, rfl, down, (sends (.caller 1) _ _ rfl .refl).2⟩

end Traffic

end FrameLink
