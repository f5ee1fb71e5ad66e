import FrameLink.Proofs.Channel.Alone

/-!
A send that fails while another party connects.

Each takes two sections: the send sets the halt and then takes the link down, the connect clears the halt
and then brings a link up. Whoever gets the link lock last decides what becomes of the link, and whoever
gets to the halt last what becomes of that. The two come out as if one call had waited for the other,
unless the send had set the halt and the connect had cleared it before either had got the link lock.
-/

namespace FrameLink

namespace Wiring

/-- A link is open and written to, and the channel shows it. -/
structure IsUp (w : Wiring) (n : Nat) : Prop where
  current : w.current = some n
  writer : w.writer = some n
  state : w.state = .connected

/-- No link is open or written to, and the channel shows it. -/
structure IsClosed (w : Wiring) : Prop where
  current : w.current = none
  writer : w.writer = none
  state : w.state = .disconnected

end Wiring

namespace Point

/-- The party sends, and has not set the halt. -/
def IsUnhalted : Point → Prop
  | .send _ (.closing _ _) => False
  | .send _ _ => True
  | _ => False

/-- How far a send that has failed has got with the link that it closes. -/
def Lowers (w : Wiring) : Point → Prop
  | .send _ (.closing _ .closed) => w.current = none
  | .send _ (.closing _ .silenced) => w.current = none ∧ w.writer = none
  | .free => w.IsClosed
  | _ => False

/-- How far a connect has got with the link of a number. -/
def Raises (n : Nat) (w : Wiring) : Point → Prop
  | .connect .begun | .connect .cleared | .connect .locked | .connect .announced =>
    w.sources.length = n
  | .connect (.opened m) => m = n ∧ w.sources.length = n + 1 ∧ w.current = some n
  | .connect (.installed m) =>
    m = n ∧ w.sources.length = n + 1 ∧ w.current = some n ∧ w.writer = some n
  | .connect (.unread _) | .connect .started | .free => w.sources.length = n + 1 ∧ w.IsUp n
  | _ => False

/-- The party sends, or has come back. -/
def IsSend : Point → Prop
  | .send _ _ | .free => True
  | _ => False

/-- The party connects, or has come back. -/
def IsDial : Point → Prop
  | .connect _ | .free => True
  | _ => False

/-- The party connects, and will not get a link up. -/
def IsVain : Point → Prop
  | .connect (.refused _) | .connect (.unstarted _) | .connect (.silenced _) => True
  | _ => False

end Point

/-- Where a send that fails and a connect of the link of a number can be at once, and how they leave the
channel. What the halt is cannot be told once they have crossed. -/
inductive Serial (n : Nat) (crossed : Prop) (w : Wiring) : Point → Point → Prop where
  | fresh {p} (early : p.IsUnhalted) (length : w.sources.length = n) :
      Serial n crossed w p (.connect .begun)
  | connecting {p q} (early : p.IsUnhalted) (cleared : q ≠ .connect .begun) (raises : q.Raises n w)
      (clear : w.halted = false ∨ crossed) : Serial n crossed w p q
  | halting {f e} (length : w.sources.length = n) (halted : w.halted = true ∨ crossed) :
      Serial n crossed w (.send f (.closing e .begun)) (.connect .begun)
  | crossing {f e} (length : w.sources.length = n) (both : crossed) :
      Serial n crossed w (.send f (.closing e .begun)) (.connect .cleared)
  | failing {f e q} (holds : q.HasLink ∨ q = .free) (raises : q.Raises n w)
      (halted : w.halted = true ∨ crossed) : Serial n crossed w (.send f (.closing e .begun)) q
  | failed {p} (lowers : p.Lowers w) (length : w.sources.length = n + 1)
      (halted : w.halted = true ∨ crossed) : Serial n crossed w p .free
  | halted {p} (lowers : p.Lowers w) (length : w.sources.length = n)
      (halted : w.halted = true ∨ crossed) : Serial n crossed w p (.connect .begun)
  | clearing {p} (lowers : p.Lowers w) (length : w.sources.length = n)
      (clear : w.halted = false ∨ crossed) : Serial n crossed w p (.connect .cleared)
  | reconnecting {q} (holds : q.HasLink ∨ q = .free) (raises : q.Raises n w)
      (clear : w.halted = false ∨ crossed) : Serial n crossed w .free q

lemma Serial.sender {n : Nat} {crossed : Prop} {w : Wiring} {p q : Point}
    (h : Serial n crossed w p q) : p.IsSend := by
  cases h with
  | fresh early | connecting early => cases p <;> trivial
  | failed lowers | halted lowers | clearing lowers => cases p <;> trivial
  | _ => trivial

lemma Serial.caller {n : Nat} {crossed : Prop} {w : Wiring} {p q : Point}
    (h : Serial n crossed w p q) : q.IsDial := by
  cases h with
  | connecting _ _ raises | failing _ raises | reconnecting _ raises =>
    cases q <;> trivial
  | _ => trivial

lemma Serial.mono {n : Nat} {crossed crossed' : Prop} {w : Wiring} {p q : Point}
    (h : Serial n crossed w p q) (hmono : crossed → crossed') : Serial n crossed' w p q := by
  cases h with
  | fresh early length => exact .fresh early length
  | connecting early cleared raises clear =>
    exact .connecting early cleared raises (clear.imp_right hmono)
  | halting length halted => exact .halting length (halted.imp_right hmono)
  | crossing length both => exact .crossing length (hmono both)
  | failing holds raises halted => exact .failing holds raises (halted.imp_right hmono)
  | failed lowers length halted => exact .failed lowers length (halted.imp_right hmono)
  | halted lowers length halted => exact .halted lowers length (halted.imp_right hmono)
  | clearing lowers length clear => exact .clearing lowers length (clear.imp_right hmono)
  | reconnecting holds raises clear => exact .reconnecting holds raises (clear.imp_right hmono)

/-- The send has set the halt, the connect has cleared it, and neither has got the link lock. -/
def Crossing : Point → Point → Prop
  | .send _ (.closing _ .begun), .connect .cleared => True
  | _, _ => False

/-- The send comes back, and has not failed. -/
def Next.Spares : Next → Prop
  | .back (.send _) (.failed (.sendFailed _)) => False
  | .back _ _ => True
  | .on _ => False

namespace Traffic

/-- The call that has come back to a party last, which is not in another one. -/
def Returned (t : Traffic) (who : Party) (x : Call × Reply) : Prop :=
  t.point who = some .free ∧ (t.made who).getLast? = some x

/-- The send has not failed, or the connect has not got a link up or will not. -/
def Missed (t : Traffic) (a b : Party) : Prop :=
  (t.point a = some .free ∧ ∀ f e, (t.made a).getLast? ≠ some (.send f, .failed (.sendFailed e))) ∨
    (∃ q, t.point b = some q ∧ q.IsVain) ∨
    t.point b = some .free ∧ (t.made b).getLast? ≠ some (.connect, .done)

/-- A send of one party and a connect of another are on their way to be serial. -/
def Abreast (t : Traffic) (a b : Party) (n : Nat) (crossed : Prop) : Prop :=
  ∃ p q, t.point a = some p ∧ t.point b = some q ∧ Serial n crossed t.channel.wiring p q

/-- The two are crossing. -/
def Crosses (t : Traffic) (a b : Party) : Prop :=
  ∃ p q, t.point a = some p ∧ t.point b = some q ∧ Crossing p q

variable {t u : Traffic} {who a b : Party} {p q : Point} {next : Next} {s : Shared} {c : Channel}
  {n : Nat} {crossed crossed' : Prop} {f : Frame} {stage : Sending} {w : Wiring}

/-! ### The sections of a send -/

/-- Before it sets the halt a send changes nothing that is shared but what is written. -/
lemma Sends.early (h : t.Sends f stage next c) (hp : (Point.send f stage).IsUnhalted) :
    c.wiring = t.channel.wiring ∧ (next.point.IsUnhalted ∨ next.Spares) ∨
      (∃ e, next = .on (.send f (.closing e .begun))) ∧
        c.wiring = { t.channel.wiring with halted := true } := by
  have hflush {n r c} (flushes : t.channel.flushTo n = (r, c)) : c.wiring = t.channel.wiring := by
    obtain ⟨-, rfl⟩ := Prod.mk.inj flushes
    exact Channel.wiring_noteWritten _ _ _
  cases h with
  | lock | accept | written => exact .inl ⟨rfl, .inl trivial⟩
  | deny =>
    refine .inl ⟨rfl, .inr ?_⟩
    split <;> trivial
  | refuse => exact .inl ⟨rfl, .inr trivial⟩
  | @write n rest more =>
    refine .inl ⟨Channel.wiring_noteWritten _ _ _, .inl ?_⟩
    change (Point.send f (.afterWrite n rest (t.channel.writeTo n rest).1)).IsUnhalted
    unfold Sending.afterWrite
    repeat' split
    all_goals trivial
  | flush flushes =>
    have hw := hflush flushes
    exact .inl ⟨hw, .inr trivial⟩
  | @flushInVain n e c flushes =>
    refine .inl ⟨hflush flushes, .inl ?_⟩
    change (Point.send f (.afterFlush n e)).IsUnhalted
    unfold Sending.afterFlush
    split <;> trivial
  | @halt e => exact .inr ⟨⟨e, rfl⟩, rfl⟩
  | close | finish => exact hp.elim

/-- A send that has failed and has the link lock closes the link, and touches nothing else. -/
lemma Sends.lowers (h : t.Sends f stage next c) (hp : (Point.send f stage).Lowers t.channel.wiring) :
    next.point.Lowers c.wiring ∧ c.wiring.halted = t.channel.wiring.halted ∧
      c.wiring.sources.length = t.channel.wiring.sources.length := by
  cases h with
  | close closes =>
    cases closes with
    | close => exact hp.elim
    | silence => exact ⟨⟨hp, rfl⟩, rfl, rfl⟩
  | finish closes =>
    cases closes
    exact ⟨⟨hp.1, hp.2, rfl⟩, rfl, rfl⟩
  | _ => exact hp.elim

/-- The send gets the link lock, and closes the link. -/
lemma Sends.closes {e : FrameError} (h : t.Sends f (.closing e .begun) next c) :
    t.LinkFree ∧ next = .on (.send f (.closing e .closed)) ∧
      c.wiring = { t.channel.wiring with pending := none }.closed := by
  cases h with
  | close closes =>
    cases closes with
    | close free => exact ⟨free, rfl, Channel.wiring_closeLink _⟩
  | finish closes => cases closes

end Traffic

/-- A connect is before its link lock, or has it, or has come back. -/
lemma Point.Raises.cases {n : Nat} {w : Wiring} {q : Point} (h : q.Raises n w) :
    q = .connect .begun ∨ q = .connect .cleared ∧ w.sources.length = n ∨ q.HasLink ∨ q = .free := by
  cases q with
  | connect stage =>
    cases stage with
    | begun => exact .inl rfl
    | cleared => exact .inr (.inl ⟨rfl, h⟩)
    | _ => exact .inr (.inr (.inl trivial))
  | free => exact .inr (.inr (.inr rfl))
  | _ => exact h.elim

/-- Neither has to do with the halt. -/
lemma Point.Raises.set_halted {n : Nat} {w : Wiring} {q : Point} (h : q.Raises n w) (v : Bool) :
    q.Raises n { w with halted := v } := by
  cases q with
  | connect stage =>
    cases stage with
    | unread | started => exact ⟨h.1, h.2.current, h.2.writer, h.2.state⟩
    | _ => exact h
  | free => exact ⟨h.1, h.2.current, h.2.writer, h.2.state⟩
  | _ => exact h.elim

lemma Point.Lowers.set_halted {w : Wiring} {p : Point} (h : p.Lowers w) (v : Bool) :
    p.Lowers { w with halted := v } := by
  cases p with
  | send f stage =>
    cases stage with
    | closing e stage => cases stage <;> exact h
    | _ => exact h.elim
  | free => exact ⟨h.current, h.writer, h.state⟩
  | _ => exact h.elim

/-- Whoever closes the link has its lock until it comes back. -/
lemma Point.Lowers.eq_free {w : Wiring} {p : Point} (h : p.Lowers w) (hp : ¬ p.HasLink) : p = .free := by
  cases p with
  | send f stage =>
    cases stage with
    | closing e stage =>
      cases stage with
      | begun => exact h.elim
      | _ => exact absurd trivial hp
    | _ => exact h.elim
  | free => rfl
  | _ => exact h.elim

namespace Traffic

variable {t u : Traffic} {who a b : Party} {p q : Point} {next : Next} {s : Shared} {c : Channel}
  {n : Nat} {crossed crossed' : Prop} {f : Frame} {stage : Sending} {w : Wiring}

/-! ### The sections of a connect -/

/-- A connect that has the link lock gets its link further up, or fails. -/
lemma Connects.raises {stage : Connecting} (h : t.Connects stage next s)
    (holds : (Point.connect stage).HasLink ∨ Point.connect stage = .free)
    (hq : (Point.connect stage).Raises n t.channel.wiring) :
    next.point.IsVain ∨ (next.point.HasLink ∨ next.point = .free) ∧
      next.point.Raises n s.channel.wiring ∧ s.channel.wiring.halted = t.channel.wiring.halted := by
  cases h with
  | clear | lock => exact (holds.resolve_right (by simp)).elim
  | announce => exact .inr ⟨.inl trivial, hq, rfl⟩
  | @dial m c opens =>
    have hlength : t.channel.wiring.sources.length = n := hq
    rcases Channel.openLink_wiring t.channel with ⟨c', hc, hw⟩ | ⟨e, c', hc, -⟩
    · obtain ⟨hm, rfl⟩ := Prod.mk.inj (hc.symm.trans opens)
      have hsources : c'.wiring.sources.length = n + 1 := by
        rw [hw, ← hlength]
        simp [Wiring.opened]
      have hcurrent : c'.wiring.current = some n := by
        rw [hw, ← hlength]
        rfl
      have hhalted : c'.wiring.halted = t.channel.wiring.halted := by
        rw [hw]
        rfl
      exact .inr ⟨.inl trivial, ⟨(Except.ok.inj hm).symm.trans hlength, hsources, hcurrent⟩, hhalted⟩
    · simp [hc] at opens
  | dialInVain => exact .inl trivial
  | install => exact .inr ⟨.inl trivial, ⟨hq.1, hq.2.1, hq.2.2, congrArg some hq.1⟩, rfl⟩
  | handOver => exact .inr ⟨.inr rfl, ⟨hq.2.1, hq.2.2.1, hq.2.2.2, rfl⟩, rfl⟩
  | keep => exact .inr ⟨.inl trivial, ⟨hq.2.1, hq.2.2.1, hq.2.2.2, rfl⟩, rfl⟩
  | @spawn m c spawns =>
    have hw : c.wiring = t.channel.wiring := by
      unfold Channel.nextSpawn at spawns
      split at spawns
      all_goals
        obtain ⟨-, rfl⟩ := Prod.mk.inj spawns
        rfl
    rw [← hw] at hq ⊢
    exact .inr ⟨.inl trivial, ⟨hq.1, hq.2.current, hq.2.writer, hq.2.state⟩, rfl⟩
  | spawnInVain => exact .inl trivial
  | hold => exact .inr ⟨.inr rfl, hq, rfl⟩
  | fail | silence | abandon => exact hq.elim

/-! ### One step of either -/

lemma Sends.serial (sends : t.Sends f stage next c)
    (h : Serial n crossed t.channel.wiring (.send f stage) q) (hq : t.LinkFree → ¬ q.HasLink)
    (hcrossing : Crossing next.point q → crossed) :
    Serial n crossed c.wiring next.point q ∨ next.Spares := by
  cases h with
  | fresh early length =>
    rcases sends.early early with ⟨hw, hnext | hspares⟩ | ⟨⟨e, rfl⟩, hw⟩
    · exact .inl (.fresh hnext (by rw [hw, length]))
    · exact .inr hspares
    · exact .inl (.halting (by rw [hw]; exact length) (.inl (by rw [hw])))
  | connecting early cleared raises clear =>
    rcases sends.early early with ⟨hw, hnext | hspares⟩ | ⟨⟨e, rfl⟩, hw⟩
    · exact .inl (.connecting hnext cleared (by rwa [hw]) (by rwa [hw]))
    · exact .inr hspares
    · rw [hw]
      rcases raises.cases with rfl | ⟨rfl, length⟩ | holds
      · exact absurd rfl cleared
      · exact .inl (.crossing length (hcrossing trivial))
      · exact .inl (.failing holds (raises.set_halted true) (.inl rfl))
  | @halting f e length halted =>
    obtain ⟨free, rfl, hw⟩ := sends.closes
    rw [hw]
    exact .inl (.halted (p := .send f _) rfl ((Wiring.length_closed _).trans length) halted)
  | @crossing f e length both =>
    obtain ⟨free, rfl, hw⟩ := sends.closes
    rw [hw]
    exact .inl (.clearing (p := .send f _) rfl ((Wiring.length_closed _).trans length) (.inr both))
  | @failing f e q holds raises halted =>
    obtain ⟨free, rfl, hw⟩ := sends.closes
    rw [hw]
    rcases holds with hlink | rfl
    · exact absurd hlink (hq free)
    · exact .inl (.failed (p := .send f _) rfl ((Wiring.length_closed _).trans raises.1) halted)
  | failed lowers length halted =>
    obtain ⟨hlowers, hhalted, hlength⟩ := sends.lowers lowers
    exact .inl (.failed hlowers (hlength.trans length) (by rwa [hhalted]))
  | halted lowers length halted =>
    obtain ⟨hlowers, hhalted, hlength⟩ := sends.lowers lowers
    exact .inl (.halted hlowers (hlength.trans length) (by rwa [hhalted]))
  | clearing lowers length clear =>
    obtain ⟨hlowers, hhalted, hlength⟩ := sends.lowers lowers
    exact .inl (.clearing hlowers (hlength.trans length) (by rwa [hhalted]))

lemma Connects.serial {stage : Connecting} (connects : t.Connects stage next s)
    (h : Serial n crossed t.channel.wiring p (.connect stage)) (hp : t.LinkFree → ¬ p.HasLink)
    (hcrossing : Crossing p next.point → crossed) :
    Serial n crossed s.channel.wiring p next.point ∨ next.point.IsVain := by
  have hbegun {q : Point} (holds : q.HasLink ∨ q = .free) : q ≠ .connect .begun := by
    rintro rfl
    exact holds.resolve_right (by simp)
  cases h with
  | fresh early length =>
    cases connects
    exact .inl (.connecting early (by simp [Next.point]) length (.inl rfl))
  | connecting early cleared raises clear =>
    rcases raises.cases with heq | ⟨heq, length⟩ | holds
    · exact absurd heq cleared
    · obtain rfl := Point.connect.inj heq
      cases connects
      exact .inl (.connecting early (by simp [Next.point]) length clear)
    · rcases connects.raises holds raises with hvain | ⟨holds, raises, hhalted⟩
      · exact .inr hvain
      · exact .inl (.connecting early (hbegun holds) raises (by rwa [hhalted]))
  | halting length halted =>
    cases connects
    exact .inl (.crossing length (hcrossing trivial))
  | crossing length both =>
    cases connects
    exact .inl (.failing (.inl trivial) length (.inr both))
  | failing holds raises halted =>
    rcases connects.raises holds raises with hvain | ⟨holds, raises, hhalted⟩
    · exact .inr hvain
    · exact .inl (.failing holds raises (by rwa [hhalted]))
  | halted lowers length halted =>
    cases connects
    exact .inl (.clearing (lowers.set_halted false) length (.inl rfl))
  | clearing lowers length clear =>
    cases connects with
    | lock free =>
      obtain rfl := lowers.eq_free (hp free)
      exact .inl (.reconnecting (.inl trivial) length clear)
  | reconnecting holds raises clear =>
    rcases connects.raises holds raises with hvain | ⟨holds, raises, hhalted⟩
    · exact .inr hvain
    · exact .inl (.reconnecting holds raises (by rwa [hhalted]))

/-! ### Runs of the two -/

lemma Missed.moves (h : t.Missed a b) (hab : a ≠ b) (hs : t.Moves a u ∨ t.Moves b u) :
    u.Missed a b := by
  rcases hs with ⟨here, acts⟩ | ⟨here, acts⟩
  · rcases h with ⟨hfree, -⟩ | ⟨q, hq, hvain⟩ | ⟨hfree, hlast⟩
    · obtain rfl := Option.some.inj (here.symm.trans hfree)
      cases acts
    · exact .inr (.inl ⟨q, (point_after_other hab.symm).trans hq, hvain⟩)
    · refine .inr (.inr ⟨(point_after_other hab.symm).trans hfree, ?_⟩)
      rwa [made_after_other hab.symm]
  · rcases h with ⟨hfree, hlast⟩ | ⟨q, hq, hvain⟩ | ⟨hfree, -⟩
    · refine .inl ⟨(point_after_other hab).trans hfree, ?_⟩
      rwa [made_after_other hab]
    · obtain rfl := Option.some.inj (here.symm.trans hq)
      cases acts with
      | connect connects =>
        cases connects with
        | silence => exact .inr (.inl ⟨_, point_after here, trivial⟩)
        | fail | abandon =>
          exact .inr (.inr ⟨point_after here, by simp [made_after_self, Next.made]⟩)
        | _ => exact hvain.elim
      | _ => exact hvain.elim
    · obtain rfl := Option.some.inj (here.symm.trans hfree)
      cases acts

lemma missed_of_spares (h : next.Spares) (here : t.point a = some p) :
    (t.after a next s).Missed a b := by
  cases next with
  | on p => exact h.elim
  | back call r =>
    refine .inl ⟨point_after here, fun f e hlast => ?_⟩
    rw [made_after_self] at hlast
    obtain ⟨rfl, rfl⟩ : call = .send f ∧ r = .failed (.sendFailed e) := by
      simpa [Next.made] using hlast
    exact h

lemma Abreast.mono (h : t.Abreast a b n crossed) (hmono : crossed → crossed') :
    t.Abreast a b n crossed' := by
  obtain ⟨p, q, hp, hq, hserial⟩ := h
  exact ⟨p, q, hp, hq, hserial.mono hmono⟩

lemma Abreast.moves (h : t.Abreast a b n crossed) (hab : a ≠ b) (hs : t.Moves a u ∨ t.Moves b u)
    (hcrossing : u.Crosses a b → crossed) : u.Abreast a b n crossed ∨ u.Missed a b := by
  obtain ⟨p, q, hp, hq, hserial⟩ := h
  rcases hs with ⟨here, acts⟩ | ⟨here, acts⟩
  · obtain rfl := Option.some.inj (here.symm.trans hp)
    have hq' {next : Next} {s : Shared} : (t.after a next s).point b = some q :=
      (point_after_other hab.symm).trans hq
    cases acts with
    | send sends =>
      rcases sends.serial hserial (fun free => free.1 b q hq)
        (fun hc => hcrossing ⟨_, _, point_after here, hq', hc⟩) with hnext | hspares
      · exact .inl ⟨_, _, point_after here, hq', hnext⟩
      · exact .inr (missed_of_spares hspares here)
    | _ => exact absurd hserial.sender id
  · obtain rfl := Option.some.inj (here.symm.trans hq)
    have hp' {next : Next} {s : Shared} : (t.after b next s).point a = some p :=
      (point_after_other hab).trans hp
    cases acts with
    | connect connects =>
      rcases connects.serial hserial (fun free => free.1 a p hp)
        (fun hc => hcrossing ⟨_, _, hp', point_after here, hc⟩) with hnext | hvain
      · exact .inl ⟨_, _, hp', point_after here, hnext⟩
      · exact .inr (.inr (.inl ⟨_, point_after here, hvain⟩))
    | _ => exact absurd hserial.caller id

lemma Abreast.run {p : Nat → Traffic} {k : Nat} (h : ∀ crossed, (p 0).Abreast a b n crossed)
    (hab : a ≠ b)
    (moves : ∀ i < k, (p i).Moves a (p (i + 1)) ∨ (p i).Moves b (p (i + 1))) :
    (p k).Abreast a b n (∃ i ≤ k, (p i).Crosses a b) ∨ (p k).Missed a b := by
  induction k with
  | zero => exact .inl (h _)
  | succ k ih =>
    rcases ih fun i hi => moves i (Nat.lt_succ_of_lt hi) with habreast | hmissed
    · have hlater (hc : ∃ i ≤ k, (p i).Crosses a b) : ∃ i ≤ k + 1, (p i).Crosses a b := by
        obtain ⟨i, hi, hcrosses⟩ := hc
        exact ⟨i, Nat.le_succ_of_le hi, hcrosses⟩
      exact (habreast.mono hlater).moves hab (moves k (Nat.lt_succ_self k))
        fun hcrosses => ⟨k + 1, Nat.le_refl _, hcrosses⟩
    · exact .inr (hmissed.moves hab (moves k (Nat.lt_succ_self k)))

/-- **A send that fails and a connect come out in one order or the other, unless they cross.** Take any
interleaving of the sections of two calls, a send that fails and a connect that comes back well. The
connect has opened one link more, which in the end is up or closed again. Either it is up and the channel
is not halted, as if the send had been first, or it is closed and the channel is halted, as if the
connect had been first; or at some point the send had set the halt and the connect had cleared it, and
neither had got the link lock. -/
theorem serial_unless_crossed {a b : Party} (other : a ≠ b) (f : Frame) (e : FrameError)
    (p : Nat → Traffic) (k : Nat)
    (moves : ∀ i < k, (p i).Moves a (p (i + 1)) ∨ (p i).Moves b (p (i + 1)))
    (sends : (p 0).point a = some (.send f .begun)) (connects : (p 0).point b = some (.connect .begun))
    (failed : (p k).Returned a (.send f, .failed (.sendFailed e)))
    (opened : (p k).Returned b (.connect, .done)) :
    let n := (p 0).channel.wiring.sources.length
    let w := (p k).channel.wiring
    w.sources.length = n + 1 ∧ (w.IsUp n ∨ w.IsClosed) ∧
      (w.IsUp n ∧ w.halted = false ∨ w.IsClosed ∧ w.halted = true ∨
        ∃ i ≤ k, (p i).Crosses a b) := by
  intro n w
  have hstart (crossed : Prop) : (p 0).Abreast a b n crossed :=
    ⟨_, _, sends, connects, .fresh trivial rfl⟩
  rcases Abreast.run hstart other moves with ⟨q, q', hq, hq', hserial⟩ | hmissed
  · obtain rfl := Option.some.inj (hq.symm.trans failed.1)
    obtain rfl := Option.some.inj (hq'.symm.trans opened.1)
    cases hserial with
    | failed lowers length halted =>
      exact ⟨length, .inr lowers, .inr (halted.imp_left fun h => ⟨lowers, h⟩)⟩
    | reconnecting holds raises clear =>
      refine ⟨raises.1, .inl raises.2, ?_⟩
      rcases clear with hclear | hcrossed
      · exact .inl ⟨raises.2, hclear⟩
      · exact .inr (.inr hcrossed)
    | connecting early => exact early.elim
  · rcases hmissed with ⟨-, hlast⟩ | ⟨q, hq, hvain⟩ | ⟨-, hlast⟩
    · exact absurd failed.2 (hlast f e)
    · obtain rfl := Option.some.inj (hq.symm.trans opened.1)
      exact hvain.elim
    · exact absurd opened.2 hlast

/-! ### Two orders that cross -/

/-- Two parties go on with the calls that they are in, and everyone else stands still. -/
def Duet (a b : Party) : Traffic → Traffic → Prop :=
  Relation.ReflTransGen fun t u => t.Moves a u ∨ t.Moves b u

lemma Duet.one {v : Traffic} (run : Duet a b t u) (solo : Solo a u v) : Duet a b t v :=
  run.trans (Relation.ReflTransGen.mono (fun _ _ => .inl) _ _ solo)

lemma Duet.other {v : Traffic} (run : Duet a b t u) (solo : Solo b u v) : Duet a b t v :=
  run.trans (Relation.ReflTransGen.mono (fun _ _ => .inr) _ _ solo)

/-- A send fails at its first write, and sets the halt. -/
lemma Apart.halts {e : IoError} (h : u.Apart who) (here : u.point who = some (.send f .begun))
    (writer : u.channel.writer = some n) (accepts : u.channel.config.limits.refusal? f = none)
    (fails : u.channel.writeTo n f.wire = (.error e, c)) (he : e.kind ≠ .interrupted) :
    Solo who u (u.after who (.on (.send f (.closing (.io e) .begun)))
      { u.toShared with channel := c.setHalted true }) := by
  have hlocked : Solo who u _ := .single (.acts here (.send (.lock (h.writerFree here id))))
  have haccepted := hlocked.acts (point_after here) (.send (.accept writer accepts))
  rw [after_after] at haccepted
  have hwritten : Solo who u
      (u.after who (.on (.send f (.afterWrite n f.wire (u.channel.writeTo n f.wire).1)))
        { u.toShared with channel := (u.channel.writeTo n f.wire).2 }) := by
    have hstep := haccepted.acts (point_after here) (.send (.write (List.cons_ne_nil _ _)))
    rwa [after_after] at hstep
  rw [fails, Sending.afterWrite, if_neg he] at hwritten
  have hhalted := hwritten.acts (point_after here) (.send .halt)
  rwa [after_after] at hhalted

/-- A connect that has cleared the halt opens a link, and makes it the one that frames are written to. -/
lemma Apart.installs (h : u.Apart who) (away : ¬ u.duty.HasLink)
    (here : u.point who = some (.connect .cleared))
    (opens : (u.channel.setState .connecting).openLink = (.ok n, c)) :
    Solo who u (u.after who (.on (.connect (.installed n)))
      { u.toShared with channel := c.install n }) := by
  have hlocked : Solo who u _ := .single (.acts here (.connect (.lock (h.linkFree here id away))))
  have hannounced := hlocked.acts (point_after here) (.connect .announce)
  rw [after_after] at hannounced
  have hopened := hannounced.acts (point_after here) (.connect (.dial opens))
  rw [after_after] at hopened
  have hinstalled := hopened.acts (point_after here)
    (.connect (.install (h.after.writerFree (point_after here) id)))
  rwa [after_after] at hinstalled

/-- A connect that has cleared the halt brings a link up, for the receive thread that there is. -/
lemma Apart.opens (h : u.Apart who) (away : ¬ u.duty.HasLink)
    (here : u.point who = some (.connect .cleared))
    (opens : (u.channel.setState .connecting).openLink = (.ok n, c)) (runs : c.receiving = true) :
    Solo who u (u.after who (.back .connect .done) { u.toShared with
      channel := { (c.install n).setState .connected with pending := some n } }) := by
  have hdone := (h.installs away here opens).acts (point_after here) (.connect (.handOver runs))
  rwa [after_after] at hdone

/-- A connect clears the halt. -/
lemma clears (here : u.point who = some (.connect .begun)) :
    Solo who u (u.after who (.on (.connect .cleared))
      { u.toShared with channel := u.channel.setHalted false }) :=
  .single (.acts here (.connect .clear))

/-- The channel is up on a link, one caller is about to send and another one to connect. If the write
fails, the calls can leave it down and not halted, and they can leave it up and halted. -/
lemma calls_cross (e : IoError) (he : e.kind ≠ .interrupted) :
    let f := Frame.empty 0x12
    ∃ t, (start {} "far" [] [.error e] [] []).Runs (fun _ => True) t ∧
      t.point (.caller 1) = some (.send f .begun) ∧ t.point (.caller 2) = some (.connect .begun) ∧
      t.channel.wiring.IsUp 0 ∧ t.channel.wiring.halted = false ∧
      (∃ u, Duet (.caller 1) (.caller 2) t u ∧
        u.Returned (.caller 1) (.send f, .failed (.sendFailed (.io e))) ∧
        u.Returned (.caller 2) (.connect, .done) ∧
        u.channel.wiring.IsClosed ∧ u.channel.wiring.halted = false) ∧
      ∃ u, Duet (.caller 1) (.caller 2) t u ∧
        u.Returned (.caller 1) (.send f, .failed (.sendFailed (.io e))) ∧
        u.Returned (.caller 2) (.connect, .done) ∧
        u.channel.wiring.IsUp 1 ∧ u.channel.wiring.halted = true := by
  intro f
  obtain ⟨threads, held, hconnected⟩ := runs_connected [.error e]
  let s := connected [.error e] threads held
  have hquiet : s.Quiet := quiet_connected _ _ _
  let t := (s.after (.caller 1) (.on (.send f .begun)) s.toShared).after (.caller 2)
    (.on (.connect .begun)) s.toShared
  have hrun : (start {} "far" [] [.error e] [] []).Runs (fun _ => True) t :=
    (hconnected.begins (.caller 1) rfl trivial (.send f)).begins (.caller 2) rfl trivial .connect
  have hquiet : t.Quiet := (hquiet.after id id).after id id
  have hstart : Duet (.caller 1) (.caller 2) t t := .refl
  refine ⟨t, hrun, rfl, rfl, ⟨rfl, rfl, rfl⟩, rfl, ?_, ?_⟩
  · -- the send sets the halt, the connect clears it and gets a link up, and the send closes that
    have hhalted := hstart.one ((hquiet.apart _).halts (f := f) rfl rfl rfl rfl he)
    have hcleared := hhalted.other (clears rfl)
    have hopened := hcleared.other
      ((((hquiet.after id id).after id id).apart _).opens id rfl rfl rfl)
    have hclosed := hopened.one
      (((((hquiet.after id id).after id id).after id id).apart _).closes id rfl .refl)
    exact ⟨_, hclosed, ⟨rfl, rfl⟩, ⟨rfl, rfl⟩, ⟨rfl, rfl, rfl⟩, rfl⟩
  · -- the connect clears the halt, the send sets it and closes the link, and the connect opens a new one
    have hcleared := hstart.other (clears rfl)
    have hhalted := hcleared.one
      (((hquiet.after id id).apart _).halts (f := f) rfl rfl rfl rfl he)
    have hclosed := hhalted.one ((((hquiet.after id id).after id id).apart _).closes id rfl .refl)
    have hopened := hclosed.other
      (((((hquiet.after id id).after id id).after id id).apart _).opens id rfl rfl rfl)
    exact ⟨_, hopened, ⟨rfl, rfl⟩, ⟨rfl, rfl⟩, ⟨rfl, rfl, rfl⟩, rfl⟩

/-- A send that fails and a connect leave a channel down and not halted, if the send sets the halt before
the connect clears it, and closes the link after the connect has opened it. -/
theorem serial_unless_crossed_closed :
    ∃ (p : Nat → Traffic) (k : Nat),
      (∀ i < k, (p i).Moves (.caller 1) (p (i + 1)) ∨ (p i).Moves (.caller 2) (p (i + 1))) ∧
      (p k).channel.wiring.IsClosed ∧ (p k).channel.wiring.halted = false ∧
      ∃ i ≤ k, (p i).Crosses (.caller 1) (.caller 2) := by
  obtain ⟨t, -, hsend, hconnect, -, -, ⟨u, hrun, hfailed, hopened, hclosed, hclear⟩, -⟩ :=
    calls_cross ⟨.brokenPipe, "broken pipe"⟩ (by decide)
  obtain ⟨p, k, rfl, rfl, hmoves⟩ := exists_steps hrun
  obtain ⟨-, -, ⟨hup, -⟩ | ⟨-, hhalted⟩ | hcrossed⟩ :=
    serial_unless_crossed (by simp) _ _ p k hmoves hsend hconnect hfailed hopened
  · exact absurd (hclosed.current.symm.trans hup.current) (by simp)
  · exact absurd (hclear.symm.trans hhalted) (by simp)
  · exact ⟨p, k, hmoves, hclosed, hclear, hcrossed⟩

/-- The two calls do not always come out as if one had waited for the other. -/
theorem calls_not_serial :
    ¬ ∀ (t u : Traffic) (f : Frame) (e : FrameError),
      (start {} "far" [] [.error ⟨.brokenPipe, "broken pipe"⟩] [] []).Runs (fun _ => True) t →
      t.point (.caller 1) = some (.send f .begun) → t.point (.caller 2) = some (.connect .begun) →
      Duet (.caller 1) (.caller 2) t u →
      u.Returned (.caller 1) (.send f, .failed (.sendFailed e)) →
      u.Returned (.caller 2) (.connect, .done) →
      u.channel.wiring.IsUp t.channel.wiring.sources.length ∧ u.channel.halted = false ∨
        u.channel.wiring.IsClosed ∧ u.channel.halted = true := by
  intro hserial
  obtain ⟨t, hrun, hsend, hconnect, -, -, ⟨u, hduet, hfailed, hopened, hclosed, hclear⟩, -⟩ :=
    calls_cross ⟨.brokenPipe, "broken pipe"⟩ (by decide)
  rcases hserial t u _ _ hrun hsend hconnect hduet hfailed hopened with ⟨hup, -⟩ | ⟨-, hhalted⟩
  · exact absurd (hclosed.current.symm.trans hup.current) (by simp)
  · exact absurd (hclear.symm.trans hhalted) (by simp)

end Traffic

end FrameLink
