import FrameLink.Proofs.Channel.Crossed
import FrameLink.Proofs.Channel.Handover

/-!
A link that is forgotten.

A send that fails sets the halt before it gets the link lock, and a connect clears the halt before it gets
that. If the connect is between the two, it comes back with a link that the send then closes, and drops
from where it waits for the receive thread. The halt is clear all the while, so that the thread does not
go either: it is left with the link before.
-/

namespace FrameLink

namespace Traffic

variable {t u : Traffic} {who : Party} {next : Next} {s : Shared} {p : Nat → Traffic}
  {n m i j k : Nat}

/-- The thread reads the link of a number, which is not the one that waits, and the halt is clear. -/
structure Steady (t : Traffic) (n : Nat) : Prop where
  idle : t.duty = .idle
  reads : ∃ scanner seen, t.channel.receiver = .reading n scanner seen
  waits : t.channel.pending ≠ some n
  clear : t.channel.halted = false

lemma Steady.isOn (h : t.Steady n) : t.worker.isOn = true := by
  obtain ⟨scanner, seen, hreads⟩ := h.reads
  exact Worker.isOn_of_there (congrArg Duty.isPast h.idle) (by simp [hreads])

/-- The thread does not take up a link while it stays with another. -/
lemma Steady.not_takesUp (h : t.Steady n) (hu : u.Steady n) : ¬ t.TakesUp m u := fun htakes => by
  obtain ⟨scanner, seen, hreads⟩ := hu.reads
  rw [htakes.channel] at hreads
  obtain ⟨rfl, -⟩ := Receiver.reading.inj hreads
  exact h.waits htakes.waits

lemma Steady.not_shuts (h : t.Steady n) (spared : t.Everyone fun _ q => ¬ q.Drops) : ¬ t.Shuts m u := by
  rintro ⟨-, -, ⟨w, q, hq, hdrops, -⟩ | ⟨hduty, -⟩⟩
  · exact spared w q hq hdrops
  · exact absurd (h.idle.symm.trans hduty) (by simp)

/-- A run in which a party comes back from a connect that has cleared the halt in one step, and its link is
gone although no one has set the halt since, or connects or disconnects. -/
structure Forgets (p : Nat → Traffic) (who : Party) (i j k : Nat) : Prop where
  early : i < j
  late : j < k
  begun : (p i).point who = some (.connect .begun)
  within : ∀ m, i < m → m ≤ j → (p m).point who ≠ some (.connect .begun)
  made : (p (j + 1)).made who = (p j).made who ++ [(.connect, .done)]
  steady : ∃ n, ∀ m, i < m → m ≤ k → (p m).Steady n
  spared : ∀ m, j < m → m ≤ k → (p m).Everyone fun _ q => ¬ q.Drops
  free : (p k).LinkFree
  gone : (p k).channel.pending = none

/-- There is no other step in which the connect can have begun. -/
lemma Forgets.eq (h : Forgets p who i j k) (hm : m < j) (dials : Dials p who m j) : m = i := by
  rcases Nat.lt_trichotomy m i with hlt | heq | hgt
  · obtain ⟨stage, hstage, hpoint⟩ := dials.within i hlt (Nat.le_of_lt h.early)
    exact absurd (Point.connect.inj (Option.some.inj (hpoint.symm.trans h.begun))) hstage
  · exact heq
  · exact absurd dials.begun (h.within m hgt (Nat.le_of_lt hm))

lemma Forgets.not_settled (h : Forgets p who i j k) : ¬ Settled p who n i j k := by
  obtain ⟨l, hsteady⟩ := h.steady
  obtain ⟨early, late⟩ := And.intro h.early h.late
  intro hsettled
  cases hsettled with
  | given gives =>
    obtain ⟨m, him, hmj, hspawns⟩ := gives
    exact absurd (hspawns.off.symm.trans (hsteady m him (by omega)).isOn) (by simp)
  | @taken m since before takes =>
    have hbefore := hsteady m (by omega) (by omega)
    exact hbefore.not_takesUp (hsteady (m + 1) (by omega) before) takes
  | @closed m since before shuts =>
    have hbefore := hsteady m (by omega) (by omega)
    exact hbefore.not_shuts (h.spared m since (by omega)) shuts
  | @halted m w since before stops =>
    exact absurd ((hsteady (m + 1) (by omega) before).clear.symm.trans stops.halted) (by simp)

lemma Quiet.noLink (h : t.Quiet) (away : ¬ t.duty.HasLink) : t.LinkFree :=
  ⟨fun w q hq => (h w q hq).1, away⟩

/-- A run of steps, behind each of which something holds. -/
def Along (P : Traffic → Prop) : Traffic → Traffic → Prop :=
  Relation.ReflTransGen fun v v' => v.Step (fun _ => True) v' ∧ P v'

lemma Acts.step {q q' : Point} {s' : Shared} (acts : (u.after who (.on q) s).Acts who q next s')
    (here : u.point who = some q') :
    (u.after who (.on q) s).Step (fun _ => True) (u.after who next s') := by
  have hstep : (u.after who (.on q) s).Step (fun _ => True) _ := .acts (point_after here) acts
  rwa [after_after] at hstep

lemma Along.acts {P : Traffic → Prop} {q q' : Point} {s' : Shared}
    (run : Along P t (u.after who (.on q) s)) (here : u.point who = some q')
    (acts : (u.after who (.on q) s).Acts who q next s') (holds : P (u.after who next s')) :
    Along P t (u.after who next s') := run.tail ⟨acts.step here, holds⟩

/-- A party is in a connect that has cleared the halt, and the thread reads the link of a number. -/
def Dialled (t : Traffic) (who : Party) (n : Nat) : Prop :=
  t.Steady n ∧ ∃ stage, stage ≠ .begun ∧ t.point who = some (.connect stage)

/-- No one is about to close a link for a connect or a disconnect, and the thread reads the link of a
number. -/
def StandsBy (t : Traffic) (n : Nat) : Prop := t.Steady n ∧ t.Everyone fun _ q => ¬ q.Drops

/-- The sections of a connect and those behind it, as the points of one run. -/
lemma Runs.exists_forgets {v v' w : Traffic} (run : t.Runs (fun _ => True) u)
    (begun : u.point who = some (.connect .begun)) (dials : Along (Dialled · who n) u v)
    (dialled : v.Dialled who n) (hs : v.Step (fun _ => True) v')
    (made : v'.made who = v.made who ++ [(.connect, .done)]) (spared : v'.StandsBy n)
    (spares : Along (StandsBy · n) v' w) (free : w.LinkFree) (gone : w.channel.pending = none) :
    ∃ (p : Nat → Traffic) (i j k : Nat), p 0 = t ∧ Path p k ∧ Forgets p who i j k := by
  obtain ⟨p, i, h0, rfl, hp⟩ := exists_steps run
  obtain ⟨p', j, hij, hsame, rfl, hp', hdialled⟩ := exists_steps_while hp dials
  obtain ⟨p'', hsame', rfl, hp''⟩ :=
    @exists_steps_succ _ (fun v v' => v.Step (fun _ => True) v') p' j v' hp' hs
  obtain ⟨q, k, hjk, hsame'', rfl, hq, hspared⟩ := exists_steps_while hp'' spares
  have hfirst (m : Nat) (hm : m ≤ j) : q m = p' m :=
    (hsame'' m (Nat.le_succ_of_le hm)).trans (hsame' m hm)
  have hi : q i = p i := (hfirst i hij).trans (hsame i (Nat.le_refl i))
  have hj : q (j + 1) = p'' (j + 1) := hsame'' (j + 1) (Nat.le_refl _)
  have hearly (m : Nat) (him : i < m) (hmj : m ≤ j) : (q m).Dialled who n :=
    hfirst m hmj ▸ hdialled m him hmj
  have hlate (m : Nat) (hjm : j < m) (hmk : m ≤ k) : (q m).StandsBy n := by
    rcases Nat.lt_or_eq_of_le hjm with hlt | rfl
    · exact hspared m hlt hmk
    · exact hj ▸ spared
  have hne (m : Nat) (hm : (q m).Dialled who n) : (q m).point who ≠ some (.connect .begun) := by
    obtain ⟨-, stage, hstage, hpoint⟩ := hm
    exact fun hbegun => hstage (Point.connect.inj (Option.some.inj (hpoint.symm.trans hbegun)))
  refine ⟨q, i, j, k, ?_, hq, ?_⟩
  · rw [hfirst 0 (Nat.zero_le j), hsame 0 (Nat.zero_le i), h0]
  · refine {
      early := Nat.lt_of_le_of_ne hij ?_
      late := hjk
      begun := hi ▸ begun
      within := fun m him hmj => hne m (hearly m him hmj)
      made := by rw [hj, made, hfirst j (Nat.le_refl j)]
      steady := ⟨n, fun m him hmk => ?_⟩
      spared := fun m hjm hmk => (hlate m hjm hmk).2
      free
      gone }
    · rintro rfl
      exact hne i (hfirst i hij ▸ dialled) (hi ▸ begun)
    · rcases Nat.lt_or_ge j m with hjm | hmj
      · exact (hlate m hjm hmk).1
      · exact (hearly m him hmj).1

/-- A send fails on one link and sets the halt. Before it gets the link lock, a connect clears the halt,
brings another link up and comes back; then the send closes that. -/
lemma exists_forgets (e : IoError) (he : e.kind ≠ .interrupted) :
    ∃ (p : Nat → Traffic) (i j k : Nat), p 0 = start {} "far" [] [.error e] [] [] ∧ Path p k ∧
      Forgets p (.caller 2) i j k := by
  let f := Frame.empty 0x12
  obtain ⟨threads, held, hconnected⟩ := runs_connected [.error e]
  let s := connected [.error e] threads held
  let t := (s.after (.caller 1) (.on (.send f .begun)) s.toShared).after (.caller 2)
    (.on (.connect .begun)) s.toShared
  have hrun : (start {} "far" [] [.error e] [] []).Runs (fun _ => True) t :=
    (hconnected.begins (.caller 1) rfl trivial (.send f)).begins (.caller 2) rfl trivial .connect
  have hquiet : t.Quiet := ((quiet_connected [.error e] threads held).after id id).after id id
  let u := t.after (.caller 1) (.on (.send f (.closing (.io e) .begun)))
    { t.toShared with channel := (t.channel.writeTo 0 f.wire).2.setHalted true }
  have hhalted : Solo (.caller 1) t u := (hquiet.apart _).halts (f := f) rfl rfl rfl rfl he
  have hquiet : u.Quiet := hquiet.after id id
  have hspared : u.Everyone fun _ q => ¬ q.Drops := by
    refine Everyone.after (Everyone.after (Everyone.after (Everyone.after ?_ id) id) id) id
    exact fun w q hq => (start_free _ _ _ _ _ _ _ w q hq) ▸ id
  -- the connect, up to where it is about to come back
  have hdialled {stage : Connecting} {s : Shared} (hstage : stage ≠ .begun)
      (hsteady : (u.after (.caller 2) (.on (.connect stage)) s).Steady 0) :
      (u.after (.caller 2) (.on (.connect stage)) s).Dialled (.caller 2) 0 :=
    ⟨hsteady, stage, hstage, rfl⟩
  have hcleared : Along (Dialled · (.caller 2) 0) u (u.after (.caller 2) (.on (.connect .cleared))
      { u.toShared with channel := u.channel.setHalted false }) :=
    .single ⟨.acts rfl (.connect .clear), hdialled nofun ⟨rfl, ⟨_, _, rfl⟩, nofun, rfl⟩⟩
  have hlocked := hcleared.acts rfl (.connect (.lock ((hquiet.apart _).after.linkFree rfl id id)))
    (hdialled nofun ⟨rfl, ⟨_, _, rfl⟩, nofun, rfl⟩)
  have hannounced := hlocked.acts rfl (.connect .announce)
    (hdialled nofun ⟨rfl, ⟨_, _, rfl⟩, nofun, rfl⟩)
  have hopened := hannounced.acts rfl (.connect (.dial rfl))
    (hdialled nofun ⟨rfl, ⟨_, _, rfl⟩, nofun, rfl⟩)
  let c := ((u.channel.setHalted false).setState .connecting).openLink.2.install 1
  have hinstalled : Along (Dialled · (.caller 2) 0) u
      (u.after (.caller 2) (.on (.connect (.installed 1))) { u.toShared with channel := c }) :=
    hopened.acts rfl (.connect (.install ((hquiet.apart _).after.writerFree rfl id)))
      (hdialled nofun ⟨rfl, ⟨_, _, rfl⟩, nofun, rfl⟩)
  -- it comes back, and the send closes its link
  let v := u.after (.caller 2) (.back .connect .done)
    { u.toShared with channel := { c.setState .connected with pending := some 1 } }
  have hback : (u.after (.caller 2) (.on (.connect (.installed 1)))
      { u.toShared with channel := c }).Step (fun _ => True) v :=
    Acts.step (.connect (.handOver rfl)) rfl
  have hquiet : v.Quiet := hquiet.after id id
  have hspared : v.Everyone fun _ q => ¬ q.Drops := hspared.after id
  have hclosed : Along (StandsBy · 0) v (v.after (.caller 1) (.on (.send f (.closing (.io e) .closed)))
      { v.toShared with channel := v.channel.dropPending.closeLink }) :=
    .single ⟨.acts rfl (.send (.close (.close (hquiet.noLink id)))),
      ⟨rfl, ⟨_, _, rfl⟩, nofun, rfl⟩, hspared.after id⟩
  have hsilenced := hclosed.acts rfl
    (.send (.close (.silence ((hquiet.apart _).after.writerFree rfl id))))
    ⟨⟨rfl, ⟨_, _, rfl⟩, nofun, rfl⟩, hspared.after id⟩
  have hshown := hsilenced.acts rfl (.send (.finish .shown))
    ⟨⟨rfl, ⟨_, _, rfl⟩, nofun, rfl⟩, hspared.after id⟩
  exact Runs.exists_forgets (hrun.trans (hhalted.runs _)) rfl hinstalled
    (hdialled nofun ⟨rfl, ⟨_, _, rfl⟩, nofun, rfl⟩) hback made_after_self
    ⟨⟨rfl, ⟨_, _, rfl⟩, nofun, rfl⟩, hspared⟩ hshown
    ((hquiet.after id id).noLink id) rfl

end Traffic

end FrameLink
