import FrameLink.Proofs.Channel.Blocks

/-!
What follows a frame that was torn.

A send whose write has failed gives the writer lock back, and takes the link down in a section of its
own. From there on nothing is written to the link any more. Until then another party that gets the writer
lock still finds the link, and writes its frame behind the torn one.
-/

namespace FrameLink

/-- The bytes are whole frames out of these, and behind them at most the beginning of another. -/
def TornAtEnd (frames : List Frame) (b : Bytes) : Prop :=
  ∃ (whole : List Frame) (rest : Bytes), whole.Sublist frames ∧ b = whole.flatMap (·.wire) ++ rest ∧
    (rest = [] ∨ ∃ f ∈ frames, rest <+: f.wire ∧ rest ≠ f.wire)

/-- The write of the frame has failed, and the party has yet to close the link. -/
def Point.Owes (f : Frame) : Point → Prop
  | .send g (.failed _) | .send g (.closing _ .begun) => g = f
  | _ => False

/-- Behind a block that is not a whole frame there is nothing more. -/
lemma tornAtEnd_of_pairwise {blocks : List Block} (hfront : ∀ b ∈ blocks, b.bytes <+: b.frame.wire)
    (h : blocks.Pairwise fun b b' => b.bytes = b.frame.wire ∨ b'.bytes = []) :
    TornAtEnd (blocks.map (·.frame)) (blocks.flatMap (·.bytes)) := by
  induction blocks with
  | nil => exact ⟨[], [], .refl _, rfl, .inl rfl⟩
  | cons b blocks ih =>
    obtain ⟨hb, hblocks⟩ := List.pairwise_cons.mp h
    rw [List.map_cons, List.flatMap_cons]
    by_cases hwhole : b.bytes = b.frame.wire
    · obtain ⟨whole, rest, hsub, hbytes, hrest⟩ :=
        ih (fun x hx => hfront x (List.mem_cons_of_mem _ hx)) hblocks
      refine ⟨b.frame :: whole, rest, hsub.cons_cons _, ?_, ?_⟩
      · rw [List.flatMap_cons, List.append_assoc, ← hbytes, hwhole]
      · exact hrest.imp_right fun h => h.imp fun f hf => ⟨List.mem_cons_of_mem _ hf.1, hf.2⟩
    · have hnone : blocks.flatMap (·.bytes) = [] :=
        List.flatMap_eq_nil_iff.mpr fun x hx => (hb x hx).resolve_left hwhole
      refine ⟨[], b.bytes, List.nil_sublist _, by simp [hnone], .inr ⟨b.frame, ?_, ?_, hwhole⟩⟩
      · exact List.mem_cons_self
      · exact hfront b List.mem_cons_self

namespace Traffic

/-- The sender of a block has failed, and has yet to close the link. -/
def Owes (t : Traffic) (b : Block) : Prop := ∃ p, t.point b.who = some p ∧ p.Owes b.frame

/-- The write of a block goes on. -/
def Writing (t : Traffic) (b : Block) : Prop :=
  b.result = none ∧ ∃ p rest, t.point b.who = some p ∧ p.Puts b.frame b.link rest

/-- The link was open once, and is not any more. -/
def Shut (t : Traffic) (n : Nat) : Prop :=
  n < t.channel.transport.links.length ∧ t.channel.transport.current ≠ some n

/-- The party has the writer lock and finds a link, and its frame is refused. -/
structure Refuses (t : Traffic) (who : Party) (f : Frame) (e : FrameError) : Prop where
  here : t.point who = some (.send f .locked)
  writer : t.channel.writer ≠ none
  refuses : t.channel.config.limits.refusal? f = some e

/-- A run of so many steps; what follows behind them does not matter. -/
def Path (p : Nat → Traffic) (k : Nat) : Prop := ∀ i < k, (p i).Step (fun _ => True) (p (i + 1))

end Traffic

/-- The block is of a frame that was not refused, by a party that had the lock and found the link. -/
structure Block.Accepted (b : Block) (p : Nat → Traffic) : Prop where
  here : (p b.since).point b.who = some (.send b.frame .locked)
  writer : (p b.since).channel.writer = some b.link
  accepts : (p b.since).channel.config.limits.refusal? b.frame = none

lemma Block.Accepted.extended {b b' : Block} {more : Bytes} {p : Nat → Traffic}
    (h : b.Accepted p) (he : b.Extends b' more) : b'.Accepted p where
  here := by rw [he.since, he.who, he.frame, h.here]
  writer := by rw [he.since, he.link, h.writer]
  accepts := by rw [he.since, he.frame, h.accepts]

/-- The later of two blocks was accepted when the sender of the earlier one, which had failed, had yet
to close the link. -/
structure Block.Overtakes (b' b : Block) (p : Nat → Traffic) : Prop where
  failed : b.IsFailed
  link : b.link = b'.link
  owes : (p b'.since).Owes b

namespace Traffic

variable {t u : Traffic} {who w : Party} {point : Point} {next : Next} {s : Shared} {d d' : Duty}
  {c : Channel} {blocks blocks' before : List Block} {b b' : Block} {may : Call → Prop}
  {p : Nat → Traffic} {k n : Nat} {f : Frame} {e : FrameError}

/-! ### One step -/

/-- A link that is open was open before, or is new. -/
lemma Step.transport (hs : t.Step may u) : t.channel.Spares u.channel ∨
    u.channel.transport.current = t.channel.transport.current ∧
      u.channel.transport.links.length = t.channel.transport.links.length := by
  cases hs with
  | begins allowed here begins => exact .inl begins.spares
  | acts here acts => exact acts.transport
  | turns here turns => exact .inl turns.spares
  | hears hears => exact .inl hears.spares

lemma Step.length_le (hs : t.Step may u) :
    t.channel.transport.links.length ≤ u.channel.transport.links.length := by
  rcases hs.transport with hspares | ⟨-, hlength⟩
  · exact hspares.length_le
  · exact Nat.le_of_eq hlength.symm

/-- No link is opened again. -/
lemma Shut.step (h : t.Shut n) (hs : t.Step may u) : u.Shut n := by
  refine ⟨Nat.lt_of_lt_of_le h.1 hs.length_le, fun hn => ?_⟩
  rcases hs.transport with hspares | ⟨hcurrent, -⟩
  · rcases hspares.current n hn with hcur | ⟨hle, -⟩
    · exact h.2 hcur
    · exact Nat.not_le_of_lt h.1 hle
  · exact h.2 (hcurrent ▸ hn)

/-- Whoever owes it to close a link still does after a step, or has closed it. -/
lemma Owes.step (h : t.Owes b) (hlt : b.link < t.channel.transport.links.length)
    (hs : t.Step may u) : u.Owes b ∨ u.Shut b.link := by
  obtain ⟨q, hq, howes⟩ := h
  have hlt' := Nat.lt_of_lt_of_le hlt hs.length_le
  cases hs with
  | @begins who call next c allowed here begins =>
    refine .inl ⟨q, (point_after_other ?_).trans hq, howes⟩
    rintro rfl
    obtain rfl := Option.some.inj (here.symm.trans hq)
    exact howes
  | @acts who p next s here acts =>
    by_cases hw : b.who = who
    · subst hw
      obtain rfl := Option.some.inj (here.symm.trans hq)
      have hself : (t.after b.who next s).point b.who = some next.point := by
        rw [point_after_self, here]
        rfl
      cases acts with
      | send sends =>
        cases sends with
        | halt => exact .inl ⟨_, hself, howes⟩
        | close closes =>
          cases closes with
          | close =>
            have hcurrent : t.channel.dropPending.closeLink.transport.current = none :=
              Channel.current_closeLink _
            exact .inr ⟨hlt', fun hn => absurd (hcurrent.symm.trans hn) (by simp)⟩
          | silence => exact howes.elim
        | finish closes =>
          cases closes
          exact howes.elim
        | _ => exact howes.elim
      | _ => exact howes.elim
    · exact .inl ⟨q, (point_after_other hw).trans hq, howes⟩
  | @turns d d' c here turns =>
    refine .inl ⟨q, ?_, howes⟩
    cases hw : b.who with
    | caller i => rwa [hw] at hq
    | thread =>
      rw [hw] at hq
      subst here
      obtain rfl := turns.from_free hq
      exact howes.elim
  | hears => exact .inl ⟨q, hq, howes⟩

/-- Nothing is written to a link that was open once. -/
lemma Inked.written_shut (h : t.Inked blocks) (hshut : t.Shut n) (hs : t.Step may u) :
    (u.channel.transport.link n).written = (t.channel.transport.link n).written := by
  obtain ⟨blocks', h', hgrows⟩ := h.step hs 0
  cases hgrows with
  | same _ spares => exact spares.written n
  | begun _ here writer accepts channel => rw [channel]
  | @extended before b b' more unfinished goesOn current length opened failed =>
    have hmore : b.link = n → more = [] := fun hn => by
      by_contra hne
      exact hshut.2 (hn ▸ opened hne)
    rw [h'.streams, h.streams, List.filter_append, List.filter_append, List.flatMap_append,
      List.flatMap_append]
    by_cases hn : b.link = n
    · simp [hn, goesOn.link, goesOn.bytes, hmore hn]
    · simp [hn, goesOn.link]

/-- A send whose frame is refused comes back, and leaves the link and all else that is shared as it was. -/
lemma Refuses.moves (h : t.Refuses who f e) (hs : t.Moves who u) :
    u.made who = t.made who ++ [(.send f, .failed (.frame e))] ∧ u.toShared = t.toShared := by
  obtain ⟨here, acts⟩ := hs
  obtain rfl := Option.some.inj (here.symm.trans h.here)
  cases acts with
  | send sends =>
    cases sends with
    | deny none => exact absurd none h.writer
    | refuse writer refuses =>
      obtain rfl := Option.some.inj (refuses.symm.trans h.refuses)
      exact ⟨made_after_self, rfl⟩
    | accept writer accepts => exact absurd (accepts.symm.trans h.refuses) (by simp)

/-- Nothing but the refusal of its frame makes a send come back with that. -/
lemma Step.refuses (hs : t.Step may u)
    (made : u.made who = t.made who ++ [(.send f, .failed (.frame e))]) :
    t.Refuses who f e ∧ t.Moves who u := by
  have hsame (h : u.made who = t.made who) : False := by simp [h] at made
  cases hs with
  | @begins w call next c allowed here begins =>
    by_cases hwho : who = w
    · subst hwho
      rw [made_after_self, List.append_cancel_left_eq] at made
      cases begins with
      | brief call brief =>
        obtain ⟨rfl, -⟩ : call = .send f ∧ _ := by simpa [Next.made] using made
        exact brief.elim
      | _ => exact absurd made (by simp [Next.made])
    · exact (hsame (made_after_other hwho)).elim
  | @acts w q next s here acts =>
    by_cases hwho : who = w
    · subst hwho
      have hmoves : t.Moves who (t.after who next s) := .acts here acts
      rw [made_after_self, List.append_cancel_left_eq] at made
      cases acts with
      | connect connects => cases connects <;> exact absurd made (by simp [Next.made])
      | disconnect | disconnected => exact absurd made (by simp [Next.made])
      | terminate acts => cases acts <;> exact absurd made (by simp [Next.made])
      | send sends =>
        cases sends with
        | refuse writer refuses =>
          obtain ⟨rfl, rfl⟩ : _ = f ∧ _ = e := by simpa [Next.made] using made
          exact ⟨⟨here, by simp [writer], refuses⟩, hmoves⟩
        | deny => split at made <;> exact absurd made (by simp [Next.made])
        | _ => exact absurd made (by simp [Next.made])
    · exact (hsame (made_after_other hwho)).elim
  | turns | hears => exact (hsame rfl).elim

/-! ### Runs -/

/-- What the blocks of a run tell of it up to a point. -/
structure Told (p : Nat → Traffic) (k : Nat) (blocks : List Block) : Prop where
  inked : (p k).Inked blocks
  links : ∀ b ∈ blocks, b.link < (p k).channel.transport.links.length
  accepted : ∀ b ∈ blocks, b.since < k ∧ b.Accepted p
  failed : ∀ b ∈ blocks, b.IsFailed → (p k).Owes b ∨ (p k).Shut b.link
  /-- What is accepted on a link after a frame has failed there writes nothing, or overtakes. -/
  overtaken : blocks.Pairwise fun b b' => b.IsFailed → b.link = b'.link →
    (p b'.since).Owes b ∨ b'.bytes = [] ∧ (p k).Shut b'.link

lemma Told.grows (h : Told p k blocks) (hs : (p k).Step may (p (k + 1)))
    (h' : (p (k + 1)).Inked blocks') (hgrows : Grows (p k) (p (k + 1)) k blocks blocks') :
    Told p (k + 1) blocks' := by
  have hlinks : ∀ b ∈ blocks, b.link < (p (k + 1)).channel.transport.links.length :=
    fun b hb => Nat.lt_of_lt_of_le (h.links b hb) hs.length_le
  have haccepted : ∀ b ∈ blocks, b.since < k + 1 ∧ b.Accepted p :=
    fun b hb => (h.accepted b hb).imp Nat.lt_succ_of_lt id
  have hfailed : ∀ b ∈ blocks, b.IsFailed → (p (k + 1)).Owes b ∨ (p (k + 1)).Shut b.link := by
    intro b hb hf
    rcases h.failed b hb hf with howes | hshut
    · exact howes.step (h.links b hb) hs
    · exact .inr (hshut.step hs)
  have hovertaken : blocks.Pairwise fun b b' => b.IsFailed → b.link = b'.link →
      (p b'.since).Owes b ∨ b'.bytes = [] ∧ (p (k + 1)).Shut b'.link :=
    h.overtaken.imp fun hbb hf hl => (hbb hf hl).imp_right fun hn => ⟨hn.1, hn.2.step hs⟩
  cases hgrows with
  | same _ spares => exact ⟨h', hlinks, haccepted, hfailed, hovertaken⟩
  | @begun _ w f n here writer accepts channel =>
    have hn : n < (p (k + 1)).channel.transport.links.length :=
      Nat.lt_of_lt_of_le (h.inked.ranged.writer n writer) hs.length_le
    refine ⟨h', ?_, ?_, ?_, ?_⟩
    · exact List.forall_mem_append.mpr ⟨hlinks, List.forall_mem_singleton.mpr hn⟩
    · exact List.forall_mem_append.mpr ⟨haccepted,
        List.forall_mem_singleton.mpr ⟨Nat.lt_succ_self k, here, writer, accepts⟩⟩
    · exact List.forall_mem_append.mpr ⟨hfailed,
        List.forall_mem_singleton.mpr fun hf => absurd hf (by simp [Block.IsFailed])⟩
    · refine List.pairwise_append.mpr ⟨hovertaken, List.pairwise_singleton _ _, fun x hx => ?_⟩
      refine List.forall_mem_singleton.mpr fun hf hl => ?_
      rcases h.failed x hx hf with howes | hshut
      · exact .inl howes
      · exact .inr ⟨rfl, hl ▸ hshut.step hs⟩
  | @extended before b b' more unfinished goesOn current length opened failed =>
    obtain ⟨hlinks, hlink⟩ := List.forall_mem_append.mp hlinks
    obtain ⟨haccepted, hlast⟩ := List.forall_mem_append.mp haccepted
    obtain ⟨hovertaken, -, hbehind⟩ := List.pairwise_append.mp hovertaken
    have hb : b ∈ [b] := List.mem_singleton_self b
    refine ⟨h', ?_, ?_, ?_, ?_⟩
    · exact List.forall_mem_append.mpr ⟨hlinks,
        List.forall_mem_singleton.mpr (goesOn.link ▸ hlink b hb)⟩
    · exact List.forall_mem_append.mpr ⟨haccepted, List.forall_mem_singleton.mpr
        ⟨goesOn.since ▸ (hlast b hb).1, (hlast b hb).2.extended goesOn⟩⟩
    · refine List.forall_mem_append.mpr ⟨fun x hx => hfailed x (List.mem_append_left _ hx),
        List.forall_mem_singleton.mpr fun hf => .inl ?_⟩
      obtain ⟨e, he⟩ := failed hf
      exact ⟨.send b.frame (.failed e), by rwa [goesOn.who], goesOn.frame.symm⟩
    · refine List.pairwise_append.mpr ⟨hovertaken, List.pairwise_singleton _ _, fun x hx => ?_⟩
      refine List.forall_mem_singleton.mpr ?_
      rw [goesOn.link, goesOn.since, goesOn.bytes]
      intro hf hl
      refine (hbehind x hx b hb hf hl).imp_right fun hquiet => ?_
      obtain ⟨hnone, hshut⟩ := hquiet
      -- bytes are only put to the open link, and this one is not
      have hmore : more = [] := by
        by_contra hne
        exact hshut.2 (current ▸ opened hne)
      exact ⟨by rw [hnone, hmore]; rfl, hshut⟩

lemma Path.told (h : Path p k) (h0 : (p 0).Inked []) : ∃ blocks, Told p k blocks := by
  induction k with
  | zero => exact ⟨[], h0, by simp, by simp, by simp, .nil⟩
  | succ k ih =>
    obtain ⟨blocks, htold⟩ := ih fun i hi => h i (Nat.lt_succ_of_lt hi)
    have hs := h k (Nat.lt_succ_self k)
    obtain ⟨blocks', h', hgrows⟩ := htold.inked.step hs k
    exact ⟨blocks', htold.grows hs h' hgrows⟩

lemma Inked.runs_shut (h : t.Inked blocks) (hshut : t.Shut n) (run : t.Runs may u) :
    (u.channel.transport.link n).written = (t.channel.transport.link n).written := by
  suffices hu : (∃ blocks, u.Inked blocks) ∧ u.Shut n ∧
      (u.channel.transport.link n).written = (t.channel.transport.link n).written from hu.2.2
  induction run with
  | refl => exact ⟨⟨blocks, h⟩, hshut, rfl⟩
  | tail _ hs ih =>
    obtain ⟨⟨blocks, hv⟩, hshut, hwritten⟩ := ih
    exact ⟨(hv.step hs 0).imp fun _ => And.left, hshut.step hs, (hv.written_shut hshut hs).trans hwritten⟩

/-- Only the last block can be unfinished. -/
lemma Pen.pairwise (h : t.Pen blocks) : blocks.Pairwise fun b _ => b.result ≠ none := by
  cases h with
  | down idle shut => exact List.pairwise_of_forall_mem_list fun b hb _ _ => shut b hb
  | writes last shut =>
    subst last
    exact List.pairwise_append.mpr ⟨List.pairwise_of_forall_mem_list fun b hb _ _ => shut b hb,
      List.pairwise_singleton _ _, fun b hb _ _ => shut b hb⟩

lemma Pen.writing (h : t.Pen blocks) (hb : b ∈ blocks) (hnone : b.result = none) : t.Writing b := by
  cases h with
  | down idle shut => exact absurd hnone (shut b hb)
  | writes last shut goes here puts =>
    subst last
    rcases List.mem_append.mp hb with hb | hb
    · exact absurd hnone (shut b hb)
    · rw [List.mem_singleton.mp hb]
      exact ⟨goes, _, _, here, puts⟩

/-- What is written behind a frame that is not whole was accepted before the link was closed. -/
lemma Told.overtakes (h : Told p k blocks) (hsub : [b, b'].Sublist blocks) (hlink : b.link = b'.link)
    (hpart : b.bytes ≠ b.frame.wire) (hmore : b'.bytes ≠ []) : b'.Overtakes b p := by
  have hb : b ∈ blocks := hsub.subset List.mem_cons_self
  have hfailed : b.IsFailed := by
    cases hr : b.result with
    | none => exact absurd hr (List.pairwise_iff_forall_sublist.mp h.inked.pen.pairwise hsub)
    | some r =>
      cases r with
      | ok => exact absurd (h.inked.whole b hb (by rw [Block.isSent, hr])) hpart
      | error e => exact ⟨e, hr⟩
  refine ⟨hfailed, hlink, ?_⟩
  rcases List.pairwise_iff_forall_sublist.mp h.overtaken hsub hfailed hlink with howes | ⟨hnone, -⟩
  · exact howes
  · exact absurd hnone hmore

/-- **Nothing follows a torn frame once its link is closed.** Take any run of any number of parties that
send, connect, disconnect and terminate, with the receive thread, whatever the writes come to and
whatever a closed link still gives. A frame that is refused has no block, and the section in which it is
refused leaves the link in use: the send comes back, and the channel is as it was. Once the write of a
frame has failed, its sender is on its way to close the link, or nothing is ever written to that link
again. The stream of every link is whole frames with at most the beginning of one more behind them,
unless some frame was accepted there between the failure of another and the closing of the link by its
sender. -/
theorem nothing_follows_torn (config : ChannelConfig) (name : String)
    (connects : List (Except TransportError Unit)) (writes : List (Except IoError Nat))
    (flushes : List (Except IoError Unit)) (spawns : List (Except IoError Unit))
    (leaves : Source → Source) (p : Nat → Traffic) (k : Nat)
    (begin : p 0 = start config name connects writes flushes spawns leaves) (path : Path p k) :
    ∃ blocks, (p k).Laid blocks ∧ (∀ b ∈ blocks, b.since < k ∧ b.Accepted p) ∧
      (∀ i < k, ∀ who f e,
        ((p (i + 1)).made who = (p i).made who ++ [(.send f, .failed (.frame e))] ↔
          (p i).Refuses who f e ∧ (p i).Moves who (p (i + 1))) ∧
        ((p i).Refuses who f e → (p i).Moves who (p (i + 1)) →
          (p (i + 1)).toShared = (p i).toShared)) ∧
      (∀ b ∈ blocks, b.isSent = true ∨ (p k).Writing b ∨ b.IsFailed ∧
        ((p k).Owes b ∨ ∀ u, (p k).Runs (fun _ => True) u →
          (u.channel.transport.link b.link).written =
            ((p k).channel.transport.link b.link).written)) ∧
      ∀ n, TornAtEnd ((blocks.filter (·.link = n)).map (·.frame))
          ((p k).channel.transport.link n).written ∨
        ∃ b b', [b, b'].Sublist blocks ∧ b'.link = n ∧ b'.bytes ≠ [] ∧ b'.Overtakes b p := by
  obtain ⟨blocks, h⟩ := path.told (begin ▸ inked_start ..)
  refine ⟨blocks, h.inked.toLaid, h.accepted, fun i hi who f e => ⟨?_, ?_⟩, fun b hb => ?_, fun n => ?_⟩
  · exact ⟨(path i hi).refuses, fun h => (h.1.moves h.2).1⟩
  · exact fun hrefuses hmoves => (hrefuses.moves hmoves).2
  · cases hr : b.result with
    | none => exact .inr (.inl (h.inked.pen.writing hb hr))
    | some r =>
      cases r with
      | ok => exact .inl (by rw [Block.isSent, hr])
      | error e =>
        refine .inr (.inr ⟨⟨e, hr⟩, (h.failed b hb ⟨e, hr⟩).imp_right fun hshut u run => ?_⟩)
        exact h.inked.runs_shut hshut run
  · by_cases hover : ∃ b b', [b, b'].Sublist blocks ∧ b'.link = n ∧ b'.bytes ≠ [] ∧ b'.Overtakes b p
    · exact .inr hover
    · rw [h.inked.streams]
      refine .inl (tornAtEnd_of_pairwise (fun b hb => h.inked.prefixes b (List.mem_filter.mp hb).1)
        (List.pairwise_of_forall_sublist fun {b b'} hsub => ?_))
      by_contra hboth
      obtain ⟨hpart, hmore⟩ := not_or.mp hboth
      have hlink (x : Block) (hx : x ∈ [b, b']) : x.link = n := by
        simpa using (List.mem_filter.mp (hsub.subset hx)).2
      have hall : [b, b'].Sublist blocks := hsub.trans List.filter_sublist
      exact hover ⟨b, b', hall, hlink b' (by simp), hmore,
        h.overtakes hall ((hlink b (by simp)).trans (hlink b' (by simp)).symm) hpart hmore⟩

/-- A marker in the place of the size is more than a frame can hold. -/
lemma not_tornAtEnd (frames : List Frame) :
    ¬ TornAtEnd frames ((Frame.empty 0x12).wire.take 3 ++ (Frame.empty 0x13).wire) := by
  have hmarker (f : Frame) (rest rest' : Bytes) (h : f.wire ++ rest =
      (Frame.empty 0x12).wire.take 3 ++ (Frame.empty 0x13).wire ++ rest') : False := by
    have hsize : f.size = 0xFF := congrArg (·.getD 3 0) h
    have hlength := f.toNat_size
    rw [hsize] at hlength
    have hle := f.length_le
    rw [← hlength] at hle
    exact absurd hle (by decide)
  rintro ⟨_ | ⟨f, whole⟩, rest, -, hbytes, hrest⟩
  · obtain rfl : _ = rest := hbytes
    rcases hrest with hnil | ⟨f, -, ⟨rest, hf⟩, -⟩
    · exact absurd hnil (by decide)
    · exact hmarker f [] rest ((List.append_nil _).trans hf.symm)
  · rw [List.flatMap_cons, List.append_assoc] at hbytes
    exact hmarker f _ [] (hbytes.symm.trans (List.append_nil _).symm)

/-- A frame is refused for its checksum, and the next send finds the link as it was. -/
lemma refused_then_whole :
    let f : Frame := ⟨0x12, [], 0, Nat.zero_le _⟩
    let g := Frame.empty 0x13
    ∃ t u, (start {} "far" [] [] [] []).Runs (fun _ => True) t ∧
      t.made (.caller 1) = [(.send f, .failed (.frame (.staleChecksum 0x12)))] ∧
      (t.channel.transport.link 0).written = [] ∧ t.Runs (fun _ => True) u ∧
      (u.channel.transport.link 0).written = g.wire := by
  intro f g
  obtain ⟨threads, held, hconnected⟩ := runs_connected []
  let t := connected [] threads held
  have hfree : t.Quiet := quiet_connected _ _ _
  have hone : t.Alone (.caller 1) := ⟨rfl, hfree.apart _, id⟩
  have hrefused := hone.sends f
  let t' := t.after (.caller 1) (.back (.send f) (.failed (.frame (.staleChecksum 0x12))))
    t.toShared
  have hfree : t'.Quiet := hfree.after id id
  have htwo : t'.Alone (.caller 2) := ⟨rfl, hfree.apart _, id⟩
  have hsent := htwo.takes (n := 0) (f := g) rfl rfl rfl rfl
  exact ⟨t', _, hconnected.trans (hrefused.mono fun _ _ => trivial), rfl, rfl,
    hsent.mono fun _ _ => trivial, rfl⟩

/-- A send that has failed does not keep others from the link: neither at once, when three bytes of its
frame are out, nor at all if its frame was refused. -/
theorem written_after_failure :
    let f := Frame.empty 0x12
    let g := Frame.empty 0x13
    let stale : Frame := ⟨0x12, [], 0, Nat.zero_le _⟩
    let e : IoError := ⟨.brokenPipe, "broken pipe"⟩
    (∃ t u, (start {} "far" [] [.ok 3, .error e] [] []).Runs (fun _ => True) t ∧
      t.point (.caller 1) = some (.send f (.failed (.io e))) ∧
      (t.channel.transport.link 0).written = f.wire.take 3 ∧ t.Runs (fun _ => True) u ∧
      (u.channel.transport.link 0).written = f.wire.take 3 ++ g.wire ∧
      ∀ frames, ¬ TornAtEnd frames (u.channel.transport.link 0).written) ∧
    ∃ t u, (start {} "far" [] [] [] []).Runs (fun _ => True) t ∧
      t.made (.caller 1) = [(.send stale, .failed (.frame (.staleChecksum 0x12)))] ∧
      (t.channel.transport.link 0).written = [] ∧ t.Runs (fun _ => True) u ∧
      (u.channel.transport.link 0).written = g.wire := by
  intro f g stale e
  refine ⟨?_, refused_then_whole⟩
  obtain ⟨t, u, hrun, hfailed, htorn, hrun', -, -, hwritten⟩ := torn_then_whole e (by decide)
  refine ⟨t, u, hrun, hfailed, htorn, hrun', hwritten, fun frames h => ?_⟩
  rw [hwritten] at h
  exact not_tornAtEnd frames h

/-- A frame that overtakes the closing of its link, told from the blocks of the run. -/
theorem nothing_follows_torn_overtaken :
    ∃ p k blocks b b', p 0 = start {} "far" [] [.ok 3, .error ⟨.brokenPipe, "broken pipe"⟩] [] [] ∧
      Path p k ∧ (p k).Laid blocks ∧ [b, b'].Sublist blocks ∧ b'.link = 0 ∧ b'.bytes ≠ [] ∧
      b'.Overtakes b p := by
  obtain ⟨t, u, hrun, -, -, hrun', -, -, hwritten⟩ :=
    torn_then_whole ⟨.brokenPipe, "broken pipe"⟩ (by decide)
  obtain ⟨p, k, h0, rfl, hpath⟩ := exists_steps (hrun.trans hrun')
  obtain ⟨blocks, hlaid, -, -, -, hstreams⟩ := nothing_follows_torn _ _ _ _ _ _ _ p k h0 hpath
  rcases hstreams 0 with htorn | ⟨b, b', hover⟩
  · rw [hwritten] at htorn
    exact absurd htorn (not_tornAtEnd _)
  · exact ⟨p, k, blocks, b, b', h0, hpath, hlaid, hover⟩

end Traffic

end FrameLink
