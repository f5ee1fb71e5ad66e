import FrameLink.Proofs.Channel.Calm

/-!
Sections that write nothing.

Only a party that holds the writer lock writes, piece by piece, and only to the link that is open. Every
other section of a call or of the receive thread leaves what was written to each link as it is, does not
count a frame as sent, and never opens a link again that was open before.
-/

namespace FrameLink

namespace Transport

variable {t : Transport} {n m : Nat}

lemma link_onLink (t : Transport) (n m : Nat) (f : Link → Link) :
    (t.onLink n f).link m = if n = m ∧ m < t.links.length then f (t.link m) else t.link m := by
  simp only [link, onLink, List.getD_eq_getElem?_getD, List.getElem?_modify]
  rcases Nat.lt_or_ge m t.links.length with hlt | hge
  · by_cases hnm : n = m <;> simp [hnm, hlt]
  · simp [Nat.not_lt_of_ge hge]

lemma link_written (t : Transport) (n : Nat) : (t.link n).written = t.written.getD n [] := by
  simp only [link, written, List.getD_eq_getElem?_getD, List.getElem?_map]
  cases t.links[n]? <;> rfl

lemma written_disconnect (t : Transport) : t.disconnect.written = t.written := by
  unfold disconnect
  split
  · exact Channel.written_onLink t _ fun _ => rfl
  · rfl

lemma length_disconnect (t : Transport) : t.disconnect.links.length = t.links.length := by
  unfold disconnect
  split
  · exact List.length_modify _ _ _
  · rfl

lemma current_disconnect (t : Transport) : t.disconnect.current = none := by
  unfold disconnect
  split
  · rfl
  · next hc => exact hc

end Transport

namespace Channel

/-- Nothing is written and no frame is counted as sent; a link that is open was open before, or is new. -/
structure Spares (c c' : Channel) : Prop where
  written (n : Nat) : (c'.transport.link n).written = (c.transport.link n).written
  framesSent : c'.counters.framesSent = c.counters.framesSent
  length_le : c.transport.links.length ≤ c'.transport.links.length
  current (n : Nat) : c'.transport.current = some n → c.transport.current = some n ∨
    c.transport.links.length ≤ n ∧ n < c'.transport.links.length

variable {c c' d : Channel} {n : Nat}

lemma Spares.trans (h : c.Spares c') (h' : c'.Spares d) : c.Spares d where
  written n := (h'.written n).trans (h.written n)
  framesSent := h'.framesSent.trans h.framesSent
  length_le := Nat.le_trans h.length_le h'.length_le
  current n hn := by
    rcases h'.current n hn with hcur | ⟨hle, hlt⟩
    · rcases h.current n hcur with hcur | ⟨hle, hlt⟩
      · exact .inl hcur
      · exact .inr ⟨hle, Nat.lt_of_lt_of_le hlt h'.length_le⟩
    · exact .inr ⟨Nat.le_trans h.length_le hle, hlt⟩

/-- A section that leaves the transport alone. -/
lemma spares_of_transport (ht : c'.transport = c.transport)
    (hk : c'.counters.framesSent = c.counters.framesSent) : c.Spares c' where
  written n := by rw [ht]
  framesSent := hk
  length_le := Nat.le_of_eq (by rw [ht])
  current n hn := .inl (ht ▸ hn)

lemma Spares.refl (c : Channel) : c.Spares c := spares_of_transport rfl rfl

/-- What happens on the inbound side of a link is not written to it. -/
lemma spares_onLink {f : Link → Link} (ht : c'.transport = c.transport.onLink n f)
    (hk : c'.counters.framesSent = c.counters.framesSent) (hf : ∀ l, (f l).written = l.written) :
    c.Spares c' where
  written m := by
    rw [Transport.link_written, Transport.link_written, ht, written_onLink _ _ hf]
  framesSent := hk
  length_le := Nat.le_of_eq (by rw [ht]; exact (List.length_modify _ _ _).symm)
  current m hm := .inl (by rwa [ht] at hm)

lemma spares_noteClosing (c : Channel) : c.Spares c.noteClosing := by
  unfold noteClosing
  split <;> exact spares_of_transport rfl rfl

lemma spares_closeLink (c : Channel) : c.Spares c.closeLink := by
  have hdown : c.noteClosing.Spares c.closeLink := {
    written := fun n => by
      rw [Transport.link_written, Transport.link_written]
      exact congrArg (·.getD n []) (Transport.written_disconnect _)
    framesSent := rfl
    length_le := Nat.le_of_eq (Transport.length_disconnect _).symm
    current := fun n hn => by simp [current_closeLink] at hn }
  exact (spares_noteClosing c).trans hdown

/-- A link that is opened is a new one, and nothing was written to it. -/
lemma spares_openLink (c : Channel) : c.Spares c.openLink.2 := by
  refine (spares_noteClosing c).trans ?_
  have hsent : c.openLink.2.counters.framesSent = c.noteClosing.counters.framesSent := by
    unfold openLink
    dsimp only
    split <;> rfl
  have htransport : c.openLink.2.transport = c.noteClosing.transport.connect.2 := by
    unfold openLink
    dsimp only
    split
    · next h => rw [h]; rfl
    · next h => rw [h]; rfl
  have hwritten := Transport.written_disconnect c.noteClosing.transport
  have hlength := Transport.length_disconnect c.noteClosing.transport
  rcases connect_transport c.noteClosing.transport with
    ⟨t, ht, hlinks, hcur, -⟩ | ⟨e, t, ht, hlinks, hcur, -⟩
  · rw [ht] at htransport
    refine ⟨fun n => ?_, hsent, ?_, fun n hn => ?_⟩
    · rw [htransport, Transport.link_written, Transport.link_written, ← hwritten]
      simp only [Transport.written, hlinks, List.map_append, List.getD_eq_getElem?_getD]
      rcases Nat.lt_or_ge n c.noteClosing.transport.disconnect.links.length with hlt | hge
      · rw [List.getElem?_append_left (by simpa using hlt)]
      · rw [List.getElem?_append_right (by simpa using hge)]
        cases hn : n - (c.noteClosing.transport.disconnect.links.map (·.written)).length with
        | zero => simp [Nat.not_lt_of_ge hge]
        | succ k => simp [Nat.not_lt_of_ge hge]
    · rw [htransport, hlinks, List.length_append, hlength]
      exact Nat.le_add_right _ _
    · rw [htransport, hcur, hlength] at hn
      obtain rfl := Option.some.inj hn
      rw [htransport, hlinks, List.length_append, hlength]
      exact .inr ⟨Nat.le_refl _, Nat.lt_succ_self _⟩
  · rw [ht] at htransport
    refine ⟨fun n => ?_, hsent, ?_, fun n hn => ?_⟩
    · rw [htransport, Transport.link_written, Transport.link_written, ← hwritten]
      simp only [Transport.written, hlinks]
    · exact Nat.le_of_eq (by rw [htransport, hlinks, hlength])
    · rw [htransport, hcur, Transport.current_disconnect] at hn
      exact absurd hn (by simp)

lemma spares_readOn (c : Channel) (n : Nat) (scanner : Scanner) (seen : ScanTally) :
    c.Spares (c.readOn n scanner seen).2 := by
  unfold readOn
  dsimp only
  split <;> exact spares_onLink rfl rfl fun _ => rfl

lemma spares_passOn (c : Channel) (f : Frame) : c.Spares (c.passOn f).2 := by
  unfold passOn
  repeat' split
  all_goals exact spares_of_transport rfl rfl

lemma spares_vacate (c : Channel) : c.Spares c.vacate := by
  unfold vacate
  dsimp only
  split <;> exact spares_of_transport rfl rfl

lemma Hears.spares (h : c.Hears c') : c.Spares c' := by
  have hdeliver (item : Inbound) : c.Spares { c with transport := c.transport.deliver item } := by
    unfold Transport.deliver
    split
    · refine spares_onLink rfl rfl fun l => ?_
      split <;> rfl
    · exact .refl c
  cases h with
  | feed b =>
    unfold Transport.feed
    split
    · exact .refl c
    · exact hdeliver _
  | failRead e => exact hdeliver _
  | endInput =>
    unfold Transport.endInput
    split
    · exact spares_onLink rfl rfl fun _ => rfl
    · exact .refl c

/-! ### What a sink takes -/

/-- The bytes that a write takes of those it is offered. -/
def put (b : Bytes) : Except IoError Nat → Bytes
  | .ok k => b.take k
  | .error _ => []

lemma accepted_write (s : Sink) (b : Bytes) :
    (s.write b).2.accepted = s.accepted ++ put b (s.write b).1 := by
  have hmin (n : Nat) : b.take n = b.take (min n b.length) := List.take_eq_take_min
  unfold Sink.write
  repeat' split
  all_goals simp [Sink.accepted, Sink.take, put, ← hmin]

lemma isOpen_of_put {s : Sink} {b : Bytes} (h : put b (s.write b).1 ≠ []) : s.isClosed = false := by
  rw [← Bool.not_eq_true]
  intro hc
  simp [Sink.write, hc, put] at h

lemma current_of_put {b : Bytes} (h : put b (c.writeTo n b).1 ≠ []) :
    c.transport.current = some n := by
  simpa [Transport.sink, Transport.isOpen] using isOpen_of_put h

lemma length_writeTo (c : Channel) (n : Nat) (b : Bytes) :
    (c.writeTo n b).2.transport.links.length = c.transport.links.length := List.length_modify _ _ _

/-- What a write takes is put to the link it goes to, which is the open one. -/
lemma written_writeTo (hlt : ∀ n, c.transport.current = some n → n < c.transport.links.length)
    (n m : Nat) (b : Bytes) : ((c.writeTo n b).2.transport.link m).written =
      (c.transport.link m).written ++ if n = m then put b (c.writeTo n b).1 else [] := by
  change ((c.transport.onLink n _).link m).written = _
  rw [Transport.link_onLink]
  have hput : ((c.transport.sink n).write b).2.accepted = put b (c.writeTo n b).1 :=
    accepted_write (c.transport.sink n) b
  by_cases hnm : n = m
  · subst hnm
    by_cases hopen : put b (c.writeTo n b).1 = []
    · simp only [hopen, hput]
      split <;> simp
    · simp [hlt n (current_of_put hopen), hput]
  · simp [hnm]

lemma spares_flushTo (c : Channel) (n : Nat) : c.Spares (c.flushTo n).2 where
  written m := by
    have hnone : (c.transport.sink n).flush.2.accepted = [] := by
      rw [Sink.accepted, pieces_flush]
      rfl
    change ((c.transport.onLink n _).link m).written = _
    rw [Transport.link_onLink]
    split <;> simp [hnone]
  framesSent := rfl
  length_le := Nat.le_of_eq (List.length_modify _ _ _).symm
  current _ hn := .inl hn

end Channel

/-! ### Sections -/

/-- The party is writing a frame, or flushing it. -/
def Point.Writes : Point → Prop
  | .send _ (.writing _ _) | .send _ (.flushing _) => True
  | _ => False

namespace Traffic

variable {t u : Traffic} {who : Party} {p : Point} {next : Next} {s : Shared} {d d' : Duty}
  {c : Channel}

lemma Closes.spares {stage : Closing} {next : Option Closing} (h : t.Closes stage next c) :
    t.channel.Spares c := by
  cases h with
  | close =>
    refine .trans ?_ (Channel.spares_closeLink _)
    exact Channel.spares_of_transport rfl rfl
  | silence | shown => exact Channel.spares_of_transport rfl rfl

/-- Only a party that is writing writes. -/
lemma Acts.spares (h : t.Acts who p next s) (hp : ¬ p.Writes) : t.channel.Spares s.channel := by
  have hopen {r c} (opens : t.channel.openLink = (r, c)) : t.channel.Spares c := by
    have hspares := Channel.spares_openLink t.channel
    rwa [opens] at hspares
  have hspawn {r c} (spawns : t.channel.nextSpawn = (r, c)) : t.channel.Spares c := by
    unfold Channel.nextSpawn at spawns
    split at spawns
    all_goals
      obtain ⟨-, rfl⟩ := Prod.mk.inj spawns
      exact Channel.spares_of_transport rfl rfl
  cases h with
  | connect acts =>
    cases acts with
    | dial opens | dialInVain opens => exact hopen opens
    | spawn spawns => exact (hspawn spawns).trans (Channel.spares_of_transport rfl rfl)
    | spawnInVain spawns => exact (hspawn spawns).trans (Channel.spares_closeLink _)
    | _ => exact Channel.spares_of_transport rfl rfl
  | disconnect closes | disconnected closes => exact closes.spares
  | terminate acts =>
    cases acts with
    | close =>
      refine .trans ?_ (Channel.spares_closeLink _)
      exact Channel.spares_of_transport rfl rfl
    | _ => exact Channel.spares_of_transport rfl rfl
  | send sends =>
    cases sends with
    | close closes | finish closes => exact closes.spares
    | write | written | flush | flushInVain => exact absurd trivial hp
    | _ => exact Channel.spares_of_transport rfl rfl

lemma Begins.spares {call : Call} (h : t.Begins call next c) : t.channel.Spares c := by
  cases h with
  | brief call hbrief =>
    cases call <;> first
      | exact hbrief.elim
      | exact Channel.spares_of_transport rfl rfl
  | _ => exact .refl _

lemma Turns.spares (h : t.Turns d d' c) : t.channel.Spares c := by
  have hread {n scanner seen o c} (read : t.channel.readOn n scanner seen = (o, c)) :
      t.channel.Spares c := by
    have hspares := Channel.spares_readOn t.channel n scanner seen
    rwa [read] at hspares
  have hopen {r c} (opens : t.channel.openLink = (r, c)) : t.channel.Spares c := by
    have hspares := Channel.spares_openLink t.channel
    rwa [opens] at hspares
  cases h with
  | blocked _ read | broken _ read => exact hread read
  | heard _ read => exact (hread read).trans (Channel.spares_of_transport rfl rfl)
  | passed => exact Channel.spares_passOn _ _
  | handled e => cases e <;> exact Channel.spares_of_transport rfl rfl
  | relayed r => cases r <;> exact Channel.spares_of_transport rfl rfl
  | close | abort => exact Channel.spares_closeLink _
  | unwind =>
    refine .trans ?_ (Channel.spares_closeLink _)
    exact Channel.spares_of_transport rfl rfl
  | dial opens | dialInVain opens => exact hopen opens
  | vacate => exact Channel.spares_vacate _
  | _ => exact Channel.spares_of_transport rfl rfl

end Traffic

end FrameLink
