import FrameLink.Console.Errand
import FrameLink.Proofs.Channel.Counters
import FrameLink.Proofs.Channel.Outage
import FrameLink.Proofs.Channel.Spares

/-!
A channel that serves one errand.

An outage is not worth any attempt to reconnect to it, and it passes no frame on. So nothing its thread
does opens a link or writes to one: what the client has written stays as it is.
-/

namespace FrameLink

/-- What the thread does where no attempt to reconnect is worth anything, and no one takes a frame. -/
def Duty.IsTame : Duty → Prop
  | .idle | .failed | .lost | .closed | .silenced | .leaving | .retiring | .retired | .passing _ => True
  | _ => False

namespace Channel

variable {c c' d : Channel} {k n : Nat} {b : Bytes} {name : String}

/-- What a section leaves alone that opens no link and writes nothing. -/
structure Idles (c c' : Channel) : Prop where
  spares : c.Spares c'
  length : c'.transport.links.length = c.transport.links.length
  name : c'.transport.name = c.transport.name
  current : c.transport.current = none → c'.transport.current = none
  writer (n : Nat) : c'.writer = some n → c.writer = some n
  pending : c.pending = none → c'.pending = none
  config : c'.config = c.config
  registry : c'.registry = c.registry
  attempts : c'.counters.reconnectAttempts = c.counters.reconnectAttempts
  joinable : c'.joinable = c.joinable

lemma idles_of_transport (ht : c'.transport = c.transport)
    (hw : ∀ n, c'.writer = some n → c.writer = some n)
    (hp : c.pending = none → c'.pending = none) (hc : c'.config = c.config)
    (hr : c'.registry = c.registry) (hs : c'.counters.framesSent = c.counters.framesSent)
    (ha : c'.counters.reconnectAttempts = c.counters.reconnectAttempts)
    (hj : c'.joinable = c.joinable) : c.Idles c' where
  spares := spares_of_transport ht hs
  length := by rw [ht]
  name := by rw [ht]
  current := ht ▸ id
  writer := hw
  pending := hp
  config := hc
  registry := hr
  attempts := ha
  joinable := hj

lemma idles_closeLink (c : Channel) : c.Idles c.closeLink where
  spares := spares_closeLink c
  length := by
    rw [closeLink_eq]
    exact Transport.length_disconnect _
  name := by
    rw [closeLink_eq]
    exact Transport.name_disconnect _
  current _ := current_closeLink c
  writer n := (congrArg Wiring.writer (wiring_closeLink c)).symm.trans
  pending := (congrArg Wiring.pending (wiring_closeLink c)).trans
  config := by rw [closeLink_eq]
  registry := by rw [closeLink_eq]
  attempts := by rw [counters_closeLink]
  joinable := by rw [closeLink_eq]

lemma idles_readOn (c : Channel) (n : Nat) (scanner : Scanner) (seen : ScanTally) :
    c.Idles (c.readOn n scanner seen).2 := by
  have hspares := spares_readOn c n scanner seen
  unfold readOn at hspares ⊢
  dsimp only at hspares ⊢
  split at hspares
  all_goals exact ⟨hspares, List.length_modify _ _ _, rfl, id, fun _ => id, id, rfl, rfl, rfl, rfl⟩

lemma idles_flushTo (c : Channel) (n : Nat) : c.Idles (c.flushTo n).2 :=
  ⟨spares_flushTo c n, List.length_modify _ _ _, rfl, id, fun _ => id, id, rfl, rfl, rfl, rfl⟩

lemma Idles.trans (h : c.Idles c') (h' : c'.Idles d) : c.Idles d where
  spares := h.spares.trans h'.spares
  length := h'.length.trans h.length
  name := h'.name.trans h.name
  current := h'.current ∘ h.current
  writer n := h.writer n ∘ h'.writer n
  pending := h'.pending ∘ h.pending
  config := h'.config.trans h.config
  registry := h'.registry.trans h.registry
  attempts := h'.attempts.trans h.attempts
  joinable := h'.joinable.trans h.joinable

lemma idles_setHalted (c : Channel) (b : Bool) : c.Idles (c.setHalted b) :=
  idles_of_transport rfl (fun _ => id) id rfl rfl rfl rfl rfl

lemma idles_setState (c : Channel) (state : ChannelState) : c.Idles (c.setState state) :=
  idles_of_transport rfl (fun _ => id) id rfl rfl rfl rfl rfl

lemma idles_dropPending (c : Channel) : c.Idles c.dropPending :=
  idles_of_transport rfl (fun _ => id) (fun _ => rfl) rfl rfl rfl rfl rfl

lemma idles_dropWriter (c : Channel) : c.Idles c.dropWriter :=
  idles_of_transport rfl (fun _ => nofun) id rfl rfl rfl rfl rfl

lemma Hears.idles (h : c.Hears c') : c.Idles c' := by
  have hspares := h.spares
  have hdeliver (item : Inbound) : (c.transport.deliver item).links.length = c.transport.links.length ∧
      (c.transport.deliver item).name = c.transport.name ∧
      (c.transport.deliver item).current = c.transport.current := by
    unfold Transport.deliver
    split
    · exact ⟨List.length_modify _ _ _, rfl, rfl⟩
    · exact ⟨rfl, rfl, rfl⟩
  have hsame : c'.transport.links.length = c.transport.links.length ∧
      c'.transport.name = c.transport.name ∧ c'.transport.current = c.transport.current := by
    cases h with
    | feed b =>
      unfold Transport.feed
      split
      · exact ⟨rfl, rfl, rfl⟩
      · exact hdeliver _
    | failRead e => exact hdeliver _
    | endInput =>
      unfold Transport.endInput
      split
      · exact ⟨List.length_modify _ _ _, rfl, rfl⟩
      · exact ⟨rfl, rfl, rfl⟩
  obtain ⟨hlength, hname, hcurrent⟩ := hsame
  refine ⟨hspares, hlength, hname, hcurrent.trans, ?_, ?_, ?_, ?_, ?_, ?_⟩
  all_goals cases h <;> first | exact fun _ => id | exact id | rfl

/-- A channel whose settings make no attempt to reconnect worth anything, and on which no one waits for
frames. -/
structure OneShot (c : Channel) (name : String) : Prop where
  name : c.transport.name = name
  config : c.config = Console.Errand.config
  registry : c.registry = {}
  pending : c.pending = none
  attempts : c.counters.reconnectAttempts = 0

lemma OneShot.idles (h : c.OneShot name) (hi : c.Idles c') : c'.OneShot name where
  name := hi.name.trans h.name
  config := hi.config.trans h.config
  registry := hi.registry.trans h.registry
  pending := hi.pending h.pending
  attempts := hi.attempts.trans h.attempts

lemma OneShot.isExhausted (h : c.OneShot name) (k : Nat) : c.config.isExhausted k = true := by
  rw [h.config]
  exact decide_eq_true (Nat.zero_le k)

lemma OneShot.passOn (h : c.OneShot name) (f : Frame) :
    c.passOn f = (.idle, c.count fun k => { k with dropped := k.dropped + 1 }) := by
  simp only [Channel.passOn, h.registry]
  rfl

/-- So many frames were sent, and these bytes written, all to the first link. -/
structure Inscribed (c : Channel) (k : Nat) (b : Bytes) : Prop where
  sent : c.counters.framesSent = k
  written : (c.transport.link 0).written = b
  length : c.transport.links.length ≤ 1
  current (n : Nat) : c.transport.current = some n → n = 0 ∧ n < c.transport.links.length
  writer (n : Nat) : c.writer = some n → n = 0

lemma Inscribed.idles (h : c.Inscribed k b) (hi : c.Idles c') : c'.Inscribed k b where
  sent := hi.spares.framesSent.trans h.sent
  written := (hi.spares.written 0).trans h.written
  length := hi.length ▸ h.length
  current n hn := by
    rcases hi.spares.current n hn with hn | ⟨hle, hlt⟩
    · exact hi.length ▸ h.current n hn
    · exact absurd (hi.length ▸ hlt) (Nat.not_lt_of_le hle)
  writer n hn := h.writer n (hi.writer n hn)

/-- A write puts what the link takes of it behind what was written. -/
lemma Inscribed.writeTo (h : c.Inscribed k b) (rest : Bytes) :
    (c.writeTo 0 rest).2.Inscribed k (b ++ put rest (c.writeTo 0 rest).1) where
  sent := h.sent
  written := by
    rw [written_writeTo (fun n hn => (h.current n hn).2) 0 0 rest, h.written, if_pos rfl]
  length := length_writeTo c 0 rest ▸ h.length
  current n hn := length_writeTo c 0 rest ▸ h.current n hn
  writer := h.writer

/-- The first link is opened; nothing was written to it. -/
lemma OneShot.opens (h : c.OneShot name) (hi : c.Inscribed 0 []) (blank : c.transport.links = [])
    (closed : c.transport.current = none) (opens : c.openLink = (.ok n, c')) :
    n = 0 ∧ c'.OneShot name ∧ c'.Inscribed 0 [] ∧ c'.receiver = c.receiver ∧ c'.receiving = c.receiving := by
  cases hout : c.transport.outcome 0 with
  | error e =>
    rw [openLink_of_error closed hout] at opens
    cases opens
  | ok =>
    rw [openLink_of_ok closed hout, blank] at opens
    cases opens
    exact ⟨rfl, { h with },
      ⟨hi.sent, rfl, Nat.le_refl 1, fun m hm => by simp_all, hi.writer⟩, rfl, rfl⟩

lemma refuses {e : TransportError} (closed : c.transport.current = none)
    (refuses : c.openLink = (.error e, c')) : c.Idles c' ∧ c'.receiver = c.receiver ∧
      c'.receiving = c.receiving := by
  cases hout : c.transport.outcome 0 with
  | ok =>
    rw [openLink_of_ok closed hout] at refuses
    cases refuses
  | error e =>
    have hspares := spares_openLink c
    rw [refuses] at hspares
    rw [openLink_of_error closed hout] at refuses
    cases refuses
    exact ⟨⟨hspares, rfl, rfl, id, fun _ => id, id, rfl, rfl, rfl, rfl⟩, rfl, rfl⟩

end Channel

namespace Traffic

variable {t u : Traffic} {d d' : Duty} {c : Channel} {name : String}

open Channel

lemma Closes.idles {stage : Closing} {next : Option Closing} (h : t.Closes stage next c) :
    t.channel.Idles c := by
  cases h with
  | close => exact (idles_dropPending _).trans (idles_closeLink _)
  | silence => exact idles_dropWriter _
  | shown => exact idles_setState _ _

/-- The thread of an errand opens no link. -/
lemma Turns.idles (turns : t.Turns d d' c) (h : t.channel.OneShot name) (tame : d.IsTame) :
    t.channel.Idles c ∧ d'.IsTame := by
  have hread {n scanner seen o c} (read : t.channel.readOn n scanner seen = (o, c)) :
      t.channel.Idles c := by
    have hi := idles_readOn t.channel n scanner seen
    rwa [read] at hi
  have hsame : t.channel.Idles t.channel := idles_of_transport rfl (fun _ => id) id rfl rfl rfl rfl rfl
  cases turns with
  | blocked _ read | broken _ read => exact ⟨hread read, trivial⟩
  | heard _ read =>
    exact ⟨(hread read).trans (idles_of_transport rfl (fun _ => id) id rfl rfl rfl rfl rfl), trivial⟩
  | @passed f =>
    rw [h.passOn f]
    exact ⟨idles_of_transport rfl (fun _ => id) id rfl rfl rfl rfl rfl, trivial⟩
  | look =>
    refine ⟨hsame, ?_⟩
    split <;> trivial
  | close => exact ⟨idles_closeLink _, trivial⟩
  | silence => exact ⟨idles_dropWriter _, trivial⟩
  | shown => exact ⟨idles_of_transport rfl (fun _ => id) id rfl rfl rfl rfl rfl, trivial⟩
  | giveUp | leave => exact ⟨hsame, trivial⟩
  | delayed _ left => exact absurd (left.symm.trans (h.isExhausted _)) Bool.false_ne_true
  | retire => exact ⟨idles_of_transport rfl (fun _ => id) (fun _ => rfl) rfl rfl rfl rfl rfl, trivial⟩
  | vacate =>
    unfold Channel.vacate
    dsimp only
    split <;> exact ⟨idles_of_transport rfl (fun _ => id) id rfl rfl rfl rfl rfl, trivial⟩
  | takeUp _ waits | stay _ waits => exact absurd (waits.symm.trans h.pending) (Option.some_ne_none _)
  | _ => exact tame.elim

end Traffic

end FrameLink
