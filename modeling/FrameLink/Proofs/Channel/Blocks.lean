import FrameLink.Proofs.Channel.Spares

/-!
What many senders at once leave on the links.

The stream of a link is laid out in blocks, one behind the other: each frame that is accepted gets one,
and as long as its send holds the writer lock no other block is begun. A block is the whole encoding of
its frame if the send comes back well, and the beginning of it otherwise.
-/

namespace FrameLink

/-- What one send has written. -/
structure Block where
  who : Party
  frame : Frame
  link : Nat
  /-- The point of the run at which the frame was accepted. -/
  since : Nat
  bytes : Bytes := []
  /-- How the write came out; none while it goes on. -/
  result : Option (Except FrameError Unit) := none

/-- The frame was written whole and flushed. -/
def Block.isSent (b : Block) : Bool :=
  match b.result with
  | some (.ok ()) => true
  | _ => false

def Block.IsFailed (b : Block) : Prop := ∃ e, b.result = some (.error e)

/-- The frame that a call has sent. -/
def sentFrame : Call × Reply → Option Frame
  | (.send f, .done) => some f
  | _ => none

/-- The party goes on writing a frame to a link, of which these bytes are left. -/
def Point.Puts (p : Point) (f : Frame) (n : Nat) (rest : Bytes) : Prop :=
  p = .send f (.writing n rest) ∨ p = .send f (.flushing n) ∧ rest = []

lemma Point.Writes.hasWriter {p : Point} (h : p.Writes) : p.HasWriter := by
  cases p with
  | send f stage => cases stage <;> trivial
  | _ => exact h.elim

lemma Point.Puts.writes {p : Point} {f : Frame} {n : Nat} {rest : Bytes} (h : p.Puts f n rest) :
    p.Writes := by
  rcases h with rfl | ⟨rfl, -⟩ <;> trivial

/-- The party has a link by its number, and may install it or write to it. -/
def Point.Has : Point → Nat → Prop
  | .connect (.opened n), m | .send _ (.writing n _), m | .send _ (.flushing n), m => n = m
  | _, _ => False

def Duty.Has : Duty → Nat → Prop
  | .opened n, m | .kept n, m => n = m
  | _, _ => False

/-- The block goes on as another one, with more bytes or at its end. -/
structure Block.Extends (b b' : Block) (more : Bytes) : Prop where
  who : b'.who = b.who
  frame : b'.frame = b.frame
  link : b'.link = b.link
  since : b'.since = b.since
  bytes : b'.bytes = b.bytes ++ more

lemma Block.goesOn (b : Block) (more : Bytes) (result : Option (Except FrameError Unit)) :
    b.Extends { b with bytes := b.bytes ++ more, result } more := ⟨rfl, rfl, rfl, rfl, rfl⟩

namespace Traffic

/-- The frames that a party has sent, in order. -/
def sent (t : Traffic) (w : Party) : List Frame := (t.made w).filterMap sentFrame

/-- All links are laid out in these blocks, in the order they were begun. -/
structure Laid (t : Traffic) (blocks : List Block) : Prop where
  streams (n : Nat) : (t.channel.transport.link n).written =
    (blocks.filter (·.link = n)).flatMap (·.bytes)
  prefixes : ∀ b ∈ blocks, b.bytes <+: b.frame.wire
  whole : ∀ b ∈ blocks, b.isSent = true → b.bytes = b.frame.wire
  /-- The blocks of the frames that a party has sent are in the order in which it has sent them. -/
  sends (w : Party) : (blocks.filter fun b => b.who = w && b.isSent).map (·.frame) = t.sent w
  framesSent : t.channel.counters.framesSent = blocks.countP (·.isSent)

/-- No one writes, or the one who does is at the last block. -/
inductive Pen (t : Traffic) (blocks : List Block) : Prop where
  | down (idle : t.Everyone fun _ p => ¬ p.Writes) (shut : ∀ b ∈ blocks, b.result ≠ none)
  | writes {before : List Block} {b : Block} {p : Point} {rest : Bytes} (last : blocks = before ++ [b])
      (shut : ∀ x ∈ before, x.result ≠ none) (goes : b.result = none)
      (here : t.point b.who = some p) (puts : p.Puts b.frame b.link rest)
      (left : b.bytes ++ rest = b.frame.wire)

/-- The links that are in use have been opened. -/
structure Ranged (t : Traffic) : Prop where
  current : ∀ n, t.channel.transport.current = some n → n < t.channel.transport.links.length
  writer : ∀ n, t.channel.writer = some n → n < t.channel.transport.links.length
  calls : t.Everyone fun _ p => ∀ n, p.Has n → n < t.channel.transport.links.length
  duty : ∀ n, t.duty.Has n → n < t.channel.transport.links.length

structure Inked (t : Traffic) (blocks : List Block) : Prop extends t.Laid blocks where
  sole : t.Sole Point.HasWriter
  ranged : t.Ranged
  pen : t.Pen blocks

variable {t u : Traffic} {who w : Party} {p : Point} {next : Next} {s : Shared} {d d' : Duty}
  {c : Channel} {blocks before : List Block} {b : Block} {may : Call → Prop}

/-! ### Links in use -/

lemma openLink_lt {c c' : Channel} {n : Nat} (h : c.openLink = (.ok n, c')) :
    n < c'.transport.links.length := by
  rcases Channel.openLink_wiring c with ⟨t, ht, hw⟩ | ⟨e, t, ht, -⟩
  · obtain ⟨hn, rfl⟩ := Prod.mk.inj (ht.symm.trans h)
    obtain rfl : c.wiring.sources.length = n := Except.ok.inj hn
    have hlength : t.wiring.sources.length = t.transport.links.length := List.length_map _
    rw [← hlength, hw]
    simp [Wiring.opened]
  · simp [ht] at h

lemma writer_openLink {c c' : Channel} {r : Except TransportError Nat} (h : c.openLink = (r, c')) :
    c'.writer = c.writer := by
  rcases Channel.openLink_wiring c with ⟨t, ht, hw⟩ | ⟨e, t, ht, hw⟩
  all_goals
    obtain ⟨-, rfl⟩ := Prod.mk.inj (ht.symm.trans h)
    exact congrArg Wiring.writer hw

lemma writer_closeLink (c : Channel) : c.closeLink.writer = c.writer :=
  congrArg Wiring.writer (Channel.wiring_closeLink c)

/-- Whoever writes does not open or close a link. -/
lemma Acts.transport (h : t.Acts who p next s) : t.channel.Spares s.channel ∨
    s.channel.transport.current = t.channel.transport.current ∧
      s.channel.transport.links.length = t.channel.transport.links.length := by
  by_cases hp : p.Writes
  · cases h with
    | send sends =>
      cases sends with
      | write => exact .inr ⟨rfl, Channel.length_writeTo _ _ _⟩
      | written => exact .inr ⟨rfl, rfl⟩
      | flush flushes | flushInVain flushes =>
        obtain ⟨-, rfl⟩ := Prod.mk.inj flushes
        exact .inr ⟨rfl, List.length_modify _ _ _⟩
      | _ => exact hp.elim
    | _ => exact hp.elim
  · exact .inl (h.spares hp)

/-- A call gets hold of a link only by opening it, or as the writer that it finds. -/
lemma Acts.has {n : Nat} (h : t.Acts who p next s) (hn : next.point.Has n) :
    p.Has n ∨ t.channel.writer = some n ∨ n < s.channel.transport.links.length := by
  have hafter {f rest r} {m : Nat} (hn : (Point.send f (.afterWrite m rest r)).Has n) : m = n := by
    unfold Sending.afterWrite at hn
    repeat' split at hn
    all_goals first | exact hn | exact hn.elim
  have hflush {f e} {m : Nat} (hn : (Point.send f (.afterFlush m e)).Has n) : m = n := by
    unfold Sending.afterFlush at hn
    split at hn
    all_goals first | exact hn | exact hn.elim
  cases h with
  | connect acts =>
    cases acts with
    | dial opens =>
      obtain rfl := hn
      exact .inr (.inr (openLink_lt opens))
    | _ => exact hn.elim
  | disconnect | disconnected => exact hn.elim
  | terminate acts => cases acts <;> exact hn.elim
  | send sends =>
    cases sends with
    | accept writer =>
      obtain rfl := hn
      exact .inr (.inl writer)
    | write => exact .inl (hafter hn)
    | written => exact .inl hn
    | flushInVain => exact .inl (hflush hn)
    | _ => exact hn.elim

lemma Acts.writer {n : Nat} (h : t.Acts who p next s) (hn : s.channel.writer = some n) :
    t.channel.writer = some n ∨ p.Has n := by
  have hspawn {r c} (spawns : t.channel.nextSpawn = (r, c)) : c.writer = t.channel.writer := by
    unfold Channel.nextSpawn at spawns
    split at spawns
    all_goals
      obtain ⟨-, rfl⟩ := Prod.mk.inj spawns
      rfl
  have hcloses {stage next c} (closes : t.Closes stage next c) (hn : c.writer = some n) :
      t.channel.writer = some n := by
    cases closes with
    | close => rwa [writer_closeLink] at hn
    | silence => exact absurd hn (by simp [Channel.dropWriter])
    | shown => exact hn
  cases h with
  | connect acts =>
    cases acts with
    | dial opens | dialInVain opens => exact .inl (by rw [← writer_openLink opens]; exact hn)
    | install => exact .inr (Option.some.inj hn)
    | spawn spawns => exact .inl (by rw [← hspawn spawns]; exact hn)
    | spawnInVain spawns =>
      rw [← hspawn spawns, ← writer_closeLink]
      exact .inl hn
    | silence => exact absurd hn (by simp [Channel.dropWriter])
    | _ => exact .inl hn
  | disconnect closes | disconnected closes => exact .inl (hcloses closes hn)
  | terminate acts =>
    cases acts with
    | close => exact .inl (by rwa [writer_closeLink] at hn)
    | silence => exact absurd hn (by simp [Channel.dropWriter])
    | _ => exact .inl hn
  | send sends =>
    cases sends with
    | close closes | finish closes => exact .inl (hcloses closes hn)
    | flush flushes | flushInVain flushes =>
      obtain ⟨-, rfl⟩ := Prod.mk.inj flushes
      exact .inl hn
    | _ => exact .inl hn

lemma Turns.has {n : Nat} (h : t.Turns d d' c) (hn : d'.Has n) :
    d.Has n ∨ n < c.transport.links.length := by
  cases h with
  | dial opens =>
    obtain rfl := hn
    exact .inr (openLink_lt opens)
  | keep => exact .inl hn
  | passed =>
    rcases Duty.ofStage_cases (t.channel.passOn _).1 with h | h | ⟨_, h⟩
    all_goals
      rw [h] at hn
      exact hn.elim
  | look | check => split at hn <;> exact hn.elim
  | _ => exact hn.elim

lemma Turns.writer {n : Nat} (h : t.Turns d d' c) (hn : c.writer = some n) :
    t.channel.writer = some n ∨ d.Has n := by
  have hread {m scanner seen o c} (read : t.channel.readOn m scanner seen = (o, c)) :
      c.writer = t.channel.writer := by
    obtain ⟨-, seen', hw⟩ := Channel.wiring_readOn t.channel m scanner seen
    rw [read] at hw
    exact congrArg Wiring.writer hw
  cases h with
  | blocked _ read | broken _ read | heard _ read => exact .inl (by rw [← hread read]; exact hn)
  | @passed f =>
    have hw := congrArg Wiring.writer (Session.wiring_passOn t.channel f)
    exact .inl (by rw [← hn]; exact hw.symm)
  | handled e => cases e <;> exact .inl hn
  | relayed r => cases r <;> exact .inl hn
  | close | abort | unwind => exact .inl (by rwa [writer_closeLink] at hn)
  | silence | unwindWriter => exact absurd hn (by simp [Channel.dropWriter])
  | dial opens | dialInVain opens => exact .inl (by rw [← writer_openLink opens]; exact hn)
  | install => exact .inr (Option.some.inj hn)
  | vacate =>
    unfold Channel.vacate at hn
    dsimp only at hn
    split at hn <;> exact .inl hn
  | _ => exact .inl hn

lemma has_after {n : Nat} : (t.after who next s).duty.Has n ↔ t.duty.Has n := by
  cases who with
  | caller i => rfl
  | thread =>
    change (t.duty.put next.point).Has n ↔ _
    cases t.duty <;> rfl

lemma Ranged.after (h : t.Ranged) (here : t.point who = some p)
    (hle : t.channel.transport.links.length ≤ s.channel.transport.links.length)
    (hcurrent : ∀ n, s.channel.transport.current = some n →
      t.channel.transport.current = some n ∨ n < s.channel.transport.links.length)
    (hwriter : ∀ n, s.channel.writer = some n → t.channel.writer = some n ∨ p.Has n)
    (hhas : ∀ n, next.point.Has n → p.Has n ∨ t.channel.writer = some n ∨
      n < s.channel.transport.links.length) : (t.after who next s).Ranged where
  current n hn := by
    rcases hcurrent n hn with hcur | hlt
    · exact Nat.lt_of_lt_of_le (h.current n hcur) hle
    · exact hlt
  writer n hn := by
    refine Nat.lt_of_lt_of_le ?_ hle
    rcases hwriter n hn with hw | hp
    · exact h.writer n hw
    · exact h.calls who p here n hp
  calls := by
    refine Everyone.after (fun w q hq n hn => ?_) fun n hn => ?_
    · exact Nat.lt_of_lt_of_le (h.calls w q hq n hn) hle
    · rcases hhas n hn with hp | hw | hlt
      · exact Nat.lt_of_lt_of_le (h.calls who p here n hp) hle
      · exact Nat.lt_of_lt_of_le (h.writer n hw) hle
      · exact hlt
  duty n hn := Nat.lt_of_lt_of_le (h.duty n (has_after.mp hn)) hle

lemma Ranged.turned (h : t.Ranged) (here : t.duty = d) (turns : t.Turns d d' c) :
    (t.turned d' c).Ranged where
  current n hn := by
    rcases turns.spares.current n hn with hcur | ⟨-, hlt⟩
    · exact Nat.lt_of_lt_of_le (h.current n hcur) turns.spares.length_le
    · exact hlt
  writer n hn := by
    refine Nat.lt_of_lt_of_le ?_ turns.spares.length_le
    rcases turns.writer hn with hw | hd
    · exact h.writer n hw
    · exact h.duty n (here ▸ hd)
  calls := by
    have hmono : t.Everyone fun _ p => ∀ n, p.Has n → n < c.transport.links.length :=
      fun w q hq n hn => Nat.lt_of_lt_of_le (h.calls w q hq n hn) turns.spares.length_le
    exact hmono.turned fun q hq n hn => by
      rw [turns.to_free hq] at hn
      exact hn.elim
  duty n hn := by
    rcases turns.has hn with hd | hlt
    · exact Nat.lt_of_lt_of_le (h.duty n (here ▸ hd)) turns.spares.length_le
    · exact hlt

lemma Ranged.step (h : t.Ranged) (hs : t.Step may u) : u.Ranged := by
  cases hs with
  | @begins who call next c allowed here begins =>
    have hspares := begins.spares
    refine h.after here hspares.length_le (fun n hn => (hspares.current n hn).imp id And.right)
      (fun n hn => .inl ?_) fun n hn => ?_
    · cases begins with
      | brief call hbrief => cases call <;> first | exact hbrief.elim | exact hn
      | _ => exact hn
    · cases begins <;> exact hn.elim
  | acts here acts =>
    refine h.after here ?_ (fun n hn => ?_) (fun n hn => acts.writer hn) fun n hn => acts.has hn
    · rcases acts.transport with hspares | ⟨-, hlength⟩
      · exact hspares.length_le
      · exact Nat.le_of_eq hlength.symm
    · rcases acts.transport with hspares | ⟨hcur, -⟩
      · exact (hspares.current n hn).imp id And.right
      · exact .inl (hcur ▸ hn)
  | turns here turns => exact h.turned here turns
  | @hears c hears =>
    have hspares := hears.spares
    have hwriter : c.writer = t.channel.writer := by
      cases hears <;> rfl
    refine ⟨fun n hn => ?_, fun n hn => ?_, fun w q hq n hn => ?_, fun n hn => ?_⟩
    · rcases hspares.current n hn with hcur | ⟨-, hlt⟩
      · exact Nat.lt_of_lt_of_le (h.current n hcur) hspares.length_le
      · exact hlt
    · exact Nat.lt_of_lt_of_le (h.writer n (hwriter ▸ hn)) hspares.length_le
    · exact Nat.lt_of_lt_of_le (h.calls w q hq n hn) hspares.length_le
    · exact Nat.lt_of_lt_of_le (h.duty n hn) hspares.length_le

/-! ### Blocks -/

/-- A frame is accepted, and its block is begun. -/
lemma Laid.concat (h : t.Laid blocks) (hlinks : ∀ n, (u.channel.transport.link n).written =
      (t.channel.transport.link n).written) (hsent : ∀ w, u.sent w = t.sent w)
    (hcount : u.channel.counters.framesSent = t.channel.counters.framesSent)
    (hbytes : b.bytes = []) (hresult : b.result = none) : u.Laid (blocks ++ [b]) := by
  have hnot : b.isSent = false := by simp [Block.isSent, hresult]
  have hnone : b.bytes <+: b.frame.wire := hbytes ▸ List.nil_prefix
  refine ⟨fun n => ?_, ?_, ?_, fun w => ?_, ?_⟩
  · rw [hlinks, h.streams, List.filter_append, List.flatMap_append]
    by_cases hn : b.link = n <;> simp [hn, hbytes]
  · exact List.forall_mem_append.mpr ⟨h.prefixes, List.forall_mem_singleton.mpr hnone⟩
  · exact List.forall_mem_append.mpr ⟨h.whole,
      List.forall_mem_singleton.mpr fun hs => absurd hs (by simp [hnot])⟩
  · rw [hsent, ← h.sends, List.filter_append]
    simp [hnot]
  · rw [hcount, h.framesSent, List.countP_append]
    simp [hnot]

/-- The last block is written on, and may come to its end. -/
lemma Laid.put {b' : Block} {more : Bytes} (h : t.Laid (before ++ [b])) (hresult : b.result = none)
    (hext : b.Extends b' more)
    (hlinks : ∀ n, (u.channel.transport.link n).written =
      (t.channel.transport.link n).written ++ if b.link = n then more else [])
    (hfront : b'.bytes <+: b'.frame.wire) (hwhole : b'.isSent = true → b'.bytes = b'.frame.wire)
    (hsent : ∀ w, u.sent w = t.sent w ++ if b.who = w && b'.isSent then [b.frame] else [])
    (hcount : u.channel.counters.framesSent =
      t.channel.counters.framesSent + if b'.isSent then 1 else 0) : u.Laid (before ++ [b']) := by
  have hnot : b.isSent = false := by simp [Block.isSent, hresult]
  have hfronts := (List.forall_mem_append.mp h.prefixes).1
  have hwholes := (List.forall_mem_append.mp h.whole).1
  refine ⟨fun n => ?_, ?_, ?_, fun w => ?_, ?_⟩
  · rw [hlinks, h.streams, List.filter_append, List.filter_append, List.flatMap_append,
      List.flatMap_append]
    by_cases hn : b.link = n <;> simp [hn, hext.link, hext.bytes]
  · exact List.forall_mem_append.mpr ⟨hfronts, List.forall_mem_singleton.mpr hfront⟩
  · exact List.forall_mem_append.mpr ⟨hwholes, List.forall_mem_singleton.mpr hwhole⟩
  · rw [hsent, ← h.sends, List.filter_append, List.filter_append, List.map_append, List.map_append]
    by_cases hw : b.who = w <;> cases hr : b'.isSent <;> simp [hw, hr, hnot, hext.who, hext.frame]
  · rw [hcount, h.framesSent, List.countP_append, List.countP_append]
    cases hr : b'.isSent <;> simp [hr, hnot]

/-! ### One step -/

/-- Most sections leave the blocks as they are. -/
lemma Laid.same (h : t.Laid blocks) (hs : t.channel.Spares u.channel)
    (hsent : ∀ w, u.sent w = t.sent w) : u.Laid blocks where
  streams n := (hs.written n).trans (h.streams n)
  prefixes := h.prefixes
  whole := h.whole
  sends w := (h.sends w).trans (hsent w).symm
  framesSent := hs.framesSent.trans h.framesSent

lemma sent_after (w : Party) : (t.after who next s).sent w =
    t.sent w ++ if who = w then next.made.filterMap sentFrame else [] := by
  unfold sent
  by_cases hw : who = w
  · subst hw
    rw [made_after_self, List.filterMap_append, if_pos rfl]
  · rw [made_after_other (Ne.symm hw), if_neg hw, List.append_nil]

/-- A party that does not write, and does not begin to, leaves the pen where it is. -/
lemma Pen.after (h : t.Pen blocks) (here : t.point who = some p) (hp : ¬ p.Writes)
    (hn : ¬ next.point.Writes) : (t.after who next s).Pen blocks := by
  cases h with
  | down idle shut => exact .down (idle.after hn) shut
  | @writes before b q rest last shut goes hb puts left =>
    refine .writes last shut goes ((point_after_other ?_).trans hb) puts left
    rintro rfl
    obtain rfl := Option.some.inj (hb.symm.trans here)
    exact hp puts.writes

lemma Pen.turned (h : t.Pen blocks) (here : t.duty = d) (turns : t.Turns d d' c) :
    (t.turned d' c).Pen blocks := by
  cases h with
  | down idle shut =>
    refine .down (idle.turned fun q hq => ?_) shut
    rw [turns.to_free hq]
    exact id
  | @writes before b q rest last shut goes hb puts left =>
    refine .writes last shut goes ?_ puts left
    cases hw : b.who with
    | caller i => rwa [hw] at hb
    | thread =>
      -- the thread does not turn while it writes for a handler
      rw [hw] at hb
      subst here
      exact absurd puts.writes (turns.from_free hb ▸ id)

/-- Only the flush at the end of a send adds to what a party has sent. -/
lemma Acts.sends_nothing (h : t.Acts who p next s) (hp : ¬ p.Writes) :
    next.made.filterMap sentFrame = [] := by
  cases h with
  | connect acts => cases acts <;> rfl
  | disconnect | disconnected => rfl
  | terminate acts => cases acts <;> rfl
  | send sends =>
    cases sends with
    | flush => exact absurd trivial hp
    | _ => rfl

lemma Begins.sends_nothing {call : Call} (h : t.Begins call next c) :
    next.made.filterMap sentFrame = [] := by
  cases h with
  | brief call hbrief => cases call <;> first | exact hbrief.elim | rfl
  | _ => rfl

lemma Begins.not_writes {call : Call} (h : t.Begins call next c) : ¬ next.point.Writes :=
  fun hn => h.hasWriter hn.hasWriter

/-- Whoever begins to write has just been accepted. -/
lemma Acts.accepts (h : t.Acts who p next s) (hp : ¬ p.Writes) (hn : next.point.Writes) :
    ∃ f n, p = .send f .locked ∧ next = .on (.send f (.writing n f.wire)) ∧
      t.channel.writer = some n ∧ t.channel.config.limits.refusal? f = none ∧ s = t.toShared := by
  cases h with
  | connect acts => cases acts <;> exact hn.elim
  | disconnect | disconnected => exact hn.elim
  | terminate acts => cases acts <;> exact hn.elim
  | send sends =>
    cases sends with
    | accept writer accepts => exact ⟨_, _, rfl, rfl, writer, accepts, rfl⟩
    | write | written | flush | flushInVain => exact absurd trivial hp
    | _ => exact hn.elim

/-- What a step does to the blocks. -/
inductive Grows (t u : Traffic) (k : Nat) : List Block → List Block → Prop where
  | same (blocks : List Block) (spares : t.channel.Spares u.channel) : Grows t u k blocks blocks
  /-- A frame is accepted, by a party that has just got the lock. -/
  | begun (blocks : List Block) {w : Party} {f : Frame} {n : Nat}
      (here : t.point w = some (.send f .locked)) (writer : t.channel.writer = some n)
      (accepts : t.channel.config.limits.refusal? f = none) (channel : u.channel = t.channel) :
      Grows t u k blocks (blocks ++ [{ who := w, frame := f, link := n, since := k }])
  /-- The last block is written on; bytes go only to the open link. -/
  | extended (before : List Block) {b b' : Block} {more : Bytes} (unfinished : b.result = none)
      (goesOn : b.Extends b' more)
      (current : u.channel.transport.current = t.channel.transport.current)
      (length : u.channel.transport.links.length = t.channel.transport.links.length)
      (opened : more ≠ [] → t.channel.transport.current = some b.link)
      (failed : b'.IsFailed → ∃ e, u.point b.who = some (.send b.frame (.failed e))) :
      Grows t u k (before ++ [b]) (before ++ [b'])

lemma Inked.quiet (h : t.Inked blocks) (here : t.point who = some p) (hp : ¬ p.Writes)
    (hn : ¬ next.point.Writes) (hspares : t.channel.Spares s.channel)
    (hwriter : next.point.HasWriter → p.HasWriter ∨ t.WriterFree)
    (hranged : (t.after who next s).Ranged) (hsent : next.made.filterMap sentFrame = []) :
    (t.after who next s).Inked blocks where
  toLaid := h.toLaid.same hspares fun w => by simp [sent_after, hsent]
  sole := h.sole.after here hwriter
  ranged := hranged
  pen := h.pen.after here hp hn

lemma Inked.accepted {f : Frame} {n : Nat} (h : t.Inked blocks) (k : Nat)
    (here : t.point who = some (.send f .locked)) (writer : t.channel.writer = some n)
    (accepts : t.channel.config.limits.refusal? f = none)
    (hranged : (t.after who (.on (.send f (.writing n f.wire))) t.toShared).Ranged) :
    ∃ blocks', (t.after who (.on (.send f (.writing n f.wire))) t.toShared).Inked blocks' ∧
      Grows t (t.after who (.on (.send f (.writing n f.wire))) t.toShared) k blocks blocks' := by
  have hshut : ∀ x ∈ blocks, x.result ≠ none := by
    cases h.pen with
    | down idle shut => exact shut
    | @writes before b q rest last shut goes hb puts left =>
      -- whoever writes has the lock, and would be the party that has just got it
      have hw := h.sole b.who who q _ hb here puts.writes.hasWriter trivial
      rw [hw, here] at hb
      obtain rfl := Option.some.inj hb
      exact puts.writes.elim
  refine ⟨_, ⟨?_, h.sole.after here fun _ => .inl trivial, hranged, ?_⟩,
    .begun blocks here writer accepts rfl⟩
  · exact h.toLaid.concat (fun _ => rfl) (fun w => by simp [sent_after, Next.made]) rfl rfl rfl
  · exact .writes rfl hshut rfl (by rw [point_after_self, here]; rfl) (.inl rfl) rfl

/-- The party that writes takes its block further, or leaves it as it is for good. -/
lemma Inked.extended {b' : Block} {more : Bytes} (h : t.Inked (before ++ [b])) (k : Nat)
    (hshut : ∀ x ∈ before, x.result ≠ none) (hgoes : b.result = none)
    (here : t.point b.who = some p) (hp : p.Writes) (hext : b.Extends b' more)
    (hlinks : ∀ n, (s.channel.transport.link n).written =
      (t.channel.transport.link n).written ++ if b.link = n then more else [])
    (hcurrent : s.channel.transport.current = t.channel.transport.current)
    (hlength : s.channel.transport.links.length = t.channel.transport.links.length)
    (hopened : more ≠ [] → t.channel.transport.current = some b.link)
    (hsent : next.made.filterMap sentFrame = if b'.isSent then [b.frame] else [])
    (hcount : s.channel.counters.framesSent =
      t.channel.counters.framesSent + if b'.isSent then 1 else 0)
    (hfront : b'.bytes <+: b'.frame.wire) (hwhole : b'.isSent = true → b'.bytes = b'.frame.wire)
    (hfailed : b'.IsFailed → ∃ e, next.point = .send b.frame (.failed e))
    (hpen : (∃ rest, b'.result = none ∧ next.point.Puts b.frame b.link rest ∧
        b'.bytes ++ rest = b.frame.wire) ∨ b'.result ≠ none ∧ ¬ next.point.Writes)
    (hranged : (t.after b.who next s).Ranged) :
    ∃ blocks', (t.after b.who next s).Inked blocks' ∧
      Grows t (t.after b.who next s) k (before ++ [b]) blocks' := by
  have hself : (t.after b.who next s).point b.who = some next.point := by
    rw [point_after_self, here]
    rfl
  refine ⟨before ++ [b'], ⟨?_, h.sole.after here fun _ => .inl hp.hasWriter, hranged, ?_⟩,
    .extended before hgoes hext hcurrent hlength hopened fun hf => ?_⟩
  · refine h.toLaid.put hgoes hext hlinks hfront hwhole (fun w => ?_) hcount
    rw [sent_after, hsent]
    by_cases hw : b.who = w <;> simp [hw]
  · rcases hpen with ⟨rest, hrun, hputs, hleft⟩ | ⟨hdone, hstops⟩
    · refine .writes rfl hshut hrun ?_ (by rw [hext.frame, hext.link]; exact hputs)
        (by rw [hext.frame]; exact hleft)
      rw [hext.who]
      exact hself
    · refine .down (fun w q hq hwrites => ?_) fun x hx => ?_
      · by_cases hw : w = b.who
        · rw [hw, hself] at hq
          exact hstops (Option.some.inj hq ▸ hwrites)
        · rw [point_after_other hw] at hq
          exact hw (h.sole w b.who q p hq here hwrites.hasWriter hp.hasWriter)
      · rcases List.mem_append.mp hx with hx | hx
        · exact hshut x hx
        · rw [List.mem_singleton.mp hx]
          exact hdone
  · obtain ⟨e, he⟩ := hfailed hf
    exact ⟨e, by rw [hself, he]⟩

/-- A write takes some of what is left and goes on, or takes nothing and fails. -/
lemma afterWrite_cases (n : Nat) (rest : Bytes) (r : Except IoError Nat) :
    (∃ rest', Sending.afterWrite n rest r = .writing n rest' ∧ Channel.put rest r ++ rest' = rest) ∨
    ∃ e, Sending.afterWrite n rest r = .failed e ∧ Channel.put rest r = [] := by
  unfold Sending.afterWrite
  split
  · exact .inr ⟨_, rfl, rfl⟩
  · next k => exact .inl ⟨_, rfl, List.take_append_drop (k + 1) rest⟩
  · split
    · exact .inl ⟨_, rfl, rfl⟩
    · exact .inr ⟨_, rfl, rfl⟩

/-- A write takes the block further, or fails and leaves it torn. -/
lemma Inked.wrote {rest : Bytes} (h : t.Inked (before ++ [b])) (k : Nat)
    (hshut : ∀ x ∈ before, x.result ≠ none) (hgoes : b.result = none)
    (here : t.point b.who = some (.send b.frame (.writing b.link rest)))
    (left : b.bytes ++ rest = b.frame.wire) (sends : t.Sends b.frame (.writing b.link rest) next c)
    (hranged : (t.after b.who next { t.toShared with channel := c }).Ranged) :
    ∃ blocks', (t.after b.who next { t.toShared with channel := c }).Inked blocks' ∧
      Grows t (t.after b.who next { t.toShared with channel := c }) k (before ++ [b]) blocks' := by
  have hbefore : b.bytes <+: b.frame.wire := h.prefixes b (by simp)
  cases sends with
  | write more =>
    have hopened (hput : Channel.put rest (t.channel.writeTo b.link rest).1 ≠ []) :
        t.channel.transport.current = some b.link := Channel.current_of_put hput
    have hlinks (n : Nat) := Channel.written_writeTo h.ranged.current b.link n rest
    have hlength := Channel.length_writeTo t.channel b.link rest
    rcases afterWrite_cases b.link rest (t.channel.writeTo b.link rest).1 with
      ⟨rest', hafter, hrest⟩ | ⟨e, hafter, hnone⟩
    · have hleft : b.bytes ++ Channel.put rest (t.channel.writeTo b.link rest).1 ++ rest' =
          b.frame.wire := by rw [List.append_assoc, hrest, left]
      exact h.extended k hshut hgoes here trivial (b.goesOn _ none) hlinks rfl hlength hopened rfl
        rfl ⟨rest', hleft⟩ (by simp [Block.isSent]) (by simp [Block.IsFailed])
        (.inl ⟨rest', rfl, .inl (congrArg (Point.send b.frame) hafter), hleft⟩) hranged
    · have hstops : ¬ (Point.send b.frame (.failed e)).Writes := id
      rw [← hafter] at hstops
      exact h.extended k hshut hgoes here trivial (b.goesOn _ (some (.error e))) hlinks rfl hlength
        hopened rfl rfl (by simpa [hnone] using hbefore) (by simp [Block.isSent])
        (fun _ => ⟨e, congrArg (Point.send b.frame) hafter⟩) (.inr ⟨by simp, hstops⟩) hranged
  | written =>
    exact h.extended k hshut hgoes here trivial (b.goesOn [] none) (by simp) rfl rfl (by simp) rfl
      rfl (by simpa using hbefore) (by simp [Block.isSent]) (by simp [Block.IsFailed])
      (.inl ⟨[], rfl, .inr ⟨rfl, rfl⟩, by simpa using left⟩) hranged

/-- A flush comes when the block is whole, and puts nothing to it. -/
lemma Inked.flushed (h : t.Inked (before ++ [b])) (k : Nat)
    (hshut : ∀ x ∈ before, x.result ≠ none) (hgoes : b.result = none)
    (here : t.point b.who = some (.send b.frame (.flushing b.link)))
    (whole : b.bytes = b.frame.wire) (sends : t.Sends b.frame (.flushing b.link) next c)
    (hranged : (t.after b.who next { t.toShared with channel := c }).Ranged) :
    ∃ blocks', (t.after b.who next { t.toShared with channel := c }).Inked blocks' ∧
      Grows t (t.after b.who next { t.toShared with channel := c }) k (before ++ [b]) blocks' := by
  have hwhole : b.bytes ++ [] = b.frame.wire := by rwa [List.append_nil]
  have hfront : b.bytes ++ [] <+: b.frame.wire := hwhole ▸ List.prefix_refl _
  have hlinks (n : Nat) : ((t.channel.flushTo b.link).2.transport.link n).written =
      (t.channel.transport.link n).written ++ if b.link = n then [] else [] := by
    simpa using (Channel.spares_flushTo t.channel b.link).written n
  have hlength : (t.channel.flushTo b.link).2.transport.links.length =
    t.channel.transport.links.length := List.length_modify _ _ _
  cases sends with
  | flush flushes =>
    obtain ⟨-, rfl⟩ := Prod.mk.inj flushes
    exact h.extended k hshut hgoes here trivial (b.goesOn [] (some (.ok ()))) hlinks rfl hlength
      (by simp) rfl rfl hfront (fun _ => hwhole) (by simp [Block.IsFailed]) (.inr ⟨by simp, id⟩)
      hranged
  | @flushInVain n e c flushes =>
    obtain ⟨-, rfl⟩ := Prod.mk.inj flushes
    by_cases hi : e.kind = .interrupted
    · have hafter : Sending.afterFlush b.link e = .flushing b.link := if_pos hi
      exact h.extended k hshut hgoes here trivial (b.goesOn [] none) hlinks rfl hlength (by simp)
        rfl rfl hfront (by simp [Block.isSent]) (by simp [Block.IsFailed])
        (.inl ⟨[], rfl, .inr ⟨congrArg (Point.send b.frame) hafter, rfl⟩, by simpa using hwhole⟩)
        hranged
    · have hafter : Sending.afterFlush b.link e = .failed (.io e) := if_neg hi
      have hstops : ¬ (Point.send b.frame (.failed (.io e))).Writes := id
      rw [← hafter] at hstops
      exact h.extended k hshut hgoes here trivial (b.goesOn [] (some (.error (.io e)))) hlinks rfl
        hlength (by simp) rfl rfl hfront (by simp [Block.isSent])
        (fun _ => ⟨.io e, congrArg (Point.send b.frame) hafter⟩) (.inr ⟨by simp, hstops⟩) hranged

lemma Inked.written (h : t.Inked blocks) (k : Nat) (here : t.point who = some p) (hp : p.Writes)
    (acts : t.Acts who p next s) (hranged : (t.after who next s).Ranged) :
    ∃ blocks', (t.after who next s).Inked blocks' ∧
      Grows t (t.after who next s) k blocks blocks' := by
  cases h.pen with
  | down idle shut => exact absurd hp (idle who p here)
  | @writes before b q rest last shut goes hb puts left =>
    -- whoever writes has the lock, and so is the party of the last block
    obtain rfl := h.sole b.who who q p hb here puts.writes.hasWriter hp.hasWriter
    obtain rfl := Option.some.inj (hb.symm.trans here)
    subst last
    rcases puts with rfl | ⟨rfl, rfl⟩
    · obtain - | - | - | - | ⟨sends⟩ := acts
      exact h.wrote k shut goes here left sends hranged
    · obtain - | - | - | - | ⟨sends⟩ := acts
      exact h.flushed k shut goes here (by rwa [List.append_nil] at left) sends hranged

/-- **One step of anyone leaves the links laid out in blocks**, and adds at most to the last of them. -/
lemma Inked.step (h : t.Inked blocks) (hs : t.Step may u) (k : Nat) :
    ∃ blocks', u.Inked blocks' ∧ Grows t u k blocks blocks' := by
  have hranged := h.ranged.step hs
  cases hs with
  | begins allowed here begins =>
    exact ⟨blocks, h.quiet here id begins.not_writes begins.spares
      (fun hn => absurd hn begins.hasWriter) hranged begins.sends_nothing, .same _ begins.spares⟩
  | @acts who p next s here acts =>
    by_cases hp : p.Writes
    · exact h.written k here hp acts hranged
    · by_cases hn : next.point.Writes
      · obtain ⟨f, n, rfl, rfl, writer, accepts, rfl⟩ := acts.accepts hp hn
        exact h.accepted k here writer accepts hranged
      · exact ⟨blocks, h.quiet here hp hn (acts.spares hp) acts.hasWriter hranged
          (acts.sends_nothing hp), .same _ (acts.spares hp)⟩
  | @turns d d' c here turns =>
    refine ⟨blocks, ⟨h.toLaid.same turns.spares fun _ => rfl, h.sole.turned fun q hq => ?_, hranged,
      h.pen.turned here turns⟩, .same _ turns.spares⟩
    rw [turns.to_free hq]
    exact id
  | hears hears =>
    refine ⟨blocks, ⟨h.toLaid.same hears.spares fun _ => rfl, h.sole, hranged, ?_⟩,
      .same _ hears.spares⟩
    cases h.pen with
    | down idle shut => exact .down idle shut
    | writes last shut goes here puts left => exact .writes last shut goes here puts left

/-! ### Runs -/

lemma inked_start (config : ChannelConfig) (name : String)
    (connects : List (Except TransportError Unit)) (writes : List (Except IoError Nat))
    (flushes : List (Except IoError Unit)) (spawns : List (Except IoError Unit))
    (leaves : Source → Source) :
    (start config name connects writes flushes spawns leaves).Inked [] := by
  have hfree := start_free config name connects writes flushes spawns leaves
  constructor
  case toLaid => exact ⟨fun n => rfl, by simp, by simp, fun w => rfl, rfl⟩
  case sole =>
    intro w w' p p' hp hp' hw
    rw [hfree w p hp] at hw
    exact hw.elim
  case ranged =>
    refine ⟨by simp [start, Session.start], by simp [start, Session.start], fun w p hp n hn => ?_,
      fun n hn => hn.elim⟩
    rw [hfree w p hp] at hn
    exact hn.elim
  case pen =>
    refine .down (fun w p hp hn => ?_) (by simp)
    rw [hfree w p hp] at hn
    exact hn

/-- **Concurrent senders never tear frames.** However many parties send, connect, disconnect and
terminate at once with the receive thread, section by section in any order, whatever the writes come to
and whatever a closed link still gives: every link's stream is made of blocks, one behind the other. The
block of a frame whose send has come back well is its whole encoding, on one link; such blocks are, for
each party, those of the frames it has sent, in that order; and there are as many of them as frames are
counted as sent. -/
theorem senders_never_tear (config : ChannelConfig) (name : String)
    (connects : List (Except TransportError Unit)) (writes : List (Except IoError Nat))
    (flushes : List (Except IoError Unit)) (spawns : List (Except IoError Unit))
    (leaves : Source → Source) (t : Traffic)
    (run : (start config name connects writes flushes spawns leaves).Runs (fun _ => True) t) :
    ∃ blocks, t.Laid blocks := by
  suffices h : ∃ blocks, t.Inked blocks from h.imp fun _ => Inked.toLaid
  induction run with
  | refl => exact ⟨[], inked_start ..⟩
  | tail _ hs ih =>
    obtain ⟨blocks, h⟩ := ih
    exact (h.step hs 0).imp fun _ => And.left

/-- Three bytes of a frame are written, and then its send fails. Another send writes its frame before
the first one gets to close the link. -/
lemma torn_then_whole (e : IoError) (he : e.kind ≠ .interrupted) :
    let f := Frame.empty 0x12
    let g := Frame.empty 0x13
    ∃ t u, (start {} "far" [] [.ok 3, .error e] [] []).Runs (fun _ => True) t ∧
      t.point (.caller 1) = some (.send f (.failed (.io e))) ∧
      (t.channel.transport.link 0).written = f.wire.take 3 ∧ t.Runs (fun _ => True) u ∧
      u.made (.caller 1) = [(.send f, .failed (.sendFailed (.io e)))] ∧
      u.made (.caller 2) = [(.send g, .done)] ∧
      (u.channel.transport.link 0).written = f.wire.take 3 ++ g.wire := by
  intro f g
  obtain ⟨threads, held, hconnected⟩ := runs_connected [.ok 3, .error e]
  let t := connected [.ok 3, .error e] threads held
  have hfree : t.Quiet := quiet_connected _ _ _
  have hone : t.Alone (.caller 1) := ⟨rfl, hfree.apart _, id⟩
  let taken := (t.channel.writeTo 0 f.wire).2
  let torn := (taken.writeTo 0 (f.wire.drop 3)).2
  have htorn := hone.tears (n := 0) (c := taken) rfl rfl rfl (by decide) rfl he
  let t' := t.after (.caller 1) (.on (.send f (.failed (.io e)))) ⟨torn, threads, held⟩
  have hfree : t'.Quiet := hfree.after id id
  have htwo : t'.Alone (.caller 2) := ⟨rfl, hfree.apart _, id⟩
  have hsent := htwo.takes (n := 0) (f := g) rfl rfl rfl rfl
  have hapart {s : Shared} : (t'.after (.caller 2) (.back (.send g) .done) s).Apart (.caller 1) :=
    Quiet.apart (hfree.after id id) _
  exact ⟨t', _, hconnected.trans (htorn.mono fun _ _ => trivial), rfl, rfl,
    (hsent.mono fun _ _ => trivial).trans ((hapart.fails id rfl).runs _), rfl, rfl, rfl⟩

theorem senders_never_tear_beside_failure :
    ∃ t, (start {} "far" [] [.ok 3, .error ⟨.brokenPipe, "broken pipe"⟩] [] []).Runs (fun _ => True) t ∧
      t.sent (.caller 1) = [] ∧ t.sent (.caller 2) = [Frame.empty 0x13] ∧
      ∃ blocks, t.Laid blocks := by
  obtain ⟨t, u, hrun, -, -, hrun', hfailed, hdone, -⟩ :=
    torn_then_whole ⟨.brokenPipe, "broken pipe"⟩ (by decide)
  exact ⟨u, hrun.trans hrun', by rw [sent, hfailed]; rfl, by rw [sent, hdone]; rfl,
    senders_never_tear _ _ _ _ _ _ _ u (hrun.trans hrun')⟩

end Traffic

end FrameLink
