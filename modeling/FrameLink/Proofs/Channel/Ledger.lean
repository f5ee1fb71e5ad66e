import FrameLink.Proofs.Channel.Reading
import FrameLink.Proofs.Channel.Rest

/-!
The account of what a channel reads and delivers, link by link.

Most sections of a run read nothing, and leave the account as it is; some of them turn the thread to
another link, and the account of the link before is closed by then. The others put what was read, with
the frames found in it, down to the link that was read.
-/

namespace FrameLink

namespace Wiring

/-- No bytes are queued that were not before, and a link at its end stays there. -/
structure Keeps (w w' : Wiring) : Prop where
  limits : w'.limits = w.limits
  last : w'.last = w.last
  length_le : w.sources.length ≤ w'.sources.length
  pending : ∀ n, w'.pending = some n → w.pending = some n ∨ n = w.sources.length
  current : ∀ n, w'.current = some n →
    w.current = some n ∧ (w'.source n).data = (w.source n).data ∨
    n = w.sources.length ∧ (w'.source n).data = []
  ended : ∀ n, n < w.sources.length → w.source n = Source.ended → w'.source n = Source.ended

/-- The thread has turned away from its link, and to no link or to a new one. -/
def Turned (w w' : Wiring) : Prop :=
  (∀ n, ¬ w'.receiver.Reads n) ∨
  ∃ n, (w.pending = some n ∨ n = w.sources.length) ∧
    w'.receiver = .reading n (Scanner.fresh w.limits) {}

variable {w w' : Wiring} {n : Nat}

lemma Keeps.refl (w : Wiring) : w.Keeps w where
  limits := rfl
  last := rfl
  length_le := Nat.le_refl _
  pending _ hn := Or.inl hn
  current _ hn := Or.inl ⟨hn, rfl⟩
  ended _ _ hs := hs

lemma Ordered.keeps_closed (h : w.Ordered) : w.Keeps w.closed where
  limits := rfl
  last := rfl
  length_le := by simp
  pending _ hn := Or.inl hn
  current := by simp [Wiring.closed]
  ended n _ _ := h.source_closed n

lemma Ordered.keeps_down (h : w.Ordered) : w.Keeps w.down :=
  { h.keeps_closed with pending := by simp [Wiring.down] }

lemma Ordered.keeps_opened (h : w.Ordered) : w.Keeps w.opened where
  limits := rfl
  last := rfl
  length_le := by simp [Wiring.opened]
  pending _ hn := Or.inl hn
  current n hn := by
    obtain rfl : w.sources.length = n := by simpa [Wiring.opened] using hn
    refine Or.inr ⟨rfl, ?_⟩
    simp [h.source_opened, Source.data]
  ended n hn _ := by
    rw [h.source_opened, if_neg (Nat.ne_of_lt hn)]

/-- A link that is opened and closed again is never read. -/
lemma Ordered.keeps_opened_closed (h : w.Ordered) : w.Keeps w.opened.closed :=
  { h.keeps_opened with
    length_le := by simpa using h.keeps_opened.length_le
    current := by simp [Wiring.closed]
    ended := fun n _ _ => h.opened.source_closed n }

lemma keeps_handed (w : Wiring) (n : Nat) : w.Keeps (w.handed n) :=
  { Keeps.refl w with pending := by simp [handed, listening] }

lemma turned_handed (hp : w.pending = some n) : w.Turned (w.handed n) :=
  Or.inr ⟨n, Or.inl hp, rfl⟩

lemma Established.keeps (hw : w.Established w') (h : w.Ordered) : w.Keeps w' := by
  have hopened := h.keeps_opened
  cases hw with
  | refused => exact { h.keeps_closed with }
  | handedOver running =>
    exact { hopened with pending := fun n hn => Or.inr (by simpa [eq_comm] using hn) }
  | spawned idle => exact { hopened with }
  | unspawned idle => exact { h.keeps_opened_closed with }

lemma Called.keeps (hw : w.Called w') (h : w.Ordered) : w.Keeps w' := by
  cases hw with
  | same => exact .refl w
  | down halted keep => exact { h.keeps_down with }
  | connect tried => exact { tried.keeps { h with } with }

/-- A new link is read only where there was no thread to read it. -/
lemma Established.receiver (hw : w.Established w') :
    w'.receiver = w.receiver ∨ w.receiving = false ∧ w.Turned w' := by
  cases hw with
  | refused | handedOver running | unspawned idle => exact Or.inl rfl
  | spawned idle => exact Or.inr ⟨idle, Or.inr ⟨_, Or.inr rfl, rfl⟩⟩

lemma Called.receiver (hw : w.Called w') :
    w'.receiver = w.receiver ∨ w.receiving = false ∧ w.Turned w' := by
  cases hw with
  | same | down halted keep => exact Or.inl rfl
  | connect tried => exact tried.receiver

lemma Ordered.keeps_onOpen {f : Source → Source} (h : w.Ordered) (hf : ∀ s, (f s).data = s.data)
    (hended : f Source.ended = Source.ended) : w.Keeps (w.onOpen f) := by
  cases hc : w.current with
  | none =>
    rw [onOpen_of_none hc]
    exact .refl w
  | some n =>
    have hsource := source_onOpen h f hc
    rw [onOpen_of_some hc] at hsource ⊢
    refine { Keeps.refl w with length_le := by simp, current := ?_, ended := ?_ }
    · intro m hm
      refine Or.inl ⟨hm, ?_⟩
      rw [hsource]
      split
      · next hnm => rw [← hnm, hf]
      · rfl
    · intro m _ hm
      rw [hsource]
      split
      · next hnm => rw [hnm, hm, hended]
      · exact hm

end Wiring

/-! ### The thread turns to another link -/

namespace Channel

open Wiring

variable {c : Channel}

lemma turned_takeOver (h : c.wiring.Ordered) :
    c.wiring.Keeps c.takeOver.wiring ∧ c.wiring.Turned c.takeOver.wiring := by
  cases hp : c.pending with
  | none =>
    rw [wiring_takeOver_lost c hp]
    exact ⟨{ h.keeps_closed with }, Or.inl (by simp [Receiver.Reads])⟩
  | some n =>
    rw [wiring_takeOver_waiting c hp]
    exact ⟨keeps_handed _ n, turned_handed hp⟩

lemma turned_attempt (h : c.wiring.Ordered) (k : Nat) :
    c.wiring.Keeps (c.attempt k).wiring ∧ c.wiring.Turned (c.attempt k).wiring := by
  cases hp : c.pending with
  | none =>
    rcases wiring_attempt_none c (k := k) hp with hw | hw
    · rw [hw]
      exact ⟨{ h.keeps_opened with }, Or.inr ⟨_, Or.inr rfl, rfl⟩⟩
    · rw [hw]
      exact ⟨{ h.keeps_closed with }, Or.inl (by simp [Receiver.Reads])⟩
  | some n =>
    rw [wiring_attempt_waiting c hp]
    exact ⟨keeps_handed _ n, turned_handed hp⟩

lemma turned_retire (c : Channel) :
    c.wiring.Keeps c.retire.wiring ∧ c.wiring.Turned c.retire.wiring := by
  by_cases hl : c.halted = true ∨ c.pending = none
  · rw [wiring_retire_none c hl]
    exact ⟨{ Keeps.refl _ with pending := by simp [retired] },
      Or.inl (by simp [retired, Receiver.Reads])⟩
  · rw [not_or, Bool.not_eq_true] at hl
    obtain ⟨n, hp⟩ := Option.ne_none_iff_exists'.mp hl.2
    rw [wiring_retire_waiting c hl.1 hp]
    exact ⟨keeps_handed _ n, turned_handed hp⟩

lemma turned_abandon (h : c.wiring.Ordered) :
    c.wiring.Keeps c.abandon.wiring ∧ c.wiring.Turned c.abandon.wiring := by
  rw [wiring_abandon]
  exact ⟨{ h.keeps_down with }, Or.inl (by simp [Receiver.Reads])⟩

end Channel

/-- A link is being read, and what it has delivered is on the way to what it ought to deliver. -/
structure Reading.Going (l : Limits) (x : Reading) (scanner : Scanner) (source : Source) : Prop where
  ending : x.ending = none
  traces : x.Traces l scanner
  source : x.atEnd = true → source = Source.ended

/-- What can be said of the link the thread holds, by where the thread is. -/
def Stage.Holds (l : Limits) : Stage → Reading → Scanner → Source → Prop
  | .idle, x, scanner, source | .handling, x, scanner, source => x.Going l scanner source
  | .passing f, x, scanner, source | .relaying f, x, scanner, source =>
    x.Going l scanner source ∧ x.frames.getLast? = some f
  | .failed, x, _, _ | .lost, x, _, _ | .leaving, x, _, _ => x.Settled l
  | .attempting _, _, _, _ => False

namespace Session

/-- The links that were read or are being read, in order. -/
def readings (s : Session) : List Reading := s.past ++ s.now.toList

/-- The bytes read from a link. -/
def bytesOn (s : Session) (n : Nat) : Bytes := (s.readings.filter (·.link = n)).flatMap (·.bytes)

/-- The bytes sent on a link. -/
def sentOn (s : Session) (n : Nat) : Bytes := (s.sent.filter (·.1 = n)).flatMap (·.2)

/-- The account that is kept of a run. -/
structure Ledger (s : Session) (l : Limits) : Prop where
  limits : s.channel.wiring.limits = l
  delivered : s.delivered = s.readings.flatMap (·.frames)
  last : s.channel.wiring.last = s.delivered.getLast?
  links : (s.readings.map (·.link)).Pairwise (· < ·)
  links_lt : ∀ x ∈ s.readings, x.link < s.channel.wiring.sources.length
  links_lt_pending : ∀ x ∈ s.readings, ∀ n, s.channel.wiring.pending = some n → x.link < n
  sent_lt : ∀ e ∈ s.sent, e.1 < s.channel.wiring.sources.length
  bytes_le : ∀ n, s.bytesOn n <+: s.sentOn n
  bytes_open : ∀ n, s.channel.wiring.current = some n →
    s.bytesOn n ++ (s.channel.wiring.source n).data = s.sentOn n
  settled : ∀ x ∈ s.past, x.Settled l

/-- The link that is accounted for is the one the thread holds. -/
def Present (s : Session) (l : Limits) : Prop :=
  match s.now with
  | none => ∀ n, ¬ s.channel.wiring.receiver.Reads n
  | some x => ∃ scanner seen, s.channel.wiring.receiver = .reading x.link scanner seen ∧
      s.stage.Holds l x scanner (s.channel.wiring.source x.link)

variable {s t : Session} {l : Limits} {c : Channel} {n : Nat} {scanner : Scanner} {seen : ScanTally}

/-! ### The ledger -/

lemma mem_readings_of_now {x : Reading} (hx : s.now = some x) : x ∈ s.readings := by
  simp [readings, hx]

/-- Of a link that is not there yet nothing was read, and nothing was sent on it. -/
lemma Ledger.nothing_on_new (h : s.Ledger l) :
    s.bytesOn s.channel.wiring.sources.length = [] ∧
      s.sentOn s.channel.wiring.sources.length = [] := by
  have hread : s.readings.filter (·.link = s.channel.wiring.sources.length) = [] := by
    refine List.filter_eq_nil_iff.mpr fun x hx => ?_
    have := h.links_lt x hx
    simp only [decide_eq_true_eq]
    omega
  have hsent : s.sent.filter (·.1 = s.channel.wiring.sources.length) = [] := by
    refine List.filter_eq_nil_iff.mpr fun e he => ?_
    have := h.sent_lt e he
    simp only [decide_eq_true_eq]
    omega
  simp [bytesOn, sentOn, hread, hsent]

lemma Ledger.open_of_keeps (h : s.Ledger l) (hk : s.channel.wiring.Keeps c.wiring) (n : Nat)
    (hn : c.wiring.current = some n) : s.bytesOn n ++ (c.wiring.source n).data = s.sentOn n := by
  rcases hk.current n hn with ⟨hcur, hdata⟩ | ⟨rfl, hdata⟩
  · rw [hdata, h.bytes_open n hcur]
  · rw [hdata, h.nothing_on_new.1, h.nothing_on_new.2]
    rfl

lemma Ledger.pending_of_keeps (h : s.Ledger l) (hk : s.channel.wiring.Keeps c.wiring) :
    ∀ x ∈ s.readings, ∀ n, c.wiring.pending = some n → x.link < n := by
  intro x hx n hn
  rcases hk.pending n hn with hp | rfl
  · exact h.links_lt_pending x hx n hp
  · exact h.links_lt x hx

/-- A section that reads nothing leaves the account as it is. -/
lemma Ledger.keep (h : s.Ledger l) (hk : s.channel.wiring.Keeps c.wiring) (stage : Stage)
    (caller : Caller) : Ledger { s with channel := c, stage, caller } l where
  limits := hk.limits.trans h.limits
  delivered := h.delivered
  last := hk.last.trans h.last
  links := h.links
  links_lt x hx := Nat.lt_of_lt_of_le (h.links_lt x hx) hk.length_le
  links_lt_pending := h.pending_of_keeps hk
  sent_lt e he := Nat.lt_of_lt_of_le (h.sent_lt e he) hk.length_le
  bytes_le := h.bytes_le
  bytes_open := h.open_of_keeps hk
  settled := h.settled

lemma reads_of_ofReceiver {r : Receiver} {x : Reading} (hx : Reading.ofReceiver r = some x) :
    r.Reads x.link ∧ x = { link := x.link } := by
  cases r with
  | reading n scanner seen =>
    obtain rfl : { link := n } = x := by simpa [Reading.ofReceiver] using hx
    exact ⟨rfl, rfl⟩
  | ended | waiting k => simp [Reading.ofReceiver] at hx

lemma readings_follow (s : Session) (c : Channel) :
    (s.follow c).readings = s.readings ++ (Reading.ofReceiver c.receiver).toList := rfl

/-- A link that is not read yet adds nothing to what was read. -/
lemma bytesOn_follow (s : Session) (c : Channel) (n : Nat) : (s.follow c).bytesOn n = s.bytesOn n := by
  have hnew : ((Reading.ofReceiver c.receiver).toList.filter (·.link = n)).flatMap (·.bytes) = [] := by
    cases hx : Reading.ofReceiver c.receiver with
    | none => rfl
    | some x =>
      rw [(reads_of_ofReceiver hx).2]
      by_cases hn : x.link = n <;> simp [hn]
  unfold bytesOn
  rw [readings_follow, List.filter_append, List.flatMap_append, hnew, List.append_nil]

lemma Ledger.lt_of_turned (h : s.Ledger l) (ht : s.channel.wiring.Turned c.wiring) {x y : Reading}
    (hx : x ∈ s.readings) (hy : Reading.ofReceiver c.receiver = some y) : x.link < y.link := by
  have hreads : c.wiring.receiver.Reads y.link := (reads_of_ofReceiver hy).1
  rcases ht with ht | ⟨n, hn, hr⟩
  · exact absurd hreads (ht y.link)
  · rw [hr] at hreads
    obtain rfl : n = y.link := hreads
    rcases hn with hn | hn
    · exact h.links_lt_pending x hx _ hn
    · rw [hn]
      exact h.links_lt x hx

/-- When the thread turns to another link, the account of the one before is closed. -/
lemma Ledger.follow (h : s.Ledger l) (hk : s.channel.wiring.Keeps c.wiring) (ho : c.wiring.Ordered)
    (ht : s.channel.wiring.Turned c.wiring) (hset : ∀ x, s.now = some x → x.Settled l) :
    (s.follow c).Ledger l := by
  have hmem : ∀ x ∈ (s.follow c).readings,
      x ∈ s.readings ∨ Reading.ofReceiver c.receiver = some x := by
    intro x hx
    rw [readings_follow] at hx
    rcases List.mem_append.mp hx with hx | hx
    · exact Or.inl hx
    · exact Or.inr (by simpa using hx)
  have hbase := h.keep hk s.stage s.caller
  refine { hbase with
    delivered := ?_, links := ?_, links_lt := ?_, links_lt_pending := ?_, bytes_le := ?_,
    bytes_open := ?_, settled := ?_ }
  · have hnew : (Reading.ofReceiver c.receiver).toList.flatMap (·.frames) = [] := by
      cases hx : Reading.ofReceiver c.receiver with
      | none => rfl
      | some x => rw [(reads_of_ofReceiver hx).2]; rfl
    rw [readings_follow, List.flatMap_append, hnew, List.append_nil]
    exact h.delivered
  · rw [readings_follow, List.map_append, List.pairwise_append]
    refine ⟨h.links, ?_, ?_⟩
    · cases Reading.ofReceiver c.receiver <;> simp
    · intro a ha b hb
      obtain ⟨x, hx, rfl⟩ := List.mem_map.mp ha
      obtain ⟨y, hy, rfl⟩ := List.mem_map.mp hb
      exact h.lt_of_turned ht hx (by simpa using hy)
  · intro x hx
    rcases hmem x hx with hx | hx
    · exact hbase.links_lt x hx
    · exact ho.reads_lt x.link (reads_of_ofReceiver hx).1
  · intro x hx n hn
    rcases hmem x hx with hx | hx
    · exact hbase.links_lt_pending x hx n hn
    · exact ho.reads_lt_pending x.link n (reads_of_ofReceiver hx).1 hn
  · intro n
    rw [bytesOn_follow]
    exact h.bytes_le n
  · intro n hn
    rw [bytesOn_follow]
    exact hbase.bytes_open n hn
  · intro x hx
    rcases List.mem_append.mp hx with hx | hx
    · exact h.settled x hx
    · exact hset x (by simpa using hx)

section Read

variable {x x' : Reading} {b : Bytes} {fs : List Frame}

/-- The session after the thread has read on. -/
def reads (s : Session) (c : Channel) (stage : Stage) (x : Reading) (fs : List Frame) : Session :=
  { s with channel := c, stage, now := some x, delivered := s.delivered ++ fs }

lemma readings_of_now (hx : s.now = some x) : s.readings = s.past ++ [x] := by
  rw [readings, hx]
  rfl

lemma readings_reads (s : Session) (c : Channel) (stage : Stage) (x : Reading) (fs : List Frame) :
    (s.reads c stage x fs).readings = s.past ++ [x] := rfl

lemma bytesOn_reads (hx : s.now = some x) (hlink : x'.link = x.link) (hbytes : x'.bytes = x.bytes ++ b)
    (stage : Stage) (n : Nat) :
    (s.reads c stage x' fs).bytesOn n = s.bytesOn n ++ if x.link = n then b else [] := by
  rw [bytesOn, bytesOn, readings_reads, readings_of_now hx, List.filter_append, List.filter_append,
    List.flatMap_append, List.flatMap_append, List.append_assoc]
  by_cases hn : x.link = n <;> simp [hlink, hbytes, hn]

lemma links_reads (hx : s.now = some x) (hlink : x'.link = x.link) (stage : Stage) :
    (s.reads c stage x' fs).readings.map (·.link) = s.readings.map (·.link) := by
  rw [readings_reads, readings_of_now hx]
  simp [hlink]

lemma exists_mem_of_reads (hx : s.now = some x) (hlink : x'.link = x.link) {stage : Stage}
    {y : Reading} (hy : y ∈ (s.reads c stage x' fs).readings) :
    ∃ z ∈ s.readings, z.link = y.link := by
  have hy' : y.link ∈ s.readings.map (·.link) := by
    rw [← links_reads hx hlink stage]
    exact List.mem_map_of_mem hy
  exact List.mem_map.mp hy'

/-- What is read from a link is put down to it, with the frames found in it. -/
lemma Ledger.reads (h : s.Ledger l) (hx : s.now = some x) (x' : Reading) (hlink : x'.link = x.link)
    (hbytes : x'.bytes = x.bytes ++ b) (hframes : x'.frames = x.frames ++ fs) (stage : Stage)
    (hlimits : c.wiring.limits = s.channel.wiring.limits)
    (hlast : c.wiring.last = (s.delivered ++ fs).getLast?)
    (hlength : c.wiring.sources.length = s.channel.wiring.sources.length)
    (hpending : c.wiring.pending = s.channel.wiring.pending)
    (hcurrent : c.wiring.current = s.channel.wiring.current)
    (hclosed : s.channel.wiring.current ≠ some x.link → b = [])
    (hsource : ∀ n, (if x.link = n then b else []) ++ (c.wiring.source n).data =
      (s.channel.wiring.source n).data) : (s.reads c stage x' fs).Ledger l where
  limits := hlimits.trans h.limits
  delivered := by
    have hd := h.delivered
    rw [readings_of_now hx] at hd
    rw [readings_reads]
    change s.delivered ++ fs = _
    rw [hd]
    simp [hframes]
  last := hlast
  links := by
    rw [links_reads hx hlink]
    exact h.links
  links_lt y hy := by
    obtain ⟨z, hz, hzy⟩ := exists_mem_of_reads hx hlink hy
    change _ < c.wiring.sources.length
    rw [hlength, ← hzy]
    exact h.links_lt z hz
  links_lt_pending y hy n hn := by
    obtain ⟨z, hz, hzy⟩ := exists_mem_of_reads hx hlink hy
    rw [← hzy]
    exact h.links_lt_pending z hz n (hpending ▸ hn)
  sent_lt e he := by
    change _ < c.wiring.sources.length
    rw [hlength]
    exact h.sent_lt e he
  bytes_le n := by
    rw [bytesOn_reads hx hlink hbytes]
    change _ <+: s.sentOn n
    by_cases hn : s.channel.wiring.current = some n
    · rw [← h.bytes_open n hn, ← hsource n, ← List.append_assoc]
      exact List.prefix_append _ _
    · -- what is not open gives nothing, so only the open link can have been read
      have hb : (if x.link = n then b else []) = [] := by
        split
        · next hxn => exact hclosed (hxn ▸ hn)
        · rfl
      rw [hb, List.append_nil]
      exact h.bytes_le n
  bytes_open n hn := by
    rw [bytesOn_reads hx hlink hbytes, List.append_assoc]
    change _ ++ (_ ++ (c.wiring.source n).data) = s.sentOn n
    rw [hsource n]
    exact h.bytes_open n (hcurrent ▸ hn)
  settled := h.settled

/-- How the reading of a link ends is not in the account. -/
lemma Ledger.shut (h : s.Ledger l) (hx : s.now = some x) (e : Close) : (s.shut e).Ledger l := by
  have hlast : s.channel.wiring.last = (s.delivered ++ []).getLast? := by
    rw [List.append_nil]
    exact h.last
  have hr : (s.reads s.channel s.stage (x.close e) []).Ledger l :=
    h.reads hx (x.close e) rfl (List.append_nil _).symm (List.append_nil _).symm s.stage rfl hlast
      rfl rfl rfl (fun _ => rfl) (by simp)
  simpa [Session.reads, Session.shut, hx] using hr

end Read

/-! ### What the far end sends -/

/-- What a piece from the far end does to the source it goes to. -/
def feeding (b : Bytes) (source : Source) : Source :=
  if b = [] then source else source.queue (.data b)

lemma data_feeding (b : Bytes) (source : Source) :
    (feeding b source).data = source.data ++ if source.isLive then b else [] := by
  unfold feeding Source.queue
  by_cases hb : b = []
  · simp [hb]
  · cases hl : source.isLive <;> simp [hb, Source.data]

lemma feeding_ended (b : Bytes) : feeding b Source.ended = Source.ended := by
  unfold feeding
  split <;> rfl

lemma set_source (w : Wiring) (n : Nat) : w.sources.set n (w.source n) = w.sources := by
  apply List.ext_getElem?
  intro m
  by_cases hnm : n = m
  · subst hnm
    rcases Nat.lt_or_ge n w.sources.length with hlt | hge
    · simp [Wiring.source, hlt]
    · simp [Nat.not_lt_of_ge hge]
  · simp [hnm]

lemma wiring_feed (c : Channel) (b : Bytes) :
    { c with transport := c.transport.feed b }.wiring = c.wiring.onOpen (feeding b) := by
  unfold Transport.feed feeding
  by_cases hb : b = []
  · simp only [hb, if_true]
    unfold Wiring.onOpen
    split
    · rw [set_source]
    · rfl
  · simp only [hb, if_false]
    exact Channel.wiring_deliver c (.data b)

lemma hear_of_some (b : Bytes) (hn : s.channel.wiring.current = some n) :
    s.hear b = if (s.channel.wiring.source n).isLive then [(n, b)] else [] := by
  have hn' : s.channel.transport.current = some n := hn
  rw [Channel.source_wiring]
  simp only [hear, hn']

lemma hear_of_none (b : Bytes) (hn : s.channel.wiring.current = none) : s.hear b = [] := by
  have hn' : s.channel.transport.current = none := hn
  simp only [hear, hn']

lemma sentOn_feed (b : Bytes) (hn : s.channel.wiring.current = some n) (m : Nat) :
    (s.feed b).sentOn m =
      s.sentOn m ++ if n = m ∧ (s.channel.wiring.source n).isLive then b else [] := by
  unfold sentOn feed
  rw [hear_of_some b hn, List.filter_append, List.flatMap_append]
  congr 1
  cases (s.channel.wiring.source n).isLive <;> by_cases hnm : n = m <;> simp [hnm]

/-- What the far end sends is queued on the open link, and put down to it. -/
lemma Ledger.feed (h : s.Ledger l) (ho : s.channel.wiring.Ordered) (b : Bytes) :
    (s.feed b).Ledger l := by
  have hw : (s.feed b).channel.wiring = s.channel.wiring.onOpen (feeding b) :=
    wiring_feed s.channel b
  cases hc : s.channel.wiring.current with
  | none =>
    rw [Wiring.onOpen_of_none hc] at hw
    have hkeep := h.keep (c := (s.feed b).channel) (hw ▸ .refl _) s.stage s.caller
    simpa [Session.feed, hear_of_none b hc] using hkeep
  | some n =>
    have hsource := Wiring.source_onOpen ho (feeding b) hc
    have hsent := sentOn_feed b hc
    rw [← hw] at hsource
    rw [Wiring.onOpen_of_some hc] at hw
    constructor
    case limits =>
      rw [hw]
      exact h.limits
    case delivered => exact h.delivered
    case last =>
      rw [hw]
      exact h.last
    case links => exact h.links
    case links_lt =>
      intro x hx
      rw [hw]
      simpa using h.links_lt x hx
    case links_lt_pending =>
      rw [hw]
      exact h.links_lt_pending
    case sent_lt =>
      intro e he
      rw [hw]
      simp only [List.length_set]
      rcases List.mem_append.mp he with he | he
      · exact h.sent_lt e he
      · rw [hear_of_some b hc] at he
        split at he
        · rw [List.mem_singleton.mp he]
          exact ho.current_lt n hc
        · simp at he
    case bytes_le =>
      intro m
      rw [hsent m]
      exact (h.bytes_le m).trans (List.prefix_append _ _)
    case bytes_open =>
      intro m hm
      obtain rfl : n = m := by
        rw [hw] at hm
        simpa [hc] using hm
      rw [hsent n, hsource, if_pos rfl, data_feeding, ← List.append_assoc]
      change s.bytesOn n ++ _ ++ _ = _
      rw [h.bytes_open n hc]
      simp
    case settled => exact h.settled

/-! ### The link that is held -/

lemma holds_mono {stage : Stage} {x : Reading} {source source' : Source}
    (h : stage.Holds l x scanner source) (hs : source = Source.ended → source' = Source.ended) :
    stage.Holds l x scanner source' := by
  have hgoing (hg : x.Going l scanner source) : x.Going l scanner source' :=
    ⟨hg.ending, hg.traces, fun he => hs (hg.source he)⟩
  cases stage with
  | idle | handling => exact hgoing h
  | passing f | relaying f => exact ⟨hgoing h.1, h.2⟩
  | failed | lost | leaving => exact h
  | attempting k => exact h

lemma Present.of_reading (h : s.Present l) (hr : s.channel.receiver = .reading n scanner seen) :
    ∃ x, s.now = some x ∧ x.link = n ∧
      s.stage.Holds l x scanner (s.channel.wiring.source n) := by
  have hr : s.channel.wiring.receiver = .reading n scanner seen := hr
  unfold Present at h
  split at h
  · exact absurd (by rw [hr]; rfl) (h n)
  · next x hx =>
    obtain ⟨scanner', seen', hr', hst⟩ := h
    obtain ⟨rfl, rfl, rfl⟩ : n = x.link ∧ scanner = scanner' ∧ seen = seen' := by
      simpa using hr.symm.trans hr'
    exact ⟨x, hx, rfl, hst⟩

lemma Present.of_not_reading (h : s.Present l) (hr : ∀ n, ¬ s.channel.wiring.receiver.Reads n) :
    s.now = none := by
  unfold Present at h
  split at h
  · next hx => exact hx
  · next x hx =>
    obtain ⟨scanner, seen, hr', -⟩ := h
    exact absurd (by rw [hr']; rfl) (hr x.link)

lemma Present.settled (h : s.Present l)
    (hst : s.stage = .failed ∨ s.stage = .lost ∨ s.stage = .leaving ∨ ∃ k, s.stage = .attempting k)
    {x : Reading} (hx : s.now = some x) : x.Settled l := by
  simp only [Present, hx] at h
  obtain ⟨scanner, seen, -, hh⟩ := h
  rcases hst with hst | hst | hst | ⟨k, hst⟩ <;> rw [hst] at hh
  · exact hh
  · exact hh
  · exact hh
  · exact hh.elim

lemma Present.keep (h : s.Present l) (hl : s.Ledger l)
    (hr : c.wiring.receiver = s.channel.wiring.receiver)
    (hended : ∀ n, n < s.channel.wiring.sources.length →
      s.channel.wiring.source n = Source.ended → c.wiring.source n = Source.ended)
    {stage : Stage} (caller : Caller)
    (hst : ∀ x scanner source, s.now = some x → s.stage.Holds l x scanner source →
      stage.Holds l x scanner source) :
    Present { s with channel := c, stage, caller } l := by
  unfold Present at h ⊢
  simp only [hr]
  split at h
  · exact h
  · next x hx =>
    obtain ⟨scanner, seen, hr', hh⟩ := h
    refine ⟨scanner, seen, hr', holds_mono (hst _ _ _ hx hh) ?_⟩
    exact hended x.link (hl.links_lt x (mem_readings_of_now hx))

/-- The account of a run, and of the link that is read at this point. -/
structure Accounted (s : Session) (l : Limits) : Prop where
  ledger : s.Ledger l
  present : s.Present l

/-- A section that reads nothing and leaves the thread with its link. -/
lemma Accounted.keep (h : s.Accounted l) (hk : s.channel.wiring.Keeps c.wiring)
    (hr : c.wiring.receiver = s.channel.wiring.receiver) {stage : Stage} (caller : Caller)
    (hst : ∀ x scanner source, s.now = some x → s.stage.Holds l x scanner source →
      stage.Holds l x scanner source) :
    Accounted { s with channel := c, stage, caller } l where
  ledger := h.ledger.keep hk stage caller
  present := h.present.keep h.ledger hr hk.ended caller hst

/-- What the far end sends does not touch the link that the thread has read to its end. -/
lemma Accounted.feed (h : s.Accounted l) (ho : s.channel.wiring.Ordered) (b : Bytes) :
    (s.feed b).Accounted l where
  ledger := h.ledger.feed ho b
  present := by
    have hw : (s.feed b).channel.wiring = s.channel.wiring.onOpen (feeding b) :=
      wiring_feed s.channel b
    refine h.present.keep (c := (s.feed b).channel) h.ledger ?_ (fun n _ hn => ?_) s.caller
      fun _ _ _ _ hh => hh
    · rw [hw, Wiring.receiver_onOpen]
    · cases hc : s.channel.wiring.current with
      | none =>
        rw [hw, Wiring.onOpen_of_none hc]
        exact hn
      | some m =>
        rw [hw, Wiring.source_onOpen ho _ hc]
        split
        · next hmn => rw [hmn, hn, feeding_ended]
        · exact hn

/-- A section in which the thread turns to another link, or to none. -/
lemma Accounted.follow (hl : s.Ledger l) (ho : c.wiring.Ordered)
    (ht : s.channel.wiring.Keeps c.wiring ∧ s.channel.wiring.Turned c.wiring)
    (hset : ∀ x, s.now = some x → x.Settled l) :
    Accounted { s.follow c with stage := .idle } l where
  ledger := (hl.follow ht.1 ho ht.2 hset).keep (.refl _) .idle s.caller
  present := by
    rcases ht.2 with ht | ⟨n, -, hr⟩
    · have hnone : Reading.ofReceiver c.receiver = none := by
        cases hx : Reading.ofReceiver c.receiver with
        | none => rfl
        | some x => exact absurd (reads_of_ofReceiver hx).1 (ht x.link)
      simp only [Present, Session.follow, hnone]
      exact ht
    · have hr' : c.receiver = .reading n (Scanner.fresh s.channel.wiring.limits) {} := hr
      have hsome : Reading.ofReceiver c.receiver = some { link := n } := by rw [hr']; rfl
      simp only [Present, Session.follow, hsome]
      refine ⟨_, _, hr, rfl, ?_, by simp⟩
      rw [hl.limits]
      exact Reading.traces_fresh l n

/-- A call leaves the thread with its link, or finds no thread and may start one. -/
lemma Accounted.leave (h : s.Accounted l) (hs : s.Sound) (hk : s.channel.wiring.Keeps c.wiring)
    (ho : c.wiring.Ordered) (hr : c.wiring.receiver = s.channel.wiring.receiver ∨
      s.channel.wiring.receiving = false ∧ s.channel.wiring.Turned c.wiring) :
    (s.leave c).Accounted l := by
  unfold Session.leave
  split
  · next he =>
    have he' : s.channel.wiring.receiver = .ended := he
    have hidle : s.stage = .idle := by
      by_cases hidle : s.stage = .idle
      · exact hidle
      · exact absurd he' (hs.ordered.receiving_iff.mp (Wiring.Sound.receiving hs hidle))
    have hnot : ∀ n, ¬ s.channel.wiring.receiver.Reads n := by simp [he', Receiver.Reads]
    have hnow := h.present.of_not_reading hnot
    have ht : s.channel.wiring.Turned c.wiring := by
      rcases hr with hr | ⟨-, ht⟩
      · exact Or.inl (hr ▸ hnot)
      · exact ht
    have hf := Accounted.follow h.ledger ho ⟨hk, ht⟩ (by simp [hnow])
    rw [← hidle] at hf
    exact hf
  · next hne =>
    rcases hr with hr | ⟨hidle, -⟩
    · exact h.keep hk hr s.caller fun _ _ _ _ hh => hh
    · exact absurd (hs.ordered.ended_of_idle hidle) hne

end Session

end FrameLink
