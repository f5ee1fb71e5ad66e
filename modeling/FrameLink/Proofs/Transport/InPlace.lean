import FrameLink.Proofs.Transport.Inbound

/-!
Datagrams that are read by way of a buffer come in as a stream of bytes.

What is left of the datagram at hand stands in the buffer between the place and the length. Reading by way
of the buffer is reading from these bytes, and waiting is waiting as without a buffer, as long as each
datagram fits into it.
-/

namespace FrameLink

namespace SocketEvent

variable {event : SocketEvent} {events : List SocketEvent}

lemma mem_of_mem_next {isClosed : Bool} (h : event ∈ (next isClosed events).2.2) :
    event ∈ events := by
  induction events generalizing isClosed with
  | nil => exact h
  | cons first rest ih =>
    cases first with
    | close => exact List.mem_cons_of_mem _ (ih h)
    | datagram b => exact List.mem_cons_of_mem _ h
    | failure e => exact List.mem_cons_of_mem _ h

lemma datagram_mem_of_next {isClosed : Bool} {b : Bytes}
    (h : (next isClosed events).1 = some (.ok b)) : .datagram b ∈ events := by
  induction events generalizing isClosed with
  | nil => cases isClosed <;> simp [next] at h
  | cons first rest ih =>
    cases first with
    | close => exact List.mem_cons_of_mem _ (ih h)
    | datagram c =>
      obtain rfl : c = b := by simpa [next] using h
      exact List.mem_cons_self
    | failure e => simp [next] at h

end SocketEvent

namespace BufferedSource

variable {s : BufferedSource} {n : Nat}

/-- What is left to read of the datagram at hand. -/
def held (s : BufferedSource) : Bytes := (s.buffer.take s.length).drop s.place

/-- The link without the buffer. -/
def view (s : BufferedSource) : DatagramSource := ⟨s.events, s.isClosed, s.held⟩

/-- The buffer is as long as the longest datagram, and place and length lie in it. -/
structure IsSound (s : BufferedSource) : Prop where
  capacity : s.buffer.length = maxDatagram
  length_le : s.length ≤ maxDatagram
  place_le : s.place ≤ s.length
  small : ∀ b, .datagram b ∈ s.events → b.length ≤ maxDatagram

lemma IsSound.length_held (h : s.IsSound) : s.held.length = s.length - s.place := by
  have hlength := h.length_le
  simp [held, h.capacity, hlength]

lemma IsSound.held_eq_nil_iff (h : s.IsSound) : s.held = [] ↔ ¬ s.place < s.length := by
  rw [← List.length_eq_zero_iff, h.length_held]
  omega

lemma IsSound.held_eq_nil (h : s.IsSound) : ¬ s.place < s.length → s.held = [] :=
  h.held_eq_nil_iff.mpr

end BufferedSource

namespace DatagramSource

open SocketEvent

variable {s : DatagramSource} {n : Nat}

lemma wait_eq (isClosed : Bool) (events : List SocketEvent) :
    wait isClosed events =
      match next isClosed events with
      | (some (.ok []), true, rest) => (.failed closedError, ⟨rest, true, []⟩)
      | (some (.ok []), false, rest) => wait false rest
      | (some (.ok (x :: xs)), isClosed, rest) => (.bytes (x :: xs), ⟨rest, isClosed, x :: xs⟩)
      | (some (.error e), isClosed, rest) =>
        if isPassing e then
          if isClosed then (.failed closedError, ⟨rest, true, []⟩) else wait false rest
        else (.failed e, ⟨rest, isClosed, []⟩)
      | (none, isClosed, rest) => (.blocked, ⟨rest, isClosed, []⟩) := by
  induction events generalizing isClosed with
  | nil => cases isClosed <;> rfl
  | cons event rest ih =>
    cases event with
    | close => exact ih true
    | datagram b => cases b <;> cases isClosed <;> rfl
    | failure e => rfl

/-- Waits until there is something to read, or tells why there will not be. -/
def await (s : DatagramSource) : Option ReadResult × DatagramSource :=
  if s.held ≠ [] then (none, s)
  else if s.isClosed then (some (.failed closedError), s)
  else
    match wait false s.events with
    | (.bytes _, s) => (none, s)
    | (result, s) => (some result, s)

lemma await_next (hheld : s.held = []) (hopen : s.isClosed = false) :
    s.await =
      match next false s.events with
      | (some (.ok b), isClosed, rest) => await ⟨rest, isClosed, b⟩
      | (some (.error e), isClosed, rest) =>
        if isPassing e then await ⟨rest, isClosed, []⟩ else (some (.failed e), ⟨rest, isClosed, []⟩)
      | (none, isClosed, rest) => (some .blocked, ⟨rest, isClosed, []⟩) := by
  rw [await, if_neg (by simpa using hheld), if_neg (by simp [hopen]), wait_eq]
  match next false s.events with
  | (some (.ok []), isClosed, rest) => cases isClosed <;> rfl
  | (some (.ok (x :: xs)), isClosed, rest) => rfl
  | (some (.error e), isClosed, rest) =>
    by_cases hpass : isPassing e <;> cases isClosed <;> simp [await, hpass]
  | (none, isClosed, rest) => rfl

lemma read_await (hn : 0 < n) (s : DatagramSource) :
    s.read n = match s.await with
      | (some result, s) => (result, s)
      | (none, s) => s.serve n := by
  by_cases hheld : s.held = []
  · cases hclosed : s.isClosed with
    | true => simp [read, await, hheld, hclosed, Nat.ne_of_gt hn]
    | false =>
      simp only [read, await, hheld, hclosed, Nat.ne_of_gt hn]
      cases hw : wait false s.events with
      | mk result w => cases result <;> simp
  · simp [read, await, hheld, Nat.ne_of_gt hn]

end DatagramSource

namespace BufferedSource

open DatagramSource SocketEvent

variable {s : BufferedSource} {n : Nat}

/-- A received datagram is what there is to read, from its first byte on. -/
lemma await_received {k : Nat} (h : s.IsSound) (hleft : ¬ s.place < s.length)
    (hopen : s.isClosed = false) (hr : s.receive.1 = some (.ok k)) :
    let filled : BufferedSource := { s.receive.2 with length := k, place := 0 }
    s.view.await = filled.view.await ∧ filled.IsSound := by
  intro filled
  have hmem : ∀ event ∈ (next s.isClosed s.events).2.2, event ∈ s.events := fun _ => mem_of_mem_next
  have hdatagram : ∀ b, (next s.isClosed s.events).1 = some (.ok b) → .datagram b ∈ s.events :=
    fun _ => datagram_mem_of_next
  rw [await_next (h.held_eq_nil hleft) hopen]
  simp only [filled, receive, view, hopen] at hr hmem hdatagram ⊢
  rcases hnext : next false s.events with ⟨r, isClosed, events⟩
  rw [hnext] at hr hmem hdatagram
  rcases r with _ | _ | b
  · simp at hr
  · simp at hr
  · have hb : b.length ≤ maxDatagram := h.small b (hdatagram b rfl)
    have hcapacity := h.capacity
    simp only [hcapacity, Nat.min_eq_left hb, Option.some.injEq, Except.ok.injEq] at hr
    subst hr
    refine ⟨by simp [held, hcapacity, List.take_of_length_le hb], ?_, hb, Nat.zero_le _, ?_⟩
    · simp [hcapacity, List.length_take]
      omega
    · exact fun c hc => h.small c (hmem _ hc)

/-- Where nothing is received the buffer stays as it was. -/
lemma await_not_received (h : s.IsSound) (hleft : ¬ s.place < s.length) (hopen : s.isClosed = false)
    (hr : ∀ k, s.receive.1 ≠ some (.ok k)) :
    s.view.await =
      (match s.receive.1 with
      | some (.error e) =>
        if isPassing e then s.receive.2.view.await else (some (.failed e), s.receive.2.view)
      | _ => (some .blocked, s.receive.2.view)) ∧
    s.receive.2.IsSound := by
  have hmem : ∀ event ∈ (next s.isClosed s.events).2.2, event ∈ s.events := fun _ => mem_of_mem_next
  have hheld : s.held = [] := h.held_eq_nil hleft
  rw [await_next hheld hopen]
  simp only [receive, view, hopen] at hr hmem ⊢
  rcases hnext : next false s.events with ⟨r, isClosed, events⟩
  rw [hnext] at hr hmem
  have hsound : ({ s with events, isClosed } : BufferedSource).IsSound :=
    { h with small := fun c hc => h.small c (hmem _ hc) }
  rcases r with _ | _ | b
  · exact ⟨by rw [← hheld]; rfl, hsound⟩
  · exact ⟨by rw [← hheld]; rfl, hsound⟩
  · simp at hr

/-- Up to the buffer, a link is waited on as it is without one. -/
lemma fill_eq (h : s.IsSound) :
    s.fill.1 = s.view.await.1 ∧ s.fill.2.view = s.view.await.2 ∧ s.fill.2.IsSound := by
  fun_induction fill s with
  | case1 s hleft =>
    have hheld : s.held ≠ [] := mt h.held_eq_nil_iff.mp (not_not_intro hleft)
    simpa [await, view, hheld] using h
  | case2 s hleft hclosed => simpa [await, view, h.held_eq_nil hleft, hclosed] using h
  | case3 s hleft hopen n hr ih =>
    obtain ⟨hawait, hsound⟩ := await_received h hleft (eq_false_of_ne_true hopen) hr
    rw [hawait]
    exact ih hsound
  | case4 s hleft hopen e hr hpass ih =>
    obtain ⟨hawait, hsound⟩ := await_not_received h hleft (eq_false_of_ne_true hopen) (by simp [hr])
    rw [hawait, hr]
    simpa only [hpass, if_true] using ih hsound
  | case5 s hleft hopen e hr hpass =>
    obtain ⟨hawait, hsound⟩ := await_not_received h hleft (eq_false_of_ne_true hopen) (by simp [hr])
    rw [hawait, hr]
    simpa [hpass] using hsound
  | case6 s hleft hopen hr =>
    obtain ⟨hawait, hsound⟩ := await_not_received h hleft (eq_false_of_ne_true hopen) (by simp [hr])
    rw [hawait, hr]
    exact ⟨rfl, rfl, hsound⟩

lemma advance_place (h : s.IsSound) :
    Buffer.advance s.buffer s.place = some (s.buffer.drop s.place) := by
  rw [Buffer.advance, if_pos]
  rw [h.capacity]
  exact Nat.le_trans h.place_le h.length_le

/-- The bytes that are handed out of the buffer are the first of those left to read. -/
lemma splitTo_place (h : s.IsSound) (n : Nat) :
    Buffer.splitTo (s.buffer.drop s.place) (min (s.length - s.place) n) =
      some (s.held.take n, s.buffer.drop (s.place + min (s.length - s.place) n)) := by
  have hleft : min (s.length - s.place) n ≤ (s.buffer.drop s.place).length := by
    have hlength := h.length_le
    rw [List.length_drop, h.capacity]
    omega
  rw [Buffer.splitTo, if_pos hleft, List.drop_drop, held, List.drop_take, List.take_take, Nat.min_comm]

lemma held_move (s : BufferedSource) (n : Nat) :
    ({ s with place := s.place + min (s.length - s.place) n } : BufferedSource).held =
      s.held.drop n := by
  rw [held, held, List.drop_drop]
  rcases Nat.le_total n (s.length - s.place) with hn | hn
  · rw [Nat.min_eq_right hn]
  · rw [Nat.min_eq_left hn, List.drop_eq_nil_of_le, List.drop_eq_nil_of_le]
    all_goals simp only [List.length_take]; omega

lemma IsSound.move (h : s.IsSound) (n : Nat) :
    ({ s with place := s.place + min (s.length - s.place) n } : BufferedSource).IsSound where
  capacity := h.capacity
  length_le := h.length_le
  place_le := by
    have := h.place_le
    simp only
    omega
  small := h.small

/-- Up to the buffer, a link is read as it is without one; and there is always an answer. -/
lemma read_eq (h : s.IsSound) (hn : 0 < n) : ∃ s', s.read n = some ((s.view.read n).1, s') ∧
    s'.view = (s.view.read n).2 ∧ s'.IsSound := by
  obtain ⟨hresult, hview, hsound⟩ := fill_eq h
  have hawait : s.view.await = (s.fill.1, s.fill.2.view) := Prod.ext hresult.symm hview.symm
  rw [read_await hn, hawait, read, if_neg (Nat.ne_of_gt hn)]
  match hfill : s.fill with
  | (some result, f) =>
    rw [hfill] at hsound
    exact ⟨f, rfl, rfl, hsound⟩
  | (none, f) =>
    rw [hfill] at hsound
    refine ⟨{ f with place := f.place + min (f.length - f.place) n }, ?_, ?_, hsound.move n⟩
    · simp only [pure, bind, Option.bind, advance_place hsound, splitTo_place hsound]
      rfl
    · rw [view, held_move]
      rfl

/-! ### By way of a buffer, one read after the other -/

lemma fresh_isSound {events : List SocketEvent}
    (hsmall : ∀ b, .datagram b ∈ events → b.length ≤ maxDatagram) :
    ({ events } : BufferedSource).IsSound where
  capacity := List.length_replicate
  length_le := Nat.zero_le _
  place_le := Nat.le_refl _
  small := hsmall

lemma IsSound.close (h : s.IsSound) : s.close.IsSound := { h with }

/-- Whatever is asked of a link, its script is read on. -/
lemma served {events taken : List SocketEvent} {asked requests : List LinkRequest}
    {before : List ReadResult} (h : s.IsSound) (hbefore : Streamed events taken asked before s.view)
    (hreads : ∀ n, .read n ∈ requests → 0 < n) :
    ∃ results s' more, s.serve requests = some (results, s') ∧ s'.IsSound ∧
      Streamed events (taken ++ more) (asked ++ requests) (before ++ results) s'.view := by
  induction requests generalizing s taken asked before with
  | nil => exact ⟨[], s, [], rfl, h, by simpa using hbefore⟩
  | cons request rest ih =>
    have hrest : ∀ n, .read n ∈ rest → 0 < n := fun n hn => hreads n (List.mem_cons_of_mem _ hn)
    cases request with
    | close => simpa [serve] using ih h.close hbefore.close hrest
    | read n =>
      have hn : 0 < n := hreads n List.mem_cons_self
      obtain ⟨s', hread, hview, hsound⟩ := read_eq h hn
      obtain ⟨now, hnow⟩ := reads hn s.view
      have hstep := hbefore.read hnow n
      rw [← hview] at hstep
      obtain ⟨results, s'', more, hserve, hsound', hstreamed⟩ := ih hsound hstep hrest
      refine ⟨(s.view.read n).1 :: results, s'', now ++ more, ?_, hsound', by simpa using hstreamed⟩
      rw [serve, hread]
      simp [hserve]

/-- On a closed link nothing is received any more. -/
lemma served_shut {requests : List LinkRequest} (h : s.IsSound) (hclosed : s.isClosed = true)
    (hreads : ∀ n, .read n ∈ requests → 0 < n) :
    ∃ s', s.serve requests = some (drained s.held requests, s') ∧ s'.events = s.events := by
  induction requests generalizing s with
  | nil => exact ⟨s, by rw [drained, serve], rfl⟩
  | cons request rest ih =>
    have hrest : ∀ n, .read n ∈ rest → 0 < n := fun n hn => hreads n (List.mem_cons_of_mem _ hn)
    cases request with
    | close =>
      obtain ⟨s', hserve, hevents⟩ := ih h.close rfl hrest
      exact ⟨s', by rwa [drained, serve], hevents⟩
    | read n =>
      have hn : 0 < n := hreads n List.mem_cons_self
      obtain ⟨s', hread, hview, hsound⟩ := read_eq h hn
      obtain ⟨hdrained, hsame⟩ := drained_read (s := s.view) hn hclosed rest
      rw [← hview] at hdrained hsame
      obtain ⟨s'', hserve, hevents⟩ := ih hsound (hsame.1.trans hclosed) hrest
      refine ⟨s'', ?_, hevents.trans hsame.2⟩
      rw [serve, hread]
      exact hdrained ▸ by simp [hserve, view]

end BufferedSource

open DatagramSource SocketEvent in
/-- **Datagrams make a stream.** A link is read, with buffers of any sizes, and closed, at any points and
also during a wait, and each datagram fits into the buffer. Then every read has an answer, and what was
read is, in order and with nothing lost or repeated, the bytes of the datagrams that were received, up to
what is held of the last; no read gives an end of stream. A datagram that arrives after idle polls, the
link being closed during its own receive or not, is read from its beginning. Once the link is closed,
reads give what is held, and then fail. -/
theorem datagrams_make_a_stream (events : List SocketEvent) (requests : List LinkRequest)
    (hsmall : ∀ b, .datagram b ∈ events → b.length ≤ maxDatagram)
    (hreads : ∀ n, .read n ∈ requests → 0 < n) :
    ∃ results s taken, ({ events } : BufferedSource).serve requests = some (results, s) ∧
      Streamed events taken requests results s.view ∧
      (∀ idle closes b rest n, s.held = [] → s.isClosed = false →
        s.events = idle ++ List.replicate closes .close ++ .datagram b :: rest →
        (∀ event ∈ idle, event.isIdle) → b ≠ [] → 0 < n →
        ∃ s', s.read n = some (.bytes (b.take n), s') ∧
          s'.view = ⟨rest, decide (0 < closes), b.drop n⟩) ∧
      (s.isClosed = true → ∀ more, (∀ n, .read n ∈ more → 0 < n) →
        ∃ s', s.serve more = some (drained s.held more, s') ∧ s'.events = s.events) := by
  obtain ⟨results, s, taken, hserve, hsound, hstreamed⟩ :=
    BufferedSource.served (BufferedSource.fresh_isSound hsmall) (.fresh events) hreads
  refine ⟨results, s, taken, hserve, hstreamed, ?_, fun hclosed more hmore =>
    BufferedSource.served_shut hsound hclosed hmore⟩
  intro idle closes b rest n hheld hopen hevents hidle hb hn
  obtain ⟨s', hread, hview, -⟩ := BufferedSource.read_eq hsound hn
  have hwait : wait false s.events = (.bytes b, ⟨rest, decide (0 < closes), b⟩) := by
    rw [hevents, List.append_assoc, wait_idle hidle, wait_arrives hb, Bool.false_or]
  rw [read_arrived (s := s.view) hn hheld hopen hwait] at hread hview
  exact ⟨s', hread, hview⟩

open DatagramSource SocketEvent in
/-- Five bytes in two datagrams, with an empty one and a poll without result between them, and the link
closed while the second datagram is on its way. -/
theorem datagrams_make_a_stream_of_five_bytes :
    let events := [.datagram [1, 2, 3], .datagram [], .failure idlePoll, .close, .datagram [4, 5]]
    let requests : List LinkRequest := [.read 2, .read 2, .read 1, .close, .read 1, .read 1]
    ∃ results s, ({ events } : BufferedSource).serve requests = some (results, s) ∧
      results.flatMap ReadResult.content <+: [1, 2, 3, 4, 5] ∧ s.isClosed = true := by
  intro events requests
  obtain ⟨results, s, taken, hserve, hstreamed, -⟩ :=
    datagrams_make_a_stream events requests (by simp [events, maxDatagram]) (by simp [requests])
  refine ⟨results, s, hserve, ⟨s.held ++ s.events.flatMap content, ?_⟩,
    hstreamed.closed.mpr (.inl (by simp [requests]))⟩
  calc results.flatMap ReadResult.content ++ (s.held ++ s.events.flatMap content)
      = taken.flatMap content ++ s.events.flatMap content := by
        rw [← List.append_assoc]
        exact congrArg (· ++ _) hstreamed.bytes
    _ = events.flatMap content := by rw [← List.flatMap_append, hstreamed.script]; rfl
    _ = [1, 2, 3, 4, 5] := rfl

end FrameLink
