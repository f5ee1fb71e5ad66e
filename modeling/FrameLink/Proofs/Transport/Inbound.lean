import Mathlib.Logic.Basic
import FrameLink.Transport.InPlace

/-!
What reading from a link takes off its script.

A wait takes what befalls the socket off the script, up to a datagram that is not empty; once the link is
closed, it takes one thing more at most. What reads give is then the bytes of the datagrams that were
taken, in their order, up to what is held of the last.
-/

namespace FrameLink

/-- The bytes that a read gives. -/
def ReadResult.content : ReadResult → Bytes
  | .bytes b => b
  | _ => []

namespace SocketEvent

/-- The bytes of a datagram. -/
def content : SocketEvent → Bytes
  | .datagram b => b
  | _ => []

/-- What a wait goes on through. -/
def isIdle : SocketEvent → Bool
  | .datagram b => b.isEmpty
  | .failure e => DatagramSource.isPassing e
  | .close => false

/-- What is received of a script once the link is closed. -/
def late (events : List SocketEvent) : List SocketEvent :=
  (events.dropWhile (· ≠ .close)).filter (· ≠ .close)

variable {event : SocketEvent} {events more : List SocketEvent}

lemma ne_close_of_isIdle (h : event.isIdle) : event ≠ .close := by
  rintro rfl
  exact Bool.noConfusion h

lemma content_of_isIdle (h : event.isIdle) : event.content = [] := by
  cases event with
  | datagram b => exact List.isEmpty_iff.mp h
  | failure e => rfl
  | close => rfl

@[simp] lemma late_nil : late [] = [] := rfl

@[simp] lemma late_close : late (.close :: events) = events.filter (· ≠ .close) := by
  simp [late]

lemma late_cons (h : event ≠ .close) : late (event :: events) = late events := by
  simp [late, h]

lemma late_append (h : .close ∉ events) : late (events ++ more) = late more := by
  induction events with
  | nil => rfl
  | cons event events ih =>
    obtain ⟨hevent, hrest⟩ := not_or.mp (mt List.mem_cons.mpr h)
    rw [List.cons_append, late_cons (Ne.symm hevent), ih hrest]

end SocketEvent

namespace DatagramSource

open SocketEvent

variable {s : DatagramSource} {n : Nat}

/-! ### One wait -/

/-- What a wait comes to, and what it takes off the script. -/
structure Waited (isClosed : Bool) (events : List SocketEvent) (w : ReadResult × DatagramSource)
    (taken : List SocketEvent) : Prop where
  script : events = taken ++ w.2.events
  held : w.2.held = w.1.content
  received : taken.flatMap SocketEvent.content = w.1.content
  nonempty : w.1 ≠ .bytes []
  failed : ∀ e, w.1 = .failed e →
    e = closedError ∧ w.2.isClosed = true ∨ .failure e ∈ taken ∧ isPassing e = false
  blocked : w.1 = .blocked → w.2.events = []
  closed : w.2.isClosed = true ↔ isClosed = true ∨ .close ∈ taken
  late : (late taken).length ≤ 1
  once : isClosed = true → (taken.filter (· ≠ .close)).length ≤ 1

namespace Waited

variable {event : SocketEvent} {events taken : List SocketEvent} {w : ReadResult × DatagramSource}

/-- An idle poll on an open link is waited through. -/
lemma idle (h : Waited false events w taken) (hidle : event.isIdle) :
    Waited false (event :: events) w (event :: taken) := by
  refine { h with script := ?_, received := ?_, failed := fun e he => ?_, closed := ?_, late := ?_
                  once := by simp }
  · rw [List.cons_append, ← h.script]
  · rw [List.flatMap_cons, content_of_isIdle hidle, List.nil_append, h.received]
  · exact (h.failed e he).imp_right (And.imp_left (List.mem_cons_of_mem event))
  · simpa [Ne.symm (ne_close_of_isIdle hidle)] using h.closed
  · rw [late_cons (ne_close_of_isIdle hidle)]
    exact h.late

/-- While a wait lasts the link may be closed; the wait is then the last. -/
lemma close {isClosed : Bool} (h : Waited true events w taken) :
    Waited isClosed (.close :: events) w (.close :: taken) := by
  refine { h with script := ?_, received := h.received, failed := fun e he => ?_, closed := ?_
                  late := ?_, once := fun _ => ?_ }
  · rw [List.cons_append, ← h.script]
  · exact (h.failed e he).imp_right (And.imp_left (List.mem_cons_of_mem _))
  · simpa using h.closed
  · rw [late_close]
    exact h.once rfl
  · simpa using h.once rfl

/-- An idle poll on a closed link ends the wait. -/
lemma aborted (hidle : event.isIdle) :
    Waited true (event :: events) (.failed closedError, ⟨events, true, []⟩) [event] where
  script := rfl
  held := rfl
  received := by simp [content_of_isIdle hidle, ReadResult.content]
  nonempty := by simp
  failed e he := .inl ⟨by simpa using he.symm, rfl⟩
  blocked := by simp
  closed := by simp
  late := by simp [late_cons (ne_close_of_isIdle hidle)]
  once _ := List.length_filter_le _ [event]

/-- A wait that is over at once takes what ended it. -/
lemma endedBy {isClosed : Bool} {result : ReadResult} (hne : event ≠ .close)
    (hcontent : event.content = result.content) (hbytes : result ≠ .bytes [])
    (hfailed : ∀ e, result = .failed e → event = .failure e ∧ isPassing e = false)
    (hblocked : result ≠ .blocked) :
    Waited isClosed (event :: events) (result, ⟨events, isClosed, result.content⟩) [event] where
  script := rfl
  held := rfl
  received := by simpa using hcontent
  nonempty := hbytes
  failed e he := .inr ⟨by simp [(hfailed e he).1], (hfailed e he).2⟩
  blocked h := absurd h hblocked
  closed := by simp [Ne.symm hne]
  late := by simp [late_cons hne]
  once _ := List.length_filter_le _ [event]

/-- Past the script nothing is taken. -/
lemma past (isClosed : Bool) : Waited isClosed [] (wait isClosed []) [] := by
  cases isClosed <;> constructor <;> simp [wait, ReadResult.content]

end Waited

lemma waited (isClosed : Bool) (events : List SocketEvent) :
    ∃ taken, Waited isClosed events (wait isClosed events) taken := by
  induction events generalizing isClosed with
  | nil => exact ⟨[], .past isClosed⟩
  | cons event rest ih =>
    obtain ⟨taken, hrest⟩ := ih false
    cases event with
    | close =>
      obtain ⟨taken, hclosed⟩ := ih true
      exact ⟨.close :: taken, hclosed.close⟩
    | datagram b =>
      cases b with
      | nil =>
        cases isClosed with
        | true => exact ⟨[_], .aborted rfl⟩
        | false => exact ⟨_ :: taken, hrest.idle rfl⟩
      | cons x xs => exact ⟨[_], .endedBy (by simp) rfl (by simp) (by simp) (by simp)⟩
    | failure e =>
      by_cases hpass : isPassing e
      · have hidle : (SocketEvent.failure e).isIdle := hpass
        cases isClosed with
        | true => exact ⟨[_], by simpa [wait, hpass] using Waited.aborted hidle⟩
        | false => exact ⟨_ :: taken, by simpa [wait, hpass] using hrest.idle hidle⟩
      · have hover : Waited isClosed (.failure e :: rest) (.failed e, ⟨rest, isClosed, []⟩) [.failure e] :=
          .endedBy (by simp) rfl (by simp) (by simpa using hpass) (by simp)
        exact ⟨[_], by simpa [wait, hpass] using hover⟩

/-! ### One read -/

lemma read_held (hn : 0 < n) (h : s.held ≠ []) :
    s.read n = (.bytes (s.held.take n), { s with held := s.held.drop n }) := by
  rw [read, if_neg (by omega), if_pos h, serve]

lemma read_shut (hn : 0 < n) (h : s.held = []) (hclosed : s.isClosed = true) :
    s.read n = (.failed closedError, s) := by
  rw [read, if_neg (by omega), if_neg (by simpa using h), if_pos hclosed]

lemma read_arrived {b : Bytes} {w : DatagramSource} (hn : 0 < n) (h : s.held = [])
    (hopen : s.isClosed = false) (hw : wait false s.events = (.bytes b, w)) :
    s.read n = (.bytes (b.take n), { w with held := b.drop n }) := by
  obtain ⟨taken, hwaited⟩ := waited false s.events
  rw [hw] at hwaited
  have hheld : w.held = b := hwaited.held
  rw [read, if_neg (by omega), if_neg (by simpa using h), if_neg (by simp [hopen]), hw]
  simp only [serve, hheld]

lemma read_waited (hn : 0 < n) (h : s.held = []) (hopen : s.isClosed = false)
    (hw : ∀ b, (wait false s.events).1 ≠ .bytes b) : s.read n = wait false s.events := by
  rw [read, if_neg (by omega), if_neg (by simpa using h), if_neg (by simp [hopen])]
  split
  · next b w heq => exact absurd (congrArg Prod.fst heq) (hw b)
  · rfl

/-- What a read comes to, and what it takes off the script. -/
structure Reads (s : DatagramSource) (r : ReadResult × DatagramSource) (taken : List SocketEvent) :
    Prop where
  script : s.events = taken ++ r.2.events
  bytes : r.1.content ++ r.2.held = s.held ++ taken.flatMap SocketEvent.content
  nonempty : r.1 ≠ .bytes []
  failed : ∀ e, r.1 = .failed e → r.2.held = [] ∧
    (e = closedError ∧ r.2.isClosed = true ∨ .failure e ∈ taken ∧ isPassing e = false)
  blocked : r.1 = .blocked → r.2.events = []
  shut : s.isClosed = true → taken = []
  closed : r.2.isClosed = true ↔ s.isClosed = true ∨ .close ∈ taken
  late : (late taken).length ≤ 1

lemma reads_held (hn : 0 < n) (h : s.held ≠ []) : Reads s (s.read n) [] := by
  rw [read_held hn h]
  constructor
  case bytes => simp [ReadResult.content]
  case nonempty => simpa [Nat.ne_of_gt hn] using h
  all_goals simp

lemma reads_shut (hn : 0 < n) (h : s.held = []) (hclosed : s.isClosed = true) :
    Reads s (s.read n) [] := by
  rw [read_shut hn h hclosed]
  constructor
  case bytes => simp [ReadResult.content]
  case failed => simpa [hclosed] using h
  all_goals simp [hclosed]

lemma reads_open (hn : 0 < n) (h : s.held = []) (hopen : s.isClosed = false) :
    ∃ taken, Reads s (s.read n) taken := by
  obtain ⟨taken, hw⟩ := waited false s.events
  refine ⟨taken, ?_⟩
  cases hr : (wait false s.events).1 with
  | bytes b =>
    have heq : wait false s.events = (.bytes b, (wait false s.events).2) := Prod.ext hr rfl
    rw [read_arrived hn h hopen heq]
    exact {
      script := hw.script
      bytes := by simp [ReadResult.content, h, hw.received, hr]
      nonempty := by simpa [Nat.ne_of_gt hn, hr] using hw.nonempty
      failed := by simp
      blocked := by simp
      shut := by simp [hopen]
      closed := by simpa [hopen] using hw.closed
      late := hw.late }
  | failed e | blocked =>
    rw [read_waited hn h hopen (by simp [hr])]
    have hheld : (wait false s.events).2.held = [] := hw.held.trans (congrArg ReadResult.content hr)
    exact {
      script := hw.script
      bytes := by rw [h, hw.received, hheld, List.append_nil, List.nil_append]
      nonempty := hw.nonempty
      failed := fun e he => ⟨hheld, hw.failed e he⟩
      blocked := hw.blocked
      shut := by simp [hopen]
      closed := by simpa [hopen] using hw.closed
      late := hw.late }

lemma reads (hn : 0 < n) (s : DatagramSource) : ∃ taken, Reads s (s.read n) taken := by
  by_cases h : s.held = []
  · cases hclosed : s.isClosed with
    | true => exact ⟨[], reads_shut hn h hclosed⟩
    | false => exact reads_open hn h hclosed
  · exact ⟨[], reads_held hn h⟩

/-! ### One read after the other -/

/-- What came of the requests on a link, and how far its script was read for that. -/
structure Streamed (events taken : List SocketEvent) (requests : List LinkRequest)
    (results : List ReadResult) (s : DatagramSource) : Prop where
  /-- The script is what was taken off it, and what is left. -/
  script : events = taken ++ s.events
  /-- The bytes that were read are those of the datagrams in their order, but for what is held. -/
  bytes : results.flatMap ReadResult.content ++ s.held = taken.flatMap SocketEvent.content
  /-- No read gave an end of stream. -/
  nonempty : .bytes [] ∉ results
  /-- A read failed because the link was closed, or because the socket did in earnest. -/
  failed : ∀ e, .failed e ∈ results →
    e = closedError ∧ s.isClosed = true ∨ .failure e ∈ taken ∧ isPassing e = false
  /-- A read fails only when nothing is left to read. -/
  emptied : ∀ e, results.getLast? = some (.failed e) → s.held = []
  /-- A read waits for ever only when nothing will befall the socket. -/
  blocked : .blocked ∈ results → s.events = []
  /-- The link is closed if that was asked for, between two reads or during one. -/
  closed : s.isClosed = true ↔ .close ∈ requests ∨ .close ∈ taken
  /-- Once the link was closed, the receive under way was the last. -/
  late : (late taken).length ≤ 1

namespace Streamed

variable {events taken more : List SocketEvent} {requests : List LinkRequest}
  {results : List ReadResult} {r : ReadResult × DatagramSource}

lemma fresh (events : List SocketEvent) : Streamed events [] [] [] { events } := by
  constructor <;> simp

lemma close (h : Streamed events taken requests results s) :
    Streamed events taken (requests ++ [.close]) results s.close :=
  { h with failed := fun e he => (h.failed e he).imp_left (And.imp_right fun _ => rfl)
           closed := by simp [DatagramSource.close] }

/-- One more read goes one step on. -/
lemma read (h : Streamed events taken requests results s) (hr : Reads s r more) (n : Nat) :
    Streamed events (taken ++ more) (requests ++ [.read n]) (results ++ [r.1]) r.2 where
  script := by rw [List.append_assoc, ← hr.script, h.script]
  bytes := by simp [← h.bytes, ← hr.bytes]
  nonempty := by simpa using ⟨h.nonempty, Ne.symm hr.nonempty⟩
  failed e he := by
    rcases List.mem_append.mp he with hbefore | hlast
    · exact (h.failed e hbefore).imp (And.imp_right fun hc => hr.closed.mpr (.inl hc))
        (And.imp_left (List.mem_append_left more))
    · exact (hr.failed e (List.mem_singleton.mp hlast).symm).2.imp_right
        (And.imp_left (List.mem_append_right taken))
  emptied e he := (hr.failed e (by simpa using he)).1
  blocked hb := by
    rcases List.mem_append.mp hb with hbefore | hlast
    · have hnone := h.blocked hbefore
      rw [hr.script, List.append_eq_nil_iff] at hnone
      exact hnone.2
    · exact hr.blocked (List.mem_singleton.mp hlast).symm
  closed := by simpa [or_assoc] using hr.closed.trans (or_congr_left h.closed)
  late := by
    by_cases hc : .close ∈ taken
    · rw [hr.shut (h.closed.mpr (.inr hc)), List.append_nil]
      exact h.late
    · rw [late_append hc]
      exact hr.late

end Streamed

/-! ### The datagram that arrives, and the link that is closed -/

variable {idle events : List SocketEvent}

/-- On an open link idle polls are waited through. -/
lemma wait_idle (h : ∀ event ∈ idle, event.isIdle) :
    wait false (idle ++ events) = wait false events := by
  induction idle with
  | nil => rfl
  | cons event rest ih =>
    have hidle := h event List.mem_cons_self
    rw [← ih fun e he => h e (List.mem_cons_of_mem event he)]
    match event with
    | .datagram [] => rfl
    | .datagram (x :: xs) => simp [isIdle] at hidle
    | .failure e => simp [wait, show isPassing e = true from hidle]
    | .close => simp [isIdle] at hidle

/-- A datagram arrives even if the link was closed during its receive. -/
lemma wait_arrives {b : Bytes} (hb : b ≠ []) (isClosed : Bool) (closes : Nat) :
    wait isClosed (List.replicate closes .close ++ .datagram b :: events) =
      (.bytes b, ⟨events, isClosed || decide (0 < closes), b⟩) := by
  induction closes generalizing isClosed with
  | zero =>
    obtain ⟨x, xs, rfl⟩ := List.exists_cons_of_ne_nil hb
    simp [wait]
  | succ k ih => simpa [List.replicate_succ, wait] using ih true

/-- What a closed link still gives: the bytes it holds, and then nothing but failures. -/
def drained : Bytes → List LinkRequest → List ReadResult
  | _, [] => []
  | held, .close :: rest => drained held rest
  | [], .read _ :: rest => .failed closedError :: drained [] rest
  | x :: xs, .read n :: rest => .bytes ((x :: xs).take n) :: drained ((x :: xs).drop n) rest

lemma drained_read (hn : 0 < n) (hclosed : s.isClosed = true) (rest : List LinkRequest) :
    drained s.held (.read n :: rest) = (s.read n).1 :: drained (s.read n).2.held rest ∧
      (s.read n).2.isClosed = s.isClosed ∧ (s.read n).2.events = s.events := by
  cases hheld : s.held with
  | nil =>
    rw [read_shut hn hheld hclosed, hheld]
    exact ⟨rfl, rfl, rfl⟩
  | cons x xs =>
    rw [read_held hn (by simp [hheld]), hheld]
    exact ⟨rfl, rfl, rfl⟩

end DatagramSource

end FrameLink
