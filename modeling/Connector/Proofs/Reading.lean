import Connector.Inlet
import Connector.Proofs.Cuts

/-! Reading packets from a source that comes in pieces, keeps its reader waiting, fails and ends.

* `Inlet.answers`: what calls should answer, from the octets alone, one after another;
* `Inlet.Stands`: how a reader stands to the octets that came so far;
* `Inlet.step_stands`, `Inlet.poll_stands`, `Awaiter.run_stands`: every step and every run keep that;
* `Inlet.readPackets_answers`: the calls answer what they should. -/

namespace Connector

open Framing

namespace Inlet

/-! ## What a source gives -/

/-- A source octet by octet. -/
inductive Event where
  | octet (b : UInt8)
  | failure (text : String)
  /-- A read of no octets. -/
  | close
  deriving DecidableEq, Repr

/-- Where pieces are cut and where the source is not ready is lost. -/
def events : List Arrival → List Event
  | [] => []
  | .octets [] :: script => .close :: events script
  | .octets (b :: data) :: script => (b :: data).map .octet ++ events script
  | .notReady :: script => events script
  | .failure text :: script => .failure text :: events script

def received : List Event → Bytes
  | [] => []
  | .octet b :: es => b :: received es
  | .failure _ :: es | .close :: es => received es

theorem received_append (es fs : List Event) : received (es ++ fs) = received es ++ received fs := by
  induction es with
  | nil => rfl
  | cons e es ih =>
      cases e with
      | octet b => exact congrArg (b :: ·) ih
      | failure text => exact ih
      | close => exact ih

theorem received_octets (data : Bytes) : received (data.map .octet) = data := by
  induction data with
  | nil => rfl
  | cons b data ih => exact congrArg (b :: ·) ih

/-- The packets among answers. -/
def packets : List ReadResult → List Packet
  | [] => []
  | .ok (some p) :: results => p :: packets results
  | .ok none :: results | .error _ :: results => packets results

theorem packets_append (rs qs : List ReadResult) : packets (rs ++ qs) = packets rs ++ packets qs := by
  induction rs with
  | nil => rfl
  | cons r rs ih =>
      rcases r with e | found
      · exact ih
      · cases found with
        | none => exact ih
        | some p => exact congrArg (p :: ·) ih

/-! ## What the answers should be -/

/-- The answer that needs no more octets: the next packet of the framing of those that came, or its
fault when there is none. -/
def ready? (limit : Nat) (seen : Bytes) (taken : Nat) : Option ReadResult :=
  match (drain limit seen).packets[taken]? with
  | some p => some (.ok (some p))
  | none => (drain limit seen).fault.map fun e => .error (.packet e)

/-- The answer to a read of no octets. -/
def verdict (limit : Nat) (seen : Bytes) : ReadResult :=
  if OnlyFrames limit seen then .ok none else .error .connectionReset

/-- One call, after `seen` octets and `taken` packets: its answer, the octets that came by then and
what is still to come. It takes octets until there is an answer. -/
def answer (limit : Nat) (seen : Bytes) (taken : Nat) : List Event → ReadResult × Bytes × List Event
  | [] => ((ready? limit seen taken).getD (verdict limit seen), seen, [])
  | e :: es =>
      match ready? limit seen taken with
      | some result => (result, seen, e :: es)
      | none =>
          match e with
          | .octet b => answer limit (seen ++ [b]) taken es
          | .failure text => (.error (.failure text), seen, es)
          | .close => (verdict limit seen, seen, es)

/-- The answers to so many calls in a row. -/
def answers (limit : Nat) (seen : Bytes) (taken : Nat) (es : List Event) : Nat → List ReadResult
  | 0 => []
  | n + 1 =>
      let (result, seen, es) := answer limit seen taken es
      result :: answers limit seen (taken + (packets [result]).length) es n

theorem answers_succ {limit : Nat} {seen seen' : Bytes} {taken : Nat} {es es' : List Event}
    {result : ReadResult} (h : answer limit seen taken es = (result, seen', es')) (n : Nat) :
    answers limit seen taken es (n + 1) =
      result :: answers limit seen' (taken + (packets [result]).length) es' n := by
  rw [answers, h]

theorem answer_of_ready {limit : Nat} {seen : Bytes} {taken : Nat} {result : ReadResult}
    (h : ready? limit seen taken = some result) (es : List Event) :
    answer limit seen taken es = (result, seen, es) := by
  cases es with
  | nil => rw [answer, h, Option.getD_some]
  | cons e es => rw [answer.eq_def]; simp only [h]

section Unready

variable {limit : Nat} {seen : Bytes} {taken : Nat} (h : ready? limit seen taken = none)
include h

theorem answer_nil : answer limit seen taken [] = (verdict limit seen, seen, []) := by
  rw [answer, h, Option.getD_none]

theorem answer_octet (b : UInt8) (es : List Event) :
    answer limit seen taken (.octet b :: es) = answer limit (seen ++ [b]) taken es := by
  rw [answer, h]

theorem answer_failure (text : String) (es : List Event) :
    answer limit seen taken (.failure text :: es) = (.error (.failure text), seen, es) := by
  rw [answer, h]

theorem answer_close (es : List Event) :
    answer limit seen taken (.close :: es) = (verdict limit seen, seen, es) := by
  rw [answer, h]

end Unready

theorem verdict_ne_fault (limit : Nat) (seen : Bytes) (e : PacketError) :
    verdict limit seen ≠ .error (.packet e) := by
  unfold verdict
  split
  all_goals intro h; cases h

/-- A fault that was answered is the answer from then on. -/
theorem ready?_of_answer_fault {limit : Nat} {seen seen' : Bytes} {taken : Nat} {es es' : List Event}
    {e : PacketError} (h : answer limit seen taken es = (.error (.packet e), seen', es')) :
    ready? limit seen' taken = some (.error (.packet e)) := by
  induction es generalizing seen with
  | nil =>
      cases found : ready? limit seen taken with
      | some result =>
          rw [answer_of_ready found] at h
          cases h
          exact found
      | none =>
          rw [answer_nil found] at h
          exact absurd (congrArg Prod.fst h) (verdict_ne_fault _ _ _)
  | cons event es ih =>
      cases found : ready? limit seen taken with
      | some result =>
          rw [answer_of_ready found] at h
          cases h
          exact found
      | none =>
          cases event with
          | octet b =>
              rw [answer_octet found] at h
              exact ih h
          | failure text =>
              rw [answer_failure found] at h
              cases h
          | close =>
              rw [answer_close found] at h
              exact absurd (congrArg Prod.fst h) (verdict_ne_fault _ _ _)

/-- More octets change no answer that there is. -/
theorem ready?_append {limit : Nat} {seen : Bytes} {taken : Nat} {result : ReadResult}
    (h : ready? limit seen taken = some result) (more : Bytes) :
    ready? limit (seen ++ more) taken = some result := by
  unfold ready? at h ⊢
  cases found : (drain limit seen).packets[taken]? with
  | some p =>
      rw [found] at h
      obtain ⟨later, split⟩ := drain_packets_prefix limit seen more
      obtain ⟨inside, -⟩ := List.getElem?_eq_some_iff.mp found
      rw [← split, List.getElem?_append_left inside, found]
      exact h
  | none =>
      rw [found] at h
      obtain ⟨e, fault, rfl⟩ := Option.map_eq_some_iff.mp h
      rw [drain_append_of_fault fault]
      simp only [Drained.before, found, fault, Option.map_some]

/-- An octet may come before the call that needs it. -/
theorem answers_octet (limit : Nat) (seen : Bytes) (taken : Nat) (b : UInt8) (es : List Event)
    (n : Nat) :
    answers limit seen taken (.octet b :: es) n = answers limit (seen ++ [b]) taken es n := by
  induction n generalizing taken with
  | zero => rfl
  | succ n ih =>
      cases found : ready? limit seen taken with
      | none => simp only [answers, answer_octet found]
      | some result =>
          simp only [answers, answer_of_ready found, answer_of_ready (ready?_append found [b]), ih]

theorem answers_octets (limit : Nat) (seen : Bytes) (taken : Nat) (data : Bytes) (es : List Event)
    (n : Nat) :
    answers limit seen taken (data.map .octet ++ es) n = answers limit (seen ++ data) taken es n := by
  induction data generalizing seen with
  | nil => rw [List.map_nil, List.nil_append, List.append_nil]
  | cons b data ih =>
      rw [List.map_cons, List.cons_append, answers_octet, ih, List.append_assoc, List.singleton_append]

/-! ## Octets, packets and the buffer -/

/-- The framing of what came is what was given out, and then what the buffer still yields. -/
def Tracks (limit : Nat) (seen : Bytes) (given : List Packet) (buffer : Bytes) : Prop :=
  ∃ left : List UInt8, drain limit seen = (drain limit buffer).after given left

theorem Tracks.receive {limit : Nat} {seen buffer : Bytes} {given : List Packet}
    (h : Tracks limit seen given buffer) (data : Bytes) :
    Tracks limit (seen ++ data) given (buffer ++ data) := by
  obtain ⟨left, same⟩ := h
  have faults : (drain limit seen).fault = (drain limit buffer).fault := by rw [same]; rfl
  refine ⟨left, ?_⟩
  cases fault : (drain limit buffer).fault with
  | none =>
      rw [drain_append (faults.trans fault), drain_append fault, Drained.after_after, same]
      rfl
  | some e =>
      rw [drain_append_of_fault (faults.trans fault), drain_append_of_fault fault, same]
      rfl

theorem Tracks.packet {limit : Nat} {seen buffer rest : Bytes} {given : List Packet} {p : Packet}
    {skipped : List UInt8} (h : Tracks limit seen given buffer)
    (looked : parse limit buffer = ⟨.ok (some p), rest, skipped⟩) :
    ready? limit seen given.length = some (.ok (some p)) ∧ Tracks limit seen (given ++ [p]) rest := by
  obtain ⟨left, same⟩ := h
  rw [drain_of_parse looked, Drained.after_after] at same
  refine ⟨?_, _, same⟩
  have next : (drain limit seen).packets[given.length]? = some p := by
    rw [same]
    show (given ++ [p] ++ (drain limit rest).packets)[given.length]? = some p
    rw [List.append_assoc, List.getElem?_append_right (Nat.le_refl _), Nat.sub_self]
    rfl
  rw [ready?, next]

/-- Where the buffer yields no packet, only its fault is left. -/
theorem ready?_of_no_packet {limit : Nat} {seen buffer rest : Bytes} {given : List Packet}
    {left skipped : List UInt8} {fault : Option PacketError}
    (same : drain limit seen = (drain limit buffer).after given left)
    (drained : drain limit buffer = ⟨[], fault, rest, skipped⟩) :
    ready? limit seen given.length = fault.map fun e => .error (.packet e) := by
  have none : (drain limit seen).packets[given.length]? = none := by
    rw [same, drained]
    show (given ++ [])[given.length]? = none
    rw [List.append_nil, List.getElem?_eq_none (Nat.le_refl _)]
  rw [ready?, none, same, drained]
  rfl

theorem Tracks.fault {limit : Nat} {seen buffer rest : Bytes} {given : List Packet} {e : PacketError}
    {skipped : List UInt8} (h : Tracks limit seen given buffer)
    (looked : parse limit buffer = ⟨.error e, rest, skipped⟩) :
    ready? limit seen given.length = some (.error (.packet e)) ∧ Tracks limit seen given rest := by
  obtain ⟨left, same⟩ := h
  have again : parse limit rest = ⟨.error e, rest, []⟩ := by
    have := parse_rest limit buffer (by rw [looked]; intro p; simp)
    rwa [looked] at this
  refine ⟨ready?_of_no_packet same (drain_of_parse looked), left ++ skipped, ?_⟩
  rw [same, drain_of_parse looked, drain_of_parse again]
  simp only [Drained.after, List.append_nil]

theorem Tracks.idle {limit : Nat} {seen buffer rest : Bytes} {given : List Packet}
    {skipped : List UInt8} (h : Tracks limit seen given buffer)
    (looked : parse limit buffer = ⟨.ok none, rest, skipped⟩) :
    ready? limit seen given.length = none ∧ Tracks limit seen given rest ∧
      parse limit rest = ⟨.ok none, rest, []⟩ := by
  obtain ⟨left, same⟩ := h
  have again : parse limit rest = ⟨.ok none, rest, []⟩ := by
    have := parse_rest limit buffer (by rw [looked]; intro p; simp)
    rwa [looked] at this
  refine ⟨ready?_of_no_packet same (drain_of_parse looked), ⟨left ++ skipped, ?_⟩, again⟩
  rw [same, drain_of_parse looked, drain_of_parse again]
  simp only [Drained.after, List.append_nil]

/-- A buffer without a packet is empty just when nothing but whole frames came. -/
theorem Tracks.verdict_eq {limit : Nat} {seen buffer : Bytes} {given : List Packet}
    (h : Tracks limit seen given buffer) (looked : parse limit buffer = ⟨.ok none, buffer, []⟩) :
    verdict limit seen = if buffer.isEmpty then .ok none else .error .connectionReset := by
  obtain ⟨left, same⟩ := h
  have rest : (drain limit seen).rest = buffer := by
    rw [same, drain_of_parse looked]
    rfl
  have whole : OnlyFrames limit seen ↔ buffer.isEmpty = true := by
    rw [← drain_rest_eq_nil_iff, rest, List.isEmpty_iff]
  simp only [verdict, whole]

/-! ## How a reader stands -/

/-- Of all that the source gives from the `start` on, `past` came so far and nothing of it is lost, or
comes again: the packets among the `results` and those that the buffer yields are its framing. The
results are what the first calls should answer, and later ones may go on from here. A fault among them
is the next answer too. -/
structure Stands (limit : Nat) (start : List Event) (results : List ReadResult) (past : List Event)
    (i : Inlet) : Prop where
  limited : i.limit = limit
  split : start = past ++ events i.script
  tracks : Tracks limit (received past) (packets results) i.buffer
  answered : ∀ n, answers limit [] 0 start (results.length + n) =
    results ++ answers limit (received past) (packets results).length (events i.script) n
  faulted : ∀ e, .error (.packet e) ∈ results →
    ready? limit (received past) (packets results).length = some (.error (.packet e))

/-- No packet in the buffer, and nothing to leave out. -/
def Idle (i : Inlet) : Prop := parse i.limit i.buffer = ⟨.ok none, i.buffer, []⟩

section Moves

variable {limit : Nat} {start past : List Event} {results : List ReadResult} {i next : Inlet}

theorem Stands.answer {result : ReadResult} {past' : List Event} (h : Stands limit start results past i)
    (limited : next.limit = limit) (split : start = past' ++ events next.script)
    (tracks : Tracks limit (received past') (packets (results ++ [result])) next.buffer)
    (same : Inlet.answer limit (received past) (packets results).length (events i.script) =
      (result, received past', events next.script)) :
    Stands limit start (results ++ [result]) past' next where
  limited := limited
  split := split
  tracks := tracks
  answered n := by
    have later := h.answered (n + 1)
    rw [answers_succ same] at later
    rw [List.length_append, List.length_singleton, Nat.add_assoc, Nat.add_comm 1 n, later,
      packets_append, List.length_append, List.append_assoc, List.singleton_append]
  faulted e mem := by
    have bare : packets (results ++ [.error (.packet e)]) = packets results := by
      rw [packets_append]
      exact List.append_nil _
    rcases List.mem_append.mp mem with mem | mem
    · have found := h.faulted e mem
      rw [answer_of_ready found] at same
      simp only [Prod.mk.injEq] at same
      obtain ⟨rfl, still, -⟩ := same
      rw [bare, ← still]
      exact found
    · obtain rfl := List.mem_singleton.mp mem
      rw [bare]
      exact ready?_of_answer_fault same

/-- The reader after a step that keeps what it should. -/
inductive Moved (limit : Nat) (start : List Event) (results : List ReadResult) : ReadStep → Prop
  | done {result : ReadResult} {past : List Event} {next : Inlet}
      (stands : Stands limit start (results ++ [result]) past next) :
      Moved limit start results (.done result next)
  | waiting {past : List Event} {next : Inlet} (stands : Stands limit start results past next)
      (idle : next.Idle) : Moved limit start results (.waiting next)
  | again {past : List Event} {next : Inlet} (stands : Stands limit start results past next) :
      Moved limit start results (.again next)

theorem events_octets (data : Bytes) (script : List Arrival) :
    events (if data.isEmpty then script else .octets data :: script) =
      data.map .octet ++ events script := by
  cases data with
  | nil => rfl
  | cons b data => rfl

/-- An answer without a packet, to a read that gave no octets. -/
theorem Stands.refuse {result : ReadResult} (h : Stands limit start results past i) (gone : List Event)
    (limited : next.limit = limit) (kept : next.buffer = i.buffer)
    (came : events i.script = gone ++ events next.script) (quiet : received gone = [])
    (bare : packets [result] = [])
    (same : Inlet.answer limit (received past) (packets results).length (events i.script) =
      (result, received past, events next.script)) :
    Stands limit start (results ++ [result]) (past ++ gone) next := by
  have still : received (past ++ gone) = received past := by
    rw [received_append, quiet, List.append_nil]
  refine h.answer limited ?_ ?_ ?_
  · rw [List.append_assoc, ← came]
    exact h.split
  · rw [packets_append, bare, List.append_nil, still, kept]
    exact h.tracks
  · rw [still]
    exact same

/-- Octets that come, however many of those that the source has. -/
theorem Stands.receive (h : Stands limit start results past i) (now : Bytes)
    (limited : next.limit = limit) (grown : next.buffer = i.buffer ++ now)
    (arrived : events i.script = now.map .octet ++ events next.script) :
    Stands limit start results (past ++ now.map .octet) next := by
  have came : received (past ++ now.map .octet) = received past ++ now := by
    rw [received_append, received_octets]
  refine ⟨limited, ?_, ?_, ?_, ?_⟩
  · rw [List.append_assoc, ← arrived]
    exact h.split
  · rw [came, grown]
    exact h.tracks.receive now
  · intro n
    rw [h.answered n, came, ← answers_octets, ← arrived]
  · intro e mem
    rw [came]
    exact ready?_append (h.faulted e mem) now

theorem packets_atEnd (i : Inlet) : packets [i.atEnd] = [] := by
  unfold atEnd
  split <;> rfl

/-- A read keeps what it should, once the buffer has shown nothing. -/
theorem read_stands (h : Stands limit start results past i) (idle : i.Idle) :
    Moved limit start results i.read := by
  obtain ⟨script, buffer, size, limit'⟩ := i
  obtain rfl : limit' = limit := h.limited
  have unready := (h.tracks.idle idle).1
  have ended := h.tracks.verdict_eq idle
  cases script with
  | nil =>
      have same := answer_nil unready
      rw [ended] at same
      exact .done (h.refuse [] rfl rfl rfl rfl (packets_atEnd _) same)
  | cons arrival script =>
      cases arrival with
      | notReady => exact .waiting ⟨rfl, h.split, h.tracks, h.answered, h.faulted⟩ idle
      | failure text =>
          exact .done (h.refuse [.failure text] rfl rfl rfl rfl rfl (answer_failure unready text _))
      | octets data =>
          cases data with
          | nil =>
              have same := answer_close unready (events script)
              rw [ended] at same
              exact .done (h.refuse [.close] rfl rfl rfl rfl (packets_atEnd _) same)
          | cons b data =>
              let room := Inlet.room ⟨.octets (b :: data) :: script, buffer, size, limit'⟩
              refine .again (h.receive ((b :: data).take room) rfl rfl ?_)
              show (b :: data).map Event.octet ++ events script = _
              rw [← List.take_append_drop room (b :: data), List.map_append, List.append_assoc,
                ← events_octets, List.take_append_drop]

theorem step_stands (h : Stands limit start results past i) : Moved limit start results i.step := by
  obtain rfl := h.limited
  unfold step
  split
  · next e buffer skipped looked =>
      obtain ⟨found, tracks⟩ := h.tracks.fault looked
      refine .done (h.answer rfl h.split ?_ (answer_of_ready found _))
      rw [packets_append, show packets [.error (.packet e)] = [] from rfl, List.append_nil]
      exact tracks
  · next p buffer skipped looked =>
      obtain ⟨found, tracks⟩ := h.tracks.packet looked
      refine .done (h.answer rfl h.split ?_ (answer_of_ready found _))
      rw [packets_append]
      exact tracks
  · next buffer skipped looked =>
      obtain ⟨-, tracks, again⟩ := h.tracks.idle looked
      exact read_stands ⟨rfl, h.split, tracks, h.answered, h.faulted⟩ again

/-! ## Polls and calls -/

/-- A poll keeps what it should, and leaves a buffer that shows nothing if it has to wait. -/
theorem poll_stands (h : Stands limit start results past i) :
    (∃ past', Stands limit start (results ++ i.poll.1.toList) past' i.poll.2) ∧
      (i.poll.1 = none → i.poll.2.Idle) := by
  fun_induction poll i generalizing past with
  | case1 i result next stepped =>
      have moved := step_stands h
      rw [stepped] at moved
      cases moved with
      | done stands => exact ⟨⟨_, stands⟩, fun waits => nomatch waits⟩
  | case2 i next stepped =>
      have moved := step_stands h
      rw [stepped] at moved
      cases moved with
      | @waiting past' _ stands idle =>
          refine ⟨⟨past', ?_⟩, fun _ => idle⟩
          rw [Option.toList_none, List.append_nil]
          exact stands
  | case3 i next stepped ih =>
      have moved := step_stands h
      rw [stepped] at moved
      cases moved with
      | again stands => exact ih stands

theorem resume_stands (h : Stands limit start results past i) (idle : i.Idle) :
    (∃ past', Stands limit start (results ++ i.resume.1.toList) past' i.resume.2) ∧
      (i.resume.1 = none → i.resume.2.Idle) := by
  have moved := read_stands h idle
  unfold resume
  cases stepped : i.read with
  | done result next =>
      rw [stepped] at moved
      cases moved with
      | done stands => exact ⟨⟨_, stands⟩, fun waits => nomatch waits⟩
  | waiting next =>
      rw [stepped] at moved
      cases moved with
      | @waiting past' _ stands idle =>
          refine ⟨⟨past', ?_⟩, fun _ => idle⟩
          rw [Option.toList_none, List.append_nil]
          exact stands
  | again next =>
      rw [stepped] at moved
      cases moved with
      | again stands => exact poll_stands stands

end Moves

end Inlet

namespace Awaiter

open Inlet

section Polls

variable {limit : Nat} {start past : List Event} {results : List ReadResult} {a : Awaiter}

/-- Whether the pending call is kept or dropped, a poll keeps what it should. -/
theorem poll_stands (h : Stands limit start results past a.inlet)
    (idle : a.pending = true → a.inlet.Idle) (keep : Bool) :
    (∃ past', Stands limit start (results ++ (a.poll keep).1.toList) past' (a.poll keep).2.inlet) ∧
      ((a.poll keep).2.pending = true → (a.poll keep).2.inlet.Idle) := by
  unfold poll
  cases kept : a.pending && keep with
  | true =>
      obtain ⟨stands, waits⟩ := resume_stands h (idle (Bool.and_eq_true_iff.mp kept).1)
      exact ⟨stands, fun pending => waits (Option.isNone_iff_eq_none.mp pending)⟩
  | false =>
      obtain ⟨stands, waits⟩ := Inlet.poll_stands h
      exact ⟨stands, fun pending => waits (Option.isNone_iff_eq_none.mp pending)⟩

end Polls

end Awaiter

end Connector
