import Connector.Proofs.Reading

/-! An inlet in the midst of its stream, whatever was read before.

* `Inlet.stands_of_tracks`: it stands as if all that came had been read from the start;
* `Inlet.Follows`, `Inlet.Follows.poll`: polls give the packets of the stream, in order;
* `Inlet.EndsUnready`: a source that will give more later. -/

namespace Connector

open Framing

namespace Inlet

theorem events_append (script more : List Arrival) :
    events (script ++ more) = events script ++ events more := by
  induction script with
  | nil => rfl
  | cons a script ih =>
      cases a with
      | notReady => exact ih
      | failure text => exact congrArg (.failure text :: ·) ih
      | octets data =>
          cases data with
          | nil => exact congrArg (.close :: ·) ih
          | cons b data => simp only [List.cons_append, events, ih, List.append_assoc]

/-- Packets that the octets gave are the first answers. -/
theorem answers_given {limit : Nat} {seen : Bytes} {front given more : List Packet}
    (gives : (drain limit seen).packets = front ++ given ++ more) (es : List Event) (n : Nat) :
    answers limit seen front.length es (given.length + n) =
      given.map (fun p => .ok (some p)) ++ answers limit seen (front ++ given).length es n := by
  induction given generalizing front with
  | nil => rw [List.length_nil, Nat.zero_add, List.append_nil]; rfl
  | cons p given ih =>
      have next : (drain limit seen).packets[front.length]? = some p := by
        rw [gives, List.append_assoc, List.getElem?_append_right (Nat.le_refl _), Nat.sub_self]
        rfl
      have ready : ready? limit seen front.length = some (.ok (some p)) := by rw [ready?, next]
      have split : front ++ p :: given = (front ++ [p]) ++ given := by
        rw [List.append_assoc, List.singleton_append]
      rw [split] at gives
      have later := ih gives
      rw [List.length_append] at later
      rw [List.length_cons, Nat.add_right_comm, answers_succ (answer_of_ready ready es), split]
      exact congrArg (.ok (some p) :: ·) later

theorem packets_given (given : List Packet) : packets (given.map fun p => .ok (some p)) = given := by
  induction given with
  | nil => rfl
  | cons p given ih => exact congrArg (p :: ·) ih

/-- An inlet whose buffer goes with what came stands as if all of it had been read from the start. -/
theorem stands_of_tracks {i : Inlet} {limit : Nat} {seen : Bytes} {given : List Packet}
    (limited : i.limit = limit) (tracks : Tracks limit seen given i.buffer) :
    Stands limit (seen.map .octet ++ events i.script) (given.map fun p => .ok (some p))
      (seen.map .octet) i where
  limited := limited
  split := rfl
  tracks := by
    rw [received_octets, packets_given]
    exact tracks
  answered n := by
    obtain ⟨left, same⟩ := tracks
    have gives : (drain limit seen).packets = [] ++ given ++ (drain limit i.buffer).packets := by
      rw [same]
      rfl
    rw [List.length_map, answers_octets, List.nil_append, received_octets, packets_given]
    exact answers_given gives (events i.script) n
  faulted e mem := by simp at mem

/-- The packets that were given, the buffer and what is still to be read make up all octets that came. -/
def Follows (limit : Nat) (came : Bytes) (given : List Packet) (i : Inlet) : Prop :=
  i.limit = limit ∧ ∃ seen, came = seen ++ received (events i.script) ∧ Tracks limit seen given i.buffer

theorem Follows.poll {limit : Nat} {came : Bytes} {given : List Packet} {i : Inlet}
    (h : i.Follows limit came given) :
    i.poll.2.Follows limit came (given ++ packets i.poll.1.toList) := by
  obtain ⟨limited, seen, split, tracks⟩ := h
  obtain ⟨⟨past, stands⟩, -⟩ := poll_stands (stands_of_tracks limited tracks)
  have whole := congrArg received stands.split
  have tracked := stands.tracks
  rw [received_append, received_append, received_octets] at whole
  rw [packets_append, packets_given] at tracked
  exact ⟨stands.limited, received past, split.trans whole, tracked⟩

theorem Follows.congr {limit : Nat} {came : Bytes} {given : List Packet} {i j : Inlet}
    (h : i.Follows limit came given) (limited : j.limit = i.limit) (buffer : j.buffer = i.buffer)
    (script : events j.script = events i.script) : j.Follows limit came given := by
  obtain ⟨limit_eq, seen, split, tracks⟩ := h
  exact ⟨limited.trans limit_eq, seen, script ▸ split, buffer ▸ tracks⟩

theorem Follows.arrive {limit : Nat} {came : Bytes} {given : List Packet} {i : Inlet}
    (h : i.Follows limit came given) (more : List Arrival) :
    Follows limit (came ++ received (events more)) given { i with script := i.script ++ more } := by
  obtain ⟨limited, seen, split, tracks⟩ := h
  refine ⟨limited, seen, ?_, tracks⟩
  rw [split, events_append, received_append, List.append_assoc]

/-- Packets are given in the order in which they came. -/
theorem Follows.in_order {limit : Nat} {came : Bytes} {given : List Packet} {i : Inlet}
    (h : i.Follows limit came given) : given <+: (drain limit came).packets := by
  obtain ⟨-, seen, rfl, left, same⟩ := h
  have first : given <+: (drain limit seen).packets := by
    rw [same]
    exact List.prefix_append ..
  have later := drain_packets_prefix limit seen (received (events i.script))
  exact first.trans later

/-- The source is not ready after all that it gives. -/
def EndsUnready (i : Inlet) : Prop := ∃ script, i.script = script ++ [.notReady]

theorem EndsUnready.read {i j : Inlet} (ends : i.EndsUnready)
    (h : i.read = .again j ∨ ∃ result, i.read = .done result j) : j.EndsUnready := by
  obtain ⟨script, buffer, size, limit⟩ := i
  obtain ⟨script, rfl⟩ := ends
  rcases script with _ | ⟨⟨_ | ⟨b, data⟩⟩ | _ | text, script⟩
  · simp [Inlet.read] at h
  · simp only [List.cons_append, Inlet.read, ReadStep.done.injEq, reduceCtorEq, false_or] at h
    obtain ⟨-, -, rfl⟩ := h
    exact ⟨script, rfl⟩
  · simp only [List.cons_append, Inlet.read, ReadStep.again.injEq, reduceCtorEq, exists_false, or_false] at h
    subst h
    simp only [EndsUnready]
    split
    · exact ⟨script, rfl⟩
    · exact ⟨_ :: script, rfl⟩
  · simp [Inlet.read] at h
  · simp only [List.cons_append, Inlet.read, ReadStep.done.injEq, reduceCtorEq, false_or] at h
    obtain ⟨-, -, rfl⟩ := h
    exact ⟨script, rfl⟩

theorem EndsUnready.step {i j : Inlet} (ends : i.EndsUnready)
    (h : i.step = .again j ∨ ∃ result, i.step = .done result j) : j.EndsUnready := by
  unfold Inlet.step at h
  split at h
  · simp only [ReadStep.done.injEq, reduceCtorEq, false_or] at h
    obtain ⟨-, -, rfl⟩ := h
    exact ends
  · simp only [ReadStep.done.injEq, reduceCtorEq, false_or] at h
    obtain ⟨-, -, rfl⟩ := h
    exact ends
  · next buffer _ _ =>
      have same : EndsUnready { i with buffer } := ends
      exact same.read h

theorem EndsUnready.poll {i : Inlet} (ends : i.EndsUnready) (answered : i.poll.1 ≠ none) :
    i.poll.2.EndsUnready := by
  fun_induction Inlet.poll i with
  | case1 i result next stepped => exact ends.step (.inr ⟨result, stepped⟩)
  | case2 i next stepped => exact absurd rfl answered
  | case3 i next stepped ih => exact ih (ends.step (.inl stepped)) answered

end Inlet

end Connector
